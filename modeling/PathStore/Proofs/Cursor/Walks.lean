import PathStore.Proofs.Cursor.Steps

/-!
# Walks in a changing store

A cursor is stepped from both ends in any order while anything else happens to the world in between.
The main result is what the keys that it gives out have to do with each other and with what the
store held at each step: nothing is given out twice or out of order, and a step finds nothing
exactly if no key of the subtree is left between the two ends.
-/

namespace PathStore

/-- What happens while a cursor is in use: it is stepped, or some other program is run. -/
inductive Move where
  | step (side : End)
  | other (program : Op Unit)

/-- A step of a cursor: its end, the world in which it was made, and what came of it. -/
structure Taken where
  side : End
  world : World
  outcome : Except Failure (Option EntryRef)

namespace Taken

/-- The key that was given out. -/
def key? (taken : Taken) : Option String :=
  match taken.outcome with
  | .ok (some entry) => some entry.key
  | _ => none

/-- The key that was given out from one end. -/
def keyFrom? (side : End) (taken : Taken) : Option String :=
  if taken.side = side then taken.key? else none

/-- The keys that steps gave out from one end, in the order of the steps. -/
def keysFrom (side : End) (steps : List Taken) : List String :=
  steps.filterMap (keyFrom? side)

@[simp] theorem keysFrom_nil (side : End) : keysFrom side [] = [] := rfl

/-- What one step gives out, followed by what the later ones do. -/
theorem keysFrom_cons (side : End) (taken : Taken) (rest : List Taken) :
    keysFrom side (taken :: rest) = (taken.keyFrom? side).toList ++ keysFrom side rest := by
  unfold keysFrom
  rw [List.filterMap_cons]
  cases taken.keyFrom? side <;> rfl

theorem keyFrom?_eq_some_iff (side : End) (taken : Taken) (key : String) :
    taken.keyFrom? side = some key ↔ taken.side = side ∧ taken.key? = some key := by
  unfold keyFrom?
  split
  next same => simp [same]
  next different => simp [different]

theorem mem_keysFrom_cons (side : End) (taken : Taken) (rest : List Taken) (key : String) :
    key ∈ keysFrom side (taken :: rest) ↔
      (taken.side = side ∧ taken.key? = some key) ∨ key ∈ keysFrom side rest := by
  rw [keysFrom_cons, List.mem_append, Option.mem_toList, keyFrom?_eq_some_iff]

end Taken

namespace Cursor

/-- The steps that a cursor makes while something happens around it. -/
def trace : List Move → Cursor → World → List Taken
  | [], _, _ => []
  | .other program :: moves, cursor, world => trace moves cursor (program.leaves world)
  | .step side :: moves, cursor, world =>
    match cursor.step side world with
    | .ok (given, moved) left => ⟨side, world, .ok given⟩ :: trace moves moved left
    | .error failure left => ⟨side, world, .error failure⟩ :: trace moves cursor left

/-- The cursor as a step leaves it. -/
def moved (cursor : Cursor) (taken : Taken) : Cursor :=
  match taken.key? with
  | some key => cursor.pass taken.side key
  | none => cursor

/-- What comes of a step from one end in a world. -/
def outcome (cursor : Cursor) (side : End) (world : World) : Except Failure (Option EntryRef) :=
  if world.admits ⟨.store cursor.store, .reading⟩ then
    .ok ((cursor.seek side (world.entries cursor.store)).map cursor.entry)
  else .error .locked

/-- A step that is asked for is made, and the rest is made from where it leaves the cursor. -/
theorem trace_step (side : End) (moves : List Move) (cursor : Cursor) (world : World) :
    trace (.step side :: moves) cursor world =
      ⟨side, world, cursor.outcome side world⟩ ::
        trace moves (cursor.moved ⟨side, world, cursor.outcome side world⟩) world := by
  rw [trace, step_apply, outcome]
  by_cases free : world.admits ⟨.store cursor.store, .reading⟩
  · simp only [if_pos free]
    cases cursor.seek side (world.entries cursor.store) <;> rfl
  · simp only [if_neg free]
    rfl

/-- Steps that follow each other, each from where the one before it left the cursor. What the world
is at each of them is open. -/
inductive Walked : Cursor → List Taken → Prop where
  | nil {cursor : Cursor} : Walked cursor []
  | cons {cursor : Cursor} {taken : Taken} {rest : List Taken} :
      taken.outcome = cursor.outcome taken.side taken.world →
      Walked (cursor.moved taken) rest → Walked cursor (taken :: rest)

/-- Whatever happens around a cursor, its steps follow each other. -/
theorem walked_trace (moves : List Move) (cursor : Cursor) (world : World) :
    Walked cursor (trace moves cursor world) := by
  induction moves generalizing cursor world with
  | nil => exact .nil
  | cons move moves ih =>
      cases move with
      | other program => exact ih cursor (program.leaves world)
      | step side =>
          rw [trace_step]
          exact .cons rfl (ih _ world)

theorem walked_append_iff (cursor : Cursor) (earlier later : List Taken) :
    Walked cursor (earlier ++ later) ↔
      Walked cursor earlier ∧ Walked (earlier.foldl moved cursor) later := by
  induction earlier generalizing cursor with
  | nil => exact ⟨fun walked => ⟨.nil, walked⟩, And.right⟩
  | cons first earlier ih =>
      constructor
      · intro walked
        cases walked with
        | cons came rest =>
            obtain ⟨walkedEarlier, walkedLater⟩ := (ih _).mp rest
            exact ⟨.cons came walkedEarlier, walkedLater⟩
      · rintro ⟨walkedEarlier, walkedLater⟩
        cases walkedEarlier with
        | cons came rest => exact .cons came ((ih _).mpr ⟨rest, walkedLater⟩)

/-! ## One step of a walk -/

@[simp] theorem store_moved (cursor : Cursor) (taken : Taken) :
    (cursor.moved taken).store = cursor.store := by
  unfold moved
  split
  · exact store_pass cursor taken.side _
  · rfl

@[simp] theorem scope_moved (cursor : Cursor) (taken : Taken) :
    (cursor.moved taken).scope = cursor.scope := by
  unfold moved
  split
  · exact scope_pass cursor taken.side _
  · rfl

@[simp] theorem location_moved (cursor : Cursor) (taken : Taken) :
    (cursor.moved taken).location = cursor.location := by
  unfold moved
  split
  · exact location_pass cursor taken.side _
  · rfl

theorem outcome_eq_none_iff (cursor : Cursor) (side : End) (world : World) :
    cursor.outcome side world = .ok none ↔
      world.admits ⟨.store cursor.store, .reading⟩ = true ∧
        ∀ key ∈ (world.entries cursor.store).keys, ¬cursor.Ahead key := by
  rw [← seek_eq_none_iff cursor side, outcome]
  split
  next free => simp [free]
  next refused => simp [refused]

theorem outcome_eq_some_iff (cursor : Cursor) (side : End) (world : World) (entry : EntryRef) :
    cursor.outcome side world = .ok (some entry) ↔
      world.admits ⟨.store cursor.store, .reading⟩ = true ∧
        ∃ key, cursor.seek side (world.entries cursor.store) = some key ∧
          cursor.entry key = entry := by
  rw [outcome]
  split
  next free => simp [free]
  next refused => simp [refused]

/-- A key that was given out was pending, and next to its end. -/
theorem seek_of_key? {cursor : Cursor} {taken : Taken} {key : String}
    (came : taken.outcome = cursor.outcome taken.side taken.world)
    (given : taken.key? = some key) :
    cursor.seek taken.side (taken.world.entries cursor.store) = some key := by
  unfold Taken.key? at given
  split at given
  next entry outcome =>
    rw [came, outcome_eq_some_iff] at outcome
    obtain ⟨_, found, seek, rfl⟩ := outcome
    cases given
    exact seek
  next => cases given

/-- After a step that gave out a key, what lies ahead did so before and is beyond that key. -/
theorem ahead_moved_iff {cursor : Cursor} {taken : Taken} {key : String}
    (came : taken.outcome = cursor.outcome taken.side taken.world)
    (given : taken.key? = some key) (other : String) :
    (cursor.moved taken).Ahead other ↔ cursor.Ahead other ∧ taken.side.Before key other := by
  have pending := mem_pending_of_seek (seek_of_key? came given)
  rw [moved, given]
  exact ahead_pass_iff ((mem_pending_iff cursor _ key).mp pending).2 taken.side other

/-- What lies ahead after a step lay ahead before it. -/
theorem ahead_of_ahead_moved {cursor : Cursor} {taken : Taken}
    (came : taken.outcome = cursor.outcome taken.side taken.world) {key : String}
    (ahead : (cursor.moved taken).Ahead key) : cursor.Ahead key := by
  cases given : taken.key? with
  | some passed => exact ((ahead_moved_iff came given key).mp ahead).1
  | none =>
      rw [moved, given] at ahead
      exact ahead

/-! ## The order of what is given out -/

/-- All keys that later steps give out lie ahead of the cursor. -/
theorem Walked.ahead {cursor : Cursor} {steps : List Taken} (walked : Walked cursor steps)
    {side : End} {key : String} (given : key ∈ Taken.keysFrom side steps) : cursor.Ahead key := by
  induction walked with
  | nil => cases given
  | @cons cursor taken rest came _ ih =>
      rw [Taken.mem_keysFrom_cons] at given
      rcases given with now | later
      · have pending := mem_pending_of_seek (seek_of_key? came now.2)
        exact ((mem_pending_iff cursor _ key).mp pending).2
      · exact ahead_of_ahead_moved came (ih later)

/-- From each end the keys are given out in the order seen from there. -/
theorem Walked.ordered {cursor : Cursor} {steps : List Taken} (walked : Walked cursor steps)
    (side : End) : (Taken.keysFrom side steps).Pairwise side.Before := by
  induction walked with
  | nil => exact .nil
  | @cons cursor taken rest came walkedRest ih =>
      rw [Taken.keysFrom_cons]
      cases now : taken.keyFrom? side with
      | none => exact ih
      | some key =>
          obtain ⟨rfl, given⟩ := (Taken.keyFrom?_eq_some_iff side taken key).mp now
          apply List.pairwise_cons.mpr
          constructor
          · intro other later
            exact ((ahead_moved_iff came given other).mp (walkedRest.ahead later)).2
          · exact ih

/-- What is given out from the front comes before what is given out from the back. -/
theorem Walked.apart {cursor : Cursor} {steps : List Taken} (walked : Walked cursor steps)
    {front back : String} (fromFront : front ∈ Taken.keysFrom .front steps)
    (fromBack : back ∈ Taken.keysFrom .back steps) : front < back := by
  induction walked with
  | nil => cases fromFront
  | @cons cursor taken rest came walkedRest ih =>
      rw [Taken.mem_keysFrom_cons] at fromFront fromBack
      rcases fromFront with ⟨atFront, givenFront⟩ | laterFront <;>
        rcases fromBack with ⟨atBack, givenBack⟩ | laterBack
      · rw [atFront] at atBack
        cases atBack
      · have beyond := ((ahead_moved_iff came givenFront back).mp (walkedRest.ahead laterBack)).2
        rw [atFront] at beyond
        exact beyond
      · have beyond := ((ahead_moved_iff came givenBack front).mp (walkedRest.ahead laterFront)).2
        rw [atBack] at beyond
        exact beyond
      · exact ih laterFront laterBack

/-! ## Where the steps leave the cursor -/

theorem front_moved (cursor : Cursor) (taken : Taken) :
    (cursor.moved taken).front = (taken.keyFrom? .front).or cursor.front := by
  unfold moved Taken.keyFrom?
  cases taken.key? with
  | none => simp
  | some key => cases taken.side <;> rfl

theorem back_moved (cursor : Cursor) (taken : Taken) :
    (cursor.moved taken).back = (taken.keyFrom? .back).or cursor.back := by
  unfold moved Taken.keyFrom?
  cases taken.key? with
  | none => simp
  | some key => cases taken.side <;> rfl

/-- After some steps the cursor stands at the last keys that they gave out. -/
theorem ends_after (cursor : Cursor) (steps : List Taken) :
    (steps.foldl moved cursor).front = (Taken.keysFrom .front steps).getLast?.or cursor.front ∧
      (steps.foldl moved cursor).back = (Taken.keysFrom .back steps).getLast?.or cursor.back := by
  induction steps generalizing cursor with
  | nil => exact ⟨rfl, rfl⟩
  | cons taken rest ih =>
      obtain ⟨front, back⟩ := ih (cursor.moved taken)
      rw [List.foldl_cons, front, back, front_moved, back_moved, Taken.keysFrom_cons,
        Taken.keysFrom_cons, List.getLast?_append, List.getLast?_append, Option.or_assoc,
        Option.or_assoc]
      constructor
      · cases taken.keyFrom? .front <;> rfl
      · cases taken.keyFrom? .back <;> rfl

theorem store_after (cursor : Cursor) (steps : List Taken) :
    (steps.foldl moved cursor).store = cursor.store := by
  induction steps generalizing cursor with
  | nil => rfl
  | cons taken rest ih => rw [List.foldl_cons, ih, store_moved]

theorem location_after (cursor : Cursor) (steps : List Taken) :
    (steps.foldl moved cursor).location = cursor.location := by
  induction steps generalizing cursor with
  | nil => rfl
  | cons taken rest ih => rw [List.foldl_cons, ih, location_moved]

theorem scope_after (cursor : Cursor) (steps : List Taken) :
    (steps.foldl moved cursor).scope = cursor.scope := by
  induction steps generalizing cursor with
  | nil => rfl
  | cons taken rest ih => rw [List.foldl_cons, ih, scope_moved]

/-- Every step is made from where the ones before it leave the cursor. -/
theorem Walked.outcome_eq {cursor : Cursor} {earlier later : List Taken} {taken : Taken}
    (walked : Walked cursor (earlier ++ taken :: later)) :
    taken.outcome = (earlier.foldl moved cursor).outcome taken.side taken.world := by
  cases ((walked_append_iff cursor earlier _).mp walked).2 with
  | cons came _ => exact came

/-- Every step is made by the cursor standing somewhere in its subtree. -/
theorem Walked.exists_standing {cursor : Cursor} {steps : List Taken} (walked : Walked cursor steps)
    {taken : Taken} (member : taken ∈ steps) :
    ∃ standing : Cursor, standing.store = cursor.store ∧ standing.scope = cursor.scope ∧
      standing.location = cursor.location ∧
        taken.outcome = standing.outcome taken.side taken.world := by
  obtain ⟨earlier, later, rfl⟩ := List.append_of_mem member
  exact ⟨earlier.foldl moved cursor, cursor.store_after earlier, cursor.scope_after earlier,
    cursor.location_after earlier, walked.outcome_eq⟩

/-- A key ahead of the cursor that is in the store at every step is given out, or is still ahead. -/
theorem Walked.given_or_ahead {cursor : Cursor} {steps : List Taken} (walked : Walked cursor steps)
    {key : String} (ahead : cursor.Ahead key)
    (stays : ∀ taken ∈ steps, key ∈ (taken.world.entries cursor.store).keys) :
    (∃ side, key ∈ Taken.keysFrom side steps) ∨ (steps.foldl moved cursor).Ahead key := by
  induction walked with
  | nil => exact .inr ahead
  | @cons cursor taken rest came walkedRest ih =>
      have later : ∀ step ∈ rest, key ∈ (step.world.entries (cursor.moved taken).store).keys := by
        intro step member
        rw [store_moved]
        exact stays step (List.mem_cons_of_mem _ member)
      have afterwards : (cursor.moved taken).Ahead key →
          (∃ side, key ∈ Taken.keysFrom side (taken :: rest)) ∨
            ((taken :: rest).foldl moved cursor).Ahead key := by
        intro still
        rcases ih still later with ⟨side, given⟩ | remains
        · exact .inl ⟨side, (Taken.mem_keysFrom_cons ..).mpr (.inr given)⟩
        · exact .inr remains
      cases given : taken.key? with
      | none =>
          apply afterwards
          rw [moved, given]
          exact ahead
      | some passed =>
          by_cases same : key = passed
          · exact .inl ⟨taken.side, (Taken.mem_keysFrom_cons ..).mpr (.inl ⟨rfl, same ▸ given⟩)⟩
          · have pending := (mem_pending_iff cursor _ key).mpr
              ⟨stays taken List.mem_cons_self, ahead⟩
            have beyond := before_of_seek (seek_of_key? came given) pending same
            exact afterwards ((ahead_moved_iff came given key).mpr ⟨ahead, beyond⟩)

/-- The steps are what they should be for a cursor that starts at neither end: they tell the truth
about the store as it is at each of them, and about each other. -/
structure SoundWalk (cursor : Cursor) (steps : List Taken) : Prop where
  /-- Only a store that is lent for writing refuses a step. -/
  answered : ∀ taken ∈ steps, (∃ given, taken.outcome = .ok given) ↔
    taken.world.admits ⟨.store cursor.store, .reading⟩ = true
  /-- What is given out is in the store at that moment, and in the subtree. -/
  stored : ∀ taken ∈ steps, ∀ entry, taken.outcome = .ok (some entry) →
    entry = cursor.entry entry.key ∧ entry.key ∈ (taken.world.entries cursor.store).keys ∧
      Path.InSubtree cursor.scope entry.key
  ascending : (Taken.keysFrom .front steps).Pairwise (· < ·)
  descending : (Taken.keysFrom .back steps).Pairwise (· > ·)
  apart : ∀ front ∈ Taken.keysFrom .front steps, ∀ back ∈ Taken.keysFrom .back steps, front < back
  distinct : (Taken.keysFrom .front steps ++ Taken.keysFrom .back steps).Nodup
  /-- A step finds nothing exactly if the store holds no key between the last ones given out. -/
  exhausted : ∀ earlier taken later, steps = earlier ++ taken :: later →
    (taken.outcome = .ok none ↔
      taken.world.admits ⟨.store cursor.store, .reading⟩ = true ∧
        ∀ key ∈ (taken.world.entries cursor.store).keys, ¬Path.Between cursor.scope
          (Taken.keysFrom .front earlier).getLast? (Taken.keysFrom .back earlier).getLast? key)
  /-- Once a step finds nothing, every key of the subtree that was there at all steps so far has
  been given out. -/
  complete : ∀ earlier taken later, steps = earlier ++ taken :: later → taken.outcome = .ok none →
    ∀ key, Path.InSubtree cursor.scope key →
      (∀ step ∈ earlier ++ [taken], key ∈ (step.world.entries cursor.store).keys) →
        ∃ side, key ∈ Taken.keysFrom side earlier

/-- A cursor has everything in its subtree ahead of it as long as it has not been stepped. -/
theorem ahead_of_fresh {cursor : Cursor} (front : cursor.front = none) (back : cursor.back = none)
    (key : String) : cursor.Ahead key ↔ Path.InSubtree cursor.scope key := by
  simp [Ahead, Path.Between, front, back]

section

variable {cursor : Cursor} {steps earlier later : List Taken} {taken : Taken}

/-- Where a fresh cursor stands after some steps, in terms of what they gave out. -/
theorem ahead_after_iff (front : cursor.front = none) (back : cursor.back = none)
    (earlier : List Taken) (key : String) :
    (earlier.foldl moved cursor).Ahead key ↔
      Path.Between cursor.scope (Taken.keysFrom .front earlier).getLast?
        (Taken.keysFrom .back earlier).getLast? key := by
  obtain ⟨atFront, atBack⟩ := cursor.ends_after earlier
  rw [Ahead, atFront, atBack, scope_after, front, back, Option.or_none, Option.or_none]

theorem Walked.answered_iff (walked : Walked cursor steps) (member : taken ∈ steps) :
    (∃ given, taken.outcome = .ok given) ↔
      taken.world.admits ⟨.store cursor.store, .reading⟩ = true := by
  obtain ⟨standing, store, _, _, came⟩ := walked.exists_standing member
  rw [came, outcome, store]
  split
  next free => simp [free]
  next refused => simp [refused]

theorem Walked.stored (walked : Walked cursor steps) (member : taken ∈ steps) {entry : EntryRef}
    (given : taken.outcome = .ok (some entry)) :
    entry = cursor.entry entry.key ∧ entry.key ∈ (taken.world.entries cursor.store).keys ∧
      Path.InSubtree cursor.scope entry.key := by
  obtain ⟨standing, store, scope, location, came⟩ := walked.exists_standing member
  rw [came, outcome_eq_some_iff, store] at given
  obtain ⟨_, key, found, rfl⟩ := given
  obtain ⟨isStored, ahead⟩ := (mem_pending_iff standing _ key).mp (mem_pending_of_seek found)
  refine ⟨?_, isStored, scope ▸ ahead.1⟩
  rw [Cursor.entry, Cursor.entry, store, location]

/-- A step finds nothing exactly if the store holds no key between the last ones given out. -/
theorem Walked.exhausted_iff (walked : Walked cursor (earlier ++ taken :: later))
    (front : cursor.front = none) (back : cursor.back = none) :
    taken.outcome = .ok none ↔
      taken.world.admits ⟨.store cursor.store, .reading⟩ = true ∧
        ∀ key ∈ (taken.world.entries cursor.store).keys,
          ¬Path.Between cursor.scope (Taken.keysFrom .front earlier).getLast?
            (Taken.keysFrom .back earlier).getLast? key := by
  rw [walked.outcome_eq, outcome_eq_none_iff, store_after]
  simp only [ahead_after_iff front back]

/-- What was in the store all the time has been given out once a step finds nothing. -/
theorem Walked.given_of_exhausted (walked : Walked cursor (earlier ++ taken :: later))
    (front : cursor.front = none) (back : cursor.back = none) (none : taken.outcome = .ok none)
    {key : String} (inside : Path.InSubtree cursor.scope key)
    (stays : ∀ step ∈ earlier ++ [taken], key ∈ (step.world.entries cursor.store).keys) :
    ∃ side, key ∈ Taken.keysFrom side earlier := by
  have nothing := ((walked.exhausted_iff front back).mp none).2
  have here := stays taken (List.mem_append_right earlier (List.mem_singleton.mpr rfl))
  have before : ∀ step ∈ earlier, key ∈ (step.world.entries cursor.store).keys :=
    fun step member => stays step (List.mem_append_left [taken] member)
  have walkedEarlier := ((walked_append_iff cursor earlier _).mp walked).1
  rcases walkedEarlier.given_or_ahead ((ahead_of_fresh front back key).mpr inside) before with
    given | ahead
  · exact given
  · exact absurd ((ahead_after_iff front back earlier key).mp ahead) (nothing key here)

/-- Steps that follow each other from a fresh cursor on make a sound walk. -/
theorem Walked.sound (walked : Walked cursor steps) (front : cursor.front = none)
    (back : cursor.back = none) : SoundWalk cursor steps := by
  have ascending := walked.ordered .front
  have descending := walked.ordered .back
  have apart : ∀ front ∈ Taken.keysFrom .front steps, ∀ back ∈ Taken.keysFrom .back steps,
      front < back := fun _ fromFront _ fromBack => walked.apart fromFront fromBack
  constructor
  case answered => exact fun taken => walked.answered_iff
  case stored => exact fun taken member entry => walked.stored member
  case ascending => exact ascending
  case descending => exact descending
  case apart => exact apart
  case distinct =>
    apply List.nodup_append.mpr
    refine ⟨ascending.imp (fun before => ne_of_lt before),
      descending.imp (fun before => ne_of_gt before), ?_⟩
    intro key fromFront other fromBack
    exact ne_of_lt (apart key fromFront other fromBack)
  case exhausted =>
    intro earlier taken later split
    exact (split ▸ walked).exhausted_iff front back
  case complete =>
    intro earlier taken later split none key inside stays
    exact (split ▸ walked).given_of_exhausted front back none inside stays

end

end Cursor

/-- A cursor that a handle makes: over all that it reaches, or over the subtree at a path. -/
def Handle.cursorFrom (handle : Handle) : Option String → Cursor
  | none => handle.cursor
  | some path => handle.cursorAt path

/-- A cursor of any handle makes a sound walk, whatever is done to its store and to the rest of the
world between its steps. -/
theorem Handle.soundWalk_cursorFrom (handle : Handle) (path : Option String) (moves : List Move)
    (world : World) :
    Cursor.SoundWalk (handle.cursorFrom path)
      (Cursor.trace moves (handle.cursorFrom path) world) := by
  apply (Cursor.walked_trace moves (handle.cursorFrom path) world).sound
  · cases path <;> rfl
  · cases path <;> rfl

end PathStore
