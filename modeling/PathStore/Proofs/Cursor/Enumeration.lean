import PathStore.Proofs.Cursor.Walks
import PathStore.Proofs.Keys.Relative

/-!
# Ways to list a subtree

The scan of a subtree, the test of every key against the location, and the repeated steps of a
cursor from either end list the same entries. In a store that does not change, so do steps from both
ends in any order.
-/

namespace PathStore

namespace Cursor

/-! ## Repeated steps from one end -/

theorem walk_advance? (cursor : Cursor) (entries : Entries Cell) (limit : Nat) :
    walk advance? entries limit cursor = (cursor.pending entries).take limit := by
  induction limit generalizing cursor with
  | zero => rfl
  | succ limit ih =>
      rw [walk, advance?_eq_seek, seek]
      cases pending : cursor.pending entries with
      | nil => rfl
      | cons key rest =>
          rw [List.take_succ_cons, ← pending_pass_front pending]
          exact congrArg (key :: ·) (ih (cursor.pass .front key))

theorem walk_retreat? (cursor : Cursor) (entries : Entries Cell) (limit : Nat) :
    walk retreat? entries limit cursor = (cursor.pending entries).reverse.take limit := by
  induction limit generalizing cursor with
  | zero => rfl
  | succ limit ih =>
      rw [walk, retreat?_eq_seek, seek]
      rcases List.eq_nil_or_concat (cursor.pending entries) with pending | ⟨rest, key, pending⟩
      · rw [pending]
        rfl
      · rw [List.concat_eq_append] at pending
        rw [pending, List.getLast?_concat, List.reverse_concat, List.take_succ_cons,
          ← pending_pass_back pending]
        exact congrArg (key :: ·) (ih (cursor.pass .back key))

theorem length_pending_le (cursor : Cursor) (entries : Entries Cell) :
    (cursor.pending entries).length ≤ entries.size := by
  rw [pending, List.length_map]
  exact List.length_filter_le ..

/-- What a cursor has left from the front are its pending keys. -/
theorem remaining_eq_pending (cursor : Cursor) (entries : Entries Cell) :
    cursor.remaining entries = cursor.pending entries := by
  rw [remaining, walk_advance?, List.take_of_length_le (cursor.length_pending_le entries)]

/-- What a cursor has left from the back are its pending keys, the last one first. -/
theorem remainingBack_eq_reverse_pending (cursor : Cursor) (entries : Entries Cell) :
    cursor.remainingBack entries = (cursor.pending entries).reverse := by
  rw [remainingBack, walk_retreat?, List.take_of_length_le]
  rw [List.length_reverse]
  exact cursor.length_pending_le entries

/-! ## Steps from both ends in a store that does not change -/

/-- The steps are made while the store can be read and holds the same entries throughout. -/
def Undisturbed (store : StoreId) (entries : Entries Cell) (steps : List Taken) : Prop :=
  ∀ taken ∈ steps, taken.world.entries store = entries ∧
    taken.world.admits ⟨.store store, .reading⟩ = true

theorem Undisturbed.moved {cursor : Cursor} {entries : Entries Cell} {taken : Taken}
    {rest : List Taken} (still : Undisturbed cursor.store entries (taken :: rest)) :
    Undisturbed (cursor.moved taken).store entries rest := by
  rw [store_moved]
  exact fun step member => still step (List.mem_cons_of_mem _ member)

/-- A step that is not disturbed takes the pending key next to its end. -/
theorem outcome_of_undisturbed {cursor : Cursor} {entries : Entries Cell} {taken : Taken}
    {rest : List Taken} (came : taken.outcome = cursor.outcome taken.side taken.world)
    (still : Undisturbed cursor.store entries (taken :: rest)) :
    taken.outcome = .ok ((cursor.seek taken.side entries).map cursor.entry) := by
  obtain ⟨same, free⟩ := still taken List.mem_cons_self
  rw [came, outcome, if_pos free, same]

theorem key?_of_undisturbed {cursor : Cursor} {entries : Entries Cell} {taken : Taken}
    {rest : List Taken} (came : taken.outcome = cursor.outcome taken.side taken.world)
    (still : Undisturbed cursor.store entries (taken :: rest)) :
    taken.key? = cursor.seek taken.side entries := by
  rw [Taken.key?, outcome_of_undisturbed came still]
  cases cursor.seek taken.side entries <;> rfl

/-- A step splits the pending keys into the one that it takes and those that stay. -/
theorem pending_eq_taken_append {cursor : Cursor} {entries : Entries Cell} {taken : Taken}
    (given : taken.key? = cursor.seek taken.side entries) :
    cursor.pending entries = (taken.keyFrom? .front).toList ++
      ((cursor.moved taken).pending entries ++ (taken.keyFrom? .back).toList) := by
  unfold Cursor.moved Taken.keyFrom?
  rw [given]
  cases taken.side with
  | front =>
      simp only [seek, if_true, reduceCtorEq, if_false, Option.toList_none, List.append_nil]
      cases pending : cursor.pending entries with
      | nil => exact pending.symm
      | cons key rest => exact congrArg (key :: ·) (pending_pass_front pending).symm
  | back =>
      simp only [seek, if_true, reduceCtorEq, if_false, Option.toList_none, List.nil_append]
      rcases List.eq_nil_or_concat (cursor.pending entries) with pending | ⟨rest, key, pending⟩
      · rw [pending]
        exact ((List.append_nil _).trans pending).symm
      · rw [List.concat_eq_append] at pending
        rw [pending, List.getLast?_concat]
        exact congrArg (· ++ [key]) (pending_pass_back pending).symm

/-- What was given out from the front, what is pending, and what was given out from the back, the
last one first, make up what was pending at the beginning. -/
theorem Walked.given_append_pending {cursor : Cursor} {entries : Entries Cell} {steps : List Taken}
    (walked : Walked cursor steps) (still : Undisturbed cursor.store entries steps) :
    Taken.keysFrom .front steps ++ ((steps.foldl Cursor.moved cursor).pending entries ++
      (Taken.keysFrom .back steps).reverse) = cursor.pending entries := by
  induction walked with
  | nil => simp
  | @cons cursor taken rest came walkedRest ih =>
      rw [pending_eq_taken_append (key?_of_undisturbed came still), ← ih still.moved,
        List.foldl_cons, Taken.keysFrom_cons, Taken.keysFrom_cons, List.reverse_append]
      have single : (taken.keyFrom? .back).toList.reverse = (taken.keyFrom? .back).toList := by
        cases taken.keyFrom? .back <;> rfl
      rw [single]
      simp only [List.append_assoc]

/-- Steps that are not disturbed are all answered. -/
theorem Walked.answers {cursor : Cursor} {entries : Entries Cell} {steps : List Taken}
    (walked : Walked cursor steps) (still : Undisturbed cursor.store entries steps) :
    ∀ taken ∈ steps, ∃ given, taken.outcome = .ok given := by
  intro taken member
  obtain ⟨standing, store, _, _, came⟩ := walked.exists_standing member
  have free := (still taken member).2
  rw [← store] at free
  exact ⟨_, by rw [came, outcome, if_pos free]⟩

/-- A step that is not disturbed and finds nothing shows that nothing is pending. -/
theorem Walked.pending_nil_of_none {cursor : Cursor} {entries : Entries Cell} {taken : Taken}
    {rest : List Taken} (walked : Walked cursor (taken :: rest))
    (still : Undisturbed cursor.store entries (taken :: rest)) (none : taken.outcome = .ok none) :
    cursor.pending entries = [] := by
  cases walked with
  | cons came _ =>
      rw [outcome_of_undisturbed came still, Except.ok.injEq, Option.map_eq_none_iff] at none
      exact (seek_eq_none_iff_pending cursor taken.side entries).mp none

/-- Once nothing is pending, no step finds anything. -/
theorem Walked.none_of_pending_nil {cursor : Cursor} {entries : Entries Cell} {steps : List Taken}
    (walked : Walked cursor steps) (still : Undisturbed cursor.store entries steps)
    (done : cursor.pending entries = []) : ∀ taken ∈ steps, taken.outcome = .ok none := by
  induction walked with
  | nil => simp
  | @cons cursor taken rest came walkedRest ih =>
      have nothing : cursor.seek taken.side entries = none := by
        unfold seek
        rw [done]
        cases taken.side <;> rfl
      have given := (key?_of_undisturbed came still).trans nothing
      have stays : cursor.moved taken = cursor := by rw [Cursor.moved, given]
      intro step member
      rcases List.mem_cons.mp member with rfl | later
      · rw [outcome_of_undisturbed came still, nothing]
        rfl
      · exact ih still.moved (by rw [stays, done]) step later

/-- Steps that all find something give out one key each. -/
theorem length_keysFrom_add {steps : List Taken}
    (found : ∀ taken ∈ steps, ∃ key, taken.key? = some key) :
    (Taken.keysFrom .front steps).length + (Taken.keysFrom .back steps).length = steps.length := by
  induction steps with
  | nil => rfl
  | cons taken rest ih =>
      obtain ⟨key, given⟩ := found taken List.mem_cons_self
      have ih := ih fun step member => found step (List.mem_cons_of_mem _ member)
      rw [Taken.keysFrom_cons, Taken.keysFrom_cons, List.length_append, List.length_append,
        List.length_cons, ← ih, Taken.keyFrom?, Taken.keyFrom?, given]
      cases taken.side
      · change 1 + _ + (0 + _) = _
        omega
      · change 0 + _ + (1 + _) = _
        omega

/-- Steps that are not disturbed all find something only as long as there are no more of them than
pending keys. -/
theorem Walked.exists_none {cursor : Cursor} {entries : Entries Cell} {steps : List Taken}
    (walked : Walked cursor steps) (still : Undisturbed cursor.store entries steps)
    (many : (cursor.pending entries).length < steps.length) :
    ∃ taken ∈ steps, taken.outcome = .ok none := by
  by_contra none
  have found : ∀ taken ∈ steps, ∃ key, taken.key? = some key := by
    intro taken member
    obtain ⟨given, outcome⟩ := walked.answers still taken member
    cases given with
    | none => exact absurd ⟨taken, member, outcome⟩ none
    | some entry => exact ⟨entry.key, by rw [Taken.key?, outcome]⟩
  have count := length_keysFrom_add found
  have total := congrArg List.length (walked.given_append_pending still)
  simp only [List.length_append, List.length_reverse] at total
  omega

/-! ## A run of steps -/

/-- A run in which only the cursor is stepped makes one step for each end asked for, in the same
world. -/
theorem sides_trace_steps (sides : List End) (cursor : Cursor) (world : World) :
    (trace (sides.map .step) cursor world).map (fun taken => (taken.side, taken.world)) =
      sides.map fun side => (side, world) := by
  induction sides generalizing cursor with
  | nil => rfl
  | cons side sides ih =>
      rw [List.map_cons, trace_step, List.map_cons, List.map_cons, ih]

theorem map_side_trace_steps (sides : List End) (cursor : Cursor) (world : World) :
    (trace (sides.map .step) cursor world).map (·.side) = sides := by
  have firsts := congrArg (List.map Prod.fst) (sides_trace_steps sides cursor world)
  simpa [List.map_map, Function.comp_def] using firsts

theorem undisturbed_trace_steps (sides : List End) (cursor : Cursor) {world : World}
    (free : world.admits ⟨.store cursor.store, .reading⟩ = true) :
    Undisturbed cursor.store (world.entries cursor.store)
      (trace (sides.map .step) cursor world) := by
  intro taken member
  have here : (taken.side, taken.world) ∈ sides.map fun side => (side, world) :=
    sides_trace_steps sides cursor world ▸ List.mem_map_of_mem member
  obtain ⟨side, _, equal⟩ := List.mem_map.mp here
  cases equal
  exact ⟨rfl, free⟩

/-- At the first step that finds nothing, what was given out from the front and, in reverse, from
the back make up what was pending at the beginning, and no later step finds anything. -/
theorem Walked.complete_at_none {cursor : Cursor} {entries : Entries Cell} {taken : Taken}
    {earlier later : List Taken} (walked : Walked cursor (earlier ++ taken :: later))
    (still : Undisturbed cursor.store entries (earlier ++ taken :: later))
    (none : taken.outcome = .ok none) :
    Taken.keysFrom .front earlier ++ (Taken.keysFrom .back earlier).reverse =
        cursor.pending entries ∧
      ∀ step ∈ later, step.outcome = .ok Option.none := by
  rw [walked_append_iff] at walked
  obtain ⟨walkedEarlier, walkedLater⟩ := walked
  have stillEarlier : Undisturbed cursor.store entries earlier :=
    fun step member => still step (List.mem_append_left _ member)
  have stillLater : Undisturbed (earlier.foldl Cursor.moved cursor).store entries
      (taken :: later) := by
    rw [store_after]
    exact fun step member => still step (List.mem_append_right _ member)
  have done := walkedLater.pending_nil_of_none stillLater none
  constructor
  · have total := walkedEarlier.given_append_pending stillEarlier
    rw [done, List.nil_append] at total
    exact total
  · intro step member
    exact walkedLater.none_of_pending_nil stillLater done step (List.mem_cons_of_mem _ member)

/-- While the store does not change, steps from both ends in any order come to an end, and at the
first that finds nothing they have given out what was pending. -/
theorem trace_steps_lists (cursor : Cursor) {world : World}
    (free : world.admits ⟨.store cursor.store, .reading⟩ = true) (sides : List End)
    {steps : List Taken} (made : trace (sides.map .step) cursor world = steps) :
    steps.map (·.side) = sides ∧
      (∀ taken ∈ steps, ∃ given, taken.outcome = .ok given) ∧
      ((cursor.pending (world.entries cursor.store)).length < sides.length →
        ∃ taken ∈ steps, taken.outcome = .ok none) ∧
      ∀ earlier taken later, steps = earlier ++ taken :: later → taken.outcome = .ok none →
        Taken.keysFrom .front earlier ++ (Taken.keysFrom .back earlier).reverse =
            cursor.pending (world.entries cursor.store) ∧
          ∀ step ∈ later, step.outcome = .ok none := by
  subst made
  have walked := walked_trace (sides.map .step) cursor world
  have still := undisturbed_trace_steps sides cursor free
  have inOrder := map_side_trace_steps sides cursor world
  refine ⟨inOrder, walked.answers still, ?_, ?_⟩
  · intro many
    apply walked.exists_none still
    rwa [← inOrder, List.length_map] at many
  · intro earlier taken later split none
    rw [split] at walked still
    exact walked.complete_at_none still none

end Cursor

namespace Handle

/-! ## All ways to list -/

/-- The scan of a subtree yields the entries whose keys satisfy the test of the location. -/
theorem reach_eq_filter (handle : Handle) (proper : handle.location ≠ .within "")
    (entries : Entries Cell) :
    handle.reach entries =
      entries.toList.filter fun entry => handle.location.contains entry.1 := by
  rw [reach, Entries.subtree_eq_between]
  apply List.filter_congr
  intro entry _
  rw [Bool.eq_iff_iff, decide_eq_true_eq, Location.contains_iff_inSubtree proper]
  simp [Path.Between]

theorem pending_cursor (handle : Handle) (entries : Entries Cell) :
    handle.cursor.pending entries = (handle.reach entries).map (·.1) := by
  rw [reach, Entries.subtree_eq_between]
  rfl

/-- All ways to list the subtree of a handle agree. The keys that satisfy the test of the location,
in the order of the store, are those that the scan lists and those that a cursor gives out from the
front, and from the back in reverse. If the store does not change, the same holds for steps from
both ends in any order: they come to an end, then the keys from the front and those from the back in
reverse make up the list, and no later step finds anything. -/
theorem listings_agree (handle : Handle) (proper : handle.location ≠ .within "")
    (entries : Entries Cell) :
    let listed := entries.toList.filter fun entry => handle.location.contains entry.1
    let keys := listed.map (·.1)
    handle.reach entries = listed ∧
      handle.cursor.remaining entries = keys ∧
      (handle.cursor.remainingBack entries).reverse = keys ∧
      keys.Pairwise (· < ·) ∧
      keys.Nodup ∧
      ∀ world : World, world.entries handle.store = entries →
        world.admits ⟨.store handle.store, .reading⟩ = true →
        handle.keys world = .ok (keys.map handle.location.relative) world ∧
        handle.size world = .ok keys.length world ∧
        handle.isEmpty world = .ok keys.isEmpty world ∧
        ∀ sides : List End,
          let steps := Cursor.trace (sides.map .step) handle.cursor world
          steps.map (·.side) = sides ∧
            (∀ taken ∈ steps, ∃ given, taken.outcome = .ok given) ∧
            (keys.length < sides.length → ∃ taken ∈ steps, taken.outcome = .ok none) ∧
            ∀ earlier taken later, steps = earlier ++ taken :: later → taken.outcome = .ok none →
              Taken.keysFrom .front earlier ++ (Taken.keysFrom .back earlier).reverse = keys ∧
                ∀ step ∈ later, step.outcome = .ok none := by
  intro listed keys
  have scan : handle.reach entries = listed := handle.reach_eq_filter proper entries
  have pending : handle.cursor.pending entries = keys := by rw [pending_cursor, scan]
  have sorted : keys.Pairwise (· < ·) := pending ▸ handle.cursor.pending_sorted entries
  refine ⟨scan, ?_, ?_, sorted, sorted.imp fun before => ne_of_lt before, ?_⟩
  · rw [Cursor.remaining_eq_pending, pending]
  · rw [Cursor.remainingBack_eq_reverse_pending, List.reverse_reverse, pending]
  · intro world same free
    refine ⟨?_, ?_, ?_, ?_⟩
    · rw [Handle.keys, StoreId.reading_pure, if_pos free, same, scan, List.map_map]
      rfl
    · rw [size, StoreId.reading_pure, if_pos free, same, scan, List.length_map]
    · rw [isEmpty, StoreId.reading_pure, if_pos free, same, scan, List.isEmpty_map]
    · intro sides steps
      have lists := @Cursor.trace_steps_lists handle.cursor world free sides steps rfl
      rwa [show world.entries handle.cursor.store = entries from same, pending] at lists

/-- The own entry of a location stands apart from the entries below it. -/
theorem listings_agree_tree :
    let handle : Handle := ⟨⟨0⟩, .within "/tree"⟩
    let entries : Entries Cell :=
      ⟨[("/tree", none), ("/tree.x", none), ("/tree/i", none), ("/tree0", none)],
        by decide +kernel⟩
    let world : World := ⟨⟨[entries]⟩, default, default, []⟩
    (handle.location ≠ .within "" ∧ world.entries handle.store = entries ∧
        world.admits ⟨.store handle.store, .reading⟩ = true) ∧
      handle.reach entries = [("/tree", none), ("/tree/i", none)] ∧
      handle.size world = .ok 2 world := by
  intro handle entries world
  have proper : handle.location ≠ .within "" := by decide
  have listed : entries.toList.filter (fun entry => handle.location.contains entry.1) =
      [("/tree", none), ("/tree/i", none)] := by decide +kernel
  obtain ⟨scan, _, _, _, _, asked⟩ := listings_agree handle proper entries
  obtain ⟨_, counted, _⟩ := asked world rfl rfl
  rw [listed] at scan counted
  exact ⟨⟨proper, rfl, rfl⟩, scan, counted⟩

end Handle

end PathStore
