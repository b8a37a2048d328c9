import PathStore.Proofs.Cursor.Enumeration

/-!
# Removing what a cursor has left

Removing the range of a cursor collects the keys that are pending and then removes those. So it takes away
what lies ahead of the cursor in the store as it is by then, and nothing else: a key that the cursor has
given out is behind it from then on. No cursor that stood there finds anything afterwards.
-/

namespace PathStore

/-! ## What a cursor has left -/

namespace Cursor

instance (cursor : Cursor) (key : String) : Decidable (cursor.Ahead key) :=
  inferInstanceAs (Decidable (Path.Between cursor.scope cursor.front cursor.back key))

theorem pending_eq_filter_keys (cursor : Cursor) (entries : Entries Cell) :
    cursor.pending entries = entries.keys.filter fun key => cursor.Ahead key := by
  rw [pending, Entries.between, Entries.keys, List.filter_map]
  rfl

/-- Nothing is pending where all that lies ahead has been removed. -/
theorem pending_keepKeys (cursor : Cursor) (entries : Entries Cell) :
    cursor.pending (entries.keepKeys fun key => !cursor.Ahead key) = [] := by
  rw [List.eq_nil_iff_forall_not_mem]
  intro key pending
  obtain ⟨stored, ahead⟩ := (mem_pending_iff ..).mp pending
  obtain ⟨value, found⟩ := (Entries.mem_keys_iff ..).mp stored
  rw [Entries.find?_keepKeys, decide_eq_true ahead] at found
  cases found

end Cursor

/-! ## Removing a range -/

namespace Handle

/-- Removing the range of a cursor takes away all that lies ahead of it. -/
theorem eraseRange_apply {handle : Handle} {cursor : Cursor} {world : World}
    (shared : handle.store = cursor.store)
    (free : world.admits ⟨.store handle.store, .writing⟩ = true) :
    handle.eraseRange cursor world =
      .ok ((world.entries handle.store).keys.filter fun key => cursor.Ahead key).length
        (world.setEntries handle.store
          ((world.entries handle.store).keepKeys fun key => !cursor.Ahead key)) := by
  have collected := cursor.store.reading_pure .locked cursor.remaining world
  rw [← shared, if_pos (World.admits_reading free), Cursor.remaining_eq_pending,
    Cursor.pending_eq_filter_keys] at collected
  have counted : ∀ key ∈ (world.entries handle.store).keys.filter fun key => cursor.Ahead key,
      (world.entries handle.store).contains key = true := fun key member =>
    Entries.contains_of_mem_keys (List.mem_filter.mp member).1
  unfold eraseRange
  rw [if_neg (not_not_intro shared), ← shared]
  dsimp only
  rw [bind_of_ok collected, StoreId.writing_pure, if_pos free, List.filter_eq_self.mpr counted,
    Entries.eraseAll_filter_keys]

end Handle

/-! ## What is behind a cursor -/

theorem End.not_before_self (side : End) (key : String) : ¬side.Before key key := by
  cases side <;> exact lt_irrefl key

namespace Cursor

variable {cursor : Cursor} {steps : List Taken} {key : String}

/-- What lies ahead of a cursor after some steps lay ahead of it before them. -/
theorem Walked.ahead_of_ahead_after (walked : Walked cursor steps)
    (ahead : (steps.foldl moved cursor).Ahead key) : cursor.Ahead key := by
  induction walked with
  | nil => exact ahead
  | cons came _ ih => exact ahead_of_ahead_moved came (ih ahead)

/-- A key that has been given out does not lie ahead any more. -/
theorem Walked.not_ahead_of_given (walked : Walked cursor steps) {side : End}
    (given : key ∈ Taken.keysFrom side steps) : ¬(steps.foldl moved cursor).Ahead key := by
  induction walked with
  | nil => cases given
  | @cons cursor taken rest came walkedRest ih =>
      rw [Taken.mem_keysFrom_cons] at given
      rcases given with ⟨_, now⟩ | later
      · intro ahead
        have beyond := (ahead_moved_iff came now key).mp (walkedRest.ahead_of_ahead_after ahead)
        exact taken.side.not_before_self key beyond.2
      · exact ih later

/-! ## Where a run leaves the cursor and the world -/

/-- The cursor and the world once some moves have been made. -/
def afterwards : List Move → Cursor → World → Cursor × World
  | [], cursor, world => (cursor, world)
  | .other program :: moves, cursor, world => afterwards moves cursor (program.leaves world)
  | .step side :: moves, cursor, world =>
    match cursor.step side world with
    | .ok (_, moved) left => afterwards moves moved left
    | .error _ left => afterwards moves cursor left

/-- The cursor is where the steps of the run leave it. -/
theorem afterwards_fst (moves : List Move) (cursor : Cursor) (world : World) :
    (afterwards moves cursor world).1 = (trace moves cursor world).foldl moved cursor := by
  induction moves generalizing cursor world with
  | nil => rfl
  | cons move moves ih =>
      cases move with
      | other program => exact ih cursor (program.leaves world)
      | step side =>
          rw [trace_step, List.foldl_cons, ← ih, afterwards, step_apply, moved, outcome]
          by_cases free : world.admits ⟨.store cursor.store, .reading⟩
          · simp only [if_pos free]
            cases cursor.seek side (world.entries cursor.store) <;> rfl
          · simp only [if_neg free]
            rfl

/-- What a cursor that was made fresh has left after some steps: the keys of its subtree after the last one
given out from the front and before the last one given out from the back. -/
def Rest (fresh : Cursor) (steps : List Taken) (key : String) : Prop :=
  Path.Between fresh.scope (Taken.keysFrom .front steps).getLast?
    (Taken.keysFrom .back steps).getLast? key

instance (fresh : Cursor) (steps : List Taken) (key : String) : Decidable (fresh.Rest steps key) :=
  inferInstanceAs (Decidable (Path.Between ..))

end Cursor

namespace Handle

open Cursor

theorem front_cursorFrom (handle : Handle) (path : Option String) :
    (handle.cursorFrom path).front = none := by
  cases path <;> rfl

theorem back_cursorFrom (handle : Handle) (path : Option String) :
    (handle.cursorFrom path).back = none := by
  cases path <;> rfl

theorem store_cursorFrom (handle : Handle) (path : Option String) :
    (handle.cursorFrom path).store = handle.store := by
  cases path <;> rfl

/-- A cursor is made, and then stepped any number of times from both ends while anything is done to the
world in between. Removing its range through whatever handle on its store, unless the store is in use,
removes exactly what the cursor has left in the store as it is by then, and tells how many entries that
were. What it has given out stays as it is, and a copy of the cursor finds nothing any more, from
whichever ends it is stepped. -/
theorem eraseRange_takes_rest (origin handle : Handle) (path : Option String) (moves : List Move)
    (begun : World) (shared : handle.store = origin.store)
    (free : (afterwards moves (origin.cursorFrom path) begun).2.admits
      ⟨.store handle.store, .writing⟩ = true) :
    let fresh := origin.cursorFrom path
    let steps := trace moves fresh begun
    let cursor := (afterwards moves fresh begun).1
    let world := (afterwards moves fresh begun).2
    let entries := world.entries handle.store
    let left := world.setEntries handle.store (entries.keepKeys fun key => !fresh.Rest steps key)
    handle.eraseRange cursor world =
        .ok (entries.keys.filter fun key => fresh.Rest steps key).length left ∧
      (∀ key, (left.entries handle.store).find? key =
        if fresh.Rest steps key then none else entries.find? key) ∧
      (∀ side, ∀ key ∈ Taken.keysFrom side steps,
        (left.entries handle.store).find? key = entries.find? key) ∧
      ∀ sides : List End,
        (trace (sides.map .step) cursor left).map (·.side) = sides ∧
          ∀ taken ∈ trace (sides.map .step) cursor left, taken.outcome = .ok none := by
  intro fresh steps cursor world entries left
  have stands : cursor = steps.foldl moved fresh := afterwards_fst moves fresh begun
  have ahead_iff (key : String) : cursor.Ahead key ↔ fresh.Rest steps key := by
    rw [stands]
    exact ahead_after_iff (origin.front_cursorFrom path) (origin.back_cursorFrom path) steps key
  have store : cursor.store = handle.store := by
    rw [stands, store_after, store_cursorFrom, shared]
  have removed := eraseRange_apply store.symm free
  have nothing := cursor.pending_keepKeys entries
  simp only [ahead_iff] at removed nothing
  have found (key : String) : (left.entries handle.store).find? key =
      if fresh.Rest steps key then none else entries.find? key := by
    rw [World.entries_setEntries, if_pos rfl, Entries.find?_keepKeys]
    by_cases rest : fresh.Rest steps key <;> simp [rest]
  refine ⟨removed, found, ?_, fun sides => ⟨map_side_trace_steps sides cursor left, ?_⟩⟩
  · intro side key given
    have walked : Walked fresh steps := walked_trace moves fresh begun
    have behind := walked.not_ahead_of_given given
    rw [← stands, ahead_iff] at behind
    rw [found, if_neg behind]
  · have readable : left.admits ⟨.store cursor.store, .reading⟩ = true := by
      rw [store]
      exact World.admits_reading free
    have still := undisturbed_trace_steps sides cursor readable
    have walked := walked_trace (sides.map .step) cursor left
    refine walked.none_of_pending_nil still ?_
    rwa [store, World.entries_setEntries, if_pos rfl]

/-- A cursor over a submap has given out its own entry from the front and, after another one was stored,
the last one from the back. What it has left is removed through the root, the new entry with it. -/
theorem eraseRange_takes_rest_tree :
    let all : Handle := ⟨⟨0⟩, .root⟩
    let tree : Handle := ⟨⟨0⟩, .within "/tree"⟩
    let begun : World :=
      ⟨⟨[⟨[("/tree", none), ("/tree.x", none), ("/tree/a", none), ("/tree/b", none)],
        by decide +kernel⟩]⟩, default, default, []⟩
    let moves : List Move :=
      [.step .front, .other (tree.update "aa" (.scalar (.bool true))), .step .back]
    let cursor := (afterwards moves tree.cursor begun).1
    let world := (afterwards moves tree.cursor begun).2
    (world.admits ⟨.store all.store, .writing⟩ = true ∧ all.store = tree.store) ∧
      (world.entries ⟨0⟩).keys = ["/tree", "/tree.x", "/tree/a", "/tree/aa", "/tree/b"] ∧
      ∃ left, all.eraseRange cursor world = .ok 2 left ∧
        (left.entries ⟨0⟩).keys = ["/tree", "/tree.x", "/tree/b"] := by
  intro all tree begun moves cursor world
  let left := world.setEntries ⟨0⟩ ((world.entries ⟨0⟩).keepKeys fun key =>
    !tree.cursor.Rest (trace moves tree.cursor begun) key)
  have free : world.admits ⟨.store all.store, .writing⟩ = true := by decide +kernel
  have removed := (eraseRange_takes_rest tree all none moves begun rfl free).1
  have counted : ((world.entries ⟨0⟩).keys.filter fun key =>
      tree.cursor.Rest (trace moves tree.cursor begun) key).length = 2 := by decide +kernel
  refine ⟨⟨free, rfl⟩, by decide +kernel, left, ?_, by decide +kernel⟩
  exact removed.trans (congrArg (EStateM.Result.ok · left) counted)

end Handle

end PathStore
