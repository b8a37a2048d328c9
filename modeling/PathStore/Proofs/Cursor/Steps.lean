import PathStore.Cursor
import PathStore.Proofs.Entries.Seeking
import PathStore.Proofs.World.Claims

/-!
# Steps of a cursor

A cursor has some keys of its store pending: those of its subtree strictly between the last keys
that it gave out at its ends. A step takes the pending key that is next to its end, and leaves the
others pending. All that is said about cursors follows from these two facts.
-/

namespace PathStore

/-- An end from which a cursor is stepped. -/
inductive End where
  | front
  | back
  deriving DecidableEq

/-- A key is on the near side of another, as seen from an end. -/
def End.Before : End → String → String → Prop
  | .front, near, far => near < far
  | .back, near, far => far < near

namespace Cursor

/-- The keys that the cursor has not passed, out of the entries of its store. -/
def pending (cursor : Cursor) (entries : Entries Cell) : List String :=
  (entries.between cursor.scope cursor.front cursor.back).map (·.1)

/-- The key lies in the subtree of the cursor and between its ends. -/
def Ahead (cursor : Cursor) (key : String) : Prop :=
  Path.Between cursor.scope cursor.front cursor.back key

theorem mem_pending_iff (cursor : Cursor) (entries : Entries Cell) (key : String) :
    key ∈ cursor.pending entries ↔ key ∈ entries.keys ∧ cursor.Ahead key :=
  entries.mem_keys_between_iff cursor.scope cursor.front cursor.back key

theorem pending_sorted (cursor : Cursor) (entries : Entries Cell) :
    (cursor.pending entries).Pairwise (· < ·) :=
  List.pairwise_map.mpr (entries.between_sorted cursor.scope cursor.front cursor.back)

/-- Let the cursor have given out a key at one end. -/
def pass (cursor : Cursor) : End → String → Cursor
  | .front, key => { cursor with front := some key }
  | .back, key => { cursor with back := some key }

@[simp] theorem store_pass (cursor : Cursor) (side : End) (key : String) :
    (cursor.pass side key).store = cursor.store := by
  cases side <;> rfl

@[simp] theorem scope_pass (cursor : Cursor) (side : End) (key : String) :
    (cursor.pass side key).scope = cursor.scope := by
  cases side <;> rfl

@[simp] theorem location_pass (cursor : Cursor) (side : End) (key : String) :
    (cursor.pass side key).location = cursor.location := by
  cases side <;> rfl

/-- The key that a step from one end finds. -/
def seek (cursor : Cursor) (side : End) (entries : Entries Cell) : Option String :=
  match side with
  | .front => (cursor.pending entries).head?
  | .back => (cursor.pending entries).getLast?

theorem advance?_eq_seek (cursor : Cursor) (entries : Entries Cell) :
    cursor.advance? entries =
      (cursor.seek .front entries).map fun key => (key, cursor.pass .front key) := by
  rw [advance?, Entries.firstBetween_eq_head?]
  rfl

theorem retreat?_eq_seek (cursor : Cursor) (entries : Entries Cell) :
    cursor.retreat? entries =
      (cursor.seek .back entries).map fun key => (key, cursor.pass .back key) := by
  rw [retreat?, Entries.lastBetween_eq_getLast?]
  rfl

/-! ## What a step takes and leaves -/

theorem mem_pending_of_seek {cursor : Cursor} {side : End} {entries : Entries Cell} {key : String}
    (found : cursor.seek side entries = some key) : key ∈ cursor.pending entries := by
  cases side with
  | front => exact List.mem_of_head? found
  | back => exact List.mem_of_getLast? found

theorem seek_eq_none_iff_pending (cursor : Cursor) (side : End) (entries : Entries Cell) :
    cursor.seek side entries = none ↔ cursor.pending entries = [] := by
  cases side with
  | front => exact List.head?_eq_none_iff
  | back => exact List.getLast?_eq_none_iff

theorem seek_eq_none_iff (cursor : Cursor) (side : End) (entries : Entries Cell) :
    cursor.seek side entries = none ↔ ∀ key ∈ entries.keys, ¬cursor.Ahead key := by
  rw [seek_eq_none_iff_pending, List.eq_nil_iff_forall_not_mem]
  simp only [mem_pending_iff, not_and]

/-- What lies ahead of a cursor that passed a key is what lay ahead of it beyond that key. -/
theorem ahead_pass_iff {cursor : Cursor} {key : String} (ahead : cursor.Ahead key) (side : End)
    (other : String) :
    (cursor.pass side key).Ahead other ↔ cursor.Ahead other ∧ side.Before key other := by
  obtain ⟨_, after, before⟩ := ahead
  cases side with
  | front =>
      simp only [Ahead, Path.Between, pass, End.Before, Option.mem_some_iff, forall_eq']
      constructor
      · rintro ⟨inside, beyond, within⟩
        exact ⟨⟨inside, fun last known => lt_trans (after last known) beyond, within⟩, beyond⟩
      · rintro ⟨⟨inside, _, within⟩, beyond⟩
        exact ⟨inside, beyond, within⟩
  | back =>
      simp only [Ahead, Path.Between, pass, End.Before, Option.mem_some_iff, forall_eq']
      constructor
      · rintro ⟨inside, within, beyond⟩
        exact ⟨⟨inside, within, fun next known => lt_trans beyond (before next known)⟩, beyond⟩
      · rintro ⟨⟨inside, within, _⟩, beyond⟩
        exact ⟨inside, within, beyond⟩

/-- The key that a step finds is next to its end. -/
theorem before_of_seek {cursor : Cursor} {side : End} {entries : Entries Cell} {key other : String}
    (found : cursor.seek side entries = some key) (pending : other ∈ cursor.pending entries)
    (different : other ≠ key) : side.Before key other := by
  have sorted := cursor.pending_sorted entries
  cases side with
  | front =>
      obtain ⟨rest, equal⟩ := List.head?_eq_some_iff.mp found
      rw [equal] at sorted pending
      have inRest := (List.mem_cons.mp pending).resolve_left different
      exact (List.pairwise_cons.mp sorted).1 other inRest
  | back =>
      obtain ⟨rest, equal⟩ := List.getLast?_eq_some_iff.mp found
      rw [equal] at sorted pending
      have inRest := (List.mem_append.mp pending).resolve_right (by simpa using different)
      exact (List.pairwise_append.mp sorted).2.2 other inRest key (List.mem_singleton.mpr rfl)

/-- A step leaves pending what was pending beyond the key that it took. -/
theorem mem_pending_pass_iff {cursor : Cursor} {entries : Entries Cell} {key : String}
    (pending : key ∈ cursor.pending entries) (side : End) (other : String) :
    other ∈ (cursor.pass side key).pending entries ↔
      other ∈ cursor.pending entries ∧ side.Before key other := by
  have ahead := ((cursor.mem_pending_iff entries key).mp pending).2
  rw [mem_pending_iff, mem_pending_iff, ahead_pass_iff ahead, and_assoc]

theorem pending_pass_front {cursor : Cursor} {entries : Entries Cell} {key : String}
    {rest : List String} (pending : cursor.pending entries = key :: rest) :
    (cursor.pass .front key).pending entries = rest := by
  have sorted := cursor.pending_sorted entries
  rw [pending] at sorted
  obtain ⟨above, sortedRest⟩ := List.pairwise_cons.mp sorted
  apply (pending_sorted _ entries).eq_of_mem_iff sortedRest
  intro other
  rw [mem_pending_pass_iff (by rw [pending]; exact List.mem_cons_self), pending, List.mem_cons]
  constructor
  · rintro ⟨rfl | inRest, beyond⟩
    · exact absurd beyond (lt_irrefl _)
    · exact inRest
  · intro inRest
    exact ⟨.inr inRest, above other inRest⟩

theorem pending_pass_back {cursor : Cursor} {entries : Entries Cell} {key : String}
    {rest : List String} (pending : cursor.pending entries = rest ++ [key]) :
    (cursor.pass .back key).pending entries = rest := by
  have sorted := cursor.pending_sorted entries
  rw [pending] at sorted
  obtain ⟨sortedRest, _, under⟩ := List.pairwise_append.mp sorted
  apply (pending_sorted _ entries).eq_of_mem_iff sortedRest
  intro other
  rw [mem_pending_pass_iff (by rw [pending]; simp), pending, List.mem_append, List.mem_singleton]
  constructor
  · rintro ⟨inRest | rfl, beyond⟩
    · exact inRest
    · exact absurd beyond (lt_irrefl _)
  · intro inRest
    exact ⟨.inl inRest, under other inRest key (List.mem_singleton.mpr rfl)⟩

/-! ## Steps as programs -/

/-- Take the next entry from one end. -/
def step (cursor : Cursor) : End → Op (Option EntryRef × Cursor)
  | .front => cursor.next
  | .back => cursor.nextBack

/-- A step reads what is next to its end off the entries of the store. -/
theorem step_eq_reading (cursor : Cursor) (side : End) :
    cursor.step side = cursor.store.reading .locked fun entries => pure
      (match cursor.seek side entries with
        | some key => (some (cursor.entry key), cursor.pass side key)
        | none => (none, cursor)) := by
  cases side with
  | front =>
      simp only [step, next, stepWith, advance?_eq_seek]
      congr 1
      funext entries
      cases cursor.seek .front entries <;> rfl
  | back =>
      simp only [step, nextBack, stepWith, retreat?_eq_seek]
      congr 1
      funext entries
      cases cursor.seek .back entries <;> rfl

/-- A step needs to read the store. It gives out what is next to its end, if anything is pending,
and changes nothing but the cursor. -/
theorem step_apply (cursor : Cursor) (side : End) (world : World) :
    cursor.step side world =
      if world.admits ⟨.store cursor.store, .reading⟩ then
        match cursor.seek side (world.entries cursor.store) with
        | some key => .ok (some (cursor.entry key), cursor.pass side key) world
        | none => .ok (none, cursor) world
      else .error .locked world := by
  rw [step_eq_reading, StoreId.reading_pure]
  split
  · cases cursor.seek side (world.entries cursor.store) <;> rfl
  · rfl

end Cursor

end PathStore
