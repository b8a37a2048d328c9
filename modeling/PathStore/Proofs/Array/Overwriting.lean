import PathStore.Proofs.World.Inquiries
import PathStore.Proofs.World.Origins

/-!
# One element is set

Views and blocks may show one element of a buffer at several places, by different strides and
offsets. When it is set, each of them shows the new element at exactly the places that address it,
and everywhere else what it showed before.
-/

namespace PathStore

/-- Where an element stands in a buffer. -/
structure Slot where
  buffer : BufferId
  position : Nat
  deriving DecidableEq

/-- The slot that a view addresses by a multi-index. -/
def View.slotAt? (view : View) (index : List Nat) : Option Slot :=
  (view.indexPosition index).toOption.map fun position => ⟨view.buffer.id, position⟩

/-- The slot that a view addresses by a place in row-major order. -/
def View.slotOf? (view : View) (place : Nat) : Option Slot :=
  (view.checkedPosition place).toOption.map fun position => ⟨view.buffer.id, position⟩

/-- The slot that a block addresses by a position. What it owns stands in no buffer. -/
def Block.slotOf? (block : Block) (position : Nat) : Option Slot :=
  match block.storage with
  | .borrowed buffer => if position < block.size then some ⟨buffer.id, position⟩ else none
  | _ => none

namespace Slot

variable (slot : Slot) (element : Scalar)

/-- What is seen at an address once the element of a slot is set. -/
def seen (addressed : Option Slot) (held : Scalar) : Scalar :=
  if addressed = some slot then element else held

/-- The elements of a buffer once the element of a slot is set. -/
def overwrite (id : BufferId) (elements : List Scalar) : List Scalar :=
  if id = slot.buffer then elements.set slot.position element else elements

@[simp] theorem seen_none : slot.seen element none = id := rfl

@[simp] theorem length_overwrite (id : BufferId) (elements : List Scalar) :
    (slot.overwrite element id elements).length = elements.length := by
  unfold overwrite
  split
  · exact List.length_set
  · rfl

theorem getElem?_overwrite (id : BufferId) (elements : List Scalar) (position : Nat) :
    (slot.overwrite element id elements)[position]? =
      elements[position]?.map (slot.seen element (some ⟨id, position⟩)) := by
  unfold overwrite seen
  split
  · rename_i same
    subst same
    by_cases here : position = slot.position
    · subst here
      by_cases inside : slot.position < elements.length
      · simp [inside]
      · simp [Nat.not_lt.mp inside]
    · have apart : (⟨slot.buffer, position⟩ : Slot) ≠ slot := fun same =>
        here (congrArg Slot.position same)
      simp [List.getElem?_set_ne (Ne.symm here), apart]
  · rename_i other
    have apart : (⟨id, position⟩ : Slot) ≠ slot := fun same => other (congrArg Slot.buffer same)
    simp [apart]

/-- The first elements change like all of them. -/
theorem take_overwrite (id : BufferId) (elements : List Scalar) (count : Nat) :
    (slot.overwrite element id elements).take count =
      (elements.take count).mapIdx fun position =>
        slot.seen element (if position < count then some ⟨id, position⟩ else none) := by
  refine List.ext_getElem? fun position => ?_
  rw [List.getElem?_mapIdx, List.getElem?_take, List.getElem?_take, getElem?_overwrite]
  split
  · rfl
  · rfl

end Slot

/-- What a program tells in one world is what it tells in the other, but for a change. It changes
neither. -/
def Retells {α : Type} (change : α → α) (program : Op α) (before after : World) : Prop :=
  ∃ decided : Except Failure α, program before = settled decided before ∧
    program after = settled (decided.map change) after

/-- Between two worlds the element of one slot was set. Otherwise they agree on the buffers that
exist, and on who claims what. -/
structure World.Overwritten (slot : Slot) (element : Scalar) (before after : World) : Prop where
  elements : ∀ id, (Target.buffer id).Made before →
    after.elements id = slot.overwrite element id (before.elements id)
  active : after.active = before.active

namespace Retells

variable {α : Type} {program : Op α} {change : α → α} {before after : World}

theorem of_same {decided : Except Failure α} (once : program before = settled decided before)
    (again : program after = settled decided after) : Retells id program before after := by
  refine ⟨decided, once, ?_⟩
  rw [again]
  cases decided <;> rfl

theorem failed {failure : Failure} (once : program before = .error failure before)
    (again : program after = .error failure after) : Retells change program before after :=
  ⟨.error failure, once, again⟩

end Retells

/-- A change of the results, each at its own place, changes the list of them. -/
theorem Except.mapM_range'_map {ε α : Type} {compute changed : Nat → Except ε α}
    {change : Nat → α → α} (start count : Nat)
    (each : ∀ place, place < start + count → changed place = (compute place).map (change place)) :
    (List.range' start count).mapM changed =
      ((List.range' start count).mapM compute).map
        (List.mapIdx fun index => change (start + index)) := by
  induction count generalizing start with
  | zero => rfl
  | succ count ih =>
      have rest := ih (start + 1) fun place below => each place (by omega)
      rw [List.range'_succ, List.mapM_cons, List.mapM_cons, each start (by omega), rest]
      cases compute start with
      | error failure => rfl
      | ok first =>
          cases (List.range' (start + 1) count).mapM compute with
          | error failure => rfl
          | ok others =>
              refine congrArg Except.ok ?_
              rw [List.mapIdx_cons]
              congr 1
              refine congrArg (List.mapIdx · others) ?_
              funext index
              rw [show start + 1 + index = start + (index + 1) by omega]

namespace World.Overwritten

variable {slot : Slot} {element : Scalar} {before after : World}
  (sets : before.Overwritten slot element after)

include sets

theorem admits (claim : Claim) : after.admits claim = before.admits claim :=
  admits_congr sets.active claim

/-! ## Buffers and views -/

theorem retells_get {buffer : BufferRef} (made : (Target.buffer buffer.id).Made before)
    (position : Nat) :
    Retells (slot.seen element (some ⟨buffer.id, position⟩)) (buffer.get position) before
      after := by
  unfold Retells BufferRef.get
  rw [BufferId.reading_apply, BufferId.reading_apply, sets.elements _ made, sets.admits]
  split
  · rw [Slot.getElem?_overwrite, Slot.length_overwrite]
    cases (before.elements buffer.id)[position]? with
    | none => exact ⟨.error _, rfl, rfl⟩
    | some held => exact ⟨.ok held, rfl, rfl⟩
  · exact ⟨.error .busy, rfl, rfl⟩

variable {view : View} (made : (Target.buffer view.buffer.id).Made before)

include made

/-- The element at a multi-index. -/
theorem retells_viewGet (index : List Nat) :
    Retells (slot.seen element (view.slotAt? index)) (view.get index) before after := by
  unfold Retells
  rw [View.get_apply, View.get_apply, View.slotAt?]
  cases view.indexPosition index with
  | error failure => exact ⟨.error failure, rfl, rfl⟩
  | ok position => exact sets.retells_get made position

/-- The element at a place in row-major order. -/
theorem retells_viewGetLinear (place : Nat) :
    Retells (slot.seen element (view.slotOf? place)) (view.getLinear place) before after := by
  unfold Retells
  rw [View.getLinear_apply, View.getLinear_apply, View.slotOf?]
  cases view.checkedPosition place with
  | error failure => exact ⟨.error failure, rfl, rfl⟩
  | ok position => exact sets.retells_get made position

/-- The element at a place, out of all elements of the buffer. -/
theorem pick_eq {place : Nat} (below : place < view.size) :
    view.pick (after.elements view.buffer.id) place =
      (view.pick (before.elements view.buffer.id) place).map
        (slot.seen element (view.slotOf? place)) := by
  rw [View.slotOf?, View.checkedPosition, if_neg (Nat.not_le_of_lt below), View.pick, View.pick,
    sets.elements _ made]
  cases view.linearPosition place with
  | error failure => rfl
  | ok position =>
      have changed := slot.getElem?_overwrite element view.buffer.id
        (before.elements view.buffer.id) position
      simp only [bind, Except.bind, changed]
      cases (before.elements view.buffer.id)[position]? <;> rfl

/-- All elements in row-major order, out of all elements of the buffer. -/
theorem pickAll_eq :
    view.pickAll (after.elements view.buffer.id) =
      (view.pickAll (before.elements view.buffer.id)).map
        (List.mapIdx fun place => slot.seen element (view.slotOf? place)) := by
  have changed := Except.mapM_range'_map 0 view.size fun place below =>
    sets.pick_eq made (by omega : place < view.size)
  simp only [Nat.zero_add, ← List.range_eq_range'] at changed
  have same : (after.elements view.buffer.id).length = (before.elements view.buffer.id).length := by
    rw [sets.elements _ made, Slot.length_overwrite]
  unfold View.pickAll
  rw [same, changed]
  split <;> rfl

/-- All elements in row-major order. -/
theorem retells_viewToList :
    Retells (List.mapIdx fun place => slot.seen element (view.slotOf? place)) view.toList before
      after := by
  unfold Retells
  rw [View.toList_apply, View.toList_apply, sets.admits, sets.pickAll_eq made]
  split
  · generalize view.pickAll (before.elements view.buffer.id) = decided
    exact ⟨decided, by cases decided <;> rfl, by cases decided <;> rfl⟩
  · exact ⟨.error .busy, rfl, rfl⟩

omit made

/-! ## Blocks -/

variable {block : Block} (known : before.Knows block.targets)

include known

/-- The element at a position in storage order. -/
theorem retells_blockGet (position : Nat) :
    Retells (slot.seen element (block.slotOf? position)) (block.get position) before after := by
  unfold Block.get
  by_cases below : position < block.size
  · rw [if_neg (Nat.not_le_of_lt below), Block.slotOf?]
    change Retells _ (block.withData _) before after
    unfold Block.withData
    cases stored : block.storage with
    | owned data =>
        dsimp only
        cases (data.take block.size)[position]? with
        | none => exact .failed rfl rfl
        | some held => exact .of_same (rfl : _ = settled (.ok held) before) rfl
    | released => exact .failed rfl rfl
    | borrowed buffer =>
        have made := known (.buffer buffer.id) (by simp [Block.targets, Storage.targets, stored])
        unfold Retells
        dsimp only
        rw [BufferId.reading_apply, BufferId.reading_apply, sets.elements _ made, sets.admits,
          if_pos below, List.getElem?_take_of_lt below, List.getElem?_take_of_lt below,
          Slot.getElem?_overwrite]
        split
        · cases (before.elements buffer.id)[position]? with
          | none => exact ⟨.error _, rfl, rfl⟩
          | some held => exact ⟨.ok held, rfl, rfl⟩
        · exact ⟨.error .busy, rfl, rfl⟩
  · rw [if_pos (Nat.not_lt.mp below)]
    exact .failed rfl rfl

/-- All elements in storage order. -/
theorem retells_blockToList :
    Retells (List.mapIdx fun position => slot.seen element (block.slotOf? position)) block.toList
      before after := by
  unfold Block.toList Block.withData Block.slotOf?
  cases stored : block.storage with
  | owned data =>
      have same : (List.mapIdx fun _ => slot.seen element none) = (id : List Scalar → _) := by
        funext list
        simp [List.mapIdx_eq_iff]
      dsimp only
      rw [same]
      exact .of_same (rfl : _ = settled (.ok (data.take block.size)) before) rfl
  | released => exact .failed rfl rfl
  | borrowed buffer =>
      have made := known (.buffer buffer.id) (by simp [Block.targets, Storage.targets, stored])
      unfold Retells
      dsimp only
      rw [BufferId.reading_apply, BufferId.reading_apply, sets.elements _ made, sets.admits,
        Slot.take_overwrite]
      split
      · exact ⟨.ok ((before.elements buffer.id).take block.size), rfl, rfl⟩
      · exact ⟨.error .busy, rfl, rfl⟩

end World.Overwritten

end PathStore
