import Mathlib.Tactic.Tauto
import PathStore.Proofs.Programs
import PathStore.World

/-!
# What programs over the world do

One equation for each way to build a program, and for the two ways to use a store: a claim that is
admitted leads to the use of the entries and is given up afterwards, and a claim that is refused
leaves the world alone.
-/

namespace PathStore

namespace Op

variable {α β : Type}

@[simp] theorem pure_apply (result : α) (world : World) :
    (pure result : Op α) world = .ok result world := rfl

@[simp] theorem throw_apply (failure : Failure) (world : World) :
    (throw failure : Op α) world = .error failure world := rfl

@[simp] theorem get_apply (world : World) : (get : Op World) world = .ok world world := rfl

@[simp] theorem modify_apply (change : World → World) (world : World) :
    (modify change : Op Unit) world = .ok () (change world) := rfl

theorem bind_apply (program : Op α) (next : α → Op β) (world : World) :
    (program >>= next) world =
      match program world with
      | .ok result left => next result left
      | .error failure left => .error failure left := by
  change EStateM.bind program next world = _
  unfold EStateM.bind
  cases program world <;> rfl

theorem map_apply (change : α → β) (program : Op α) (world : World) :
    (change <$> program) world =
      match program world with
      | .ok result left => .ok (change result) left
      | .error failure left => .error failure left := by
  change EStateM.map change program world = _
  unfold EStateM.map
  cases program world <;> rfl

/-- The world that a program leaves behind, whether it fails or not. -/
def leaves (program : Op α) (world : World) : World :=
  match program world with
  | .ok _ left => left
  | .error _ left => left

end Op

theorem Heap.writeList_writeList {α : Type} [Inhabited α] (first second : α) (list : List α)
    (number : Nat) :
    writeList second (writeList first list number) number = writeList second list number := by
  induction list generalizing number with
  | nil =>
      induction number with
      | zero => rfl
      | succ number ih => exact congrArg (default :: ·) ih
  | cons head rest ih =>
      cases number with
      | zero => rfl
      | succ number => exact congrArg (head :: ·) (ih number)

namespace World

@[simp] theorem entries_acquire (world : World) (claim : Claim) (id : StoreId) :
    (world.acquire claim).entries id = world.entries id := rfl

@[simp] theorem entries_release (world : World) (id : StoreId) :
    world.release.entries id = world.entries id := rfl

@[simp] theorem release_setEntries_acquire (world : World) (claim : Claim) (id : StoreId)
    (entries : Entries Cell) :
    ((world.acquire claim).setEntries id entries).release = world.setEntries id entries := rfl

/-- Of two writes to a store the later one stands. -/
@[simp] theorem setEntries_setEntries (world : World) (id : StoreId) (first second : Entries Cell) :
    (world.setEntries id first).setEntries id second = world.setEntries id second := by
  have same := Heap.writeList_writeList first second world.stores.cells id.number
  simp only [setEntries, Heap.write, same]

/-- Who may write may read. -/
theorem admits_reading {world : World} {target : Target}
    (free : world.admits ⟨target, .writing⟩ = true) :
    world.admits ⟨target, .reading⟩ = true := by
  rw [admits, List.all_eq_true] at free ⊢
  intro held member
  have apart := free held member
  simp only [Claim.conflicts, Bool.not_eq_true', Bool.and_eq_false_iff, decide_eq_false_iff_not,
    Bool.or_eq_false_iff, reduceCtorEq, not_false_eq_true, and_true] at apart ⊢
  tauto

end World

namespace StoreId

variable {α : Type}

/-- Reading a store runs a program on its entries under a claim. -/
theorem reading_apply (id : StoreId) (refusal : Failure) (use : Entries Cell → Op α)
    (world : World) :
    id.reading refusal use world =
      if world.admits ⟨.store id, .reading⟩ then
        match use (world.entries id) (world.acquire ⟨.store id, .reading⟩) with
        | .ok result left => .ok result left.release
        | .error failure left => .error failure left.release
      else .error refusal world := rfl

/-- Writing a store runs a program on its entries under a claim and puts the new entries in the
place of the old ones. -/
theorem writing_apply (id : StoreId) (use : Entries Cell → Op (α × Entries Cell))
    (world : World) :
    id.writing use world =
      if world.admits ⟨.store id, .writing⟩ then
        match use (world.entries id) (world.acquire ⟨.store id, .writing⟩) with
        | .ok written left => .ok written.1 (left.setEntries id written.2).release
        | .error failure left => .error failure left.release
      else .error .busy world := by
  unfold writing Op.holding
  rw [bind_of_ok (Op.get_apply _), Op.bind_apply]
  have unclaimed : (world.acquire ⟨.store id, .writing⟩).entries id = world.entries id := rfl
  rw [unclaimed]
  cases use (world.entries id) (world.acquire ⟨.store id, .writing⟩) <;> rfl

/-- Reading a store gives what is read off its entries and changes nothing. -/
theorem reading_pure (id : StoreId) (refusal : Failure) (use : Entries Cell → α) (world : World) :
    id.reading refusal (fun entries => pure (use entries)) world =
      if world.admits ⟨.store id, .reading⟩ then .ok (use (world.entries id)) world
      else .error refusal world :=
  reading_apply id refusal _ world

/-- Writing a store puts the new entries in the place of the old ones. -/
theorem writing_pure (id : StoreId) (use : Entries Cell → α × Entries Cell) (world : World) :
    id.writing (fun entries => pure (use entries)) world =
      if world.admits ⟨.store id, .writing⟩ then
        .ok (use (world.entries id)).1 (world.setEntries id (use (world.entries id)).2)
      else .error .busy world :=
  writing_apply id _ world

end StoreId

namespace BufferId

variable {α : Type}

/-- Reading a buffer runs a program on its elements under a claim. -/
theorem reading_apply (id : BufferId) (refusal : Failure) (use : List Scalar → Op α)
    (world : World) :
    id.reading refusal use world =
      if world.admits ⟨.buffer id, .reading⟩ then
        match use (world.elements id) (world.acquire ⟨.buffer id, .reading⟩) with
        | .ok result left => .ok result left.release
        | .error failure left => .error failure left.release
      else .error refusal world := rfl

/-- Writing a buffer runs a program on its elements under a claim and puts the new elements in the
place of the old ones. -/
theorem writing_apply (id : BufferId) (use : List Scalar → Op (α × List Scalar)) (world : World) :
    id.writing use world =
      if world.admits ⟨.buffer id, .writing⟩ then
        match use (world.elements id) (world.acquire ⟨.buffer id, .writing⟩) with
        | .ok written left => .ok written.1 (left.setElements id written.2).release
        | .error failure left => .error failure left.release
      else .error .busy world := by
  unfold writing Op.holding
  rw [bind_of_ok (Op.get_apply _), Op.bind_apply]
  have unclaimed : (world.acquire ⟨.buffer id, .writing⟩).elements id = world.elements id := rfl
  rw [unclaimed]
  cases use (world.elements id) (world.acquire ⟨.buffer id, .writing⟩) <;> rfl

/-- Reading a buffer gives what is read off its elements and changes nothing. -/
theorem reading_pure (id : BufferId) (refusal : Failure) (use : List Scalar → α) (world : World) :
    id.reading refusal (fun elements => pure (use elements)) world =
      if world.admits ⟨.buffer id, .reading⟩ then .ok (use (world.elements id)) world
      else .error refusal world :=
  reading_apply id refusal _ world

end BufferId

end PathStore
