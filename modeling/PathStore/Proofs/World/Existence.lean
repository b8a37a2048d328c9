import PathStore.Proofs.World.Needs

/-!
# What is named exists

Values name the buffers that they share. A world is complete if every buffer that is named in one of
its stores has been made, and programs keep that as long as what they are given exists. They also
make sure that what their results name exists.
-/

namespace PathStore

open Failure

/-! ## Names -/

/-- The buffer that is borrowed. -/
def Storage.targets : Storage → List Target
  | .borrowed buffer => [.buffer buffer.id]
  | _ => []

/-- The buffer that a view looks at. -/
def View.targets (view : View) : List Target := [.buffer view.buffer.id]

/-- The buffer that a block borrows. -/
def Block.targets (block : Block) : List Target := block.storage.targets

/-- The buffer that a value shares. -/
def Value.targets : Value → List Target
  | .scalar _ => []
  | .view array => array.targets
  | .block array => array.targets

/-- The buffer that the value in a cell shares. -/
def Cell.targets (cell : Cell) : List Target := cell.elim [] Value.targets

/-- All buffers that are named in entries. -/
def Entries.targets (entries : Entries Cell) : List Target :=
  entries.toList.flatMap fun entry => Cell.targets entry.2

namespace World

/-- All that is listed has been made. -/
def Knows (world : World) (listed : List Target) : Prop :=
  ∀ target ∈ listed, target.Made world

/-- Every buffer that is named in a store has been made. -/
def Complete (world : World) : Prop :=
  ∀ id, world.Knows (world.entries id).targets

variable {world : World}

@[simp] theorem knows_nil : world.Knows [] := List.forall_mem_nil _

@[simp] theorem knows_cons {target : Target} {listed : List Target} :
    world.Knows (target :: listed) ↔ target.Made world ∧ world.Knows listed :=
  List.forall_mem_cons

@[simp] theorem knows_append {listed further : List Target} :
    world.Knows (listed ++ further) ↔ world.Knows listed ∧ world.Knows further :=
  List.forall_mem_append

theorem knows_flatMap {α : Type} {items : List α} {targets : α → List Target} :
    world.Knows (items.flatMap targets) ↔ ∀ item ∈ items, world.Knows (targets item) :=
  List.forall_mem_flatMap

theorem Knows.subset {listed further : List Target} (known : world.Knows further)
    (inside : listed ⊆ further) : world.Knows listed :=
  fun target member => known target (inside member)

theorem Knows.grows {after : World} {listed : List Target} (known : world.Knows listed)
    (grows : world.Grows after) : after.Knows listed :=
  fun target member => grows target (known target member)

theorem Knows.acquire {listed : List Target} (known : world.Knows listed) (claim : Claim) :
    (world.acquire claim).Knows listed :=
  known.grows fun _ made => made

theorem knows_entries {entries : Entries Cell} :
    world.Knows entries.targets ↔
      ∀ key cell, entries.find? key = some cell → world.Knows (Cell.targets cell) := by
  simp only [Entries.targets, knows_flatMap, Entries.find?_eq_some_iff, Prod.forall]

theorem knows_empty : world.Knows (Entries.empty : Entries Cell).targets := knows_nil

/-- Entries of which each is one of others name no more than those. -/
theorem Knows.entries {entries : Entries Cell} (known : world.Knows entries.targets)
    {fewer : Entries Cell}
    (inside : ∀ key cell, fewer.find? key = some cell → entries.find? key = some cell) :
    world.Knows fewer.targets :=
  knows_entries.mpr fun key cell found => knows_entries.mp known key cell (inside key cell found)

theorem Knows.insert {entries : Entries Cell} (known : world.Knows entries.targets) (key : String)
    {cell : Cell} (fresh : world.Knows (Cell.targets cell)) :
    world.Knows (entries.insert key cell).targets := by
  refine knows_entries.mpr fun other held found => ?_
  rw [Entries.find?_insert] at found
  split at found
  · cases found
    exact fresh
  · exact knows_entries.mp known other held found

theorem Knows.insertAll {entries : Entries Cell} (known : world.Knows entries.targets)
    {list : List (String × Cell)} (fresh : ∀ entry ∈ list, world.Knows (Cell.targets entry.2)) :
    world.Knows (entries.insertAll list).targets := by
  induction list generalizing entries with
  | nil => exact known
  | cons entry list ih =>
      obtain ⟨first, rest⟩ := List.forall_mem_cons.mp fresh
      exact ih (known.insert entry.1 first) rest

theorem Knows.erase {entries : Entries Cell} (known : world.Knows entries.targets) (key : String) :
    world.Knows (entries.erase key).targets := by
  refine known.entries fun other cell found => ?_
  rw [Entries.find?_erase] at found
  split at found
  · cases found
  · exact found

theorem Knows.eraseAll {entries : Entries Cell} (known : world.Knows entries.targets)
    (keys : List String) : world.Knows (entries.eraseAll keys).targets := by
  induction keys generalizing entries with
  | nil => exact known
  | cons key keys ih => exact ih (known.erase key)

theorem Knows.prune {entries : Entries Cell} (known : world.Knows entries.targets)
    (scope : String) : world.Knows (entries.prune scope).targets := by
  unfold Entries.prune
  split
  · exact knows_empty
  · exact known.eraseAll _

end World

/-! ## Programs -/

/-- States that contain a world, with the condition that all that they name exists. -/
class Inventory (σ : Type) extends Worldly σ where
  Complete : σ → Prop

instance : Inventory World := ⟨World.Complete⟩

section Programs

variable {σ α β : Type} [Inventory σ]

open Worldly Inventory

/-- What is left names only what exists, and so does the result. -/
inductive Secured (before : σ) (names : α → List Target) : EStateM.Result Failure σ α → Prop where
  | ok {result : α} {left : σ} (complete : Complete left)
      (grows : (world before).Grows (world left)) (known : (world left).Knows (names result)) :
      Secured before names (.ok result left)
  | error {failure : Failure} {left : σ} (complete : Complete left)
      (grows : (world before).Grows (world left)) : Secured before names (.error failure left)

/-- If all that the state names exists, then so does all that the state names that is left, and what
the result names. -/
def Secures (state : σ) (program : EStateM Failure σ α) (names : α → List Target) : Prop :=
  Complete state → Secured state names (program state)

/-- The same, where nothing is asked of the result. -/
abbrev Tidy (state : σ) (program : EStateM Failure σ α) : Prop :=
  Secures state program fun _ => []

namespace Secures

variable {state : σ} {names : α → List Target} {further : β → List Target}

theorem pure {result : α} (known : (world state).Knows (names result)) :
    Secures state (Pure.pure result) names :=
  fun complete => .ok complete (fun _ made => made) known

theorem throw (failure : Failure) :
    Secures state (MonadExcept.throw failure : EStateM Failure σ α) names :=
  fun complete => .error complete fun _ made => made

theorem throw_bind (failure : Failure) (next : α → EStateM Failure σ β) :
    Secures state ((MonadExcept.throw failure : EStateM Failure σ α) >>= next) further :=
  throw failure

theorem bind {program : EStateM Failure σ α} {next : α → EStateM Failure σ β}
    (first : Secures state program names)
    (rest : ∀ (result : α) (left : σ), (world state).Grows (world left) →
      (world left).Knows (names result) → Secures left (next result) further) :
    Secures state (program >>= next) further := by
  intro complete
  have begun := first complete
  cases ran : program state with
  | ok result left =>
      rw [bind_of_ok ran]
      rw [ran] at begun
      cases begun with
      | ok complete grows known =>
          have continued := rest result left grows known complete
          generalize next result left = outcome at continued
          cases continued with
          | ok complete later known =>
              exact .ok complete (fun _ made => later _ (grows _ made)) known
          | error complete later => exact .error complete fun _ made => later _ (grows _ made)
  | error failure left =>
      rw [bind_of_error ran]
      rw [ran] at begun
      cases begun with
      | error complete grows => exact .error complete grows

theorem mono {program : EStateM Failure σ α} {fewer : α → List Target}
    (secures : Secures state program names)
    (inside : ∀ (result : α) (left : σ), (world state).Grows (world left) →
      (world left).Knows (names result) → (world left).Knows (fewer result)) :
    Secures state program fewer := by
  intro complete
  have ended := secures complete
  generalize program state = outcome at ended
  cases ended with
  | ok complete grows known => exact .ok complete grows (inside _ _ grows known)
  | error complete grows => exact .error complete grows

theorem discard {program : EStateM Failure σ α} (secures : Secures state program names) :
    Tidy state (Functor.discard program) := by
  have mapped : Tidy state ((fun _ => ()) <$> program) := by
    rw [← bind_pure_comp]
    exact secures.bind fun _ _ _ _ => pure World.knows_nil
  exact mapped

theorem mapM {program : α → EStateM Failure σ β} (list : List α)
    (each : ∀ item, ∀ state : σ, Tidy state (program item)) : Tidy state (list.mapM program) := by
  induction list generalizing state with
  | nil => exact pure World.knows_nil
  | cons item list ih =>
      rw [List.mapM_cons]
      exact (each item state).bind fun _ _ _ _ => ih.bind fun _ _ _ _ => pure World.knows_nil

theorem of_settled {program : EStateM Failure σ α} {decided : Except Failure α}
    (runs : program state = settled decided state)
    (known : ∀ result, decided = .ok result → (world state).Knows (names result)) :
    Secures state program names := by
  intro complete
  rw [runs]
  cases decided with
  | ok result => exact .ok complete (fun _ made => made) (known result rfl)
  | error failure => exact .error complete fun _ made => made

end Secures

end Programs

/-! ## Programs over the world -/

namespace Secures

variable {α : Type} {world : World} {names : α → List Target}

theorem ofExcept {decided : Except Failure α}
    (known : ∀ result, decided = .ok result → world.Knows (names result)) :
    Secures world (Op.ofExcept decided) names :=
  of_settled (Op.ofExcept_apply decided world) known

theorem holding {claim : Claim} {refusal : Failure} {program : Op α}
    (secures : Secures (world.acquire claim) program names) :
    Secures world (Op.holding claim refusal program) names := by
  intro complete
  have ended := secures complete
  unfold Op.holding
  split
  · generalize program (world.acquire claim) = outcome at ended
    cases ended with
    | ok complete grows known => exact .ok complete grows known
    | error complete grows => exact .error complete grows
  · exact .error complete fun _ made => made

theorem readingStore {id : StoreId} {refusal : Failure} {use : Entries Cell → Op α}
    (secures : world.Knows (world.entries id).targets →
      Secures (world.acquire ⟨.store id, .reading⟩) (use (world.entries id)) names) :
    Secures world (id.reading refusal use) names :=
  fun complete => holding (secures (complete id)) complete

theorem writingStore {id : StoreId} {use : Entries Cell → Op (α × Entries Cell)}
    (secures : world.Knows (world.entries id).targets →
      Secures (world.acquire ⟨.store id, .writing⟩) (use (world.entries id)) fun made =>
        names made.1 ++ made.2.targets) :
    Secures world (id.writing use) names := by
  intro complete
  refine holding ?_ complete
  refine (secures (complete id)).bind fun made left grows known => fun leftComplete => ?_
  obtain ⟨result, entries⟩ := made
  obtain ⟨known, stored⟩ := World.knows_append.mp known
  have further : left.Grows (left.setEntries id entries) := World.grows_setEntries id entries
  refine .ok (fun other => ?_) further (known.grows further)
  rw [World.entries_setEntries]
  split
  · exact stored.grows further
  · exact (leftComplete other).grows further

theorem createStore {entries : Entries Cell} (known : world.Knows entries.targets) :
    Secures world (StoreId.create entries) fun id => [.store id] := by
  intro complete
  have grows : world.Grows { world with stores := world.stores.push entries } :=
    World.grows_pushStore entries
  refine .ok (fun id => ?_) grows ?_
  · change World.Knows _ ((world.stores.push entries).read id.number).targets
    rw [Heap.read_push]
    split
    · exact known.grows grows
    · exact (complete id).grows grows
  · rw [World.knows_cons]
    refine ⟨?_, World.knows_nil⟩
    change world.stores.next < (world.stores.push entries).next
    rw [Heap.next_push]
    exact Nat.lt_succ_self _

theorem readingBuffer {id : BufferId} {refusal : Failure} {use : List Scalar → Op α}
    (secures : Secures (world.acquire ⟨.buffer id, .reading⟩) (use (world.elements id)) names) :
    Secures world (id.reading refusal use) names :=
  holding secures

theorem writingBuffer {id : BufferId} {use : List Scalar → Op (α × List Scalar)}
    (secures : Secures (world.acquire ⟨.buffer id, .writing⟩) (use (world.elements id)) fun made =>
      names made.1) :
    Secures world (id.writing use) names := by
  refine holding (secures.bind fun made left grows known => fun complete => ?_)
  have further : left.Grows (left.setElements id made.2) := World.grows_setElements id made.2
  exact .ok (fun other => (complete other).grows further) further (known.grows further)

end Secures

/-- What only looks changes nothing. -/
theorem Looks.tidy {α : Type} {kind : Failure → Prop} {program : Op α} (looks : Looks kind program)
    (world : World) : Tidy world program := by
  obtain ⟨decided, runs, -⟩ := looks world
  exact .of_settled runs fun _ _ => World.knows_nil

end PathStore
