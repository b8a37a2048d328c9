import PathStore.Proofs.World.Inquiries

/-!
# What programs leave alone

A program spares a resource if that is left as it was, whether the program succeeds or fails. Only
what is claimed for writing is not spared: a store or a buffer is written under a claim, a new one
takes the place of none that is there, and an owner changes only when it is made or ends.
-/

namespace PathStore

open Failure

/-- What a world consists of: stores, buffers and owners. -/
inductive Resource where
  | target (target : Target)
  | host (id : HostId)

namespace World

/-- What is there before is there afterwards, and contains the same. -/
def Spared (before after : World) : Resource → Prop
  | .target target => target.Made before → target.Made after ∧ before.SameAt after target
  | .host id => after.host? id = before.host? id

variable {before after world : World} {resource : Resource}

theorem Spared.refl (world : World) (resource : Resource) : world.Spared world resource := by
  cases resource with
  | target target => exact fun made => ⟨made, .refl world target⟩
  | host id => rfl

theorem Spared.trans {last : World} (first : before.Spared after resource)
    (second : after.Spared last resource) : before.Spared last resource := by
  cases resource with
  | target target =>
      intro made
      obtain ⟨still, same⟩ := first made
      obtain ⟨kept, again⟩ := second still
      exact ⟨kept, same.trans again⟩
  | host id => exact Eq.trans second first

theorem spared_setEntries {id : StoreId} (apart : resource ≠ .target (.store id))
    (entries : Entries Cell) : world.Spared (world.setEntries id entries) resource := by
  cases resource with
  | target target =>
      refine fun made => ⟨grows_setEntries id entries target made, ?_⟩
      cases target with
      | store other =>
          have different : other ≠ id := fun same => apart (same ▸ rfl)
          simp [SameAt, different]
      | buffer other => rfl
  | host other => rfl

theorem spared_setElements {id : BufferId} (apart : resource ≠ .target (.buffer id))
    (elements : List Scalar) : world.Spared (world.setElements id elements) resource := by
  cases resource with
  | target target =>
      refine fun made => ⟨grows_setElements id elements target made, ?_⟩
      cases target with
      | store other => rfl
      | buffer other =>
          have different : other ≠ id := fun same => apart (same ▸ rfl)
          simp [SameAt, different]
  | host other => rfl

/-- A new store is none of those that are there. -/
theorem spared_pushStore (entries : Entries Cell) :
    world.Spared { world with stores := world.stores.push entries } resource := by
  cases resource with
  | target target =>
      refine fun made => ⟨grows_pushStore entries target made, ?_⟩
      cases target with
      | store other => simp [SameAt, World.entries, Nat.ne_of_lt made]
      | buffer other => rfl
  | host other => rfl

theorem spared_pushBuffer (data : List Scalar) :
    world.Spared { world with buffers := world.buffers.push data } resource := by
  cases resource with
  | target target =>
      refine fun made => ⟨(follows_pushBuffer data).grows target made, ?_⟩
      cases target with
      | store other => rfl
      | buffer other => simp [SameAt, World.elements, Nat.ne_of_lt made]
  | host other => rfl

theorem spared_pushHost (apart : resource ≠ .host ⟨world.hosts.next⟩) (text : String) :
    world.Spared { world with hosts := world.hosts.push (some text) } resource := by
  cases resource with
  | target target => exact fun made => ⟨made, .refl world target⟩
  | host other =>
      have different : other.number ≠ world.hosts.next := fun same => apart (same ▸ rfl)
      exact (world.hosts.read_push _ _).trans (if_neg different)

theorem spared_endHost {id : HostId} (apart : resource ≠ .host id) :
    world.Spared (world.endHost id) resource := by
  cases resource with
  | target target => exact fun made => ⟨made, .refl world target⟩
  | host other =>
      have different : other.number ≠ id.number := fun same =>
        apart (congrArg (fun number => Resource.host ⟨number⟩) same)
      exact (world.hosts.read_write _ _ _).trans (if_neg different)

end World

/-! ## Programs -/

section Programs

variable {σ α β : Type} [Worldly σ]

open Worldly

/-- The state that is left, whether a program has succeeded or failed. -/
def leftBy {ε σ α : Type} : EStateM.Result ε σ α → σ
  | .ok _ left => left
  | .error _ left => left

/-- In a state a program leaves a resource alone. -/
def Spares (resource : Resource) (state : σ) (program : EStateM Failure σ α) : Prop :=
  (world state).Spared (world (leftBy (program state))) resource

namespace Spares

variable {resource : Resource} {state : σ}

theorem pure (result : α) : Spares resource state (Pure.pure result : EStateM Failure σ α) :=
  World.Spared.refl _ _

theorem throw (failure : Failure) :
    Spares resource state (MonadExcept.throw failure : EStateM Failure σ α) :=
  World.Spared.refl _ _

theorem throw_bind (failure : Failure) (next : α → EStateM Failure σ β) :
    Spares resource state ((MonadExcept.throw failure : EStateM Failure σ α) >>= next) :=
  throw failure

theorem failed {program : EStateM Failure σ α} {failure : Failure}
    (stops : program state = .error failure state) : Spares resource state program := by
  unfold Spares
  rw [stops]
  exact .refl _ _

theorem of_settled {program : EStateM Failure σ α} {decided : Except Failure α}
    (runs : program state = settled decided state) : Spares resource state program := by
  unfold Spares
  rw [runs]
  cases decided with
  | ok result => exact .refl _ _
  | error failure => exact .refl _ _

theorem bind_ran {program : EStateM Failure σ α} {next : α → EStateM Failure σ β}
    (first : Spares resource state program)
    (rest : ∀ result left, program state = .ok result left → Spares resource left (next result)) :
    Spares resource state (program >>= next) := by
  unfold Spares at first ⊢
  cases ran : program state with
  | ok result left =>
      rw [ran] at first
      rw [bind_of_ok ran]
      exact first.trans (rest result left ran)
  | error failure left =>
      rw [ran] at first
      rw [bind_of_error ran]
      exact first

theorem bind {program : EStateM Failure σ α} {next : α → EStateM Failure σ β}
    (first : Spares resource state program)
    (rest : ∀ result left, Spares resource left (next result)) :
    Spares resource state (program >>= next) :=
  first.bind_ran fun result left _ => rest result left

theorem bind_ok {program : EStateM Failure σ α} {next : α → EStateM Failure σ β} {result : α}
    {left : σ} (ran : program state = .ok result left)
    (spared : (world state).Spared (world left) resource)
    (rest : Spares resource left (next result)) : Spares resource state (program >>= next) := by
  unfold Spares
  rw [bind_of_ok ran]
  exact spared.trans rest

/-- After what is decided first nothing has changed. -/
theorem bind_settled {program : EStateM Failure σ α} {next : α → EStateM Failure σ β}
    {decided : Except Failure α} (runs : program state = settled decided state)
    (rest : ∀ result, decided = .ok result → Spares resource state (next result)) :
    Spares resource state (program >>= next) := by
  unfold Spares at rest ⊢
  cases decided with
  | ok result =>
      rw [bind_of_ok runs]
      exact rest result rfl
  | error failure =>
      rw [bind_of_error runs]
      exact .refl _ _

theorem mapM {program : α → EStateM Failure σ β} (list : List α)
    (each : ∀ item, ∀ state : σ, Spares resource state (program item)) :
    Spares resource state (list.mapM program) := by
  induction list generalizing state with
  | nil => exact pure _
  | cons item list ih =>
      rw [List.mapM_cons]
      exact (each item state).bind fun _ _ => ih.bind fun _ _ => pure _

end Spares

end Programs

/-! ## Programs over the world -/

namespace Spares

variable {α β : Type} {resource : Resource} {world : World}

theorem ofExcept (decided : Except Failure α) : Spares resource world (Op.ofExcept decided) :=
  of_settled (Op.ofExcept_apply decided world)

theorem bind_deciding {decided : Except Failure α} {next : α → Op β}
    (rest : ∀ result, decided = .ok result → Spares resource world (next result)) :
    Spares resource world (Op.ofExcept decided >>= next) :=
  bind_settled (Op.ofExcept_apply decided world) rest

theorem of_looks {kind : Failure → Prop} {program : Op α} (looks : Looks kind program) :
    Spares resource world program := by
  obtain ⟨decided, runs, -⟩ := looks world
  exact of_settled runs

/-- What only asks changes nothing. -/
theorem of_asks {target : Target} {program : Op α} (asks : Asks target program) :
    Spares resource world program := by
  obtain ⟨decided, runs⟩ := asks.reads.exists_settled world
  exact of_settled runs

theorem holding {claim : Claim} {refusal : Failure} {program : Op α}
    (spares : Spares resource (world.acquire claim) program) :
    Spares resource world (Op.holding claim refusal program) := by
  unfold Spares at spares ⊢
  rw [Op.holding]
  split
  · generalize program (world.acquire claim) = outcome at spares
    cases resource <;> cases outcome <;> exact spares
  · exact .refl world resource

theorem readingStore {id : StoreId} {refusal : Failure} {use : Entries Cell → Op α}
    (spares : Spares resource (world.acquire ⟨.store id, .reading⟩) (use (world.entries id))) :
    Spares resource world (id.reading refusal use) :=
  holding spares

theorem readingBuffer {id : BufferId} {refusal : Failure} {use : List Scalar → Op α}
    (spares : Spares resource (world.acquire ⟨.buffer id, .reading⟩) (use (world.elements id))) :
    Spares resource world (id.reading refusal use) :=
  holding spares

theorem writingStore {id : StoreId} {use : Entries Cell → Op (α × Entries Cell)}
    (apart : resource ≠ .target (.store id))
    (spares : Spares resource (world.acquire ⟨.store id, .writing⟩) (use (world.entries id))) :
    Spares resource world (id.writing use) :=
  holding (spares.bind fun written _ => World.spared_setEntries apart written.2)

theorem writingBuffer {id : BufferId} {use : List Scalar → Op (α × List Scalar)}
    (apart : resource ≠ .target (.buffer id))
    (spares : Spares resource (world.acquire ⟨.buffer id, .writing⟩) (use (world.elements id))) :
    Spares resource world (id.writing use) :=
  holding (spares.bind fun written _ => World.spared_setElements apart written.2)

end Spares

variable {α : Type} {resource : Resource} {world : World}

theorem StoreId.spares_create (entries : Entries Cell) : Spares resource world (create entries) :=
  World.spared_pushStore entries

theorem BufferRef.spares_create (elem : ElemType) (data : List Scalar) :
    Spares resource world (create elem data) :=
  World.spared_pushBuffer data

theorem HostId.spares_create (apart : resource ≠ .host ⟨world.hosts.next⟩) (text : String) :
    Spares resource world (create text) :=
  World.spared_pushHost apart text

/-! ## Buffers, views and blocks -/

theorem BufferRef.spares_set {buffer : BufferRef} (apart : resource ≠ .target (.buffer buffer.id))
    (position : Nat) (element : Scalar) : Spares resource world (buffer.set position element) := by
  refine .writingBuffer apart ?_
  split
  · exact .pure _
  · exact .throw _

namespace View

variable {view : View}

theorem spares_make (buffer : BufferRef) (offset : Nat) (shape : List Nat) (strides : List Int) :
    Spares resource world (make buffer offset shape strides) :=
  (Spares.of_looks buffer.looks_length).bind fun _ _ => (Spares.ofExcept _).bind fun _ _ => .pure _

theorem spares_set {index : List Nat}
    (apart : ∀ position, view.indexPosition index = .ok position →
      resource ≠ .target (.buffer view.buffer.id))
    (element : Scalar) : Spares resource world (view.set index element) :=
  .bind_deciding fun position found => BufferRef.spares_set (apart position found) position element

theorem spares_setLinear {place : Nat}
    (apart : ∀ position, view.checkedPosition place = .ok position →
      resource ≠ .target (.buffer view.buffer.id))
    (element : Scalar) : Spares resource world (view.setLinear place element) :=
  .bind_deciding fun position found => BufferRef.spares_set (apart position found) position element

end View

namespace Block

variable {block : Block}

/-- No buffer that the block borrows. -/
def Clear (block : Block) (resource : Resource) : Prop :=
  ∀ buffer, block.storage = .borrowed buffer → resource ≠ .target (.buffer buffer.id)

theorem spares_withData {use : List Scalar → Op α}
    (each : ∀ elements world, Spares resource world (use elements)) :
    Spares resource world (block.withData use) := by
  unfold withData
  split
  · exact each _ world
  · exact .readingBuffer (each _ _)
  · exact .throw _

theorem spares_modifyData {use : List Scalar → Op (α × List Scalar)} (clear : block.Clear resource)
    (each : ∀ elements world, Spares resource world (use elements)) :
    Spares resource world (block.modifyData use) := by
  unfold modifyData
  split
  · exact (each _ world).bind fun _ _ => .pure _
  · rename_i buffer borrows
    refine Spares.bind (.writingBuffer (clear buffer borrows) ?_) fun _ _ => .pure _
    exact (each _ _).bind fun _ _ => .pure _
  · exact .throw _

theorem spares_get (position : Nat) : Spares resource world (block.get position) := by
  unfold get
  split
  · exact .throw_bind _ _
  · refine block.spares_withData fun elements world => ?_
    split
    · exact .pure _
    · exact .throw _

theorem spares_set {position : Nat} (clear : position < block.size → block.Clear resource)
    (element : Scalar) : Spares resource world (block.set position element) := by
  unfold set
  split
  · exact .throw_bind _ _
  · rename_i below
    refine Spares.bind (spares_modifyData (clear (Nat.lt_of_not_le below)) fun elements world => ?_)
      fun _ _ => .pure _
    split
    · exact .pure _
    · exact .throw _

theorem spares_copyAs (memory : Memory) : Spares resource world (block.copyAs memory) := by
  unfold copyAs
  split
  · exact .throw _
  · exact .pure _
  · exact .throw _
  · exact (Spares.of_looks block.looks_toList).bind fun _ _ => .pure _

theorem spares_view : Spares resource world block.view := by
  unfold view
  split
  · exact View.spares_make _ _ _ _
  · exact .throw _

theorem spares_ofBuffer (buffer : BufferRef) (shape : List Nat) (strides : List Int)
    (memory : Memory) : Spares resource world (ofBuffer buffer shape strides memory) := by
  unfold Spares
  rw [ofBuffer_apply]
  refine Spares.bind_deciding fun size _ => ?_
  cases memory with
  | owned => exact Spares.bind (.readingBuffer (.pure _)) fun _ _ => .pure _
  | borrowed => exact .pure _

theorem spares_ofBufferShape (buffer : BufferRef) (shape : List Nat) (memory : Memory) :
    Spares resource world (ofBufferShape buffer shape memory) :=
  .bind_deciding fun strides _ => spares_ofBuffer buffer shape strides memory

end Block

/-! ## Handles -/

namespace Handle

variable {handle : Handle}

theorem spares_withValue {use : Value → Op α} {key : String} {type : ValueType}
    (each : ∀ value, handle.valueAt (world.entries handle.store) key type = .ok value →
      ∀ world, Spares resource world (use value)) :
    Spares resource world (handle.withValue key type use) := by
  rw [withValue_eq]
  exact .readingStore (.bind_deciding fun value found => each value found _)

theorem spares_withValueOr {use : Value → Op α} (key : String) (type : ValueType) (default : Value)
    (each : ∀ value world, Spares resource world (use value)) :
    Spares resource world (handle.withValueOr key type default use) := by
  refine .readingStore ?_
  split
  · exact .bind_deciding fun value _ => each value _
  · exact each default _

variable (apart : resource ≠ .target (.store handle.store))

include apart

theorem spares_modifyValue {use : Value → Op (α × Value)} {key : String} {type : ValueType}
    (each : ∀ value, handle.valueAt (world.entries handle.store) key type = .ok value →
      ∀ world, Spares resource world (use value)) :
    Spares resource world (handle.modifyValue key type use) := by
  rw [modifyValue_eq]
  refine .writingStore apart (.bind_deciding fun value found => ?_)
  exact (each value found _).bind fun _ _ => .pure _

theorem spares_modifyCell {use : Cell → Op (α × Cell)} (key : String)
    (each : ∀ cell world, Spares resource world (use cell)) :
    Spares resource world (handle.modifyCell key use) :=
  .writingStore apart (.bind_deciding fun cell _ => (each cell _).bind fun _ _ => .pure _)

theorem spares_update (key : String) (value : Value) :
    Spares resource world (handle.update key value) :=
  .writingStore apart (.pure _)

theorem spares_updateMany (values : List (String × Value)) :
    Spares resource world (handle.updateMany values) := by
  induction values generalizing world with
  | nil => exact .pure _
  | cons item rest ih => exact (spares_update apart item.1 item.2).bind fun _ _ => ih

theorem spares_insertDefault (key : String) (value : Value) :
    Spares resource world (handle.insertDefault key value) := by
  refine .writingStore apart ?_
  dsimp only
  split
  · exact .pure _
  · exact .pure _

theorem spares_insertDefaultMany (values : List (String × Value)) :
    Spares resource world (handle.insertDefaultMany values) := by
  induction values generalizing world with
  | nil => exact .pure _
  | cons item rest ih =>
      exact (spares_insertDefault apart item.1 item.2).bind fun _ _ => ih.bind fun _ _ => .pure _

theorem spares_getAny (key : String) : Spares resource world (handle.getAny key) := by
  refine (spares_modifyCell apart key fun cell _ => .pure (cell, cell)).bind fun cell _ => ?_
  cases cell with
  | some value => exact .pure value
  | none => exact .throw _

theorem spares_eraseKey (key : String) : Spares resource world (eraseKey handle.store key) :=
  .writingStore apart (.pure _)

theorem spares_eraseSubtree (scope : String) :
    Spares resource world (eraseSubtree handle.store scope) :=
  .writingStore apart (.pure _)

theorem spares_graft (key : String) (other : Handle) :
    Spares resource world (handle.graft key other) :=
  Spares.bind (.readingStore (.pure _)) fun _ _ => .writingStore apart (.pure _)

omit apart

theorem spares_copy (refusal : Failure) : Spares resource world (handle.copy refusal) :=
  Spares.bind (.readingStore (.pure _)) fun _ _ =>
    (StoreId.spares_create _).bind fun _ _ => .pure _

theorem spares_eraseEntry {entry : EntryRef}
    (apart : handle.store = entry.store → resource ≠ .target (.store handle.store)) :
    Spares resource world (handle.eraseEntry entry) := by
  unfold eraseEntry
  split
  · rename_i same
    exact spares_eraseKey (apart same) _
  · exact .throw _

theorem spares_eraseRange {cursor : Cursor}
    (apart : handle.store = cursor.store → resource ≠ .target (.store handle.store)) :
    Spares resource world (handle.eraseRange cursor) := by
  unfold eraseRange
  split
  · exact .throw_bind _ _
  · rename_i same
    refine Spares.bind (.readingStore (.pure _)) fun keys _ => ?_
    exact .writingStore (apart (not_not.mp same)) (.pure _)

end Handle

/-! ## Entries -/

namespace EntryRef

variable {entry : EntryRef}

theorem spares_withCell {use : Cell → Op α}
    (each : ∀ cell world, Spares resource world (use cell)) :
    Spares resource world (entry.withCell use) :=
  .readingStore (.bind_deciding fun cell _ => each cell _)

theorem spares_withValue {use : Value → Op α} {type : ValueType}
    (each : ∀ value, entry.valueAt (world.entries entry.store) type = .ok value →
      ∀ world, Spares resource world (use value)) :
    Spares resource world (entry.withValue type use) := by
  rw [withValue_eq]
  exact .readingStore (.bind_deciding fun value found => each value found _)

variable (apart : resource ≠ .target (.store entry.store))

include apart

theorem spares_modifyValue {use : Value → Op (α × Value)} {type : ValueType}
    (each : ∀ value, entry.valueAt (world.entries entry.store) type = .ok value →
      ∀ world, Spares resource world (use value)) :
    Spares resource world (entry.modifyValue type use) := by
  rw [modifyValue_eq]
  refine .writingStore apart (.bind_deciding fun value found => ?_)
  exact (each value found _).bind fun _ _ => .pure _

theorem spares_set (value : Value) : Spares resource world (entry.set value) := by
  refine .writingStore apart (Spares.bind_settled (discard_settled (Op.ofExcept_apply _ _)) ?_)
  exact fun _ _ => .pure _

end EntryRef

theorem Handle.spares_snapshot (handle : Handle) : Spares resource world handle.snapshot :=
  Spares.bind (.readingStore (.pure _)) fun keys _ =>
    .mapM keys fun _ _ => (Spares.of_looks (EntryRef.looks_snapshot _)).bind fun _ _ => .pure _

end PathStore
