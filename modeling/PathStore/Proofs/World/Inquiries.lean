import PathStore.Proofs.Cursor.Steps
import PathStore.Proofs.World.Needs

/-!
# Operations that only ask

What an operation tells that only reads a store or a buffer is decided by what that contains. So it
tells the same in any two worlds that agree there, as long as it is allowed to read, and it changes
nothing in either.
-/

namespace PathStore

/-- In any two worlds in which a store or buffer contains the same, and may be read in both or in
neither, the program ends in the same way, and leaves the world as it was. -/
def Reads {α : Type} (target : Target) (program : Op α) : Prop :=
  ∀ before after : World, before.SameAt after target →
    before.admits ⟨target, .reading⟩ = after.admits ⟨target, .reading⟩ →
      ∃ decided, program before = settled decided before ∧ program after = settled decided after

/-- Who reads something does not keep others from reading it. -/
theorem World.admits_acquire_reading (world : World) (target : Target) :
    (world.acquire ⟨target, .reading⟩).admits ⟨target, .reading⟩ =
      world.admits ⟨target, .reading⟩ := by
  simp [World.admits, World.acquire, Claim.conflicts]

/-- An error becomes part of the result. -/
def Op.attempted {α : Type} : Except Failure α → Except Failure (Except Error α)
  | .ok result => .ok (.ok result)
  | .error (.error cause) => .ok (.error cause)
  | .error failure => .error failure

theorem Op.attempt_settled {α : Type} {program : Op α} {decided : Except Failure α} {world : World}
    (runs : program world = settled decided world) :
    program.attempt world = settled (Op.attempted decided) world := by
  unfold Op.attempt
  rw [runs]
  cases decided with
  | ok result => rfl
  | error failure => cases failure <;> rfl

theorem Op.ok_of_attempt {α : Type} {program : Op α} {result : α} {world left : World}
    (ran : program.attempt world = .ok (.ok result) left) : program world = .ok result left := by
  unfold Op.attempt at ran
  cases once : program world with
  | ok made between =>
      rw [once] at ran
      cases ran
      rfl
  | error failure between =>
      rw [once] at ran
      cases failure <;> cases ran

namespace Reads

variable {α β : Type} {target : Target}

theorem pure (result : α) : Reads target (Pure.pure result : Op α) :=
  fun _ _ _ _ => ⟨.ok result, rfl, rfl⟩

theorem throw (failure : Failure) : Reads target (MonadExcept.throw failure : Op α) :=
  fun _ _ _ _ => ⟨.error failure, rfl, rfl⟩

theorem throw_bind (failure : Failure) (next : α → Op β) :
    Reads target ((MonadExcept.throw failure : Op α) >>= next) :=
  throw failure

theorem ofExcept (decided : Except Failure α) : Reads target (Op.ofExcept decided) :=
  fun before after _ _ =>
    ⟨decided, Op.ofExcept_apply decided before, Op.ofExcept_apply decided after⟩

theorem bind {program : Op α} {next : α → Op β} (first : Reads target program)
    (rest : ∀ result, Reads target (next result)) : Reads target (program >>= next) := by
  intro before after same admits
  obtain ⟨decided, once, again⟩ := first before after same admits
  cases decided with
  | error failure => exact ⟨.error failure, bind_of_error once, bind_of_error again⟩
  | ok result =>
      obtain ⟨further, begun, continued⟩ := rest result before after same admits
      exact ⟨further, (bind_of_ok once).trans begun, (bind_of_ok again).trans continued⟩

/-- What becomes part of the result is decided just as well. -/
theorem attempt {program : Op α} (reads : Reads target program) : Reads target program.attempt := by
  intro before after same admits
  obtain ⟨decided, once, again⟩ := reads before after same admits
  exact ⟨Op.attempted decided, Op.attempt_settled once, Op.attempt_settled again⟩

theorem readingStore {id : StoreId} {refusal : Failure} {use : Entries Cell → Op α}
    (reads : ∀ entries, Reads (.store id) (use entries)) :
    Reads (.store id) (id.reading refusal use) := by
  intro before after same admits
  have equal : after.entries id = before.entries id := same
  rw [StoreId.reading_apply, StoreId.reading_apply, equal]
  by_cases free : before.admits ⟨.store id, .reading⟩
  · obtain ⟨decided, once, again⟩ := reads (before.entries id)
      (before.acquire ⟨.store id, .reading⟩) (after.acquire ⟨.store id, .reading⟩) same
      (by simpa only [World.admits_acquire_reading] using admits)
    refine ⟨decided, ?_, ?_⟩
    · rw [if_pos free, once]
      cases decided <;> rfl
    · rw [if_pos (admits ▸ free), again]
      cases decided <;> rfl
  · exact ⟨.error refusal, if_neg free, if_neg (admits ▸ free)⟩

theorem readingBuffer {id : BufferId} {refusal : Failure} {use : List Scalar → Op α}
    (reads : ∀ elements, Reads (.buffer id) (use elements)) :
    Reads (.buffer id) (id.reading refusal use) := by
  intro before after same admits
  have equal : after.elements id = before.elements id := same
  rw [BufferId.reading_apply, BufferId.reading_apply, equal]
  by_cases free : before.admits ⟨.buffer id, .reading⟩
  · obtain ⟨decided, once, again⟩ := reads (before.elements id)
      (before.acquire ⟨.buffer id, .reading⟩) (after.acquire ⟨.buffer id, .reading⟩) same
      (by simpa only [World.admits_acquire_reading] using admits)
    refine ⟨decided, ?_, ?_⟩
    · rw [if_pos free, once]
      cases decided <;> rfl
    · rw [if_pos (admits ▸ free), again]
      cases decided <;> rfl
  · exact ⟨.error refusal, if_neg free, if_neg (admits ▸ free)⟩

/-- What reads a store or buffer leaves every world as it was. -/
theorem exists_settled {program : Op α} (reads : Reads target program) (world : World) :
    ∃ decided, program world = settled decided world := by
  obtain ⟨decided, runs, -⟩ := reads world world (.refl world target) rfl
  exact ⟨decided, runs⟩

end Reads

/-! ## Stores -/

namespace Handle

variable {α : Type} (handle : Handle)

theorem reads_withValue (key : String) (type : ValueType) (read : Value → Except Failure α) :
    Reads (.store handle.store)
      (handle.withValue key type fun value => Op.ofExcept (read value)) := by
  rw [withValue_eq]
  exact .readingStore fun _ => (Reads.ofExcept _).bind fun _ => .ofExcept _

theorem reads_withValueOr (key : String) (type : ValueType) (default : Value)
    (read : Value → Except Failure α) :
    Reads (.store handle.store)
      (handle.withValueOr key type default fun value => Op.ofExcept (read value)) := by
  refine .readingStore fun entries => ?_
  split
  · exact (Reads.ofExcept _).bind fun _ => .ofExcept _
  · exact .ofExcept _

theorem reads_typeName (key : String) : Reads (.store handle.store) (handle.typeName key) :=
  .readingStore fun _ => (Reads.ofExcept _).bind fun _ => .pure _

end Handle

namespace EntryRef

variable {α : Type} (entry : EntryRef)

theorem reads_withCell (read : Cell → Except Failure α) :
    Reads (.store entry.store) (entry.withCell fun cell => Op.ofExcept (read cell)) :=
  .readingStore fun _ => (Reads.ofExcept _).bind fun _ => .ofExcept _

theorem reads_withValue (type : ValueType) (read : Value → Except Failure α) :
    Reads (.store entry.store) (entry.withValue type fun value => Op.ofExcept (read value)) := by
  rw [withValue_eq]
  exact .readingStore fun _ => (Reads.ofExcept _).bind fun _ => .ofExcept _

theorem reads_anyValue : Reads (.store entry.store) entry.anyValue := by
  refine (entry.reads_withCell Except.ok).bind fun cell => ?_
  cases cell with
  | some value => exact .pure value
  | none => exact .throw _

end EntryRef

theorem Cursor.reads_step (cursor : Cursor) (side : End) :
    Reads (.store cursor.store) (cursor.step side) := by
  rw [step_eq_reading]
  exact .readingStore fun _ => .pure _

/-! ## Buffers, views and blocks -/

theorem BufferRef.reads_get (buffer : BufferRef) (position : Nat) :
    Reads (.buffer buffer.id) (buffer.get position) := by
  refine .readingBuffer fun elements => ?_
  split
  · exact .pure _
  · exact .throw _

theorem BufferRef.reads_length (buffer : BufferRef) : Reads (.buffer buffer.id) buffer.length := by
  intro before after same _
  have equal : after.elements buffer.id = before.elements buffer.id := same
  refine ⟨.ok (before.elements buffer.id).length, rfl, ?_⟩
  rw [← equal]
  rfl

namespace View

variable (view : View)

theorem reads_get (index : List Nat) : Reads (.buffer view.buffer.id) (view.get index) :=
  (Reads.ofExcept _).bind fun position => view.buffer.reads_get position

theorem reads_getLinear (place : Nat) : Reads (.buffer view.buffer.id) (view.getLinear place) :=
  (Reads.ofExcept _).bind fun position => view.buffer.reads_get position

theorem reads_toList : Reads (.buffer view.buffer.id) view.toList :=
  .readingBuffer fun _ => .ofExcept _

/-- Two views of one buffer compare what that contains. -/
theorem reads_same {other : View} (shared : other.buffer.id = view.buffer.id) :
    Reads (.buffer view.buffer.id) (view.same other) := by
  unfold same
  split
  · exact .pure _
  · split
    · exact .pure _
    · refine Reads.bind (Reads.attempt ?_) fun _ => .pure _
      rw [shared]
      exact .readingBuffer fun _ => .readingBuffer fun _ => .ofExcept _

end View

namespace Block

variable {α : Type} {block : Block} {buffer : BufferRef} (borrows : block.storage = .borrowed buffer)

include borrows

theorem reads_withData {use : List Scalar → Op α}
    (reads : ∀ elements, Reads (.buffer buffer.id) (use elements)) :
    Reads (.buffer buffer.id) (block.withData use) := by
  simp only [withData, borrows]
  exact .readingBuffer fun _ => reads _

theorem reads_get (position : Nat) : Reads (.buffer buffer.id) (block.get position) := by
  unfold get
  split
  · exact .throw_bind _ _
  · refine block.reads_withData borrows fun elements => ?_
    split
    · exact .pure _
    · exact .throw _

theorem reads_copyAs (memory : Memory) : Reads (.buffer buffer.id) (block.copyAs memory) := by
  cases memory with
  | borrowed =>
      simp only [copyAs, borrows]
      exact .pure _
  | owned =>
      simp only [copyAs, borrows]
      exact (block.reads_withData borrows fun _ => .pure _).bind fun _ => .pure _

/-- Two blocks that borrow one buffer compare what that contains. -/
theorem reads_same {other : Block} {shared : BufferRef} (also : other.storage = .borrowed shared)
    (one : shared.id = buffer.id) : Reads (.buffer buffer.id) (block.same other) := by
  unfold same
  split
  · exact .pure _
  · refine Reads.bind (Reads.attempt ?_) fun _ => .pure _
    refine block.reads_withData borrows fun _ => ?_
    rw [← one]
    exact other.reads_withData also fun _ => .pure _

end Block

/-! ## All of them -/

/-- The program is one of the operations through a handle, entry, cursor, buffer, view or block that
need a store or buffer for reading only, and no other. Programs that are given a value, a cell or
elements tell something about these. -/
inductive Asks : Target → {α : Type} → Op α → Prop where
  | get (handle : Handle) (key : String) (type : ValueType) :
      Asks (.store handle.store) (handle.get key type)
  | getOr (handle : Handle) (key : String) (type : ValueType) (default : Value) :
      Asks (.store handle.store) (handle.getOr key type default)
  | withValue {α : Type} (handle : Handle) (key : String) (type : ValueType)
      (read : Value → Except Failure α) :
      Asks (.store handle.store) (handle.withValue key type fun value => Op.ofExcept (read value))
  | withValueOr {α : Type} (handle : Handle) (key : String) (type : ValueType) (default : Value)
      (read : Value → Except Failure α) :
      Asks (.store handle.store)
        (handle.withValueOr key type default fun value => Op.ofExcept (read value))
  | typeName (handle : Handle) (key : String) : Asks (.store handle.store) (handle.typeName key)
  | isStored (handle : Handle) (key : String) : Asks (.store handle.store) (handle.isStored key)
  | size (handle : Handle) : Asks (.store handle.store) handle.size
  | isEmpty (handle : Handle) : Asks (.store handle.store) handle.isEmpty
  | keys (handle : Handle) : Asks (.store handle.store) handle.keys
  | entryTypeName (entry : EntryRef) : Asks (.store entry.store) entry.typeName
  | entryValue (entry : EntryRef) (type : ValueType) : Asks (.store entry.store) (entry.value type)
  | entryAnyValue (entry : EntryRef) : Asks (.store entry.store) entry.anyValue
  | entryWithValue {α : Type} (entry : EntryRef) (type : ValueType)
      (read : Value → Except Failure α) :
      Asks (.store entry.store) (entry.withValue type fun value => Op.ofExcept (read value))
  | entryWithCell {α : Type} (entry : EntryRef) (read : Cell → Except Failure α) :
      Asks (.store entry.store) (entry.withCell fun cell => Op.ofExcept (read cell))
  | step (cursor : Cursor) (side : End) : Asks (.store cursor.store) (cursor.step side)
  | collect (cursor : Cursor) : Asks (.store cursor.store) cursor.collect
  | collectBack (cursor : Cursor) : Asks (.store cursor.store) cursor.collectBack
  | bufferLength (buffer : BufferRef) : Asks (.buffer buffer.id) buffer.length
  | bufferGet (buffer : BufferRef) (position : Nat) : Asks (.buffer buffer.id) (buffer.get position)
  | bufferToList (buffer : BufferRef) : Asks (.buffer buffer.id) buffer.toList
  | bufferReading {α : Type} (buffer : BufferRef) (read : List Scalar → Except Failure α) :
      Asks (.buffer buffer.id)
        (buffer.id.reading .busy fun elements => Op.ofExcept (read elements))
  | viewGet (view : View) (index : List Nat) : Asks (.buffer view.buffer.id) (view.get index)
  | viewGetLinear (view : View) (place : Nat) :
      Asks (.buffer view.buffer.id) (view.getLinear place)
  | viewToList (view : View) : Asks (.buffer view.buffer.id) view.toList
  | viewSame (view other : View) (shared : other.buffer.id = view.buffer.id) :
      Asks (.buffer view.buffer.id) (view.same other)
  | blockGet (block : Block) {buffer : BufferRef} (borrows : block.storage = .borrowed buffer)
      (position : Nat) : Asks (.buffer buffer.id) (block.get position)
  | blockToList (block : Block) {buffer : BufferRef} (borrows : block.storage = .borrowed buffer) :
      Asks (.buffer buffer.id) block.toList
  | blockWithData {α : Type} (block : Block) {buffer : BufferRef}
      (borrows : block.storage = .borrowed buffer) (read : List Scalar → Except Failure α) :
      Asks (.buffer buffer.id) (block.withData fun elements => Op.ofExcept (read elements))
  | blockCopyAs (block : Block) {buffer : BufferRef} (borrows : block.storage = .borrowed buffer)
      (memory : Memory) : Asks (.buffer buffer.id) (block.copyAs memory)
  | blockSame (block other : Block) {buffer shared : BufferRef}
      (borrows : block.storage = .borrowed buffer) (also : other.storage = .borrowed shared)
      (one : shared.id = buffer.id) : Asks (.buffer buffer.id) (block.same other)

/-- What an operation tells that only asks is decided by what it reads. -/
theorem Asks.reads {α : Type} {target : Target} {program : Op α} (asks : Asks target program) :
    Reads target program := by
  cases asks with
  | get handle key type => exact handle.reads_withValue key type Except.ok
  | getOr handle key type default => exact handle.reads_withValueOr key type default Except.ok
  | withValue handle key type read => exact handle.reads_withValue key type read
  | withValueOr handle key type default read =>
      exact handle.reads_withValueOr key type default read
  | typeName handle key => exact handle.reads_typeName key
  | isStored handle key => exact .readingStore fun _ => .pure _
  | size handle => exact .readingStore fun _ => .pure _
  | isEmpty handle => exact .readingStore fun _ => .pure _
  | keys handle => exact .readingStore fun _ => .pure _
  | entryTypeName entry => exact entry.reads_withCell fun cell => .ok cell.typeName
  | entryValue entry type => exact entry.reads_withValue type Except.ok
  | entryAnyValue entry => exact entry.reads_anyValue
  | entryWithValue entry type read => exact entry.reads_withValue type read
  | entryWithCell entry read => exact entry.reads_withCell read
  | step cursor side => exact cursor.reads_step side
  | collect cursor => exact .readingStore fun _ => .pure _
  | collectBack cursor => exact .readingStore fun _ => .pure _
  | bufferLength buffer => exact buffer.reads_length
  | bufferGet buffer position => exact buffer.reads_get position
  | bufferToList buffer => exact .readingBuffer fun _ => .pure _
  | bufferReading buffer read => exact .readingBuffer fun _ => .ofExcept _
  | viewGet view index => exact view.reads_get index
  | viewGetLinear view place => exact view.reads_getLinear place
  | viewToList view => exact view.reads_toList
  | viewSame view other shared => exact view.reads_same shared
  | blockGet block borrows position => exact block.reads_get borrows position
  | blockToList block borrows => exact block.reads_withData borrows fun _ => .pure _
  | blockWithData block borrows read => exact block.reads_withData borrows fun _ => .ofExcept _
  | blockCopyAs block borrows memory => exact block.reads_copyAs borrows memory
  | blockSame block other borrows also one => exact block.reads_same borrows also one

/-- What a copy contains is decided by what the store contains. -/
theorem Handle.copy_admitted (handle : Handle) (refusal : Failure) {world : World}
    (admits : world.admits ⟨.store handle.store, .reading⟩) :
    ∃ copy left, handle.copy refusal world = .ok copy left ∧ copy.location = .root ∧
      left.entries copy.store = handle.copied (world.entries handle.store) := by
  have read := StoreId.reading_pure handle.store refusal handle.copied world
  rw [if_pos admits] at read
  exact ⟨_, _, bind_of_ok read, rfl, by simp [World.entries]⟩

end PathStore
