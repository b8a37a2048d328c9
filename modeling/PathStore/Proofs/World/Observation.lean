import PathStore.Proofs.World.Conduct

/-!
# Programs that only look

Reading out arrays and comparing values leaves the world exactly as it was. A refused claim or an
error that is met in doing so becomes part of the result, so none of it reaches the caller.
-/

namespace PathStore

open Failure

/-- The program leaves the world as it is, and ends with failures of one kind only. -/
def Looks {α : Type} (kind : Failure → Prop) (program : Op α) : Prop :=
  ∀ world, ∃ decided, program world = settled decided world ∧ FailsOnly kind decided

/-- The failure does not tell that a claim was refused where the caller cannot be told. -/
def Failure.Unlocked (failure : Failure) : Prop := failure ≠ .locked

theorem Failure.Silent.unlocked {failure : Failure} (silent : failure.Silent) :
    failure.Unlocked := by
  rintro rfl
  exact silent rfl

theorem Failure.unlocked_error (cause : Error) : (Failure.error cause).Unlocked := nofun

namespace Looks

variable {α β : Type} {kind : Failure → Prop}

theorem pure (result : α) : Looks kind (Pure.pure result : Op α) :=
  fun _ => ⟨.ok result, rfl, .ok result⟩

theorem get : Looks kind (MonadState.get : Op World) :=
  fun world => ⟨.ok world, rfl, .ok world⟩

theorem throw {failure : Failure} (allowed : kind failure) :
    Looks kind (MonadExcept.throw failure : Op α) :=
  fun _ => ⟨.error failure, rfl, .error allowed⟩

theorem ofExcept {decided : Except Failure α} (only : FailsOnly kind decided) :
    Looks kind (Op.ofExcept decided) :=
  fun world => ⟨decided, Op.ofExcept_apply decided world, only⟩

theorem bind {program : Op α} {next : α → Op β} (first : Looks kind program)
    (rest : ∀ result, Looks kind (next result)) : Looks kind (program >>= next) := by
  intro world
  obtain ⟨decided, runs, only⟩ := first world
  cases decided with
  | ok result =>
      obtain ⟨further, continues, same⟩ := rest result world
      exact ⟨further, (bind_of_ok runs).trans continues, same⟩
  | error failure => exact ⟨.error failure, bind_of_error runs, .error (only failure rfl)⟩

theorem map {program : Op α} (looks : Looks kind program) (change : α → β) :
    Looks kind (change <$> program) := by
  rw [← bind_pure_comp]
  exact looks.bind fun _ => pure _

theorem holding {claim : Claim} {refusal : Failure} {program : Op α} (allowed : kind refusal)
    (looks : Looks kind program) : Looks kind (Op.holding claim refusal program) := by
  intro world
  unfold Op.holding
  split
  · obtain ⟨decided, runs, only⟩ := looks (world.acquire claim)
    refine ⟨decided, ?_, only⟩
    rw [runs]
    cases decided <;> rfl
  · exact ⟨.error refusal, rfl, .error allowed⟩

theorem readingBuffer {id : BufferId} {refusal : Failure} {use : List Scalar → Op α}
    (allowed : kind refusal) (looks : ∀ elements, Looks kind (use elements)) :
    Looks kind (id.reading refusal use) :=
  holding allowed (get.bind fun world => looks (world.elements id))

theorem readingStore {id : StoreId} {refusal : Failure} {use : Entries Cell → Op α}
    (allowed : kind refusal) (looks : ∀ entries, Looks kind (use entries)) :
    Looks kind (id.reading refusal use) :=
  holding allowed (get.bind fun world => looks (world.entries id))

/-- What becomes part of the result does not reach the caller. -/
theorem attempt {program : Op α} (looks : Looks Unlocked program) :
    Looks Silent program.attempt := by
  intro world
  obtain ⟨decided, runs, only⟩ := looks world
  unfold Op.attempt
  rw [runs]
  cases decided with
  | ok result => exact ⟨.ok (.ok result), rfl, .ok _⟩
  | error failure =>
      cases failure with
      | error cause => exact ⟨.ok (.error cause), rfl, .ok _⟩
      | fault cause =>
          refine ⟨.error (.fault cause), rfl, .error ?_⟩
          rintro rfl
          exact only _ rfl rfl
      | misfit reason => exact ⟨.error (.misfit reason), rfl, .error trivial⟩

theorem left_eq {program : Op α} (looks : Looks kind program) {world left : World} {result : α}
    (ran : program world = .ok result left) : left = world := by
  obtain ⟨decided, runs, -⟩ := looks world
  rw [runs] at ran
  cases decided with
  | ok found => cases ran; rfl
  | error failure => cases ran

theorem sure {program : Op α} (looks : Looks Silent program) : Sure program := by
  intro world
  obtain ⟨decided, runs, only⟩ := looks world
  rw [runs]
  cases decided with
  | ok result => exact .ok (.refl _)
  | error failure => exact .silent (only failure rfl) (.refl _)

end Looks

/-! ## Arrays -/

theorem BufferRef.looks_length (buffer : BufferRef) : Looks Silent buffer.length :=
  Looks.get.bind fun _ => .pure _

namespace View

theorem looks_ofBuffer (buffer : BufferRef) : Looks Silent (ofBuffer buffer) :=
  buffer.looks_length.bind fun _ => .pure _

theorem looks_toList (view : View) : Looks Unlocked view.toList := by
  refine .readingBuffer (unlocked_error _) fun elements => .ofExcept fun failure failed => ?_
  exact (view.silent_pickAll elements failure failed).unlocked

theorem looks_snapshot (view : View) : Looks Silent view.snapshot :=
  view.looks_toList.attempt.bind fun _ => .pure _

theorem looks_same (left right : View) : Looks Silent (left.same right) := by
  unfold same
  split
  · exact .pure _
  · split
    · exact .pure _
    · refine Looks.bind (Looks.attempt ?_) fun _ => .pure _
      refine .readingBuffer (unlocked_error _) fun _ => ?_
      refine .readingBuffer (unlocked_error _) fun _ => .ofExcept fun failure failed => ?_
      exact (left.silent_agree right _ _ _ failure failed).unlocked

theorem looks_info (view : View) : Looks Silent view.info :=
  view.buffer.looks_length.bind fun _ => .pure _

theorem looks_showOwner (view : View) : Looks Silent view.showOwner :=
  Looks.get.bind fun _ => .pure _

end View

namespace Block

theorem looks_withData {α : Type} (block : Block) {use : List Scalar → Op α}
    (looks : ∀ elements, Looks Unlocked (use elements)) : Looks Unlocked (block.withData use) := by
  unfold withData
  split
  · exact looks _
  · exact .readingBuffer (unlocked_error _) fun _ => looks _
  · exact .throw (unlocked_error _)

theorem looks_toList (block : Block) : Looks Unlocked block.toList :=
  block.looks_withData fun _ => .pure _

theorem looks_snapshot (block : Block) : Looks Silent block.snapshot :=
  block.looks_toList.attempt.bind fun _ => .pure _

theorem looks_same (left right : Block) : Looks Silent (left.same right) := by
  unfold same
  split
  · exact .pure _
  · refine Looks.bind (Looks.attempt ?_) fun _ => .pure _
    exact left.looks_withData fun _ => right.looks_withData fun _ => .pure _

end Block

/-! ## Values, cells and entries -/

theorem Value.looks_snapshot (value : Value) : Looks Silent value.snapshot := by
  cases value with
  | scalar datum => exact .pure _
  | view array => exact array.looks_snapshot.map _
  | block array => exact array.looks_snapshot.map _

theorem Cell.looks_snapshot (cell : Cell) : Looks Silent (Cell.snapshot cell) := by
  cases cell with
  | none => exact .pure _
  | some value => exact value.looks_snapshot.map _

theorem Value.looks_same (left right : Value) : Looks Silent (left.same right) := by
  unfold same
  split
  · exact .pure _
  · split
    · exact .pure _
    · exact View.looks_same _ _
    · exact Block.looks_same _ _
    · exact .pure _

theorem Cell.looks_same (left right : Cell) : Looks Silent (Cell.same left right) := by
  unfold same
  split
  · exact Value.looks_same _ _
  · exact .pure _
  · exact .pure _

namespace EntryRef

variable (entry : EntryRef)

theorem looks_withCell {α : Type} {use : Cell → Op α}
    (looks : ∀ cell, Looks Unlocked (use cell)) : Looks Unlocked (entry.withCell use) := by
  refine .readingStore (unlocked_error _) fun entries => ?_
  refine Looks.bind (.ofExcept fun failure failed => ?_) fun cell => looks cell
  rintro rfl
  exact entry.calm_cell entries _ failed (.inr rfl)

/-- An entry that is not there, is empty or is being written says so. -/
theorem looks_snapshot : Looks Silent entry.snapshot := by
  have found : Looks Unlocked entry.anyValue := by
    refine (entry.looks_withCell fun _ => .pure _).bind fun cell => ?_
    cases cell with
    | some value => exact .pure _
    | none => exact .throw (unlocked_error _)
  refine found.attempt.bind fun read => ?_
  cases read with
  | ok value => exact value.looks_snapshot.bind fun _ => .pure _
  | error cause => exact .pure _

end EntryRef

end PathStore
