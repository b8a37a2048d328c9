import PathStore.Proofs.Array.Parts
import PathStore.Session.Action

/-!
# With which failures a computation can end

Checks of layouts, indices, types and requests are computations without a world, so none of them can
tell that a claim was refused. Some cannot even tell an error. Both are statements about all failures
of a computation, and hold of what is built from computations of which they hold.
-/

namespace PathStore

namespace Failure

/-- The failure tells that a claim was refused. -/
def Refuses (failure : Failure) : Prop := failure = .busy ∨ failure = .locked

/-- The failure does not tell that a claim was refused. -/
def Calm (failure : Failure) : Prop := ¬ failure.Refuses

/-- The failure tells that a step does not fit the objects it names. -/
def Misfits : Failure → Prop
  | .misfit _ => True
  | _ => False

/-- The failure tells no error and no refused claim. -/
def Silent : Failure → Prop
  | .error _ => False
  | .fault cause => cause ≠ .locked
  | .misfit _ => True

theorem Silent.calm {failure : Failure} (silent : failure.Silent) : failure.Calm := by
  rintro (rfl | rfl)
  · exact silent
  · exact silent rfl

theorem Misfits.silent {failure : Failure} (misfits : failure.Misfits) : failure.Silent := by
  cases failure with
  | error cause => exact misfits
  | fault cause => exact misfits.elim
  | misfit reason => trivial

theorem calm_invalid (cause : InvalidValue) : (Failure.invalid cause).Calm := by
  simp [Calm, Refuses, invalid, busy, locked]

theorem calm_wrongState (cause : InvalidState) : (Failure.wrongState cause).Calm := by
  simp [Calm, Refuses, wrongState, busy, locked]

end Failure

/-- Every failure of a computation is of a kind. -/
def FailsOnly {α : Type} (kind : Failure → Prop) (decided : Except Failure α) : Prop :=
  ∀ failure, decided = .error failure → kind failure

namespace FailsOnly

variable {α β : Type} {kind : Failure → Prop} {decided : Except Failure α}

theorem ok (result : α) : FailsOnly kind (.ok result : Except Failure α) := by
  rintro failure ⟨⟩

theorem pure (result : α) : FailsOnly kind (Pure.pure result : Except Failure α) :=
  ok result

theorem error {failure : Failure} (allowed : kind failure) :
    FailsOnly kind (.error failure : Except Failure α) := by
  rintro _ ⟨⟩
  exact allowed

theorem throw_bind {failure : Failure} {next : α → Except Failure β} (allowed : kind failure) :
    FailsOnly kind ((throw failure : Except Failure α) >>= next) :=
  error allowed

theorem bind {next : α → Except Failure β} (first : FailsOnly kind decided)
    (rest : ∀ result, FailsOnly kind (next result)) : FailsOnly kind (decided >>= next) := by
  intro failure failed
  cases decided with
  | ok result => exact rest result failure failed
  | error reason =>
      cases failed
      exact first _ rfl

theorem map (only : FailsOnly kind decided) (change : α → β) :
    FailsOnly kind (change <$> decided) := by
  rw [← bind_pure_comp]
  exact only.bind fun _ => pure _

theorem mapM {compute : α → Except Failure β} (each : ∀ item, FailsOnly kind (compute item))
    (list : List α) : FailsOnly kind (list.mapM compute) := by
  induction list with
  | nil => exact pure _
  | cons item list ih =>
      rw [List.mapM_cons]
      exact (each item).bind fun _ => ih.bind fun _ => pure _

theorem foldlM {compute : β → α → Except Failure β}
    (each : ∀ state item, FailsOnly kind (compute state item)) (list : List α) (state : β) :
    FailsOnly kind (list.foldlM compute state) := by
  induction list generalizing state with
  | nil => exact pure _
  | cons item list ih =>
      rw [List.foldlM_cons]
      exact (each state item).bind fun next => ih next

end FailsOnly

theorem FailsOnly.calm {α : Type} {decided : Except Failure α}
    (silent : FailsOnly Failure.Silent decided) : FailsOnly Failure.Calm decided :=
  fun failure failed => (silent failure failed).calm

theorem FailsOnly.silent {α : Type} {decided : Except Failure α}
    (misfits : FailsOnly Failure.Misfits decided) : FailsOnly Failure.Silent decided :=
  fun failure failed => (misfits failure failed).silent

open FailsOnly Failure

/-! ## Addresses and layouts -/

namespace Address

theorem silent_signed (number : Int) : FailsOnly Silent (signed number) := by
  unfold signed
  split
  · exact ok _
  · exact error nofun

theorem silent_mulSize (left right : Nat) : FailsOnly Silent (mulSize left right) := by
  unfold mulSize size
  split
  · exact ok _
  · exact error nofun

theorem calm_signedOr (refusal : InvalidValue) (number : Int) :
    FailsOnly Calm (signedOr refusal number) := by
  unfold signedOr
  split
  · exact ok _
  · exact error (calm_invalid _)

end Address

namespace Layout

open Address

theorem silent_elementCount (shape : List Nat) : FailsOnly Silent (elementCount shape) :=
  foldlM (fun _ _ => silent_mulSize _ _) shape 1

theorem calm_extend (reach : Reach) (axis : Axis) : FailsOnly Calm (reach.extend axis) := by
  unfold Reach.extend
  refine (calm_signedOr _ _).bind fun _ => (calm_signedOr _ _).bind fun _ => ?_
  split
  · exact (calm_signedOr _ _).bind fun _ => pure _
  · exact (calm_signedOr _ _).bind fun _ => pure _

theorem calm_check (length offset : Nat) (shape : List Nat) (strides : List Int) :
    FailsOnly Calm (check length offset shape strides) := by
  unfold check
  split
  · exact throw_bind (calm_invalid _)
  · refine (silent_elementCount shape).calm.bind fun size => ?_
    split
    · exact pure _
    · refine (calm_signedOr _ _).bind fun start => ?_
      refine (foldlM calm_extend _ _).bind fun reach => ?_
      dsimp only
      split
      · exact throw_bind (calm_invalid _)
      · refine (calm_signedOr _ _).bind fun length => ?_
        split
        · exact throw_bind (calm_invalid _)
        · exact pure _

theorem silent_runningProducts (product : Int) (shape : List Nat) :
    FailsOnly Silent (runningProducts product shape) := by
  induction shape generalizing product with
  | nil => exact ok _
  | cons extent rest ih =>
      unfold runningProducts
      exact (silent_signed _).bind fun next => (ih next).bind fun _ => pure _

theorem silent_rowMajorStrides (shape : List Nat) : FailsOnly Silent (rowMajorStrides shape) :=
  (silent_runningProducts _ _).bind fun _ => pure _

theorem silent_unravel (position : Int) (rest : Nat) (axes : List Axis) :
    FailsOnly Silent (unravel position rest axes) := by
  induction axes generalizing position rest with
  | nil => exact ok _
  | cons axis axes ih =>
      unfold unravel
      split
      · exact throw_bind (show Fault.divisionByZero ≠ .locked by decide)
      · exact (silent_signed _).bind fun _ => (silent_signed _).bind fun _ => ih _ _

theorem silent_linearPosition (offset : Nat) (axes : List Axis) (place : Nat) :
    FailsOnly Silent (linearPosition offset axes place) :=
  (silent_unravel _ _ _).map _

theorem calm_advance (position : Int) (number : Nat) (index : List Nat) (axes : List Axis) :
    FailsOnly Calm (advance position number index axes) := by
  induction index generalizing position number axes with
  | nil => exact ok _
  | cons head index ih =>
      cases axes with
      | nil => exact ok _
      | cons axis axes =>
          unfold advance
          split
          · exact throw_bind (calm_invalid _)
          · refine (silent_signed _).calm.bind fun _ => ?_
            exact (silent_signed _).calm.bind fun _ => ih _ _ _

theorem calm_indexPosition (offset : Nat) (axes : List Axis) (index : List Nat) :
    FailsOnly Calm (indexPosition offset axes index) := by
  unfold indexPosition
  split
  · exact throw_bind (calm_invalid _)
  · exact (calm_advance _ _ _ _).bind fun _ => pure _

end Layout

/-! ## Slices and selectors -/

namespace Slice

open Address

theorem calm_stepped (start stop : Option Nat) (step : Int) :
    FailsOnly Calm (stepped start stop step) := by
  unfold stepped
  split
  · exact error (calm_invalid _)
  · exact ok _

theorem calm_pastLastOf (slice : Slice) (size : Int) : FailsOnly Calm (slice.pastLastOf size) := by
  unfold pastLastOf
  split
  · exact calm_signedOr _ _
  · exact pure _

theorem calm_firstOf (slice : Slice) (size : Int) : FailsOnly Calm (slice.firstOf size) := by
  unfold firstOf
  split
  · exact calm_signedOr _ _
  · exact pure _

theorem calm_resolve (slice : Slice) (extent : Nat) : FailsOnly Calm (slice.resolve extent) := by
  rw [resolve_eq]
  refine (calm_signedOr _ _).bind fun size => (slice.calm_pastLastOf size).bind fun pastLast => ?_
  refine (slice.calm_firstOf size).bind fun first => ?_
  dsimp only
  split
  · exact throw_bind (calm_invalid _)
  · split
    · exact throw_bind (calm_invalid _)
    · exact pure _

theorem calm_count (slice : Slice) (extent : Nat) : FailsOnly Calm (slice.count extent) :=
  (slice.calm_resolve extent).bind fun _ => pure _

end Slice

theorem Part.calm_select (position : Int) (number : Nat) (axes : List Axis)
    (selectors : List Selector) : FailsOnly Calm (select position number axes selectors) := by
  induction axes generalizing position number selectors with
  | nil => exact ok _
  | cons axis axes ih =>
      unfold select
      split
      · split
        · exact throw_bind (calm_invalid _)
        · refine (Address.silent_signed _).calm.bind fun _ => ?_
          exact (Address.silent_signed _).calm.bind fun _ => ih _ _ _
      · split
        · exact (ih _ _ _).bind fun _ => pure _
        · refine (Slice.calm_resolve _ _).bind fun _ => ?_
          refine (Address.silent_signed _).calm.bind fun _ => ?_
          refine (Address.silent_signed _).calm.bind fun _ => ?_
          refine (Address.silent_signed _).calm.bind fun _ => ?_
          exact (ih _ _ _).bind fun _ => pure _

/-! ## Arrays -/

namespace View

variable (view : View)

theorem calm_indexPosition (index : List Nat) : FailsOnly Calm (view.indexPosition index) :=
  Layout.calm_indexPosition _ _ _

theorem calm_checkedPosition (place : Nat) : FailsOnly Calm (view.checkedPosition place) := by
  unfold checkedPosition
  split
  · exact error (calm_invalid _)
  · exact (Layout.silent_linearPosition _ _ _).calm

theorem silent_pick (elements : List Scalar) (place : Nat) :
    FailsOnly Silent (view.pick elements place) := by
  unfold pick
  refine (Layout.silent_linearPosition _ _ _).bind fun _ => ?_
  split
  · exact pure _
  · exact error nofun

theorem silent_pickAll (elements : List Scalar) :
    FailsOnly Silent (view.pickAll elements) := by
  unfold pickAll
  split
  · exact FailsOnly.mapM (view.silent_pick elements) _
  · exact error nofun

theorem calm_slice (selectors : List Selector) : FailsOnly Calm (view.slice selectors) := by
  unfold slice
  split
  · exact throw_bind (calm_invalid _)
  · refine (Part.calm_select _ _ _ _).bind fun _ => ?_
    exact (Layout.silent_elementCount _).calm.bind fun _ => pure _

theorem silent_agree (left right : View) (leftElements rightElements : List Scalar)
    (places : List Nat) : FailsOnly Silent (left.agree right leftElements rightElements places) := by
  induction places with
  | nil => exact ok _
  | cons place rest ih =>
      unfold agree
      refine (left.silent_pick _ _).bind fun _ => (right.silent_pick _ _).bind fun _ => ?_
      split
      · exact ih
      · exact pure _

end View

namespace Block

theorem calm_make (elem : ElemType) (data : List Scalar) (shape : List Nat) (strides : List Int) :
    FailsOnly Calm (make elem data shape strides) := by
  unfold make
  refine (Layout.silent_elementCount _).calm.bind fun _ => ?_
  dsimp only
  split
  · exact throw_bind (calm_invalid _)
  · exact (Layout.calm_check _ _ _ _).bind fun _ => pure _

theorem calm_ofShape (elem : ElemType) (data : List Scalar) (shape : List Nat) :
    FailsOnly Calm (ofShape elem data shape) :=
  (Layout.silent_rowMajorStrides _).calm.bind fun _ => calm_make _ _ _ _

theorem calm_release (block : Block) : FailsOnly Calm block.release.1 := by
  unfold release
  dsimp only
  split
  · exact ok _
  · exact error (calm_wrongState _)
  · exact error (calm_wrongState _)

end Block

/-! ## Entries -/

theorem Value.calm_expect (value : Value) (type : ValueType) :
    FailsOnly Calm (value.expect type) := by
  unfold expect
  split
  · exact ok _
  · exact error nofun

theorem Cell.calm_expect (cell : Cell) (type : ValueType) :
    FailsOnly Calm (Cell.expect cell type) := by
  unfold Cell.expect
  split
  · exact Value.calm_expect _ _
  · exact error nofun

theorem Handle.calm_cell (handle : Handle) (entries : Entries Cell) (key : String) :
    FailsOnly Calm (handle.cell entries key) := by
  unfold cell
  split
  · exact ok _
  · exact error nofun

theorem EntryRef.calm_cell (entry : EntryRef) (entries : Entries Cell) :
    FailsOnly Calm (entry.cell entries) := by
  unfold cell
  split
  · exact ok _
  · exact error nofun

/-! ## What is asked for -/

theorem Value.misfits_toView (value : Value) : FailsOnly Misfits value.toView := by
  unfold toView
  split
  · exact ok _
  · exact error trivial

theorem Value.misfits_toBlock (value : Value) : FailsOnly Misfits value.toBlock := by
  unfold toBlock
  split
  · exact ok _
  · exact error trivial

theorem Variables.misfits_named {α : Type} (bindings : Variables) (name kind : String)
    (select : Object → Option α) : FailsOnly Misfits (bindings.named name kind select) := by
  unfold named
  split
  · exact ok _
  · exact error trivial

theorem ValueSpec.misfits_valueIn (bindings : Variables) (spec : ValueSpec) :
    FailsOnly Misfits (spec.valueIn bindings) := by
  cases spec with
  | scalar datum => exact ok _
  | copyOf name => exact bindings.misfits_named _ _ _

theorem ValueSpec.misfits_optionIn (bindings : Variables) (spec : Option ValueSpec) :
    FailsOnly Misfits (optionIn bindings spec) := by
  cases spec with
  | none => exact ok _
  | some spec => exact (spec.misfits_valueIn bindings).map _

theorem Literal.misfits_read (literal : Literal) (elem : ElemType) :
    FailsOnly Misfits (literal.read elem) := by
  unfold read
  split
  · exact ok _
  · exact error trivial

theorem SliceSpec.calm_build (spec : SliceSpec) : FailsOnly Calm spec.build := by
  cases spec with
  | all => exact ok _
  | single index => exact ok _
  | span start stop => exact ok _
  | stepped start stop step => exact Slice.calm_stepped _ _ _

theorem SelectorSpec.calm_build (spec : SelectorSpec) : FailsOnly Calm spec.build := by
  cases spec with
  | index position => exact ok _
  | slice spec => exact spec.calm_build.map _

theorem LayoutAction.calm_answer (action : LayoutAction) : FailsOnly Calm action.answer := by
  cases action with
  | rowMajorStrides shape => exact (Layout.silent_rowMajorStrides shape).calm.map _
  | columnMajorStrides shape => exact (Layout.silent_runningProducts 1 shape).calm.map _
  | describe slice => exact slice.calm_build.map _
  | resolve slice extent =>
      exact slice.calm_build.bind fun slice => (slice.calm_resolve extent).bind fun _ => pure _
  | count slice extent =>
      exact slice.calm_build.bind fun slice => (slice.calm_count extent).bind fun _ => pure _
  | same left right => exact left.calm_build.bind fun _ => right.calm_build.bind fun _ => pure _

end PathStore
