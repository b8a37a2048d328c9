import Mathlib.Data.List.Forall2
import PathStore.Array.Layout
import PathStore.Proofs.Addresses

/-!
# Where the elements of a layout stand

The position of an element is the start plus, for each axis, the index times the stride. If every
element of a layout stands in a buffer, so does every partial sum of its position, because a partial
sum is the position of the element whose remaining indices are zero. Positions are therefore found
without overflow, from the multi-index and from the place in row-major order alike.
-/

namespace PathStore.Layout

open Address

/-! ## Multi-indices -/

/-- A multi-index has one index for each axis, below its extent. -/
def Within (axes : List Axis) (index : List Nat) : Prop :=
  List.Forall₂ (fun axis place => place < axis.extent) axes index

/-- How far from the start the element at a multi-index stands. -/
def displacement : List Axis → List Nat → Int
  | axis :: axes, place :: index => place * axis.stride + displacement axes index
  | _, _ => 0

/-- Every axis has an element. -/
def Populated (axes : List Axis) : Prop :=
  ∀ axis ∈ axes, 0 < axis.extent

theorem within_cons_iff {axis : Axis} {axes : List Axis} {place : Nat} {index : List Nat} :
    Within (axis :: axes) (place :: index) ↔ place < axis.extent ∧ Within axes index :=
  List.forall₂_cons

theorem Within.length_eq {axes : List Axis} {index : List Nat} (within : Within axes index) :
    index.length = axes.length :=
  (List.Forall₂.length_eq within).symm

theorem Within.reverse {axes : List Axis} {index : List Nat} (within : Within axes index) :
    Within axes.reverse index.reverse :=
  List.forall₂_reverse_iff.2 within

theorem Within.populated {axes : List Axis} {index : List Nat} (within : Within axes index) :
    Populated axes := by
  induction within with
  | nil =>
      intro axis member
      cases member
  | cons below _ ih =>
      intro axis member
      cases member with
      | head => exact Nat.zero_lt_of_lt below
      | tail _ member => exact ih axis member

theorem populated_cons_iff {axis : Axis} {axes : List Axis} :
    Populated (axis :: axes) ↔ 0 < axis.extent ∧ Populated axes :=
  List.forall_mem_cons

theorem populated_reverse {axes : List Axis} (populated : Populated axes) :
    Populated axes.reverse := by
  intro axis member
  exact populated axis (List.mem_reverse.1 member)

theorem populated_iff_prod_pos (axes : List Axis) : Populated axes ↔ 0 < (shape axes).prod := by
  induction axes with
  | nil => simp [Populated, shape]
  | cons axis axes ih =>
      rw [populated_cons_iff, ih]
      simp only [shape, List.map_cons, List.prod_cons, Nat.pos_iff_ne_zero, ne_eq,
        Nat.mul_eq_zero, not_or]

theorem displacement_append {front back : List Axis} {left right : List Nat}
    (equal : left.length = front.length) :
    displacement (front ++ back) (left ++ right) =
      displacement front left + displacement back right := by
  induction front generalizing left with
  | nil =>
      rw [List.eq_nil_of_length_eq_zero equal]
      simp [displacement]
  | cons axis front ih =>
      cases left with
      | nil => cases equal
      | cons place left =>
          simp only [List.cons_append, displacement]
          rw [ih (Nat.succ.inj equal), Int.add_assoc]

theorem displacement_reverse {axes : List Axis} {index : List Nat}
    (equal : index.length = axes.length) :
    displacement axes.reverse index.reverse = displacement axes index := by
  induction axes generalizing index with
  | nil =>
      rw [List.eq_nil_of_length_eq_zero equal]
      rfl
  | cons axis axes ih =>
      cases index with
      | nil => cases equal
      | cons place index =>
          have rest : index.length = axes.length := Nat.succ.inj equal
          rw [List.reverse_cons, List.reverse_cons, displacement_append (by simp [rest]), ih rest]
          simp only [displacement]
          omega

/-! ## Layouts inside a buffer -/

/-- Every element stands in a buffer of the given length. -/
def Inside (length : Nat) (start : Int) (axes : List Axis) : Prop :=
  ∀ index, Within axes index →
    0 ≤ start + displacement axes index ∧ start + displacement axes index < length

section Inside

variable {length : Nat} {start : Int} {axes : List Axis}

/-- Going along one axis leads to a start from which the remaining axes are inside. -/
theorem Inside.along {axis : Axis} {place : Nat} (inside : Inside length start (axis :: axes))
    (below : place < axis.extent) : Inside length (start + place * axis.stride) axes := by
  intro index within
  have whole := inside (place :: index) (within_cons_iff.2 ⟨below, within⟩)
  simp only [displacement] at whole
  omega

/-- The first element stands at the start. -/
theorem Inside.start_bounds (inside : Inside length start axes) (populated : Populated axes) :
    0 ≤ start ∧ start < length := by
  induction axes with
  | nil => simpa [displacement] using inside [] .nil
  | cons axis axes ih =>
      obtain ⟨some, rest⟩ := populated_cons_iff.1 populated
      have onward := inside.along some
      rw [Int.natCast_zero, Int.zero_mul, Int.add_zero] at onward
      exact ih onward rest

theorem Inside.reverse (inside : Inside length start axes) : Inside length start axes.reverse := by
  intro index within
  have turned : Within axes index.reverse := by simpa using within.reverse
  have bounds := inside index.reverse turned
  have equal : index.reverse.length = axes.length := turned.length_eq
  rw [← displacement_reverse equal, List.reverse_reverse] at bounds
  exact bounds

/-- A partial sum of a position is itself a position. -/
theorem Inside.partial_bounds {index : List Nat} (inside : Inside length start axes)
    (within : Within axes index) (count : Nat) :
    0 ≤ start + displacement (axes.take count) (index.take count) ∧
      start + displacement (axes.take count) (index.take count) < length := by
  induction within generalizing start count with
  | nil => simpa [displacement] using inside [] .nil
  | @cons axis place axes index below within ih =>
      cases count with
      | zero =>
          have populated : Populated (axis :: axes) :=
            (within_cons_iff.2 ⟨below, within⟩ : Within (axis :: axes) (place :: index)).populated
          simpa [displacement] using inside.start_bounds populated
      | succ count =>
          have bounds := ih (inside.along below) count
          simp only [List.take_succ_cons, displacement]
          omega

/-- One step along an axis is computed without overflow. -/
theorem Inside.step_eq {axis : Axis} {place : Nat} (short : length < 2 ^ 63)
    (inside : Inside length start (axis :: axes)) (populated : Populated (axis :: axes))
    (below : place < axis.extent) :
    mul (toSigned place) axis.stride = .ok (place * axis.stride) ∧
      add start (place * axis.stride) = .ok (start + place * axis.stride) := by
  have here := inside.start_bounds populated
  have there := (inside.along below).start_bounds (populated_cons_iff.1 populated).2
  constructor
  · exact mul_toSigned (by omega) (by omega)
  · exact signed_of_isSigned (isSigned_of_lt (by omega) (by omega))

end Inside

/-! ## Positions of multi-indices -/

/-- Advancing to an element inside the buffer reaches its exact position. -/
theorem advance_eq {length : Nat} {start : Int} {axes : List Axis} {index : List Nat}
    (short : length < 2 ^ 63) (inside : Inside length start axes) (within : Within axes index)
    (number : Nat) : advance start number index axes = .ok (start + displacement axes index) := by
  induction within generalizing start number with
  | nil =>
      simp only [advance, displacement, Int.add_zero]
  | @cons axis place axes index below within ih =>
      have populated : Populated (axis :: axes) :=
        (within_cons_iff.2 ⟨below, within⟩ : Within (axis :: axes) (place :: index)).populated
      obtain ⟨multiplied, added⟩ := inside.step_eq short populated below
      unfold advance
      rw [if_neg (Nat.not_le_of_lt below), multiplied]
      change (add start _ >>= _) = _
      rw [added]
      change advance _ _ _ _ = _
      rw [ih (inside.along below), displacement, Int.add_assoc]

/-- Only a multi-index within the extents is accepted. -/
theorem within_of_advance {position result : Int} {number : Nat} {axes : List Axis}
    {index : List Nat} (equal : index.length = axes.length)
    (advanced : advance position number index axes = .ok result) : Within axes index := by
  induction axes generalizing position number index with
  | nil =>
      rw [List.eq_nil_of_length_eq_zero equal]
      exact .nil
  | cons axis axes ih =>
      cases index with
      | nil => cases equal
      | cons place index =>
          unfold advance at advanced
          split at advanced
          · cases advanced
          · rename_i below
            obtain ⟨distance, _, advanced⟩ := Except.bind_eq_ok_iff.1 advanced
            obtain ⟨next, _, advanced⟩ := Except.bind_eq_ok_iff.1 advanced
            exact within_cons_iff.2 ⟨Nat.lt_of_not_le below, ih (Nat.succ.inj equal) advanced⟩

/-- How advancing along axes can fail. -/
theorem advance_refusal {position : Int} {number : Nat} {axes : List Axis} {index : List Nat}
    {failure : Failure} (refused : advance position number index axes = .error failure) :
    (∃ place axis extent, failure = .invalid (.axisIndex place axis extent)) ∨
      failure = .fault .overflow := by
  induction axes generalizing position number index with
  | nil =>
      cases index with
      | nil => cases refused
      | cons place index => cases refused
  | cons axis axes ih =>
      cases index with
      | nil => cases refused
      | cons place index =>
          unfold advance at refused
          split at refused
          · cases refused
            exact .inl ⟨place, number, axis.extent, rfl⟩
          · rcases Except.bind_eq_error_iff.1 refused with multiplied | ⟨distance, _, refused⟩
            · exact .inr (signed_eq_error multiplied)
            · rcases Except.bind_eq_error_iff.1 refused with added | ⟨next, _, refused⟩
              · exact .inr (signed_eq_error added)
              · exact ih refused

theorem toUnsigned_start {length : Nat} {position : Int} (short : length < 2 ^ 63)
    (above : 0 ≤ position) (below : position < length) :
    toUnsigned position < length ∧ (toUnsigned position : Int) = position := by
  rw [toUnsigned_of_nonneg above (by omega)]
  omega

/-- Reading the start of a populated layout as a signed number and the position it leads to as an
unsigned one loses nothing. -/
theorem indexPosition_eq {length offset : Nat} {axes : List Axis} {index : List Nat}
    (short : length < 2 ^ 63) (inside : Inside length offset axes) (within : Within axes index) :
    ∃ position < length, indexPosition offset axes index = .ok position ∧
      (position : Int) = offset + displacement axes index := by
  have start := inside.start_bounds within.populated
  obtain ⟨above, below⟩ := inside index within
  obtain ⟨bounded, exact⟩ := toUnsigned_start short above below
  refine ⟨_, bounded, ?_, exact⟩
  unfold indexPosition
  rw [if_neg (not_not_intro within.length_eq), toSigned_of_lt (by omega),
    advance_eq short inside within]
  rfl

theorem within_of_indexPosition {offset position : Nat} {axes : List Axis} {index : List Nat}
    (found : indexPosition offset axes index = .ok position) : Within axes index := by
  unfold indexPosition at found
  split at found
  · cases found
  · rename_i equal
    obtain ⟨result, advanced, _⟩ := Except.bind_eq_ok_iff.1 found
    exact within_of_advance (not_not.1 equal) advanced

theorem indexPosition_refusal {offset : Nat} {axes : List Axis} {index : List Nat}
    {failure : Failure} (refused : indexPosition offset axes index = .error failure) :
    (∃ index rank, failure = .invalid (.indexRank index rank)) ∨
      (∃ place axis extent, failure = .invalid (.axisIndex place axis extent)) ∨
        failure = .fault .overflow := by
  unfold indexPosition at refused
  split at refused
  · cases refused
    exact .inl ⟨index, axes.length, rfl⟩
  · rcases Except.bind_eq_error_iff.1 refused with refused | ⟨_, _, finished⟩
    · exact .inr (advance_refusal refused)
    · cases finished

/-! ## Positions of places -/

/-- The multi-index of a place, in the order in which the first of the axes runs fastest. -/
def digits : List Axis → Nat → List Nat
  | [], _ => []
  | axis :: axes, place => place % axis.extent :: digits axes (place / axis.extent)

theorem within_digits {axes : List Axis} (populated : Populated axes) (place : Nat) :
    Within axes (digits axes place) := by
  induction axes generalizing place with
  | nil => exact .nil
  | cons axis axes ih =>
      obtain ⟨some, rest⟩ := populated_cons_iff.1 populated
      exact within_cons_iff.2 ⟨Nat.mod_lt place some, ih rest _⟩

theorem unravel_eq {length : Nat} {start : Int} {axes : List Axis} (short : length < 2 ^ 63)
    (inside : Inside length start axes) (populated : Populated axes) (place : Nat) :
    unravel start place axes = .ok (start + displacement axes (digits axes place)) := by
  induction axes generalizing start place with
  | nil => simp only [unravel, displacement, Int.add_zero]
  | cons axis axes ih =>
      obtain ⟨some, rest⟩ := populated_cons_iff.1 populated
      have below : place % axis.extent < axis.extent := Nat.mod_lt place some
      obtain ⟨multiplied, added⟩ := inside.step_eq short populated below
      unfold unravel
      rw [if_neg (Nat.ne_of_gt some), multiplied]
      change (add start _ >>= _) = _
      rw [added]
      change unravel _ _ _ = _
      rw [ih (inside.along below) rest, digits, displacement, Int.add_assoc]

/-- The multi-index of a place in row-major order. -/
def rowMajorIndex (axes : List Axis) (place : Nat) : List Nat :=
  (digits axes.reverse place).reverse

/-- The partial sums of the position of a place, from the last axis on, are positions. -/
theorem Inside.digits_bounds {length : Nat} {start : Int} {axes : List Axis}
    (inside : Inside length start axes) (populated : Populated axes) (place count : Nat) :
    0 ≤ start + displacement (axes.reverse.take count) ((digits axes.reverse place).take count) ∧
      start + displacement (axes.reverse.take count) ((digits axes.reverse place).take count) <
        length :=
  inside.reverse.partial_bounds (within_digits (populated_reverse populated) place) count

theorem linearPosition_eq {length offset : Nat} {axes : List Axis} (short : length < 2 ^ 63)
    (inside : Inside length offset axes) (populated : Populated axes) (place : Nat) :
    ∃ position < length, linearPosition offset axes place = .ok position ∧
      (position : Int) = offset + displacement axes (rowMajorIndex axes place) := by
  have start := inside.start_bounds populated
  have within := within_digits (populated_reverse populated) place
  obtain ⟨above, below⟩ := inside.reverse _ within
  obtain ⟨bounded, exact⟩ := toUnsigned_start short above below
  refine ⟨_, bounded, ?_, ?_⟩
  · unfold linearPosition
    rw [toSigned_of_lt (by omega), unravel_eq short inside.reverse (populated_reverse populated)]
    rfl
  · rw [exact, rowMajorIndex, ← displacement_reverse within.length_eq, List.reverse_reverse]

end PathStore.Layout
