import PathStore.Proofs.Array.Positions

/-!
# The extreme positions of a layout

Along an axis the element that is furthest from the first one is the last one, and it stands before or
behind the first depending on the stride. So there is a foremost and a rearmost element, all others
stand between them, and a layout is inside a buffer exactly if these two are. The check of a layout
computes their positions, one axis after the other, and gives up exactly if a number on the way is no
machine integer.
-/

namespace PathStore

namespace Axis

/-- How far from the first element of an axis its last one stands. -/
def span (axis : Axis) : Int := (axis.extent - 1 : Nat) * axis.stride

/-- The index of the foremost element of an axis. -/
def foremost (axis : Axis) : Nat := if axis.span < 0 then axis.extent - 1 else 0

/-- The index of the rearmost element of an axis. -/
def rearmost (axis : Axis) : Nat := if axis.span < 0 then 0 else axis.extent - 1

theorem foremost_mul_stride (axis : Axis) : axis.foremost * axis.stride = min 0 axis.span := by
  unfold foremost
  split
  · rename_i falling
    exact (min_eq_right falling.le).symm
  · rename_i rising
    rw [min_eq_left (not_lt.1 rising), Nat.cast_zero, Int.zero_mul]

theorem rearmost_mul_stride (axis : Axis) : axis.rearmost * axis.stride = max 0 axis.span := by
  unfold rearmost
  split
  · rename_i falling
    rw [max_eq_left falling.le, Nat.cast_zero, Int.zero_mul]
  · rename_i rising
    exact (max_eq_right (not_lt.1 rising)).symm

theorem foremost_lt {axis : Axis} (some : 0 < axis.extent) : axis.foremost < axis.extent := by
  unfold foremost
  split <;> omega

theorem rearmost_lt {axis : Axis} (some : 0 < axis.extent) : axis.rearmost < axis.extent := by
  unfold rearmost
  split <;> omega

/-- Every element of an axis stands between the foremost and the rearmost one. -/
theorem mul_stride_bounds {axis : Axis} {place : Nat} (below : place < axis.extent) :
    min 0 axis.span ≤ place * axis.stride ∧ place * axis.stride ≤ max 0 axis.span := by
  have nonneg : (0 : Int) ≤ place := Int.natCast_nonneg place
  have ordered : (place : Int) ≤ (axis.extent - 1 : Nat) := by omega
  rcases lt_or_ge axis.stride 0 with falling | rising
  · have least : axis.span ≤ place * axis.stride :=
      mul_le_mul_of_nonpos_right ordered falling.le
    have most : place * axis.stride ≤ 0 := mul_nonpos_of_nonneg_of_nonpos nonneg falling.le
    exact ⟨min_le_of_right_le least, le_max_of_le_left most⟩
  · have least : 0 ≤ place * axis.stride := mul_nonneg nonneg rising
    have most : place * axis.stride ≤ axis.span := mul_le_mul_of_nonneg_right ordered rising
    exact ⟨min_le_of_left_le least, le_max_of_le_right most⟩

end Axis

namespace Layout

open Address

/-! ## The foremost and the rearmost element -/

/-- How far from the start the foremost element stands, which is not behind it. -/
def leastDisplacement (axes : List Axis) : Int :=
  (axes.map fun axis => min 0 axis.span).sum

/-- How far from the start the rearmost element stands, which is not before it. -/
def greatestDisplacement (axes : List Axis) : Int :=
  (axes.map fun axis => max 0 axis.span).sum

@[simp] theorem leastDisplacement_nil : leastDisplacement [] = 0 := rfl

@[simp] theorem greatestDisplacement_nil : greatestDisplacement [] = 0 := rfl

@[simp] theorem leastDisplacement_cons (axis : Axis) (axes : List Axis) :
    leastDisplacement (axis :: axes) = min 0 axis.span + leastDisplacement axes := rfl

@[simp] theorem greatestDisplacement_cons (axis : Axis) (axes : List Axis) :
    greatestDisplacement (axis :: axes) = max 0 axis.span + greatestDisplacement axes := rfl

theorem leastDisplacement_nonpos (axes : List Axis) : leastDisplacement axes ≤ 0 := by
  induction axes with
  | nil => rfl
  | cons axis axes ih =>
      rw [leastDisplacement_cons]
      omega

theorem greatestDisplacement_nonneg (axes : List Axis) : 0 ≤ greatestDisplacement axes := by
  induction axes with
  | nil => rfl
  | cons axis axes ih =>
      rw [greatestDisplacement_cons]
      omega

/-- Every element stands between the foremost and the rearmost one. -/
theorem Within.displacement_bounds {axes : List Axis} {index : List Nat}
    (within : Within axes index) :
    leastDisplacement axes ≤ displacement axes index ∧
      displacement axes index ≤ greatestDisplacement axes := by
  induction within with
  | nil => exact ⟨le_refl 0, le_refl 0⟩
  | @cons axis place axes index below _ ih =>
      obtain ⟨least, most⟩ := Axis.mul_stride_bounds below
      rw [displacement, leastDisplacement_cons, greatestDisplacement_cons]
      exact ⟨add_le_add least ih.1, add_le_add most ih.2⟩

theorem within_map {axes : List Axis} {choose : Axis → Nat}
    (chosen : ∀ axis ∈ axes, choose axis < axis.extent) : Within axes (axes.map choose) :=
  List.forall₂_map_right_iff.2 (List.forall₂_same.2 chosen)

theorem displacement_map (axes : List Axis) (choose : Axis → Nat) :
    displacement axes (axes.map choose) =
      (axes.map fun axis => choose axis * axis.stride).sum := by
  induction axes with
  | nil => rfl
  | cons axis axes ih => rw [List.map_cons, displacement, ih, List.map_cons, List.sum_cons]

/-- Where every axis has an element, there is a foremost one. -/
theorem Populated.exists_least {axes : List Axis} (populated : Populated axes) :
    ∃ index, Within axes index ∧ displacement axes index = leastDisplacement axes := by
  refine ⟨axes.map Axis.foremost, within_map fun axis member => ?_, ?_⟩
  · exact Axis.foremost_lt (populated axis member)
  · simp only [displacement_map, Axis.foremost_mul_stride, leastDisplacement]

/-- Where every axis has an element, there is a rearmost one. -/
theorem Populated.exists_greatest {axes : List Axis} (populated : Populated axes) :
    ∃ index, Within axes index ∧ displacement axes index = greatestDisplacement axes := by
  refine ⟨axes.map Axis.rearmost, within_map fun axis member => ?_, ?_⟩
  · exact Axis.rearmost_lt (populated axis member)
  · simp only [displacement_map, Axis.rearmost_mul_stride, greatestDisplacement]

section Inside

variable {length : Nat} {start : Int} {axes : List Axis}

/-- A layout whose extreme positions are in a buffer is inside it. -/
theorem inside_of_extremes (least : 0 ≤ start + leastDisplacement axes)
    (greatest : start + greatestDisplacement axes < length) : Inside length start axes := by
  intro index within
  have bounds := within.displacement_bounds
  omega

/-- A layout with elements is inside a buffer exactly if its extreme positions are. -/
theorem inside_iff_extremes (populated : Populated axes) :
    Inside length start axes ↔
      0 ≤ start + leastDisplacement axes ∧ start + greatestDisplacement axes < length := by
  constructor
  · intro inside
    obtain ⟨foremost, first, least⟩ := populated.exists_least
    obtain ⟨rearmost, last, greatest⟩ := populated.exists_greatest
    rw [← least, ← greatest]
    exact ⟨(inside foremost first).1, (inside rearmost last).2⟩
  · rintro ⟨least, greatest⟩
    exact inside_of_extremes least greatest

end Inside

/-! ## Computing the extreme positions -/

/-- Along every axis the distances to the last element, in elements and in positions, are signed
numbers. -/
def Spannable (axes : List Axis) : Prop :=
  ∀ axis ∈ axes, IsSigned (axis.extent - 1 : Nat) ∧ IsSigned axis.span

instance (axes : List Axis) : Decidable (Spannable axes) :=
  inferInstanceAs (Decidable (∀ axis ∈ axes, _))

theorem spannable_cons_iff {axis : Axis} {axes : List Axis} :
    Spannable (axis :: axes) ↔
      (IsSigned (axis.extent - 1 : Nat) ∧ IsSigned axis.span) ∧ Spannable axes :=
  List.forall_mem_cons

namespace Reach

variable {reach : Reach}

/-- One more axis moves one end of what a layout reaches, or is refused. -/
theorem extend_eq (lowest : IsSigned reach.lowest) (highest : IsSigned reach.highest)
    (axis : Axis) :
    reach.extend axis =
      if (IsSigned (axis.extent - 1 : Nat) ∧ IsSigned axis.span) ∧
          IsSigned (reach.lowest + min 0 axis.span) ∧
          IsSigned (reach.highest + max 0 axis.span) then
        .ok ⟨reach.lowest + min 0 axis.span, reach.highest + max 0 axis.span⟩
      else .error (.invalid .addressOverflow) := by
  unfold extend
  by_cases last : IsSigned (axis.extent - 1 : Nat)
  · rw [signedOr_of_isSigned last, Except.ok_bind, ← Axis.span]
    by_cases spans : IsSigned axis.span
    · rw [signedOr_of_isSigned spans, Except.ok_bind]
      split
      · rename_i falling
        rw [min_eq_right falling.le, max_eq_left falling.le, Int.add_zero]
        by_cases lowered : IsSigned (reach.lowest + axis.span)
        · rw [signedOr_of_isSigned lowered, if_pos ⟨⟨last, spans⟩, lowered, highest⟩]
          rfl
        · rw [signedOr_of_not_isSigned lowered, if_neg fun fits => lowered fits.2.1]
          rfl
      · rename_i rising
        rw [min_eq_left (not_lt.1 rising), max_eq_right (not_lt.1 rising), Int.add_zero]
        by_cases raised : IsSigned (reach.highest + axis.span)
        · rw [signedOr_of_isSigned raised, if_pos ⟨⟨last, spans⟩, lowest, raised⟩]
          rfl
        · rw [signedOr_of_not_isSigned raised, if_neg fun fits => raised fits.2.2]
          rfl
    · rw [signedOr_of_not_isSigned spans, if_neg fun fits => spans fits.1.2]
      rfl
  · rw [signedOr_of_not_isSigned last, if_neg fun fits => last fits.1.1]
    rfl

/-- All axes together move the ends to the extreme positions, or are refused. What lies between the ends
and the extreme positions is no obstacle: the ends only move outwards. -/
theorem foldlM_extend (lowest : IsSigned reach.lowest) (highest : IsSigned reach.highest)
    (axes : List Axis) :
    axes.foldlM extend reach =
      if Spannable axes ∧ IsSigned (reach.lowest + leastDisplacement axes) ∧
          IsSigned (reach.highest + greatestDisplacement axes) then
        .ok ⟨reach.lowest + leastDisplacement axes, reach.highest + greatestDisplacement axes⟩
      else .error (.invalid .addressOverflow) := by
  induction axes generalizing reach with
  | nil =>
      simp only [leastDisplacement_nil, greatestDisplacement_nil, Int.add_zero]
      exact (if_pos ⟨List.forall_mem_nil _, lowest, highest⟩).symm
  | cons axis axes ih =>
      have least := leastDisplacement_nonpos axes
      have greatest := greatestDisplacement_nonneg axes
      rw [List.foldlM_cons, extend_eq lowest highest]
      by_cases fits : (IsSigned (axis.extent - 1 : Nat) ∧ IsSigned axis.span) ∧
          IsSigned (reach.lowest + min 0 axis.span) ∧ IsSigned (reach.highest + max 0 axis.span)
      · rw [if_pos fits, Except.ok_bind, ih fits.2.1 fits.2.2]
        simp only [spannable_cons_iff, fits.1, true_and, leastDisplacement_cons,
          greatestDisplacement_cons, Int.add_assoc]
      · rw [if_neg fits, if_neg]
        · rfl
        · rintro ⟨spans, final⟩
          rw [leastDisplacement_cons, greatestDisplacement_cons] at final
          refine fits ⟨(spannable_cons_iff.1 spans).1, ?_⟩
          unfold IsSigned at *
          omega

end Reach

end Layout

end PathStore
