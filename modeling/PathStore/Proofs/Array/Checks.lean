import Mathlib.Algebra.BigOperators.Ring.List
import PathStore.Proofs.Array.Constructors

/-!
# What the check of a layout ends with

The check of a layout with elements computes its two extreme positions and compares them with the
buffer. In a layout that is inside a buffer everything that is computed on the way is bounded by an
extreme position, so it is a machine integer; a number that is none shows that an element stands outside.
So the check passes exactly the layouts that are inside, whatever the signs of their strides.
-/

namespace PathStore.Layout

open Address

/-! ## Layouts whose extreme positions can be computed -/

/-- Both extreme positions are signed numbers, and all numbers that they are computed from are. -/
structure Representable (start : Int) (axes : List Axis) : Prop where
  start_signed : IsSigned start
  spannable : Spannable axes
  least_signed : IsSigned (start + leastDisplacement axes)
  greatest_signed : IsSigned (start + greatestDisplacement axes)

theorem leastDisplacement_le {axis : Axis} {axes : List Axis} (member : axis ∈ axes) :
    leastDisplacement axes ≤ min 0 axis.span := by
  induction member with
  | head axes =>
      have rest := leastDisplacement_nonpos axes
      rw [leastDisplacement_cons]
      omega
  | tail other _ ih =>
      rw [leastDisplacement_cons]
      omega

theorem le_greatestDisplacement {axis : Axis} {axes : List Axis} (member : axis ∈ axes) :
    max 0 axis.span ≤ greatestDisplacement axes := by
  induction member with
  | head axes =>
      have rest := greatestDisplacement_nonneg axes
      rw [greatestDisplacement_cons]
      omega
  | tail other _ ih =>
      rw [greatestDisplacement_cons]
      omega

/-- The extreme positions of a layout inside a buffer are computed without overflow. -/
theorem Inside.representable {length : Nat} {start : Int} {axes : List Axis}
    (inside : Inside length start axes) (short : length < 2 ^ 63)
    (moderate : ∀ axis ∈ axes, axis.extent ≤ 2 ^ 63) (populated : Populated axes) :
    Representable start axes := by
  obtain ⟨begins, _⟩ := inside.start_bounds populated
  obtain ⟨least, greatest⟩ := (inside_iff_extremes populated).1 inside
  have before := leastDisplacement_nonpos axes
  have behind := greatestDisplacement_nonneg axes
  refine ⟨isSigned_of_lt (by omega) (by omega), fun axis member => ?_,
    isSigned_of_lt (by omega) (by omega), isSigned_of_lt (by omega) (by omega)⟩
  -- The span of one axis is no larger than that of all of them on its side of the start.
  have extent := moderate axis member
  have foremost := leastDisplacement_le member
  have rearmost := le_greatestDisplacement member
  exact ⟨isSigned_of_lt (by omega) (by omega), isSigned_of_lt (by omega) (by omega)⟩

/-! ## The check -/

section Check

variable {length offset : Nat} {extents : List Nat} {given : List Int}

theorem extent_mem_of_mem_axes {axis : Axis} (ranks : extents.length = given.length)
    (member : axis ∈ axes extents given) : axis.extent ∈ extents := by
  rw [← shape_axes ranks]
  exact List.mem_map_of_mem member

theorem populated_axes (ranks : extents.length = given.length) (nonempty : 0 ∉ extents) :
    Populated (axes extents given) := by
  intro axis member
  refine Nat.pos_of_ne_zero fun none => nonempty ?_
  exact none ▸ extent_mem_of_mem_axes ranks member

/-- Without elements nothing but the number of axes is checked. -/
theorem check_of_empty (ranks : extents.length = given.length) (countable : Countable extents)
    (empty : 0 ∈ extents) : check length offset extents given = .ok extents.prod := by
  have none : extents.prod = 0 := List.prod_eq_zero empty
  unfold check
  rw [if_neg (not_not.2 ranks), elementCount_of_countable countable, none]
  rfl

/-- With elements, the ends of what the layout reaches are compared with the buffer. -/
theorem check_of_nonempty (short : length < 2 ^ 63) (ranks : extents.length = given.length)
    (countable : Countable extents) (nonempty : 0 ∉ extents) :
    check length offset extents given =
      signedOr .addressOverflow offset >>= fun start =>
        (axes extents given).foldlM Reach.extend ⟨start, start⟩ >>= fun reach =>
          if 0 ≤ reach.lowest ∧ reach.highest < length then .ok extents.prod
          else .error (.invalid (.layoutOutside extents given offset length)) := by
  have some : ¬ extents.prod = 0 := fun none => nonempty (List.prod_eq_zero_iff.1 none)
  have signed : IsSigned (length : Int) := isSigned_of_lt (by omega) (by omega)
  unfold check
  rw [if_neg (not_not.2 ranks), elementCount_of_countable countable]
  simp only [Except.ok_bind, if_neg some, signedOr_of_isSigned signed]
  refine bind_congr fun start => bind_congr fun reach => ?_
  by_cases within : 0 ≤ reach.lowest ∧ reach.highest < length
  · rw [if_pos within, if_neg (not_lt.2 within.1), if_neg (not_le.2 within.2)]
    rfl
  · rw [if_neg within]
    by_cases above : 0 ≤ reach.lowest
    · rw [if_neg (not_lt.2 above), if_pos (not_lt.1 fun below => within ⟨above, below⟩)]
      rfl
    · rw [if_pos (not_le.1 above)]
      rfl

theorem check_of_representable (short : length < 2 ^ 63) (ranks : extents.length = given.length)
    (countable : Countable extents) (nonempty : 0 ∉ extents)
    (representable : Representable offset (axes extents given)) :
    check length offset extents given =
      if 0 ≤ offset + leastDisplacement (axes extents given) ∧
          offset + greatestDisplacement (axes extents given) < length then .ok extents.prod
      else .error (.invalid (.layoutOutside extents given offset length)) := by
  obtain ⟨start, spannable, least, greatest⟩ := representable
  rw [check_of_nonempty short ranks countable nonempty, signedOr_of_isSigned start, Except.ok_bind,
    Reach.foldlM_extend start start, if_pos ⟨spannable, least, greatest⟩, Except.ok_bind]

theorem check_of_not_representable (short : length < 2 ^ 63)
    (ranks : extents.length = given.length) (countable : Countable extents)
    (nonempty : 0 ∉ extents) (exceeds : ¬ Representable offset (axes extents given)) :
    check length offset extents given = .error (.invalid .addressOverflow) := by
  rw [check_of_nonempty short ranks countable nonempty]
  by_cases start : IsSigned offset
  · have reaches : ¬ (Spannable (axes extents given) ∧ _ ∧ _) := fun fits =>
      exceeds ⟨start, fits.1, fits.2.1, fits.2.2⟩
    rw [signedOr_of_isSigned start, Except.ok_bind, Reach.foldlM_extend start start,
      if_neg reaches]
    rfl
  · rw [signedOr_of_not_isSigned start]
    rfl

/-- A layout with elements passes the check exactly if it is inside the buffer. -/
theorem check_eq_ok_iff_inside (short : length < 2 ^ 63)
    (moderate : ∀ extent ∈ extents, extent ≤ 2 ^ 63) (ranks : extents.length = given.length)
    (countable : Countable extents) (nonempty : 0 ∉ extents) :
    check length offset extents given = .ok extents.prod ↔
      Inside length offset (axes extents given) := by
  constructor
  · intro checked
    exact (check_eq_ok checked).2.2
  · intro inside
    have populated := populated_axes ranks nonempty
    have representable := inside.representable short
      (fun axis member => moderate _ (extent_mem_of_mem_axes ranks member)) populated
    rw [check_of_representable short ranks countable nonempty representable]
    exact if_pos ((inside_iff_extremes populated).1 inside)

/-- There is one stride for each extent, and every element, if there are any, stands in the buffer. -/
def Admissible (length offset : Nat) (extents : List Nat) (given : List Int) : Prop :=
  extents.length = given.length ∧ (0 ∈ extents ∨ Inside length offset (axes extents given))

/-- The check passes exactly the admissible layouts and then yields how many elements there are.
Everything else is told to be invalid; in particular a layout with elements whose extreme positions, or
numbers that they are computed from, are no machine integers. -/
theorem check_exact (short : length < 2 ^ 63) (moderate : ∀ extent ∈ extents, extent ≤ 2 ^ 63)
    (small : extentProduct extents < 2 ^ 64) :
    (∀ size, check length offset extents given = .ok size ↔
      Admissible length offset extents given ∧ size = extents.prod) ∧
    (¬ Admissible length offset extents given →
      ∃ cause, check length offset extents given = .error (.invalid cause)) ∧
    (extents.length = given.length → 0 ∉ extents →
      ¬ Representable offset (axes extents given) →
      check length offset extents given = .error (.invalid .addressOverflow)) := by
  have countable := countable_of_lt small
  have passes : ∀ size, check length offset extents given = .ok size ↔
      Admissible length offset extents given ∧ size = extents.prod := by
    intro size
    constructor
    · intro checked
      obtain ⟨ranks, counted, inside⟩ := check_eq_ok checked
      exact ⟨⟨ranks, .inr inside⟩, counted⟩
    · rintro ⟨⟨ranks, proper⟩, rfl⟩
      by_cases empty : 0 ∈ extents
      · exact check_of_empty ranks countable empty
      · rw [check_eq_ok_iff_inside short moderate ranks countable empty]
        exact proper.resolve_left empty
  refine ⟨passes, fun improper => ?_, fun ranks nonempty exceeds =>
    check_of_not_representable short ranks countable nonempty exceeds⟩
  cases checked : check length offset extents given with
  | ok size => exact absurd ((passes size).1 checked).1 improper
  | error failure =>
      obtain ⟨cause, rfl⟩ := tellsInvalid_check (fun _ => countable) failure checked
      exact ⟨cause, rfl⟩

/-- Two rows of three elements, the columns from right to left, just fill a buffer of six. In a buffer
of five an element stands behind the end. -/
theorem check_turned :
    check 6 2 [2, 3] [3, -1] = .ok 6 ∧ Admissible 6 2 [2, 3] [3, -1] ∧
      ¬ Admissible 5 2 [2, 3] [3, -1] := by
  have passed : check 6 2 [2, 3] [3, -1] = .ok 6 := by decide
  have failed : check 5 2 [2, 3] [3, -1] ≠ .ok 6 := by decide
  have filling := @check_exact 6 2 [2, 3] [3, -1] (by decide) (by decide) (by decide)
  have beyond := @check_exact 5 2 [2, 3] [3, -1] (by decide) (by decide) (by decide)
  exact ⟨passed, ((filling.1 6).1 passed).1, fun proper => failed ((beyond.1 6).2 ⟨proper, rfl⟩)⟩

end Check

end PathStore.Layout
