import Mathlib.Tactic.LinearCombination
import PathStore.Array.Selection
import PathStore.Proofs.Array.Extremes

/-!
# Checked layouts and parts of them

A layout that passes its check is inside its buffer. Selecting from axes keeps positions: each
element of the part is an element of the whole, so the part of a layout inside a buffer is inside it
too, and an axis without elements stays.
-/

namespace PathStore

open Address

namespace Layout

/-! ## The check of a layout -/

theorem shape_axes {extents : List Nat} {strides : List Int}
    (equal : extents.length = strides.length) : shape (axes extents strides) = extents := by
  induction extents generalizing strides with
  | nil => rfl
  | cons extent extents ih =>
      cases strides with
      | nil => cases equal
      | cons stride strides => exact congrArg (extent :: ·) (ih (Nat.succ.inj equal))

theorem elementCount_eq_ok {extents : List Nat} {size : Nat}
    (counted : elementCount extents = .ok size) : size = extents.prod := by
  suffices general : ∀ before, extents.foldlM mulSize before = .ok size →
      size = before * extents.prod by
    rw [general 1 counted, Nat.one_mul]
  clear counted
  intro before counted
  induction extents generalizing before with
  | nil =>
      cases counted
      simp
  | cons extent extents ih =>
      rw [List.foldlM_cons] at counted
      obtain ⟨product, multiplied, counted⟩ := Except.bind_eq_ok_iff.1 counted
      rw [ih product counted, mulSize_eq_ok multiplied, List.prod_cons, Nat.mul_assoc]

/-- A layout that passes its check has as many strides as extents, the number of elements that was
counted, and every element inside the buffer. -/
theorem check_eq_ok {length offset size : Nat} {extents : List Nat} {strides : List Int}
    (checked : check length offset extents strides = .ok size) :
    extents.length = strides.length ∧ size = extents.prod ∧
      Inside length offset (axes extents strides) := by
  unfold check at checked
  split at checked
  · cases checked
  · rename_i ranks
    have equal := not_not.1 ranks
    obtain ⟨count, counted, checked⟩ := Except.bind_eq_ok_iff.1 checked
    have product := elementCount_eq_ok counted
    split at checked
    · rename_i none
      cases checked
      refine ⟨equal, none ▸ product, ?_⟩
      intro index within
      have some := (populated_iff_prod_pos _).1 within.populated
      rw [shape_axes equal] at some
      omega
    · obtain ⟨start, started, reaching⟩ := Except.bind_eq_ok_iff.1 checked
      obtain ⟨reach, reached, bounding⟩ := Except.bind_eq_ok_iff.1 reaching
      obtain ⟨signed, rfl⟩ := signedOr_eq_ok_iff.1 started
      rw [Reach.foldlM_extend signed signed] at reached
      split at reached
      · cases reached
        dsimp only at bounding
        split at bounding
        · cases bounding
        · rename_i least
          obtain ⟨limit, limited, ending⟩ := Except.bind_eq_ok_iff.1 bounding
          obtain ⟨_, rfl⟩ := signedOr_eq_ok_iff.1 limited
          split at ending
          · cases ending
          · rename_i greatest
            cases ending
            exact ⟨equal, product, inside_of_extremes (not_lt.1 least) (not_le.1 greatest)⟩
      · cases reached

end Layout

namespace Slice

/-! ## Slices -/

theorem signedIndex_eq_ok {index : Nat} {result : Int} (given : signedIndex index = .ok result) :
    result = index :=
  (signedOr_eq_ok_iff.1 given).2

/-- Where a slice begins on an axis of the given size. -/
def firstOf (slice : Slice) (size : Int) : Except Failure Int :=
  match slice.start with
  | some start => signedIndex start
  | none => pure (if 0 < slice.step then 0 else size - 1)

/-- Where a slice ends on an axis of the given size. -/
def pastLastOf (slice : Slice) (size : Int) : Except Failure Int :=
  match slice.stop with
  | some stop => signedIndex stop
  | none => pure (if 0 < slice.step then size else -1)

/-- Both ends are found before they are compared with the axis. -/
theorem resolve_eq (slice : Slice) (extent : Nat) :
    slice.resolve extent = do
      let size ← signedIndex extent
      let pastLast ← slice.pastLastOf size
      let first ← slice.firstOf size
      if size ≤ first ∨ size < pastLast then throw (.invalid (.sliceOutside slice size))
      let range : IndexRange := ⟨first, pastLast, slice.step⟩
      if range.isEmpty then throw (.invalid (.sliceEmpty slice))
      return range := by
  unfold resolve firstOf pastLastOf
  cases slice.stop <;> cases slice.start <;> rfl

theorem pastLastOf_least {slice : Slice} {size pastLast : Int} (sized : 0 ≤ size)
    (stopped : slice.pastLastOf size = .ok pastLast) : -1 ≤ pastLast := by
  unfold pastLastOf at stopped
  split at stopped
  · rw [signedIndex_eq_ok stopped]
    omega
  · cases stopped
    split <;> omega

theorem firstOf_least {slice : Slice} {size first : Int}
    (started : slice.firstOf size = .ok first) :
    0 ≤ first ∨ first = size - 1 ∧ ¬ 0 < slice.step := by
  unfold firstOf at started
  split at started
  · rw [signedIndex_eq_ok started]
    omega
  · cases started
    split <;> omega

/-- A slice that is resolved begins at an index of the axis and goes the way of its step, at most to
one beyond either end. -/
theorem resolve_eq_ok {slice : Slice} {extent : Nat} {range : IndexRange}
    (resolved : slice.resolve extent = .ok range) :
    0 ≤ range.first ∧ range.first < extent ∧ -1 ≤ range.pastLast ∧ range.pastLast ≤ extent ∧
      range.isEmpty = false := by
  rw [resolve_eq] at resolved
  obtain ⟨size, sized, ending⟩ := Except.bind_eq_ok_iff.1 resolved
  obtain ⟨pastLast, stopped, beginning⟩ := Except.bind_eq_ok_iff.1 ending
  obtain ⟨first, started, bounding⟩ := Except.bind_eq_ok_iff.1 beginning
  rw [signedIndex_eq_ok sized] at started stopped bounding
  have stop := pastLastOf_least (Int.natCast_nonneg extent) stopped
  have start := firstOf_least started
  dsimp only at bounding
  split at bounding
  · cases bounding
  · rename_i outside
    split at bounding
    · cases bounding
    · rename_i filled
      cases bounding
      refine ⟨?_, by dsimp only; omega, stop, by dsimp only; omega, by simpa using filled⟩
      rcases start with start | ⟨start, backward⟩
      · exact start
      · simp only [IndexRange.isEmpty, if_neg backward, decide_eq_true_eq] at filled
        dsimp only
        omega

/-- As many steps as there are full ones before the end stay before the end. -/
theorem mul_lt_of_lt_count {place step distance : Nat}
    (below : place < (distance + step - 1) / step) : place * step < distance := by
  have positive : 0 < step := by
    by_contra zero
    rw [Nat.eq_zero_of_not_pos zero, Nat.div_zero] at below
    exact Nat.not_lt_zero _ below
  have full : (place + 1) * step ≤ distance + step - 1 := (Nat.le_div_iff_mul_le positive).1 below
  rw [Nat.add_mul, Nat.one_mul] at full
  omega

/-- Every index that a range names is an index of the axis. -/
theorem resolve_index {slice : Slice} {extent place : Nat} {range : IndexRange}
    (resolved : slice.resolve extent = .ok range) (below : place < range.count) :
    0 ≤ range.first + place * range.step ∧ range.first + place * range.step < extent := by
  obtain ⟨first, least, last, most, nonempty⟩ := resolve_eq_ok resolved
  have reached := mul_lt_of_lt_count below
  unfold IndexRange.isEmpty at nonempty
  split at nonempty
  · rename_i forward
    rw [decide_eq_false_iff_not] at nonempty
    have length : (place : Int) * range.step = (place * range.step.natAbs : Nat) := by
      rw [Int.natCast_mul, Int.natAbs_of_nonneg forward.le]
    omega
  · rename_i backward
    rw [decide_eq_false_iff_not] at nonempty
    have length : (place : Int) * range.step = -(place * range.step.natAbs : Nat) := by
      rw [Int.natCast_mul, Int.ofNat_natAbs_of_nonpos (not_lt.1 backward), mul_neg, neg_neg]
    omega

end Slice

namespace Part

/-! ## Selecting -/

open Layout

/-- What the first selector does with the first axis: an index takes it away, a slice keeps some of
its indices, and an axis without elements is taken whole. -/
theorem select_cons {position : Int} {number : Nat} {axis : Axis} {axes : List Axis}
    {selectors : List Selector} {part : Part}
    (selected : select position number (axis :: axes) selectors = .ok part) :
    (∃ place distance, place < axis.extent ∧ mul (toSigned place) axis.stride = .ok distance ∧
      select (position + distance) (number + 1) axes selectors.tail = .ok part) ∨
    (∃ slice range rest, Slice.resolve slice axis.extent = .ok range ∧
      select (position + range.first * axis.stride) (number + 1) axes selectors.tail = .ok rest ∧
      part = rest.keep ⟨range.count, axis.stride * range.step⟩) ∨
    (∃ rest, axis.extent = 0 ∧ select position (number + 1) axes selectors.tail = .ok rest ∧
      part = rest.keep axis) := by
  unfold select at selected
  split at selected
  · rename_i place _
    split at selected
    · cases selected
    · rename_i below
      obtain ⟨distance, multiplied, adding⟩ := Except.bind_eq_ok_iff.1 selected
      obtain ⟨next, added, selecting⟩ := Except.bind_eq_ok_iff.1 adding
      rw [add_eq_ok added] at selecting
      exact .inl ⟨place, distance, Nat.lt_of_not_le below, multiplied, selecting⟩
  · rename_i slice _
    split at selected
    · rename_i empty
      obtain ⟨rest, selecting, kept⟩ := Except.bind_eq_ok_iff.1 selected
      cases kept
      exact .inr (.inr ⟨rest, empty.1, selecting, rfl⟩)
    · obtain ⟨range, resolved, multiplying⟩ := Except.bind_eq_ok_iff.1 selected
      obtain ⟨distance, multiplied, adding⟩ := Except.bind_eq_ok_iff.1 multiplying
      obtain ⟨next, added, striding⟩ := Except.bind_eq_ok_iff.1 adding
      obtain ⟨stride, strode, keeping⟩ := Except.bind_eq_ok_iff.1 striding
      obtain ⟨rest, selecting, kept⟩ := Except.bind_eq_ok_iff.1 keeping
      rw [add_eq_ok added, mul_eq_ok multiplied] at selecting
      cases kept
      rw [mul_eq_ok strode]
      exact .inr (.inl ⟨slice, range, rest, resolved, selecting, rfl⟩)

/-- An element of a part is an element of the whole: it has an index there that leads to the same
position. -/
theorem exists_within_of_select {length number : Nat} {position : Int} {axes : List Axis}
    {selectors : List Selector} {part : Part} {index : List Nat} (short : length < 2 ^ 63)
    (inside : Inside length position axes) (populated : Populated axes)
    (selected : select position number axes selectors = .ok part)
    (within : Within part.axes index) :
    ∃ whole, Within axes whole ∧
      part.position + displacement part.axes index = position + displacement axes whole := by
  induction axes generalizing position number selectors part index with
  | nil =>
      cases selected
      exact ⟨index, within, rfl⟩
  | cons axis axes ih =>
      have rest := (populated_cons_iff.1 populated).2
      rcases select_cons selected with
        ⟨place, distance, below, multiplied, selecting⟩ |
        ⟨slice, range, kept, resolved, selecting, rfl⟩ | ⟨kept, empty, _, _⟩
      · have exact := (inside.step_eq short populated below).1
        rw [multiplied] at exact
        cases exact
        obtain ⟨whole, member, equal⟩ := ih (inside.along below) rest selecting within
        refine ⟨place :: whole, within_cons_iff.2 ⟨below, member⟩, ?_⟩
        rw [equal, displacement, Int.add_assoc]
      · cases within with
        | @cons _ place _ index below within =>
            obtain ⟨nonneg, least, _⟩ := Slice.resolve_eq_ok resolved
            obtain ⟨above, under⟩ := Slice.resolve_index resolved below
            have start : range.first = (range.first.toNat : Int) := by omega
            rw [start] at selecting
            obtain ⟨whole, member, equal⟩ := ih (inside.along (by omega)) rest selecting within
            refine ⟨(range.first + place * range.step).toNat :: whole,
              within_cons_iff.2 ⟨by omega, member⟩, ?_⟩
            rw [← start] at equal
            simp only [keep, displacement, Int.toNat_of_nonneg above]
            linear_combination equal
      · exact absurd (populated_cons_iff.1 populated).1 (by omega)

/-- A part of axes of which one has no element has an axis without element too. -/
theorem not_populated_of_select {number : Nat} {position : Int} {axes : List Axis}
    {selectors : List Selector} {part : Part} (empty : ¬ Populated axes)
    (selected : select position number axes selectors = .ok part) : ¬ Populated part.axes := by
  induction axes generalizing position number selectors part with
  | nil => exact absurd (List.forall_mem_nil _) empty
  | cons axis axes ih =>
      rw [populated_cons_iff, not_and] at empty
      rcases select_cons selected with
        ⟨place, distance, below, _, selecting⟩ | ⟨slice, range, kept, resolved, selecting, rfl⟩ |
        ⟨kept, none, _, rfl⟩
      · exact ih (empty (Nat.zero_lt_of_lt below)) selecting
      · obtain ⟨nonneg, least, _⟩ := Slice.resolve_eq_ok resolved
        have remaining := ih (empty (by omega)) selecting
        intro populated
        exact remaining (populated_cons_iff.1 populated).2
      · intro populated
        exact absurd (populated_cons_iff.1 populated).1 (by omega)

/-- A part of a layout inside a buffer is inside it. -/
theorem inside_of_select {length number : Nat} {position : Int} {axes : List Axis}
    {selectors : List Selector} {part : Part} (short : length < 2 ^ 63)
    (inside : Inside length position axes)
    (selected : select position number axes selectors = .ok part) :
    Inside length part.position part.axes := by
  intro index within
  have populated : Populated axes := by
    by_contra empty
    exact not_populated_of_select empty selected within.populated
  obtain ⟨whole, member, equal⟩ := exists_within_of_select short inside populated selected within
  rw [equal]
  exact inside whole member

end Part

end PathStore
