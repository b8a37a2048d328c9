import Mathlib.Data.Set.Card
import Mathlib.Order.Interval.Finset.Nat
import PathStore.Proofs.Array.Arithmetic

/-!
# The indices that slices name

Filling in the ends that a slice leaves open gives the range that it names on an axis. The slice is
resolved to this range just when all of its numbers are addresses, and it begins before the end of the
axis, ends at most there and is not empty. Its length, a quotient rounded up, is then the number of
steps after which the end has not been reached yet.
-/

namespace PathStore

open Address

namespace IndexRange

/-! ## Steps along a range -/

/-- The index that a range reaches in a number of steps. -/
def indexAt (range : IndexRange) (place : Nat) : Int := range.first + place * range.step

/-- An index comes before the end of a range, in the direction of its step. -/
def Before (range : IndexRange) (index : Int) : Prop :=
  if 0 < range.step then index < range.pastLast else range.pastLast < index

instance (range : IndexRange) (index : Int) : Decidable (range.Before index) :=
  inferInstanceAs (Decidable (if 0 < range.step then index < range.pastLast else range.pastLast < index))

/-- The indices of a range, in the order in which its steps reach them. -/
def indices (range : IndexRange) : List Int := (List.range range.count).map range.indexAt

theorem isEmpty_eq_false_iff {range : IndexRange} :
    range.isEmpty = false ↔ range.Before range.first := by
  unfold isEmpty Before
  split <;> simp

/-- Before the end are the steps that do not use up the distance to it. -/
theorem before_indexAt_iff {range : IndexRange} (filled : range.isEmpty = false) (place : Nat) :
    range.Before (range.indexAt place) ↔
      place * range.step.natAbs < (range.pastLast - range.first).natAbs := by
  have begins := isEmpty_eq_false_iff.1 filled
  unfold Before indexAt at *
  split at begins
  · rename_i forward
    have length : (place : Int) * range.step = (place * range.step.natAbs : Nat) := by
      rw [Int.natCast_mul, Int.natAbs_of_nonneg forward.le]
    rw [if_pos forward]
    omega
  · rename_i backward
    have length : (place : Int) * range.step = -(place * range.step.natAbs : Nat) := by
      rw [Int.natCast_mul, Int.ofNat_natAbs_of_nonpos (not_lt.1 backward), mul_neg, neg_neg]
    rw [if_neg backward]
    omega

theorem lt_roundedUp_of_mul_lt {place step distance : Nat} (positive : 0 < step)
    (below : place * step < distance) : place < (distance + step - 1) / step := by
  rw [Nat.lt_iff_add_one_le, Nat.le_div_iff_mul_le positive, Nat.add_mul, Nat.one_mul]
  omega

/-- The length of a range is the number of its steps that stay before the end. -/
theorem before_indexAt_iff_lt_count {range : IndexRange} (moving : range.step ≠ 0)
    (filled : range.isEmpty = false) (place : Nat) :
    range.Before (range.indexAt place) ↔ place < range.count := by
  rw [before_indexAt_iff filled]
  constructor
  · exact lt_roundedUp_of_mul_lt (Int.natAbs_pos.2 moving)
  · exact Slice.mul_lt_of_lt_count

theorem one_le_count {range : IndexRange} (moving : range.step ≠ 0)
    (filled : range.isEmpty = false) : 1 ≤ range.count := by
  refine (before_indexAt_iff_lt_count moving filled 0).1 ?_
  have begins := isEmpty_eq_false_iff.1 filled
  rwa [indexAt, Int.natCast_zero, Int.zero_mul, Int.add_zero]

theorem ncard_before {range : IndexRange} (moving : range.step ≠ 0)
    (filled : range.isEmpty = false) :
    {place : Nat | range.Before (range.indexAt place)}.ncard = range.count := by
  have members : {place : Nat | range.Before (range.indexAt place)} = Set.Iio range.count :=
    Set.ext fun place => before_indexAt_iff_lt_count moving filled place
  rw [members, Set.ncard_eq_toFinset_card', Set.toFinset_Iio, Nat.card_Iio]

theorem indices_forward (extent : Nat) :
    (⟨0, extent, 1⟩ : IndexRange).indices = (List.range extent).map Int.ofNat := by
  have length : (⟨0, extent, 1⟩ : IndexRange).count = extent := by
    simp [count]
  rw [indices, length]
  refine List.map_congr_left fun place _ => ?_
  simp [indexAt]

theorem indices_backward (extent : Nat) :
    (⟨extent - 1, -1, -1⟩ : IndexRange).indices = ((List.range extent).map Int.ofNat).reverse := by
  have length : (⟨extent - 1, -1, -1⟩ : IndexRange).count = extent := by
    simp only [count, Int.natAbs_neg, Int.natAbs_one, Nat.add_sub_cancel, Nat.div_one]
    omega
  rw [indices, length]
  refine List.ext_getElem (by simp) fun place below _ => ?_
  rw [List.length_map, List.length_range] at below
  simp only [List.getElem_map, List.getElem_range, List.getElem_reverse, List.length_map,
    List.length_range, indexAt, Int.ofNat_eq_natCast]
  omega

end IndexRange

namespace Slice

/-! ## Resolving -/

/-- The range that a slice names on an axis, with the ends filled in that it leaves open. -/
def named (slice : Slice) (extent : Nat) : IndexRange where
  first :=
    match slice.start with
    | some start => start
    | none => if 0 < slice.step then 0 else extent - 1
  pastLast :=
    match slice.stop with
    | some stop => stop
    | none => if 0 < slice.step then extent else -1
  step := slice.step

/-- The extent of an axis and the ends that a slice gives are addresses. -/
structure Addressable (slice : Slice) (extent : Nat) : Prop where
  extent : extent < 2 ^ 63
  start : ∀ start ∈ slice.start, start < 2 ^ 63
  stop : ∀ stop ∈ slice.stop, stop < 2 ^ 63

theorem signedIndex_eq_ok_iff {index : Nat} {result : Int} :
    signedIndex index = .ok result ↔ index < 2 ^ 63 ∧ result = index := by
  rw [signedIndex, signedOr_eq_ok_iff, IsSigned, least, greatest]
  omega

theorem firstOf_eq_ok_iff {slice : Slice} {extent : Nat} {first : Int} :
    slice.firstOf extent = .ok first ↔
      (∀ start ∈ slice.start, start < 2 ^ 63) ∧ first = (slice.named extent).first := by
  unfold firstOf named
  cases slice.start with
  | none => simp [pure, Except.pure, eq_comm]
  | some start => simpa using signedIndex_eq_ok_iff

theorem pastLastOf_eq_ok_iff {slice : Slice} {extent : Nat} {pastLast : Int} :
    slice.pastLastOf extent = .ok pastLast ↔
      (∀ stop ∈ slice.stop, stop < 2 ^ 63) ∧ pastLast = (slice.named extent).pastLast := by
  unfold pastLastOf named
  cases slice.stop with
  | none => simp [pure, Except.pure, eq_comm]
  | some stop => simpa using signedIndex_eq_ok_iff

/-- A slice can only be resolved to the range that it names. -/
theorem resolve_eq_ok_iff {slice : Slice} {extent : Nat} {range : IndexRange} :
    slice.resolve extent = .ok range ↔
      slice.Addressable extent ∧ range = slice.named extent ∧
        range.first < extent ∧ range.pastLast ≤ extent ∧ range.isEmpty = false := by
  constructor
  · intro resolved
    obtain ⟨_, begins, _, ends, filled⟩ := resolve_eq_ok resolved
    rw [resolve_eq] at resolved
    obtain ⟨size, sized, ending⟩ := Except.bind_eq_ok_iff.1 resolved
    obtain ⟨pastLast, stopped, beginning⟩ := Except.bind_eq_ok_iff.1 ending
    obtain ⟨first, started, bounding⟩ := Except.bind_eq_ok_iff.1 beginning
    obtain ⟨moderate, rfl⟩ := signedIndex_eq_ok_iff.1 sized
    obtain ⟨stops, rfl⟩ := pastLastOf_eq_ok_iff.1 stopped
    obtain ⟨starts, rfl⟩ := firstOf_eq_ok_iff.1 started
    refine ⟨⟨moderate, starts, stops⟩, ?_, begins, ends, filled⟩
    dsimp only at bounding
    split at bounding
    · cases bounding
    · split at bounding
      · cases bounding
      · cases bounding
        rfl
  · rintro ⟨addressable, rfl, begins, ends, filled⟩
    have sized := signedIndex_eq_ok_iff.2 ⟨addressable.extent, rfl⟩
    have stopped : slice.pastLastOf extent = .ok (slice.named extent).pastLast :=
      pastLastOf_eq_ok_iff.2 ⟨addressable.stop, rfl⟩
    have started : slice.firstOf extent = .ok (slice.named extent).first :=
      firstOf_eq_ok_iff.2 ⟨addressable.start, rfl⟩
    rw [resolve_eq, sized, Except.ok_bind, stopped, Except.ok_bind, started, Except.ok_bind,
      if_neg (by omega)]
    exact if_neg (Bool.eq_false_iff.1 filled)

theorem count_eq_ok {slice : Slice} {extent : Nat} {range : IndexRange}
    (resolved : slice.resolve extent = .ok range) : slice.count extent = .ok range.count := by
  rw [count, resolved]
  rfl

theorem count_eq_error_iff {slice : Slice} {extent : Nat} {failure : Failure} :
    slice.count extent = .error failure ↔ slice.resolve extent = .error failure := by
  unfold count
  cases slice.resolve extent <;> simp [bind, Except.bind, pure, Except.pure]

theorem named_forward {slice : Slice} (extent : Nat) (start : slice.start = none)
    (stop : slice.stop = none) (forward : slice.step = 1) :
    slice.named extent = ⟨0, extent, 1⟩ := by
  simp [named, start, stop, forward]

theorem named_backward {slice : Slice} (extent : Nat) (start : slice.start = none)
    (stop : slice.stop = none) (backward : slice.step = -1) :
    slice.named extent = ⟨extent - 1, -1, -1⟩ := by
  simp [named, start, stop, backward]

/-- Open at both ends and going through an axis by ones, a slice names all of its indices. -/
theorem resolve_whole {slice : Slice} {extent : Nat} (start : slice.start = none)
    (stop : slice.stop = none) (some : 0 < extent) (moderate : extent < 2 ^ 63)
    (unit : slice.step = 1 ∨ slice.step = -1) :
    slice.resolve extent = .ok (slice.named extent) := by
  refine resolve_eq_ok_iff.2 ⟨⟨moderate, by simp [start], by simp [stop]⟩, rfl, ?_⟩
  rcases unit with forward | backward
  · rw [named_forward extent start stop forward]
    refine ⟨by dsimp only; omega, le_rfl, IndexRange.isEmpty_eq_false_iff.2 ?_⟩
    exact Int.natCast_pos.2 some
  · rw [named_backward extent start stop backward]
    refine ⟨by dsimp only; omega, by dsimp only; omega, IndexRange.isEmpty_eq_false_iff.2 ?_⟩
    change (-1 : Int) < extent - 1
    omega

/-- What a slice names on an axis: when it is resolved and to what, how many indices there are, and
which. -/
structure Exact (slice : Slice) (extent : Nat) : Prop where
  resolves : ∀ range, slice.resolve extent = .ok range ↔
    slice.Addressable extent ∧ range = slice.named extent ∧
      range.first < extent ∧ range.pastLast ≤ extent ∧ range.isEmpty = false
  bounds : ∀ range, slice.resolve extent = .ok range →
    0 ≤ range.first ∧ range.first < extent ∧ -1 ≤ range.pastLast ∧ range.pastLast ≤ extent
  counts : ∀ range, slice.resolve extent = .ok range →
    ∃ number, slice.count extent = .ok number ∧ 1 ≤ number ∧
      {place : Nat | range.Before (range.indexAt place)}.ncard = number ∧
      (∀ place, range.Before (range.indexAt place) ↔ place < number) ∧
      (∀ place < number, 0 ≤ range.indexAt place ∧ range.indexAt place < extent) ∧
      ¬ range.Before (range.indexAt number)
  fails : ∀ failure, slice.count extent = .error failure ↔ slice.resolve extent = .error failure
  told : ∀ failure, slice.resolve extent = .error failure → Layout.TellsInvalid failure
  refuses :
    extent = 0 ∨ (slice.named extent).isEmpty = true ∨
      extent ≤ (slice.named extent).first ∨ extent < (slice.named extent).pastLast →
    ∃ refusal, slice.resolve extent = .error (.invalid refusal)
  whole : slice.start = none → slice.stop = none → 0 < extent → extent < 2 ^ 63 →
    slice.step = 1 ∨ slice.step = -1 →
    ∃ range, slice.resolve extent = .ok range ∧
      range.indices =
        if slice.step = 1 then (List.range extent).map Int.ofNat
        else ((List.range extent).map Int.ofNat).reverse

/-- Every slice with a step is resolved exactly, on an axis of any extent. -/
theorem resolved_exactly (slice : Slice) (extent : Nat) (moving : slice.step ≠ 0) :
    Exact slice extent where
  resolves range := resolve_eq_ok_iff
  bounds range resolved := by
    obtain ⟨nonneg, begins, least, ends, _⟩ := resolve_eq_ok resolved
    exact ⟨nonneg, begins, least, ends⟩
  counts range resolved := by
    obtain ⟨_, rfl, _, _, filled⟩ := resolve_eq_ok_iff.1 resolved
    have before := IndexRange.before_indexAt_iff_lt_count moving filled
    refine ⟨_, count_eq_ok resolved, IndexRange.one_le_count moving filled,
      IndexRange.ncard_before moving filled, before, ?_, ?_⟩
    · intro place below
      exact resolve_index resolved below
    · rw [before]
      exact lt_irrefl _
  fails failure := count_eq_error_iff
  told := tellsInvalid_resolve slice extent
  refuses refused := by
    cases resolved : slice.resolve extent with
    | error failure =>
        obtain ⟨refusal, rfl⟩ := tellsInvalid_resolve slice extent failure resolved
        exact ⟨refusal, rfl⟩
    | ok range =>
        obtain ⟨nonneg, _⟩ := resolve_eq_ok resolved
        obtain ⟨_, rfl, begins, ends, filled⟩ := resolve_eq_ok_iff.1 resolved
        rcases refused with none | empty | late | long
        · omega
        · rw [filled] at empty
          cases empty
        · omega
        · omega
  whole start stop some moderate unit := by
    refine ⟨_, resolve_whole start stop some moderate unit, ?_⟩
    rcases unit with forward | backward
    · rw [named_forward extent start stop forward, if_pos forward, IndexRange.indices_forward]
    · rw [named_backward extent start stop backward, if_neg (by omega),
        IndexRange.indices_backward]

/-- Every second index, backwards from the last one. -/
theorem resolved_exactly_everySecond :
    let slice : Slice := ⟨some 4, none, -2⟩
    slice.step ≠ 0 ∧ slice.resolve 5 = .ok ⟨4, -1, -2⟩ ∧ slice.count 5 = .ok 3 ∧
      (⟨4, -1, -2⟩ : IndexRange).indices = [4, 2, 0] ∧ Exact slice 5 := by
  intro slice
  exact ⟨by decide, rfl, by decide, rfl, slice.resolved_exactly 5 (by decide)⟩

end Slice

end PathStore
