import Mathlib.Algebra.BigOperators.Group.List.Lemmas
import Mathlib.Tactic.Ring
import PathStore.Proofs.Array.Checks
import PathStore.Proofs.Array.RowMajor

/-!
# Canonical strides

The canonical strides of a shape are the products of the extents before each axis, in column-major order
from the first axis on and in row-major order from the last. As long as these products are addresses, the
tests of contiguity recognise them and nothing else. In a layout with canonical strides each place in one
order stands at the place it has in that order, so that the elements fill the buffer without gaps; the
places in row-major order are those in column-major order in another arrangement.
-/

namespace PathStore

open Address

namespace Layout

/-! ## Products of extents -/

/-- Every product of extents, from the first on, is an address. -/
def ProductsFit (shape : List Nat) : Prop := Multiplies (· < 2 ^ 63) 1 shape

/-- The products of a number with the extents before each position of a shape. -/
def productsBefore (before : Nat) : List Nat → List Int
  | [] => []
  | extent :: rest => before :: productsBefore (before * extent) rest

@[simp] theorem length_productsBefore (before : Nat) (shape : List Nat) :
    (productsBefore before shape).length = shape.length := by
  induction shape generalizing before with
  | nil => rfl
  | cons extent shape ih => rw [productsBefore, List.length_cons, List.length_cons, ih]

theorem productsBefore_append (before : Nat) (front back : List Nat) :
    productsBefore before (front ++ back) =
      productsBefore before front ++ productsBefore (before * front.prod) back := by
  induction front generalizing before with
  | nil => rw [List.prod_nil, Nat.mul_one]; rfl
  | cons extent front ih =>
      rw [List.cons_append, productsBefore, productsBefore, ih, List.cons_append, List.prod_cons,
        Nat.mul_assoc]

/-- The exact strides of a shape in column-major order. -/
def columnProducts (shape : List Nat) : List Int := productsBefore 1 shape

/-- The exact strides of a shape in row-major order. -/
def rowProducts (shape : List Nat) : List Int := (productsBefore 1 shape.reverse).reverse

@[simp] theorem length_columnProducts (shape : List Nat) :
    (columnProducts shape).length = shape.length :=
  length_productsBefore 1 shape

@[simp] theorem length_rowProducts (shape : List Nat) :
    (rowProducts shape).length = shape.length := by
  simp [rowProducts]

theorem extentProduct_of_nonempty {shape : List Nat} (nonempty : 0 ∉ shape) :
    extentProduct shape = shape.prod := by
  have kept : shape.filter (· ≠ 0) = shape := by
    refine List.filter_eq_self.2 fun extent member => decide_eq_true ?_
    rintro rfl
    exact nonempty member
  rw [extentProduct, kept]

theorem ProductsFit.prod_lt {shape : List Nat} (fits : ProductsFit shape) : shape.prod < 2 ^ 63 := by
  simpa using fits shape.length

/-- Without a zero among the extents, the product of all of them is the largest. -/
theorem productsFit_of_prod_lt {shape : List Nat} (nonempty : 0 ∉ shape)
    (small : shape.prod < 2 ^ 63) : ProductsFit shape := by
  intro count
  have below := prod_take_le shape count
  rw [extentProduct_of_nonempty nonempty] at below
  omega

theorem ProductsFit.reverse {shape : List Nat} (fits : ProductsFit shape) (nonempty : 0 ∉ shape) :
    ProductsFit shape.reverse := by
  refine productsFit_of_prod_lt (mt List.mem_reverse.1 nonempty) ?_
  rw [List.prod_reverse]
  exact fits.prod_lt

/-- Reading an extent as a signed number changes no product that is an address: if it is too large, it
is multiplied by zero. -/
theorem mul_toSigned_extent {before extent : Nat} (small : before * extent < 2 ^ 63) :
    (before : Int) * toSigned extent = (before * extent : Nat) := by
  rcases Nat.eq_zero_or_pos before with zero | positive
  · rw [zero, Nat.zero_mul, Int.natCast_zero, Int.zero_mul]
  · have moderate : extent < 2 ^ 63 :=
      Nat.lt_of_le_of_lt (Nat.le_mul_of_pos_left extent positive) small
    rw [toSigned_of_lt moderate, Int.natCast_mul]

/-! ## Canonical strides -/

theorem runningProducts_eq {before : Nat} {shape : List Nat}
    (fits : Multiplies (· < 2 ^ 63) before shape) :
    runningProducts before shape = .ok (productsBefore before shape) := by
  induction shape generalizing before with
  | nil => rfl
  | cons extent shape ih =>
      have rest := (multiplies_cons.1 fits).2
      have small := rest.fits_start
      have multiplied : mul before (toSigned extent) = .ok ((before * extent : Nat) : Int) := by
        rw [mul, mul_toSigned_extent small]
        exact signed_of_isSigned (isSigned_of_lt (by omega) (by omega))
      rw [runningProducts, multiplied, Except.ok_bind, ih rest]
      rfl

theorem columnMajorStrides_eq {shape : List Nat} (fits : ProductsFit shape) :
    columnMajorStrides shape = .ok (columnProducts shape) :=
  runningProducts_eq fits

theorem rowMajorStrides_eq {shape : List Nat} (fits : ProductsFit shape.reverse) :
    rowMajorStrides shape = .ok (rowProducts shape) := by
  have computed : runningProducts 1 shape.reverse = .ok (productsBefore 1 shape.reverse) :=
    runningProducts_eq fits
  rw [rowMajorStrides, computed]
  rfl

/-- The two orders differ in the direction in which the axes are counted. -/
theorem columnMajorStrides_eq_reverse (shape : List Nat) :
    columnMajorStrides shape = List.reverse <$> rowMajorStrides shape.reverse := by
  rw [columnMajorStrides, rowMajorStrides, List.reverse_reverse]
  cases runningProducts 1 shape with
  | error failure => rfl
  | ok strides => exact congrArg Except.ok strides.reverse_reverse.symm

/-! ## The tests of contiguity -/

theorem clamp_of_isSigned {number : Int} (given : IsSigned number) : clamp number = number := by
  rw [clamp, min_eq_right given.2, max_eq_right given.1]

theorem isPacked_iff {before : Nat} {axes : List Axis}
    (fits : Multiplies (· < 2 ^ 63) before (shape axes)) :
    isPacked before axes = true ↔ strides axes = productsBefore before (shape axes) := by
  induction axes generalizing before with
  | nil => exact iff_of_true rfl rfl
  | cons axis axes ih =>
      have rest := (multiplies_cons.1 fits).2
      have small := rest.fits_start
      have next : clamp (before * toSigned axis.extent) = (before * axis.extent : Nat) := by
        rw [mul_toSigned_extent small]
        exact clamp_of_isSigned (isSigned_of_lt (by omega) (by omega))
      rw [isPacked, next, Bool.and_eq_true, beq_iff_eq, ih rest]
      exact List.cons.injEq .. ▸ Iff.rfl

theorem strides_reverse (axes : List Axis) : strides axes.reverse = (strides axes).reverse :=
  List.map_reverse

theorem shape_reverse (axes : List Axis) : shape axes.reverse = (shape axes).reverse :=
  List.map_reverse

/-- Reversing the axes turns row-major order into column-major order. -/
theorem strides_eq_columnProducts_reverse {axes : List Axis} :
    strides axes.reverse = columnProducts (shape axes.reverse) ↔
      strides axes = rowProducts (shape axes) := by
  rw [strides_reverse, shape_reverse, List.reverse_eq_iff]
  rfl

theorem isColumnMajor_iff {axes : List Axis} (fits : ProductsFit (shape axes)) :
    isColumnMajor axes = true ↔ axes.length = 1 ∨ strides axes = columnProducts (shape axes) := by
  rw [isColumnMajor, Bool.or_eq_true, beq_iff_eq]
  exact or_congr Iff.rfl (isPacked_iff fits)

theorem isRowMajor_iff {axes : List Axis} (fits : ProductsFit (shape axes).reverse) :
    isRowMajor axes = true ↔
      axes.length = 1 ∨ strides axes = rowProducts (shape axes) := by
  have packed : isPacked 1 axes.reverse = true ↔
      strides axes.reverse = columnProducts (shape axes.reverse) :=
    isPacked_iff (shape_reverse axes ▸ fits)
  rw [isRowMajor, Bool.or_eq_true, beq_iff_eq, packed, strides_eq_columnProducts_reverse]

/-- Where both canonical strides agree, the extents behind the first axis have the product one: it is the
stride of the first axis in row-major order. -/
theorem prod_tail_eq_one {shape : List Nat} (equal : rowProducts shape = columnProducts shape) :
    shape.tail.prod = 1 := by
  cases shape with
  | nil => rfl
  | cons extent rest =>
      rw [rowProducts, columnProducts, List.reverse_cons, productsBefore_append,
        List.reverse_append, productsBefore, productsBefore, productsBefore, Nat.one_mul,
        List.prod_reverse] at equal
      exact Int.ofNat_inj.1 (List.cons.inj equal).1

theorem eq_one_of_prod_eq_one {shape : List Nat} (unit : shape.prod = 1) :
    ∀ extent ∈ shape, extent = 1 := by
  intro extent member
  exact Nat.dvd_one.1 (unit ▸ List.dvd_prod member)

/-- Both canonical strides of a shape with several axes agree only if there is a single element. -/
theorem eq_one_of_strides_agree {shape : List Nat} (several : 2 ≤ shape.length)
    (equal : rowProducts shape = columnProducts shape) : ∀ extent ∈ shape, extent = 1 := by
  have turned : rowProducts shape.reverse = columnProducts shape.reverse := by
    rw [rowProducts, List.reverse_reverse, List.reverse_eq_iff]
    exact equal.symm
  have behind := eq_one_of_prod_eq_one (prod_tail_eq_one equal)
  have before := eq_one_of_prod_eq_one (prod_tail_eq_one turned)
  intro extent member
  match shape, several with
  | first :: second :: rest, _ =>
    rcases List.mem_cons.1 member with rfl | member
    · refine before extent ?_
      rw [List.tail_reverse]
      exact List.mem_reverse.2 List.mem_cons_self
    · exact behind extent member

/-! ## Places in canonical layouts -/

/-- With the products of the extents before them as strides, axes lead to a multi-index as far as its
place is when the first axis runs fastest. -/
theorem displacement_digits {before : Nat} {axes : List Axis}
    (canonical : strides axes = productsBefore before (shape axes)) (place : Nat) :
    displacement axes (digits axes place) = (before * (place % (shape axes).prod) : Nat) := by
  induction axes generalizing before place with
  | nil => simp [displacement, Nat.mod_one]
  | cons axis axes ih =>
      obtain ⟨stride, rest⟩ := List.cons.inj canonical
      change axis.stride = before at stride
      rw [digits, displacement, ih rest, stride, shape_cons, List.prod_cons, Nat.mod_mul,
        Nat.mul_add, Int.natCast_add, Int.natCast_mul before, Int.mul_comm before, Nat.mul_assoc]

/-- The place of a multi-index in column-major order. -/
def columnMajorPlace (axes : List Axis) (index : List Nat) : Nat :=
  rowMajorPlace axes.reverse index.reverse

theorem columnMajorPlace_lt {axes : List Axis} {index : List Nat} (within : Within axes index) :
    columnMajorPlace axes index < (shape axes).prod := by
  rw [← prod_shape_reverse]
  exact rowMajorPlace_lt within.reverse

theorem digits_columnMajorPlace {axes : List Axis} {index : List Nat} (within : Within axes index) :
    digits axes (columnMajorPlace axes index) = index := by
  have restored := rowMajorIndex_rowMajorPlace within.reverse
  rwa [rowMajorIndex, List.reverse_reverse, List.reverse_inj] at restored

theorem displacement_columnMajor {axes : List Axis} {index : List Nat}
    (canonical : strides axes = columnProducts (shape axes)) (within : Within axes index) :
    displacement axes index = columnMajorPlace axes index := by
  rw [← digits_columnMajorPlace within, displacement_digits canonical, digits_columnMajorPlace within,
    Nat.one_mul, Nat.mod_eq_of_lt (columnMajorPlace_lt within)]

theorem displacement_rowMajor {axes : List Axis} {index : List Nat}
    (canonical : strides axes = rowProducts (shape axes)) (within : Within axes index) :
    displacement axes index = rowMajorPlace axes index := by
  have turned := strides_eq_columnProducts_reverse.2 canonical
  rw [← displacement_reverse within.length_eq, displacement_columnMajor turned within.reverse,
    columnMajorPlace, List.reverse_reverse, List.reverse_reverse]

/-- Taking the multi-indices in row-major order meets every place in column-major order once. -/
theorem bijOn_columnMajorPlace (axes : List Axis) :
    Set.BijOn (fun place => columnMajorPlace axes (rowMajorIndex axes place))
      (Set.Iio (shape axes).prod) (Set.Iio (shape axes).prod) := by
  refine Set.BijOn.comp (g := columnMajorPlace axes) ?_ (bijOn_rowMajorIndex axes)
  refine ⟨fun index within => columnMajorPlace_lt within, ?injOn, ?surjOn⟩
  case injOn =>
    intro index within other otherWithin same
    have equal := congrArg (digits axes) same
    rwa [digits_columnMajorPlace within, digits_columnMajorPlace otherWithin] at equal
  case surjOn =>
    intro place below
    have populated := (populated_iff_prod_pos axes).2 (Nat.zero_lt_of_lt below)
    refine ⟨digits axes place, within_digits populated place, ?_⟩
    have restored := rowMajorPlace_rowMajorIndex axes.reverse place
    rw [prod_shape_reverse, Nat.mod_eq_of_lt below, rowMajorIndex, List.reverse_reverse] at restored
    exact restored

/-- If nothing stands before the first element, how far a place stands behind it is added to the offset
as if at once: the sum of all steps is the largest number that is computed. -/
theorem unravel_eq_add {start : Int} {axes : List Axis} (signed : IsSigned start)
    (inside : Inside (2 ^ 63) 0 axes) (populated : Populated axes) (place : Nat) :
    unravel start place axes = add start (displacement axes (digits axes place)) := by
  induction axes generalizing start place with
  | nil =>
      simp only [unravel, displacement, add, Int.add_zero]
      exact (signed_of_isSigned signed).symm
  | cons axis axes ih =>
      obtain ⟨some, rest⟩ := populated_cons_iff.1 populated
      have below : place % axis.extent < axis.extent := Nat.mod_lt place some
      obtain ⟨nonneg, small⟩ := (inside.along below).start_bounds rest
      have multiplied : mul (toSigned (place % axis.extent)) axis.stride =
          .ok ((place % axis.extent : Nat) * axis.stride) :=
        mul_toSigned (by omega) (by omega)
      have onward : Inside (2 ^ 63) 0 axes := by
        have along := inside.along some
        rwa [Int.natCast_zero, Int.zero_mul, Int.add_zero] at along
      rw [unravel, if_neg (Nat.ne_of_gt some), multiplied, digits, displacement]
      change (add start _ >>= _) = _
      by_cases reached : IsSigned (start + (place % axis.extent : Nat) * axis.stride)
      · rw [add, signed_of_isSigned reached]
        change unravel _ _ _ = _
        rw [ih reached onward rest, add, add, Int.add_assoc]
      -- A sum that is too large stays so: what the other axes add to it is not negative.
      · have further := (onward _ (within_digits rest (place / axis.extent))).1
        have exceeds : ¬ IsSigned (start + ((place % axis.extent : Nat) * axis.stride +
            displacement axes (digits axes (place / axis.extent)))) := by
          unfold IsSigned at signed reached ⊢
          omega
        rw [add, add, Address.signed, Address.signed, if_neg reached, if_neg exceeds]
        rfl

theorem isSigned_toSigned (number : Nat) : IsSigned (toSigned number) := by
  have above : -(0x10000000000000000 / 2) ≤ toSigned number := Int.le_bmod (by decide)
  have below : toSigned number < (0x10000000000000000 + 1) / 2 := Int.bmod_lt (by decide)
  exact isSigned_of_lt (by omega) (by omega)

theorem linearPosition_eq_add {axes : List Axis} (inside : Inside (2 ^ 63) 0 axes)
    (populated : Populated axes) (offset place : Nat) :
    linearPosition offset axes place =
      toUnsigned <$> add (toSigned offset) (displacement axes (rowMajorIndex axes place)) := by
  have within := within_rowMajorIndex populated place
  rw [linearPosition, unravel_eq_add (isSigned_toSigned offset) inside.reverse
    (populated_reverse populated), ← displacement_reverse within.length_eq, rowMajorIndex,
    List.reverse_reverse]

/-- The places in row-major order stand at the given distances behind the offset, which are all numbers
below their own number. Only the sum of an offset and a distance can be too large. -/
structure Arranges (axes : List Axis) (size : Nat) (distance : Nat → Nat) : Prop where
  bijective : Set.BijOn distance (Set.Iio size) (Set.Iio size)
  computed : ∀ offset, ∀ place < size,
    linearPosition offset axes place = toUnsigned <$> add (toSigned offset) (distance place)
  exact : ∀ offset, ∀ place < size, offset + distance place < 2 ^ 63 →
    linearPosition offset axes place = .ok (offset + distance place)

theorem arranges_of_displacement {axes : List Axis} {distance : Nat → Nat}
    (small : (shape axes).prod < 2 ^ 63) (inside : Inside (shape axes).prod 0 axes)
    (bijective : Set.BijOn distance (Set.Iio (shape axes).prod) (Set.Iio (shape axes).prod))
    (reaches : ∀ place < (shape axes).prod,
      displacement axes (rowMajorIndex axes place) = distance place) :
    Arranges axes (shape axes).prod distance := by
  have computed : ∀ offset, ∀ place < (shape axes).prod, linearPosition offset axes place =
      toUnsigned <$> add (toSigned offset) (distance place) := by
    intro offset place below
    have populated := (populated_iff_prod_pos axes).2 (Nat.zero_lt_of_lt below)
    have wide : Inside (2 ^ 63) 0 axes := by
      intro index within
      obtain ⟨nonneg, under⟩ := inside index within
      exact ⟨nonneg, by omega⟩
    rw [linearPosition_eq_add wide populated, reaches place below]
  refine ⟨bijective, computed, fun offset place below moderate => ?_⟩
  have sum : ((offset : Int) + distance place) = (offset + distance place : Nat) :=
    (Int.natCast_add _ _).symm
  rw [computed offset place below, toSigned_of_lt (by omega), add, sum,
    signed_of_isSigned (isSigned_of_lt (by omega) (by omega))]
  change Except.ok (toUnsigned _) = _
  rw [toUnsigned_of_nonneg (by omega) (by omega), Int.toNat_natCast]

section Canonical

variable {axes : List Axis}

theorem inside_columnMajor (canonical : strides axes = columnProducts (shape axes)) :
    Inside (shape axes).prod 0 axes := by
  intro index within
  have below := columnMajorPlace_lt within
  rw [displacement_columnMajor canonical within]
  omega

theorem inside_rowMajor (canonical : strides axes = rowProducts (shape axes)) :
    Inside (shape axes).prod 0 axes := by
  intro index within
  have below := rowMajorPlace_lt within
  rw [displacement_rowMajor canonical within]
  omega

theorem arranges_columnMajor (small : (shape axes).prod < 2 ^ 63)
    (canonical : strides axes = columnProducts (shape axes)) :
    Arranges axes (shape axes).prod fun place =>
      columnMajorPlace axes (rowMajorIndex axes place) := by
  refine arranges_of_displacement small (inside_columnMajor canonical)
    (bijOn_columnMajorPlace axes) fun place below => ?_
  have populated := (populated_iff_prod_pos axes).2 (Nat.zero_lt_of_lt below)
  exact displacement_columnMajor canonical (within_rowMajorIndex populated place)

theorem displacement_rowMajorIndex
    (canonical : strides axes = rowProducts (shape axes)) {place : Nat}
    (below : place < (shape axes).prod) :
    displacement axes (rowMajorIndex axes place) = place := by
  have populated := (populated_iff_prod_pos axes).2 (Nat.zero_lt_of_lt below)
  rw [displacement_rowMajor canonical (within_rowMajorIndex populated place),
    rowMajorPlace_rowMajorIndex, Nat.mod_eq_of_lt below]

theorem arranges_rowMajor (small : (shape axes).prod < 2 ^ 63)
    (canonical : strides axes = rowProducts (shape axes)) :
    Arranges axes (shape axes).prod id :=
  arranges_of_displacement small (inside_rowMajor canonical) (Set.bijOn_id _) fun _ below =>
    displacement_rowMajorIndex canonical below

end Canonical

/-- In a layout inside a buffer the products that the test of contiguity goes through are addresses: each
is at most one more than a position in the buffer. -/
theorem multiplies_of_isPacked {length before : Nat} {start : Int} {axes : List Axis}
    (short : length < 2 ^ 63) (inside : Inside length start axes) (populated : Populated axes)
    (positive : 0 < before) (reached : before ≤ start + 1) (packed : isPacked before axes = true) :
    Multiplies (· < 2 ^ 63) before (shape axes) := by
  induction axes generalizing start before with
  | nil =>
      have bounds := inside.start_bounds populated
      exact multiplies_nil.2 (by omega)
  | cons axis axes ih =>
      obtain ⟨some, rest⟩ := populated_cons_iff.1 populated
      rw [isPacked, Bool.and_eq_true, beq_iff_eq] at packed
      obtain ⟨stride, packed⟩ := packed
      have bounds := inside.start_bounds populated
      have along := inside.along (Nat.sub_lt some Nat.one_pos)
      have behind := along.start_bounds rest
      have product : (before * axis.extent : Nat) =
          ((axis.extent - 1 : Nat) : Int) * axis.stride + before := by
        obtain ⟨last, extent⟩ := Nat.exists_eq_succ_of_ne_zero (Nat.ne_of_gt some)
        rw [stride, extent, Nat.succ_sub_one]
        push_cast
        ring
      have small : before * axis.extent < 2 ^ 63 := by omega
      rw [mul_toSigned_extent small,
        clamp_of_isSigned (isSigned_of_lt (by omega) (by omega))] at packed
      refine multiplies_cons.2 ⟨by omega, ?_⟩
      exact ih along rest (Nat.mul_pos positive some) (by dsimp only; omega) packed

end Layout

/-! ## Arrays with canonical strides -/

namespace Layout

variable {extents : List Nat}

/-- Each test of contiguity recognises the canonical strides of its order, and any stride of a single
axis. -/
structure Recognised (extents : List Nat) : Prop where
  rowMajor : ProductsFit extents.reverse → ∃ strides, rowMajorStrides extents = .ok strides ∧
    strides.length = extents.length ∧ ∀ given : List Int, given.length = extents.length →
      (isRowMajor (axes extents given) = true ↔ extents.length = 1 ∨ given = strides)
  columnMajor : ProductsFit extents → ∃ strides, columnMajorStrides extents = .ok strides ∧
    strides.length = extents.length ∧ ∀ given : List Int, given.length = extents.length →
      (isColumnMajor (axes extents given) = true ↔ extents.length = 1 ∨ given = strides)
  reversed : columnMajorStrides extents = List.reverse <$> rowMajorStrides extents.reverse
  single : ProductsFit extents → ProductsFit extents.reverse → 2 ≤ extents.length →
    ∀ given : List Int, given.length = extents.length →
      isRowMajor (axes extents given) = true → isColumnMajor (axes extents given) = true →
        ∀ extent ∈ extents, extent = 1

/-- The canonical layouts of a shape fit a buffer of as many elements, and fill it: in row-major order
one element after the other, in column-major order in another arrangement. -/
structure Enumerated (extents : List Nat) : Prop where
  rowMajor : ∃ strides, rowMajorStrides extents = .ok strides ∧
    check extents.prod 0 extents strides = .ok extents.prod ∧
      Arranges (axes extents strides) extents.prod id
  columnMajor : ∃ strides, columnMajorStrides extents = .ok strides ∧
    check extents.prod 0 extents strides = .ok extents.prod ∧
      ∃ distance, Arranges (axes extents strides) extents.prod distance

theorem length_axes {given : List Int} (ranks : given.length = extents.length) :
    (axes extents given).length = extents.length := by
  rw [axes, List.length_zipWith, ranks, Nat.min_self]

theorem isRowMajor_axes_iff {given : List Int} (ranks : given.length = extents.length)
    (fits : ProductsFit extents.reverse) :
    isRowMajor (axes extents given) = true ↔ extents.length = 1 ∨ given = rowProducts extents := by
  have shaped := shape_axes ranks.symm
  rw [isRowMajor_iff (shaped.symm ▸ fits), shaped, strides_axes ranks.symm, length_axes ranks]

theorem isColumnMajor_axes_iff {given : List Int} (ranks : given.length = extents.length)
    (fits : ProductsFit extents) :
    isColumnMajor (axes extents given) = true ↔
      extents.length = 1 ∨ given = columnProducts extents := by
  have shaped := shape_axes ranks.symm
  rw [isColumnMajor_iff (shaped.symm ▸ fits), shaped, strides_axes ranks.symm, length_axes ranks]

theorem recognised (extents : List Nat) : Recognised extents where
  rowMajor fits :=
    ⟨_, rowMajorStrides_eq fits, length_rowProducts extents, fun _ ranks =>
      isRowMajor_axes_iff ranks fits⟩
  columnMajor fits :=
    ⟨_, columnMajorStrides_eq fits, length_columnProducts extents, fun _ ranks =>
      isColumnMajor_axes_iff ranks fits⟩
  reversed := columnMajorStrides_eq_reverse extents
  single fits turned several given ranks row column := by
    have rows := ((isRowMajor_axes_iff ranks turned).1 row).resolve_left (by omega)
    have columns := ((isColumnMajor_axes_iff ranks fits).1 column).resolve_left (by omega)
    exact eq_one_of_strides_agree several (rows.symm.trans columns)

/-- A layout that fits as many elements as it has passes the check for them. -/
theorem check_of_inside {given : List Int} (ranks : given.length = extents.length)
    (nonempty : 0 ∉ extents) (fits : ProductsFit extents)
    (inside : Inside extents.prod 0 (axes extents given)) :
    check extents.prod 0 extents given = .ok extents.prod := by
  have small := fits.prod_lt
  have product := extentProduct_of_nonempty nonempty
  refine (check_eq_ok_iff_inside small (fun extent member => ?_) ranks.symm
    (countable_of_lt (by omega)) nonempty).2 inside
  have below := le_extentProduct member
  omega

theorem strides_axes_rowProducts (extents : List Nat) :
    strides (axes extents (rowProducts extents)) =
      rowProducts (shape (axes extents (rowProducts extents))) := by
  have ranks := (length_rowProducts extents).symm
  rw [shape_axes ranks, strides_axes ranks]

theorem strides_axes_columnProducts (extents : List Nat) :
    strides (axes extents (columnProducts extents)) =
      columnProducts (shape (axes extents (columnProducts extents))) := by
  have ranks := (length_columnProducts extents).symm
  rw [shape_axes ranks, strides_axes ranks]

theorem check_rowMajor (nonempty : 0 ∉ extents) (fits : ProductsFit extents) :
    check extents.prod 0 extents (rowProducts extents) = .ok extents.prod := by
  have inside := inside_rowMajor (strides_axes_rowProducts extents)
  rw [shape_axes (length_rowProducts extents).symm] at inside
  exact check_of_inside (length_rowProducts extents) nonempty fits inside

theorem check_columnMajor (nonempty : 0 ∉ extents) (fits : ProductsFit extents) :
    check extents.prod 0 extents (columnProducts extents) = .ok extents.prod := by
  have inside := inside_columnMajor (strides_axes_columnProducts extents)
  rw [shape_axes (length_columnProducts extents).symm] at inside
  exact check_of_inside (length_columnProducts extents) nonempty fits inside

theorem enumerated (nonempty : 0 ∉ extents) (fits : ProductsFit extents) :
    Enumerated extents where
  rowMajor := by
    have shaped := shape_axes (length_rowProducts extents).symm
    have small : (shape (axes extents (rowProducts extents))).prod < 2 ^ 63 := by
      rw [shaped]
      exact fits.prod_lt
    have arranged := arranges_rowMajor small (strides_axes_rowProducts extents)
    rw [shaped] at arranged
    exact ⟨_, rowMajorStrides_eq (fits.reverse nonempty), check_rowMajor nonempty fits, arranged⟩
  columnMajor := by
    have shaped := shape_axes (length_columnProducts extents).symm
    have small : (shape (axes extents (columnProducts extents))).prod < 2 ^ 63 := by
      rw [shaped]
      exact fits.prod_lt
    have arranged := arranges_columnMajor small (strides_axes_columnProducts extents)
    rw [shaped] at arranged
    exact ⟨_, columnMajorStrides_eq fits, check_columnMajor nonempty fits, _, arranged⟩

end Layout

namespace View

open Layout

/-- A view that passes the test of row-major order, its single axis also having the stride one, lists the
elements of its buffer from its offset on. -/
theorem linearPosition_of_isPacked {length : Nat} {view : View} {place : Nat} (short : length < 2 ^ 63)
    (sound : view.Sound length) (packed : isPacked 1 view.axes.reverse = true)
    (below : place < view.size) :
    view.offset + place < length ∧ view.linearPosition place = .ok (view.offset + place) := by
  have populated := sound.populated_iff.2 (Nat.zero_lt_of_lt below)
  have fits : ProductsFit (Layout.shape view.axes.reverse) :=
    multiplies_of_isPacked short sound.inside.reverse (populated_reverse populated) Nat.one_pos
      (by omega) packed
  have canonical := strides_eq_columnProducts_reverse.1 ((isPacked_iff fits).1 packed)
  obtain ⟨position, inside, found, reached⟩ := linearPosition_eq short sound.inside populated place
  rw [sound.counted, View.shape] at below
  rw [displacement_rowMajorIndex canonical below] at reached
  have exact : position = view.offset + place := by omega
  rw [← exact]
  exact ⟨inside, found⟩

theorem isPacked_of_isRowMajor {view : View} (contiguous : isRowMajor view.axes = true)
    (unit : view.axes.length ≠ 1 ∨ view.strides = [1]) :
    isPacked 1 view.axes.reverse = true := by
  rw [isRowMajor, Bool.or_eq_true, beq_iff_eq] at contiguous
  rcases contiguous with line | packed
  · have stride := unit.resolve_left (not_not_intro line)
    obtain ⟨axis, single⟩ := List.length_eq_one_iff.1 line
    rw [View.strides, single] at stride
    rw [single, List.reverse_singleton, isPacked, isPacked, Bool.and_true, beq_iff_eq]
    exact (List.cons.inj stride).1
  · exact packed

/-- The elements of a contiguous view are a segment of its buffer. -/
theorem toList_of_isRowMajor {length : Nat} {view : View} {world : World} (short : length < 2 ^ 63)
    (sound : view.Sound length) (known : (world.elements view.buffer.id).length = length)
    (admitted : world.admits ⟨.buffer view.buffer.id, .reading⟩)
    (contiguous : isRowMajor view.axes = true)
    (unit : view.axes.length ≠ 1 ∨ view.strides = [1]) :
    view.toList world =
        .ok (((world.elements view.buffer.id).drop view.offset).take view.size) world ∧
      (((world.elements view.buffer.id).drop view.offset).take view.size).length = view.size := by
  have packed := isPacked_of_isRowMajor contiguous unit
  have behind : view.size ≤ length - view.offset := by
    rcases Nat.eq_zero_or_pos view.size with none | some
    · omega
    · have last := (linearPosition_of_isPacked short sound packed (Nat.sub_lt some Nat.one_pos)).1
      omega
  have filled : (((world.elements view.buffer.id).drop view.offset).take view.size).length =
      view.size := by
    rw [List.length_take, List.length_drop, known, Nat.min_eq_left behind]
  have room : view.Listable length := .inl (behind.trans (Nat.sub_le _ _))
  obtain ⟨listed, ran, count, each⟩ := exists_toList_eq short sound known admitted room
  suffices same : listed = ((world.elements view.buffer.id).drop view.offset).take view.size from
    ⟨same ▸ ran, filled⟩
  refine List.ext_getElem (count.trans filled.symm) fun place below _ => ?_
  have read := each place listed[place] (List.getElem?_eq_getElem below)
  obtain ⟨inside, found⟩ := linearPosition_of_isPacked short sound packed (count ▸ below)
  rw [← known] at inside
  rw [getLinear_apply, checkedPosition, if_neg (Nat.not_le_of_lt (count ▸ below)), found] at read
  dsimp only at read
  rw [BufferRef.get_eq inside, if_pos admitted] at read
  rw [List.getElem_take, List.getElem_drop]
  exact (EStateM.Result.ok.inj read).1.symm

end View

namespace Block

open Layout

variable {extents : List Nat}

/-- Data can be given any shape that has as many elements, and no other. -/
theorem exists_ofShape_iff (elem : ElemType) (data : List Scalar) (nonempty : 0 ∉ extents)
    (fits : ProductsFit extents) :
    (∃ block, ofShape elem data extents = .ok block) ↔ data.length = extents.prod := by
  constructor
  · rintro ⟨block, made⟩
    obtain ⟨strides, _, made⟩ := ofShape_eq_ok made
    exact (check_eq_ok (make_eq_ok made).2).2.1
  · intro equal
    have product := extentProduct_of_nonempty nonempty
    have small := fits.prod_lt
    have countable : Countable extents := countable_of_lt (by omega)
    have counted := elementCount_of_countable countable
    refine ⟨⟨elem, .owned data, Layout.axes extents (rowProducts extents), extents.prod⟩, ?_⟩
    rw [ofShape, rowMajorStrides_eq (fits.reverse nonempty), Except.ok_bind, make, counted,
      Except.ok_bind, if_neg (not_not_intro equal), equal, check_rowMajor nonempty fits]
    rfl

/-- A buffer can be borrowed with any shape that has no more elements. -/
theorem exists_ofBufferShape_borrowed_iff (buffer : BufferRef) (world : World)
    (nonempty : 0 ∉ extents) (fits : ProductsFit extents) :
    (∃ block left, ofBufferShape buffer extents .borrowed world = .ok block left) ↔
      extents.prod ≤ (world.elements buffer.id).length := by
  have product := extentProduct_of_nonempty nonempty
  have small := fits.prod_lt
  have countable : Countable extents := countable_of_lt (by omega)
  have counted := elementCount_of_countable countable
  have made : ofBufferShape buffer extents .borrowed world =
      ofBuffer buffer extents (rowProducts extents) .borrowed world := by
    change (Op.ofExcept (rowMajorStrides extents) >>= _) world = _
    rw [rowMajorStrides_eq (fits.reverse nonempty)]
    rfl
  rw [made, ofBuffer_eq, sizeOver, counted, Except.ok_bind, check_rowMajor nonempty fits]
  by_cases long : extents.prod ≤ (world.elements buffer.id).length
  · rw [if_neg (Nat.not_lt_of_le long)]
    exact iff_of_true ⟨_, _, rfl⟩ long
  · rw [if_pos (Nat.lt_of_not_le long)]
    refine iff_of_false ?_ long
    rintro ⟨block, left, made⟩
    cases made

end Block

/-- Canonical strides are what the tests of contiguity recognise, and they enumerate the elements of a
buffer. So a contiguous view lists a segment of its buffer, and whether a block can be made in row-major
order is only a question of how many elements there are. -/
theorem canonical_strides :
    (∀ extents, Layout.Recognised extents) ∧
    (∀ extents, 0 ∉ extents → Layout.ProductsFit extents →
      Layout.Enumerated extents ∧
      (∀ elem data, (∃ block, Block.ofShape elem data extents = .ok block) ↔
        data.length = extents.prod) ∧
      ∀ buffer world,
        (∃ block left, Block.ofBufferShape buffer extents .borrowed world = .ok block left) ↔
          extents.prod ≤ (world.elements buffer.id).length) ∧
    (∀ {length : Nat} {view : View} {world : World}, length < 2 ^ 63 →
      View.Reachable length view → (world.elements view.buffer.id).length = length →
      world.admits ⟨.buffer view.buffer.id, .reading⟩ → Layout.isRowMajor view.axes = true →
      view.axes.length ≠ 1 ∨ view.strides = [1] → ∀ owner,
      let segment := ((world.elements view.buffer.id).drop view.offset).take view.size
      View.toList { view with owner } world = .ok segment world ∧ segment.length = view.size) := by
  refine ⟨Layout.recognised, ?nonempty, ?listed⟩
  case nonempty =>
    intro extents nonempty fits
    exact ⟨Layout.enumerated nonempty fits,
      fun elem data => Block.exists_ofShape_iff elem data nonempty fits,
      fun buffer world => Block.exists_ofBufferShape_borrowed_iff buffer world nonempty fits⟩
  case listed =>
    intro length view world short reachable known admitted contiguous unit owner
    have sound := reachable.sound short
    have owned : View.Sound length { view with owner } := ⟨sound.counted, sound.inside⟩
    exact View.toList_of_isRowMajor short owned known admitted contiguous unit

/-- Two rows of three elements, of which the first stands at the second position of the buffer. -/
theorem canonical_strides_twoRows :
    let elements : List Scalar := (List.range 8).map fun number => .integer (.ofNat number)
    let world : World := ⟨default, ⟨[elements]⟩, default, []⟩
    let rows : View := ⟨⟨.integer, ⟨0⟩⟩, 1, [⟨2, 3⟩, ⟨3, 1⟩], 6, none⟩
    Layout.rowMajorStrides [2, 3] = .ok [3, 1] ∧ Layout.columnMajorStrides [2, 3] = .ok [1, 2] ∧
      Layout.Recognised [2, 3] ∧ Layout.Enumerated [2, 3] ∧
      ((∃ block, Block.ofShape .integer elements [2, 3] = .ok block) ↔ elements.length = 6) ∧
      rows.toList world = .ok ((elements.drop 1).take 6) world := by
  intro elements world rows
  obtain ⟨recognised, nonempty, listed⟩ := canonical_strides
  have fits : Layout.ProductsFit [2, 3] := Layout.productsFit_of_prod_lt (by decide) (by decide)
  obtain ⟨enumerated, shaped, _⟩ := nonempty [2, 3] (by decide) fits
  have made : View.make ⟨.integer, ⟨0⟩⟩ 1 [2, 3] [3, 1] world = .ok rows world := rfl
  have reachable : View.Reachable 8 rows := .make rfl made
  have known : (world.elements rows.buffer.id).length = 8 := rfl
  have segment := listed (by decide) reachable known rfl (by decide) (.inl (by decide)) none
  exact ⟨rfl, rfl, recognised [2, 3], enumerated, shaped .integer elements, segment.1⟩

end PathStore
