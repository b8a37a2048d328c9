import Mathlib.Data.Set.Function
import PathStore.Proofs.Array.Views
import PathStore.Proofs.World.Conduct

/-!
# Row-major order

Places are turned into multi-indices by dividing by the extents, from that of the last axis on. Seen from the
first axis, a place is that many runs through all the others, and a place among those. So places and
multi-indices correspond one to one, the larger place has the lexicographically larger multi-index, and
whatever the strides are, the two ways to find an element lead to the same position.
-/

namespace PathStore

open Address

namespace Layout

/-! ## Places and multi-indices -/

/-- The place of a multi-index in row-major order. -/
def rowMajorPlace : List Axis → List Nat → Nat
  | _ :: axes, index :: rest => index * (shape axes).prod + rowMajorPlace axes rest
  | _, _ => 0

@[simp] theorem shape_nil : shape [] = [] := rfl

@[simp] theorem shape_cons (axis : Axis) (axes : List Axis) :
    shape (axis :: axes) = axis.extent :: shape axes := rfl

theorem prod_shape_reverse (axes : List Axis) :
    (shape axes.reverse).prod = (shape axes).prod := by
  rw [shape, List.map_reverse, List.prod_reverse]
  rfl

/-- The digits along further axes are those of what is left once the first ones are divided out. -/
theorem digits_append (front back : List Axis) (place : Nat) :
    digits (front ++ back) place =
      digits front place ++ digits back (place / (shape front).prod) := by
  induction front generalizing place with
  | nil => simp [digits]
  | cons axis front ih =>
      rw [List.cons_append, digits, digits, ih, List.cons_append, shape_cons, List.prod_cons,
        Nat.div_div_eq_div_mul]

@[simp] theorem rowMajorIndex_nil (place : Nat) : rowMajorIndex [] place = [] := rfl

theorem rowMajorIndex_cons (axis : Axis) (axes : List Axis) (place : Nat) :
    rowMajorIndex (axis :: axes) place =
      place / (shape axes).prod % axis.extent :: rowMajorIndex axes place := by
  rw [rowMajorIndex, List.reverse_cons, digits_append, prod_shape_reverse, List.reverse_append]
  rfl

/-- Whole runs through all axes lead back to the same multi-index. -/
theorem rowMajorIndex_add (axes : List Axis) (runs place : Nat) :
    rowMajorIndex axes (runs * (shape axes).prod + place) = rowMajorIndex axes place := by
  induction axes generalizing runs place with
  | nil => rfl
  | cons axis axes ih =>
      rw [rowMajorIndex_cons, rowMajorIndex_cons, shape_cons, List.prod_cons, ← Nat.mul_assoc, ih]
      congr 1
      rcases Nat.eq_zero_or_pos (shape axes).prod with none | some
      · rw [none, Nat.mul_zero, Nat.zero_add]
      · rw [Nat.mul_comm (runs * axis.extent), Nat.mul_add_div some, Nat.mul_add_mod_self_right]

theorem rowMajorIndex_mod (axes : List Axis) (place : Nat) :
    rowMajorIndex axes (place % (shape axes).prod) = rowMajorIndex axes place := by
  nth_rewrite 2 [← Nat.div_add_mod' place (shape axes).prod]
  exact (rowMajorIndex_add axes _ _).symm

/-- The multi-index of a place has that place, up to whole runs through all axes. -/
theorem rowMajorPlace_rowMajorIndex (axes : List Axis) (place : Nat) :
    rowMajorPlace axes (rowMajorIndex axes place) = place % (shape axes).prod := by
  induction axes generalizing place with
  | nil => simp [rowMajorPlace, Nat.mod_one]
  | cons axis axes ih =>
      rw [rowMajorIndex_cons, rowMajorPlace, ih, shape_cons, List.prod_cons,
        Nat.mul_comm axis.extent, Nat.mod_mul, Nat.add_comm, Nat.mul_comm (shape axes).prod]

theorem rowMajorPlace_lt {axes : List Axis} {index : List Nat} (within : Within axes index) :
    rowMajorPlace axes index < (shape axes).prod := by
  induction within with
  | nil => exact Nat.one_pos
  | @cons axis place axes index below _ ih =>
      rw [rowMajorPlace, shape_cons, List.prod_cons]
      calc place * (shape axes).prod + rowMajorPlace axes index
          < place * (shape axes).prod + (shape axes).prod := Nat.add_lt_add_left ih _
        _ = (place + 1) * (shape axes).prod := (Nat.succ_mul _ _).symm
        _ ≤ axis.extent * (shape axes).prod := Nat.mul_le_mul_right _ below

theorem rowMajorIndex_rowMajorPlace {axes : List Axis} {index : List Nat}
    (within : Within axes index) : rowMajorIndex axes (rowMajorPlace axes index) = index := by
  induction within with
  | nil => rfl
  | @cons axis place axes index below rest ih =>
      have small := rowMajorPlace_lt rest
      rw [rowMajorIndex_cons, rowMajorPlace, rowMajorIndex_add, ih, Nat.mul_comm,
        Nat.mul_add_div (Nat.zero_lt_of_lt small), Nat.div_eq_of_lt small, Nat.add_zero,
        Nat.mod_eq_of_lt below]

theorem within_rowMajorIndex {axes : List Axis} (populated : Populated axes) (place : Nat) :
    Within axes (rowMajorIndex axes place) := by
  have turned := (within_digits (populated_reverse populated) place).reverse
  rwa [List.reverse_reverse] at turned

/-- Each multi-index belongs to exactly one place. -/
theorem bijOn_rowMajorIndex (axes : List Axis) :
    Set.BijOn (rowMajorIndex axes) (Set.Iio (shape axes).prod) {index | Within axes index} := by
  refine ⟨?mapsTo, ?injOn, ?surjOn⟩
  case mapsTo =>
    intro place below
    exact within_rowMajorIndex ((populated_iff_prod_pos axes).2 (Nat.zero_lt_of_lt below)) place
  case injOn =>
    intro place below other otherBelow same
    have equal := congrArg (rowMajorPlace axes) same
    rwa [rowMajorPlace_rowMajorIndex, rowMajorPlace_rowMajorIndex, Nat.mod_eq_of_lt below,
      Nat.mod_eq_of_lt otherBelow] at equal
  case surjOn =>
    intro index within
    exact ⟨rowMajorPlace axes index, rowMajorPlace_lt within, rowMajorIndex_rowMajorPlace within⟩

/-- A later place has a later multi-index. -/
theorem rowMajorIndex_lt {axes : List Axis} {place other : Nat} (before : place < other)
    (below : other < (shape axes).prod) :
    List.Lex (· < ·) (rowMajorIndex axes place) (rowMajorIndex axes other) := by
  induction axes generalizing place other with
  | nil =>
      rw [shape_nil, List.prod_nil] at below
      omega
  | cons axis axes ih =>
      rw [shape_cons, List.prod_cons] at below
      have some : 0 < (shape axes).prod := Nat.pos_of_lt_mul_left below
      have otherHead : other / (shape axes).prod < axis.extent :=
        (Nat.div_lt_iff_lt_mul some).2 below
      have head : place / (shape axes).prod < axis.extent :=
        (Nat.div_lt_iff_lt_mul some).2 (before.trans below)
      rw [rowMajorIndex_cons, rowMajorIndex_cons, Nat.mod_eq_of_lt head, Nat.mod_eq_of_lt otherHead]
      -- The number of whole runs decides, and within the same run the place among the other axes.
      rcases Nat.lt_or_eq_of_le (Nat.div_le_div_right (c := (shape axes).prod) before.le) with
        earlier | same
      · exact .rel earlier
      · rw [same, ← rowMajorIndex_mod axes place, ← rowMajorIndex_mod axes other]
        refine .cons (ih ?_ (Nat.mod_lt other some))
        have placeSplit := Nat.div_add_mod place (shape axes).prod
        have otherSplit := Nat.div_add_mod other (shape axes).prod
        rw [same] at placeSplit
        omega

/-- An element is found at one position by its place and by the multi-index of the place. -/
theorem linearPosition_eq_indexPosition {length offset : Nat} {axes : List Axis}
    (short : length < 2 ^ 63) (inside : Inside length offset axes) (populated : Populated axes)
    (place : Nat) :
    ∃ position < length, linearPosition offset axes place = .ok position ∧
      indexPosition offset axes (rowMajorIndex axes place) = .ok position := by
  obtain ⟨position, below, placed, exact⟩ := linearPosition_eq short inside populated place
  obtain ⟨other, _, indexed, same⟩ :=
    indexPosition_eq short inside (within_rowMajorIndex populated place)
  have equal : other = position := Int.ofNat_inj.1 (same.trans exact.symm)
  exact ⟨position, below, placed, equal ▸ indexed⟩

end Layout

/-! ## Reading and writing in row-major order -/

namespace View

open Layout

/-- Access by place is access by multi-index in row-major order. -/
structure RowMajor (length : Nat) (view : View) : Prop where
  /-- Repeated remainder and quotient by the extents, from that of the last axis on, assign to each place
  one of the multi-indices within the extents, and each of them to one place. -/
  enumerates : Set.BijOn (rowMajorIndex view.axes) (Set.Iio view.size)
    {index | Within view.axes index}
  increases : ∀ place other, place < other → other < view.size →
    List.Lex (· < ·) (rowMajorIndex view.axes place) (rowMajorIndex view.axes other)
  /-- No extent that is divided by is zero. -/
  divides : ∀ axis ∈ view.axes, axis.extent ≠ 0
  position : ∀ place < view.size, ∃ position < length, view.linearPosition place = .ok position ∧
    view.indexPosition (rowMajorIndex view.axes place) = .ok position
  get : ∀ place < view.size, view.getLinear place = view.get (rowMajorIndex view.axes place)
  set : ∀ place < view.size, ∀ element,
    view.setLinear place element = view.set (rowMajorIndex view.axes place) element
  /-- Listing is reading by the multi-index of each place, in whatever way the buffer is claimed, if there
  is room for a list. -/
  toList : ∀ world, (world.elements view.buffer.id).length = length → view.Listable length →
    view.toList world =
      (List.range view.size).mapM (fun place => view.get (rowMajorIndex view.axes place)) world
  /-- While the buffer may be read, each element that is listed is the one at its multi-index. -/
  listed : ∀ world, (world.elements view.buffer.id).length = length →
    world.admits ⟨.buffer view.buffer.id, .reading⟩ → view.Listable length →
      ∃ elements, view.toList world = .ok elements world ∧ elements.length = view.size ∧
        ∀ place element, elements[place]? = some element →
          view.get (rowMajorIndex view.axes place) world = .ok element world
  /-- Without room for a list, listing has no other end. -/
  crowded : ∀ world, (world.elements view.buffer.id).length = length →
    world.admits ⟨.buffer view.buffer.id, .reading⟩ → ¬ view.Listable length →
      view.toList world = .error (.fault .capacity) world

section Sound

variable {length : Nat} {view : View} (short : length < 2 ^ 63) (sound : view.Sound length)

include short sound

theorem Sound.checkedPosition_eq_indexPosition {place : Nat} (below : place < view.size) :
    ∃ position < length, view.linearPosition place = .ok position ∧
      view.checkedPosition place = .ok position ∧
      view.indexPosition (rowMajorIndex view.axes place) = .ok position := by
  have populated := sound.populated_iff.2 (Nat.zero_lt_of_lt below)
  obtain ⟨position, inside, placed, indexed⟩ :=
    linearPosition_eq_indexPosition short sound.inside populated place
  refine ⟨position, inside, placed, ?_, indexed⟩
  rw [checkedPosition, if_neg (Nat.not_le_of_lt below)]
  exact placed

theorem Sound.getLinear_eq_get {place : Nat} (below : place < view.size) :
    view.getLinear place = view.get (rowMajorIndex view.axes place) := by
  obtain ⟨position, _, _, checked, indexed⟩ := sound.checkedPosition_eq_indexPosition short below
  rw [getLinear, View.get, checked, indexed]

theorem Sound.setLinear_eq_set {place : Nat} (below : place < view.size) (element : Scalar) :
    view.setLinear place element = view.set (rowMajorIndex view.axes place) element := by
  obtain ⟨position, _, _, checked, indexed⟩ := sound.checkedPosition_eq_indexPosition short below
  rw [setLinear, View.set, checked, indexed]

/-- What is read by the multi-index of a place is what listing picks there. -/
theorem Sound.get_settled {world : World} {place : Nat}
    (known : (world.elements view.buffer.id).length = length)
    (admitted : world.admits ⟨.buffer view.buffer.id, .reading⟩) (below : place < view.size) :
    view.get (rowMajorIndex view.axes place) world =
      settled (view.pick (world.elements view.buffer.id) place) world := by
  obtain ⟨position, element, found, stored, read⟩ :=
    getLinear_eq short sound known admitted below
  rw [← sound.getLinear_eq_get short below, read, pick_eq found stored]
  rfl

/-- A buffer that is being written refuses to be read by any index, as it refuses to be listed. -/
theorem Sound.get_refused {world : World} {place : Nat}
    (known : (world.elements view.buffer.id).length = length)
    (refused : ¬ world.admits ⟨.buffer view.buffer.id, .reading⟩) (below : place < view.size) :
    view.get (rowMajorIndex view.axes place) world = .error .busy world := by
  obtain ⟨position, inside, _, _, indexed⟩ := sound.checkedPosition_eq_indexPosition short below
  rw [get_apply, indexed]
  dsimp only
  rw [BufferRef.get_eq (known ▸ inside), if_neg refused]

theorem Sound.toList_eq_mapM_get {world : World} (filled : 0 < view.size)
    (known : (world.elements view.buffer.id).length = length) (room : view.Listable length) :
    view.toList world =
      (List.range view.size).mapM (fun place => view.get (rowMajorIndex view.axes place))
        world := by
  rw [toList_apply, pickAll, known, if_pos room]
  split
  · rename_i admitted
    rw [mapM_settled fun place member =>
      sound.get_settled short known admitted (List.mem_range.1 member)]
    cases (List.range view.size).mapM (view.pick (world.elements view.buffer.id)) <;> rfl
  · rename_i refused
    have first := sound.get_refused short known refused filled
    obtain ⟨rest, split⟩ : ∃ rest, List.range view.size = 0 :: rest :=
      ⟨_, List.range_eq_range' ▸ List.range'_eq_cons_iff.2 ⟨rfl, filled, rfl⟩⟩
    rw [split, List.mapM_cons]
    exact (bind_of_error first).symm

end Sound

/-- In a view with elements that can be obtained, whatever owner it is given, access by place is access by
multi-index in row-major order. -/
theorem rowMajor_of_reachable {length : Nat} {view : View} (short : length < 2 ^ 63)
    (reachable : Reachable length view) (filled : 0 < view.size) (owner : Option Owner) :
    RowMajor length { view with owner } := by
  have sound : Sound length { view with owner } :=
    ⟨(reachable.sound short).counted, (reachable.sound short).inside⟩
  have populated := sound.populated_iff.2 filled
  refine ⟨?enumerates, ?increases, ?divides, ?position, ?get, ?set, ?toList, ?listed, ?crowded⟩
  case enumerates =>
    rw [sound.counted]
    exact bijOn_rowMajorIndex view.axes
  case increases =>
    intro place other before below
    rw [sound.counted] at below
    exact rowMajorIndex_lt before below
  case divides => exact fun axis member => Nat.ne_of_gt (populated axis member)
  case position =>
    exact fun place _ => linearPosition_eq_indexPosition short sound.inside populated place
  case get => exact fun place => sound.getLinear_eq_get short
  case set => exact fun place => sound.setLinear_eq_set short
  case toList => exact fun world => sound.toList_eq_mapM_get short filled
  case listed =>
    intro world known admitted room
    obtain ⟨elements, listed, counted, each⟩ := exists_toList_eq short sound known admitted room
    refine ⟨elements, listed, counted, fun place element given => ?_⟩
    have below : place < view.size := counted ▸ (List.getElem?_eq_some_iff.1 given).1
    rw [← sound.getLinear_eq_get short below]
    exact each place element given
  case crowded => exact fun world => toList_crowded

/-- Six elements seen backwards as two rows of three: the middle of the second row, at place four, stands at
position one of the buffer. -/
theorem rowMajor_backwardRows :
    let rows : View := ⟨⟨.bool, ⟨0⟩⟩, 5, [⟨2, -3⟩, ⟨3, -1⟩], 6, none⟩
    (6 < 2 ^ 63 ∧ Reachable 6 rows ∧ 0 < rows.size) ∧ RowMajor 6 rows ∧
      rowMajorIndex rows.axes 4 = [1, 1] ∧ rows.indexPosition [1, 1] = .ok 1 ∧
      rows.getLinear 4 = rows.get [1, 1] ∧ rows.Listable 6 := by
  intro rows
  let world : World := ⟨default, ⟨[List.replicate 6 (.bool true)]⟩, default, []⟩
  have made : make ⟨.bool, ⟨0⟩⟩ 5 [2, 3] [-3, -1] world = .ok rows world := rfl
  have reachable : Reachable 6 rows := .make rfl made
  have ordered : RowMajor 6 rows := rowMajor_of_reachable (by decide) reachable (by decide) none
  have found : rows.indexPosition [1, 1] = .ok 1 := by decide
  exact ⟨⟨by decide, reachable, by decide⟩, ordered, rfl, found, ordered.get 4 (by decide), by decide⟩

/-- One truth value seen as `2 ^ 32` rows of `2 ^ 31`: place and multi-index lead to the same element, but
a list of all would take `2 ^ 63` bytes. -/
theorem rows_outgrow_memory :
    let world : World := ⟨default, ⟨[[.bool true]]⟩, default, []⟩
    let rows : View :=
      ⟨⟨.bool, ⟨0⟩⟩, 0, [⟨0x100000000, 0⟩, ⟨0x80000000, 0⟩], 0x8000000000000000, none⟩
    Reachable 1 rows ∧ (world.elements rows.buffer.id).length = 1 ∧
      world.admits ⟨.buffer rows.buffer.id, .reading⟩ = true ∧
      rowMajorIndex rows.axes 0x80000001 = [1, 1] ∧
      rows.getLinear 0x80000001 world = .ok (.bool true) world ∧
      rows.get [1, 1] world = .ok (.bool true) world ∧
      rows.toList world = .error (.fault .capacity) world := by
  intro world rows
  have made : make ⟨.bool, ⟨0⟩⟩ 0 [0x100000000, 0x80000000] [0, 0] world = .ok rows world := rfl
  have placed : rows.checkedPosition 0x80000001 = .ok 0 := by decide
  have indexed : rows.indexPosition [1, 1] = .ok 0 := by decide
  have crowded : ¬ rows.Listable 1 := by decide
  refine ⟨.make rfl made, rfl, rfl, by decide, ?_, ?_, toList_crowded rfl rfl crowded⟩
  · rw [getLinear_apply, placed]
    rfl
  · rw [get_apply, indexed]
    rfl

end View

end PathStore
