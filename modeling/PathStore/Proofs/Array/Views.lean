import PathStore.Array.View
import PathStore.Proofs.Array.Parts
import PathStore.Proofs.World.Claims

/-!
# Views address only their buffer

A view is made of a checked layout or of a whole buffer and may be sliced again and again without
another check. What the check establishes and slicing keeps is that every element stands in the
buffer, so that reading an element by its multi-index, by its place, or all of them in order, never
leaves the buffer, divides by zero or overflows. But a view may have far more elements than its
buffer, and then there may be no room for a list of them.
-/

namespace PathStore

open Layout

/-! ## Elements of a buffer -/

/-- A program does not ask a buffer for a position that the buffer lacks. -/
def Op.StaysInside {α : Type} (program : Op α) (world : World) : Prop :=
  ∀ position length left, program world ≠ .error (.invalid (.bufferIndex position length)) left

theorem Op.staysInside_bind {α : Type} {find : Except Failure Nat} {use : Nat → Op α}
    {world : World}
    (refused : ∀ position length, find ≠ .error (.invalid (.bufferIndex position length)))
    (found : ∀ position, find = .ok position → (use position).StaysInside world) :
    (Op.ofExcept find >>= use).StaysInside world := by
  intro position length left failed
  cases find with
  | error failure =>
      cases failed
      exact refused position length rfl
  | ok place => exact found place rfl position length left failed

namespace BufferRef

variable {buffer : BufferRef} {position : Nat} {world : World}

theorem get_eq (inside : position < (world.elements buffer.id).length) :
    buffer.get position world =
      if world.admits ⟨.buffer buffer.id, .reading⟩ then
        .ok ((world.elements buffer.id)[position]) world
      else .error .busy world := by
  unfold get
  rw [BufferId.reading_apply, List.getElem?_eq_getElem inside]
  rfl

theorem set_eq (inside : position < (world.elements buffer.id).length) (element : Scalar) :
    buffer.set position element world =
      if world.admits ⟨.buffer buffer.id, .writing⟩ then
        .ok () (world.setElements buffer.id ((world.elements buffer.id).set position element))
      else .error .busy world := by
  unfold set
  rw [BufferId.writing_apply, if_pos inside]
  rfl

theorem staysInside_get (inside : position < (world.elements buffer.id).length) :
    (buffer.get position).StaysInside world := by
  intro asked length left failed
  rw [get_eq inside] at failed
  split at failed
  · cases failed
  · cases failed

theorem staysInside_set (inside : position < (world.elements buffer.id).length)
    (element : Scalar) : (buffer.set position element).StaysInside world := by
  intro asked length left failed
  rw [set_eq inside] at failed
  split at failed
  · cases failed
  · cases failed

end BufferRef

namespace View

/-! ## Views that can be obtained -/

/-- The views of a buffer of the given length that a program can hold: made with a layout of its
own, made of the whole buffer, or sliced from another one. -/
inductive Reachable (length : Nat) : View → Prop where
  | make {buffer : BufferRef} {offset : Nat} {shape : List Nat} {strides : List Int}
      {world left : World} {view : View}
      (known : (world.elements buffer.id).length = length)
      (made : make buffer offset shape strides world = .ok view left) : Reachable length view
  | ofBuffer {buffer : BufferRef} {world left : World} {view : View}
      (known : (world.elements buffer.id).length = length)
      (made : ofBuffer buffer world = .ok view left) : Reachable length view
  | slice {view part : View} {selectors : List Selector} (whole : Reachable length view)
      (sliced : view.slice selectors = .ok part) : Reachable length part

/-- One view is obtained from another by slicing, any number of times. -/
def SlicedFrom (whole part : View) : Prop :=
  Relation.ReflTransGen (fun view part => ∃ selectors, view.slice selectors = .ok part) whole part

/-- The size of a view is the product of its extents, and its elements stand in a buffer of the
given length. -/
structure Sound (length : Nat) (view : View) : Prop where
  counted : view.size = view.shape.prod
  inside : Inside length view.offset view.axes

/-- A view that is made has the extents and strides that were asked for, and passed the check. -/
theorem make_eq_ok {buffer : BufferRef} {offset : Nat} {shape : List Nat} {strides : List Int}
    {world left : World} {view : View}
    (made : make buffer offset shape strides world = .ok view left) :
    Layout.check (world.elements buffer.id).length offset shape strides = .ok view.size ∧
      view.offset = offset ∧ view.axes = Layout.axes shape strides := by
  cases checked : Layout.check (world.elements buffer.id).length offset shape strides with
  | error failure =>
      have failed : make buffer offset shape strides world = .error failure world := by
        change (Op.ofExcept (Layout.check _ _ _ _) >>= _) world = _
        rw [checked]
        rfl
      rw [failed] at made
      cases made
  | ok size =>
      have succeeded : make buffer offset shape strides world =
          .ok { buffer, offset, axes := Layout.axes shape strides, size, owner := none } world := by
        change (Op.ofExcept (Layout.check _ _ _ _) >>= _) world = _
        rw [checked]
        rfl
      rw [succeeded] at made
      cases made
      exact ⟨rfl, rfl, rfl⟩

theorem slice_eq_ok {view part : View} {selectors : List Selector}
    (sliced : view.slice selectors = .ok part) :
    ∃ selection, Part.select (Address.toSigned view.offset) 0 view.axes selectors = .ok selection ∧
      part.offset = Address.toUnsigned selection.position ∧ part.axes = selection.axes ∧
      part.size = (Layout.shape selection.axes).prod := by
  unfold slice at sliced
  split at sliced
  · cases sliced
  · obtain ⟨selection, selected, counting⟩ := Except.bind_eq_ok_iff.1 sliced
    obtain ⟨size, counted, finished⟩ := Except.bind_eq_ok_iff.1 counting
    cases finished
    exact ⟨selection, selected, rfl, rfl, elementCount_eq_ok counted⟩

theorem inside_ofBuffer (length : Nat) : Inside length 0 [⟨length, 1⟩] := by
  intro index within
  cases within with
  | cons below rest =>
      cases rest
      dsimp only at below
      simp only [displacement]
      omega

theorem Sound.populated_iff {length : Nat} {view : View} (sound : view.Sound length) :
    Populated view.axes ↔ 0 < view.size := by
  rw [populated_iff_prod_pos, sound.counted, shape]

/-- A slice of a sound view is sound. -/
theorem Sound.slice {length : Nat} {view part : View} {selectors : List Selector}
    (short : length < 2 ^ 63) (sound : view.Sound length)
    (sliced : view.slice selectors = .ok part) : part.Sound length := by
  obtain ⟨selection, selected, offset, axes, size⟩ := slice_eq_ok sliced
  constructor
  · rw [size, shape, axes]
  · intro index within
    rw [axes] at within
    have populated : Populated view.axes := by
      by_contra empty
      exact Part.not_populated_of_select empty selected within.populated
    have start := sound.inside.start_bounds populated
    rw [Address.toSigned_of_lt (by omega)] at selected
    have inside := Part.inside_of_select short sound.inside selected
    obtain ⟨above, below⟩ := inside.start_bounds within.populated
    rw [offset, axes, (toUnsigned_start short above below).2]
    exact inside index within

/-- Every view that can be obtained is sound: making one establishes it, slicing keeps it. -/
theorem Reachable.sound {length : Nat} {view : View} (short : length < 2 ^ 63)
    (reachable : Reachable length view) : view.Sound length := by
  induction reachable with
  | make known made =>
      obtain ⟨checked, offset, axes⟩ := make_eq_ok made
      obtain ⟨equal, size, inside⟩ := check_eq_ok checked
      rw [known] at inside
      constructor
      · rw [size, shape, axes, shape_axes equal]
      · rw [offset, axes]
        exact inside
  | ofBuffer known made =>
      cases made
      subst known
      constructor
      · simp [shape, Layout.shape]
      · exact inside_ofBuffer _
  | slice _ sliced ih => exact ih.slice short sliced

theorem Reachable.slicedFrom {length : Nat} {view part : View} (reachable : Reachable length view)
    (sliced : SlicedFrom view part) : Reachable length part := by
  induction sliced with
  | refl => exact reachable
  | tail _ step ih =>
      obtain ⟨selectors, step⟩ := step
      exact ih.slice step

/-- What is sliced from a view without elements has none. -/
theorem size_eq_zero_of_slicedFrom {length : Nat} {view part : View} (short : length < 2 ^ 63)
    (reachable : Reachable length view) (empty : view.size = 0) (sliced : SlicedFrom view part) :
    part.size = 0 := by
  induction sliced with
  | refl => exact empty
  | @tail middle last before step ih =>
      obtain ⟨selectors, step⟩ := step
      have whole := (reachable.slicedFrom before).sound short
      have piece := whole.slice short step
      obtain ⟨selection, selected, _, axes, _⟩ := slice_eq_ok step
      have unpopulated : ¬ Populated middle.axes := by
        rw [whole.populated_iff]
        omega
      have remaining := Part.not_populated_of_select unpopulated selected
      rw [← axes, piece.populated_iff] at remaining
      omega

/-! ## Reading and writing elements -/

section Elements

variable (view : View) (world : World)

theorem get_apply (index : List Nat) :
    view.get index world =
      match view.indexPosition index with
      | .ok position => view.buffer.get position world
      | .error failure => .error failure world := by
  change (Op.ofExcept (view.indexPosition index) >>= _) world = _
  cases view.indexPosition index <;> rfl

theorem getLinear_apply (place : Nat) :
    view.getLinear place world =
      match view.checkedPosition place with
      | .ok position => view.buffer.get position world
      | .error failure => .error failure world := by
  change (Op.ofExcept (view.checkedPosition place) >>= _) world = _
  cases view.checkedPosition place <;> rfl

theorem toList_apply :
    view.toList world =
      if world.admits ⟨.buffer view.buffer.id, .reading⟩ then
        match view.pickAll (world.elements view.buffer.id) with
        | .ok elements => .ok elements world
        | .error failure => .error failure world
      else .error .busy world := by
  unfold toList
  rw [BufferId.reading_apply]
  cases view.pickAll (world.elements view.buffer.id) <;> rfl

variable {view world} {length : Nat}

/-- Over a buffer that has room itself, a view can be listed just if all its elements have. -/
theorem listable_iff (held : Address.IsSigned (length * view.buffer.elem.width : Nat)) :
    view.Listable length ↔ Address.IsSigned (view.size * view.buffer.elem.width : Nat) := by
  refine ⟨fun room => room.elim (fun fewer => ?_) id, .inr⟩
  have bytes := Nat.mul_le_mul_right view.buffer.elem.width fewer
  unfold Address.IsSigned Address.least Address.greatest at held ⊢
  omega

theorem checkedPosition_eq (short : length < 2 ^ 63) (sound : view.Sound length) {place : Nat}
    (below : place < view.size) :
    ∃ position < length, view.linearPosition place = .ok position ∧
      view.checkedPosition place = .ok position := by
  obtain ⟨position, inside, found, _⟩ :=
    linearPosition_eq short sound.inside (sound.populated_iff.2 (Nat.zero_lt_of_lt below)) place
  refine ⟨position, inside, found, ?_⟩
  unfold checkedPosition
  rw [if_neg (Nat.not_le_of_lt below)]
  exact found

theorem indexPosition_lt (short : length < 2 ^ 63) (sound : view.Sound length)
    {index : List Nat} {position : Nat} (found : view.indexPosition index = .ok position) :
    position < length := by
  obtain ⟨other, inside, again, _⟩ :=
    indexPosition_eq short sound.inside (within_of_indexPosition found)
  cases again.symm.trans found
  exact inside

theorem checkedPosition_outside {place : Nat} (outside : ¬ place < view.size) :
    view.checkedPosition place = .error (.invalid (.viewIndex place)) :=
  if_pos (Nat.le_of_not_lt outside)

theorem getLinear_eq (short : length < 2 ^ 63) (sound : view.Sound length)
    (known : (world.elements view.buffer.id).length = length)
    (admitted : world.admits ⟨.buffer view.buffer.id, .reading⟩) {place : Nat}
    (below : place < view.size) :
    ∃ position element, view.linearPosition place = .ok position ∧
      (world.elements view.buffer.id)[position]? = some element ∧
      view.getLinear place world = .ok element world := by
  obtain ⟨position, inside, found, checked⟩ := checkedPosition_eq short sound below
  rw [← known] at inside
  refine ⟨position, (world.elements view.buffer.id)[position], found,
    List.getElem?_eq_getElem inside, ?_⟩
  rw [getLinear_apply, checked]
  dsimp only
  rw [BufferRef.get_eq inside, if_pos admitted]

theorem pick_eq {elements : List Scalar} {place position : Nat} {element : Scalar}
    (found : view.linearPosition place = .ok position)
    (stored : elements[position]? = some element) : view.pick elements place = .ok element := by
  simp only [pick, found, bind, Except.bind, stored]
  rfl

/-- Reading by a multi-index succeeds just for the multi-indices within the extents. -/
theorem get_eq_ok_iff (short : length < 2 ^ 63) (sound : view.Sound length)
    (known : (world.elements view.buffer.id).length = length)
    (admitted : world.admits ⟨.buffer view.buffer.id, .reading⟩) (index : List Nat) :
    (∃ element, view.get index world = .ok element world) ↔ Within view.axes index := by
  rw [get_apply]
  constructor
  · rintro ⟨element, read⟩
    cases found : view.indexPosition index with
    | error failure =>
        rw [found] at read
        cases read
    | ok position => exact within_of_indexPosition found
  · intro within
    obtain ⟨position, inside, found, _⟩ := indexPosition_eq short sound.inside within
    rw [← known] at inside
    refine ⟨(world.elements view.buffer.id)[position], ?_⟩
    rw [show view.indexPosition index = .ok position from found]
    dsimp only
    rw [BufferRef.get_eq inside, if_pos admitted]

/-- Reading by a place succeeds just for the places below the size. -/
theorem getLinear_eq_ok_iff (short : length < 2 ^ 63) (sound : view.Sound length)
    (known : (world.elements view.buffer.id).length = length)
    (admitted : world.admits ⟨.buffer view.buffer.id, .reading⟩) (place : Nat) :
    (∃ element, view.getLinear place world = .ok element world) ↔ place < view.size := by
  constructor
  · rintro ⟨element, read⟩
    by_contra outside
    rw [getLinear_apply, checkedPosition_outside outside] at read
    cases read
  · intro below
    obtain ⟨_, element, _, _, read⟩ := getLinear_eq short sound known admitted below
    exact ⟨element, read⟩

/-- Listing the elements yields the one at each place, if there is room for them. -/
theorem exists_toList_eq (short : length < 2 ^ 63) (sound : view.Sound length)
    (known : (world.elements view.buffer.id).length = length)
    (admitted : world.admits ⟨.buffer view.buffer.id, .reading⟩) (room : view.Listable length) :
    ∃ elements, view.toList world = .ok elements world ∧ elements.length = view.size ∧
      ∀ place element, elements[place]? = some element →
        view.getLinear place world = .ok element world := by
  have picked : ∀ place ∈ List.range view.size, ∃ element,
      view.pick (world.elements view.buffer.id) place = .ok element := by
    intro place member
    obtain ⟨position, element, found, stored, _⟩ :=
      getLinear_eq short sound known admitted (List.mem_range.1 member)
    exact ⟨element, pick_eq found stored⟩
  obtain ⟨elements, listed, matched⟩ := Except.exists_mapM_eq_ok picked
  refine ⟨elements, ?_, ?_, ?_⟩
  · rw [toList_apply, if_pos admitted, pickAll, known, if_pos room, listed]
  · rw [← matched.length_eq, List.length_range]
  · intro place element given
    obtain ⟨listed, same⟩ := List.getElem?_eq_some_iff.1 given
    have below : place < (List.range view.size).length := matched.length_eq ▸ listed
    have chosen := matched.get below listed
    rw [List.get_eq_getElem, List.get_eq_getElem, List.getElem_range, same] at chosen
    rw [List.length_range] at below
    obtain ⟨position, stored, found, member, read⟩ := getLinear_eq short sound known admitted below
    cases (pick_eq found member).symm.trans chosen
    exact read

/-- Listing the elements fails if there is no room for them. -/
theorem toList_crowded (known : (world.elements view.buffer.id).length = length)
    (admitted : world.admits ⟨.buffer view.buffer.id, .reading⟩)
    (crowded : ¬ view.Listable length) : view.toList world = .error (.fault .capacity) world := by
  rw [toList_apply, if_pos admitted, pickAll, known, if_neg crowded]

theorem indexPosition_ne (index : List Nat) (position length : Nat) :
    view.indexPosition index ≠ .error (.invalid (.bufferIndex position length)) := by
  intro refused
  rcases indexPosition_refusal refused with ⟨_, _, same⟩ | ⟨_, _, _, same⟩ | same
  all_goals cases same

theorem checkedPosition_ne (short : length < 2 ^ 63) (sound : view.Sound length)
    (place asked limit : Nat) :
    view.checkedPosition place ≠ .error (.invalid (.bufferIndex asked limit)) := by
  intro refused
  by_cases below : place < view.size
  · obtain ⟨position, _, _, checked⟩ := checkedPosition_eq short sound below
    rw [checked] at refused
    cases refused
  · rw [checkedPosition_outside below] at refused
    cases refused

theorem checkedPosition_lt (short : length < 2 ^ 63) (sound : view.Sound length)
    {place position : Nat} (found : view.checkedPosition place = .ok position) :
    position < length := by
  by_cases below : place < view.size
  · obtain ⟨other, inside, _, checked⟩ := checkedPosition_eq short sound below
    cases checked.symm.trans found
    exact inside
  · rw [checkedPosition_outside below] at found
    cases found

end Elements

/-! ## Every view addresses only its buffer -/

/-- Every element of the view stands in a buffer of the given length, and so does every partial sum
of its position, along the axes from the first on for a multi-index and from the last on for a place
in row-major order. -/
structure Addressed (length : Nat) (view : View) : Prop where
  ranks : view.shape.length = view.strides.length
  counted : view.size = view.shape.prod
  indexed : ∀ index, Within view.axes index →
    ∃ position < length, view.indexPosition index = .ok position ∧
      (position : Int) = view.offset + displacement view.axes index
  indexSums : ∀ index, Within view.axes index → ∀ count,
    0 ≤ view.offset + displacement (view.axes.take count) (index.take count) ∧
      view.offset + displacement (view.axes.take count) (index.take count) < length
  placed : ∀ place < view.size,
    ∃ position < length, view.linearPosition place = .ok position ∧
      (position : Int) = view.offset + displacement view.axes (rowMajorIndex view.axes place)
  placeSums : ∀ place < view.size, ∀ count,
    0 ≤ view.offset + displacement (view.axes.reverse.take count)
        ((digits view.axes.reverse place).take count) ∧
      view.offset + displacement (view.axes.reverse.take count)
        ((digits view.axes.reverse place).take count) < length

/-- What reading a view answers while its buffer may be read: an element for each multi-index within
the extents, for each place below the size, and all of them in a list if there is room for it. -/
structure Answers (view : View) (world : World) : Prop where
  get : ∀ index, (∃ element, view.get index world = .ok element world) ↔ Within view.axes index
  getLinear : ∀ place,
    (∃ element, view.getLinear place world = .ok element world) ↔ place < view.size
  toList : view.Listable (world.elements view.buffer.id).length →
    ∃ elements, view.toList world = .ok elements world ∧ elements.length = view.size ∧
      ∀ place element, elements[place]? = some element →
        view.getLinear place world = .ok element world
  crowded : ¬ view.Listable (world.elements view.buffer.id).length →
    view.toList world = .error (.fault .capacity) world
  /-- As a buffer has room itself, it is the size of the view that decides whether there is room. -/
  room : Address.IsSigned
      ((world.elements view.buffer.id).length * view.buffer.elem.width : Nat) →
    (view.Listable (world.elements view.buffer.id).length ↔
      Address.IsSigned (view.size * view.buffer.elem.width : Nat))

/-- No access to an element asks the buffer for a position that it lacks. -/
structure Confined (view : View) (world : World) : Prop where
  get : ∀ index, (view.get index).StaysInside world
  set : ∀ index element, (view.set index element).StaysInside world
  getLinear : ∀ place, (view.getLinear place).StaysInside world
  setLinear : ∀ place element, (view.setLinear place element).StaysInside world

theorem Sound.addressed {length : Nat} {view : View} (short : length < 2 ^ 63)
    (sound : view.Sound length) : view.Addressed length where
  ranks := by simp [shape, strides, Layout.shape, Layout.strides]
  counted := sound.counted
  indexed _ within := indexPosition_eq short sound.inside within
  indexSums _ within count := sound.inside.partial_bounds within count
  placed place below :=
    linearPosition_eq short sound.inside (sound.populated_iff.2 (Nat.zero_lt_of_lt below)) place
  placeSums place below count :=
    sound.inside.digits_bounds (sound.populated_iff.2 (Nat.zero_lt_of_lt below)) place count

theorem Sound.answers {length : Nat} {view : View} {world : World} (short : length < 2 ^ 63)
    (sound : view.Sound length) (known : (world.elements view.buffer.id).length = length)
    (admitted : world.admits ⟨.buffer view.buffer.id, .reading⟩) : view.Answers world where
  get := get_eq_ok_iff short sound known admitted
  getLinear := getLinear_eq_ok_iff short sound known admitted
  toList room := exists_toList_eq short sound known admitted (known ▸ room)
  crowded := toList_crowded rfl admitted
  room := listable_iff

theorem Sound.confined {length : Nat} {view : View} {world : World} (short : length < 2 ^ 63)
    (sound : view.Sound length) (known : (world.elements view.buffer.id).length = length) :
    view.Confined world where
  get index := Op.staysInside_bind (indexPosition_ne index) fun _ found =>
    BufferRef.staysInside_get (known ▸ indexPosition_lt short sound found)
  set index element := Op.staysInside_bind (indexPosition_ne index) fun _ found =>
    BufferRef.staysInside_set (known ▸ indexPosition_lt short sound found) element
  getLinear place := Op.staysInside_bind (checkedPosition_ne short sound place) fun _ found =>
    BufferRef.staysInside_get (known ▸ checkedPosition_lt short sound found)
  setLinear place element :=
    Op.staysInside_bind (checkedPosition_ne short sound place) fun _ found =>
      BufferRef.staysInside_set (known ▸ checkedPosition_lt short sound found) element

/-- Every view that can be obtained addresses only its buffer: each of its elements is found inside,
reading answers just for what lies within its extents, no access leaves the buffer, and what is
sliced from a view without elements has none. -/
theorem addressed_of_reachable {length : Nat} {view : View} (short : length < 2 ^ 63)
    (reachable : Reachable length view) :
    view.Addressed length ∧
      (∀ world, (world.elements view.buffer.id).length = length →
        view.Confined world ∧
          (world.admits ⟨.buffer view.buffer.id, .reading⟩ → view.Answers world)) ∧
      (view.size = 0 → ∀ part, SlicedFrom view part → part.size = 0) := by
  have sound := reachable.sound short
  refine ⟨sound.addressed short, ?_, ?_⟩
  · intro world known
    exact ⟨sound.confined short known, sound.answers short known⟩
  · intro empty part sliced
    exact size_eq_zero_of_slicedFrom short reachable empty sliced

/-- Of six elements seen backwards as two rows of three, the second row taken against its direction
in steps of two: it begins at the first element of the buffer and goes on by two. -/
theorem addressed_backwardRow :
    let world : World := ⟨default, ⟨[List.replicate 6 (.bool true)]⟩, default, []⟩
    let row : View := ⟨⟨.bool, ⟨0⟩⟩, 0, [⟨2, 2⟩], 2, none⟩
    (6 < 2 ^ 63 ∧ Reachable 6 row ∧ (world.elements row.buffer.id).length = 6 ∧
        world.admits ⟨.buffer row.buffer.id, .reading⟩ = true) ∧
      Addressed 6 row ∧ row.Confined world ∧ row.Answers world ∧ row.Listable 6 := by
  intro world row
  have made : make ⟨.bool, ⟨0⟩⟩ 5 [2, 3] [-3, -1] world =
      .ok ⟨⟨.bool, ⟨0⟩⟩, 5, [⟨2, -3⟩, ⟨3, -1⟩], 6, none⟩ _ := rfl
  have sliced : View.slice ⟨⟨.bool, ⟨0⟩⟩, 5, [⟨2, -3⟩, ⟨3, -1⟩], 6, none⟩
      [.index 1, .slice ⟨none, none, -2⟩] = .ok row := rfl
  have reachable : Reachable 6 row := .slice (.make rfl made) sliced
  obtain ⟨addressed, read, _⟩ := addressed_of_reachable (by decide) reachable
  obtain ⟨confined, answers⟩ := read world rfl
  exact ⟨⟨by decide, reachable, rfl, rfl⟩, addressed, confined, answers rfl, by decide⟩

/-- One number seen at `2 ^ 62` places. Such a view can be obtained and is read place by place, but a
list of all elements would take `2 ^ 65` bytes. -/
theorem toList_outgrows_memory :
    let world : World := ⟨default, ⟨[[.integer 7]]⟩, default, []⟩
    let places : View :=
      ⟨⟨.integer, ⟨0⟩⟩, 0, [⟨0x4000000000000000, 0⟩], 0x4000000000000000, none⟩
    Reachable 1 places ∧ (world.elements places.buffer.id).length = 1 ∧
      world.admits ⟨.buffer places.buffer.id, .reading⟩ = true ∧
      places.getLinear 5 world = .ok (.integer 7) world ∧
      places.toList world = .error (.fault .capacity) world := by
  intro world places
  have made : make ⟨.integer, ⟨0⟩⟩ 0 [0x4000000000000000] [0] world = .ok places world := rfl
  have found : places.checkedPosition 5 = .ok 0 := by decide
  have read : places.getLinear 5 world = .ok (.integer 7) world := by
    rw [getLinear_apply, found]
    rfl
  have crowded : ¬ places.Listable 1 := by decide
  exact ⟨.make rfl made, rfl, rfl, read, toList_crowded rfl rfl crowded⟩

end View

end PathStore
