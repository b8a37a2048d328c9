import PathStore.Proofs.Array.Constructors

/-!
# The numbers behind an element and behind a part

On the way to an element, or to the beginning of a part, each index is multiplied by the stride of its
axis and the product added to the position reached before; the stride of an axis that is kept is
multiplied by the step. The operation overflows just when one of these numbers is no signed number. In
a view with elements only a new stride can be that large. The layout of a view without elements was
never checked, so there every one of the numbers can.
-/

namespace PathStore

open Address

/-- Every number is a signed number. -/
def AllSigned (numbers : List Int) : Prop := ∀ number ∈ numbers, IsSigned number

theorem allSigned_nil : AllSigned [] := List.forall_mem_nil _

theorem allSigned_cons {number : Int} {numbers : List Int} :
    AllSigned (number :: numbers) ↔ IsSigned number ∧ AllSigned numbers :=
  List.forall_mem_cons

namespace Settles

variable {α β : Type} {computable : Prop} {proper : α → Prop} {kind : Failure → Prop}
  {made : Except Failure α}

/-- What is told without computing anything. -/
theorem refused {failure : Failure} (able : computable) (told : kind failure) :
    Settles computable proper kind (.error failure) :=
  ⟨nofun, fun _ => .error told, fun exceeds => absurd able exceeds⟩

theorem ok {result : α} (able : computable) (suits : proper result) :
    Settles computable proper kind (.ok result) :=
  ⟨fun _ same => by cases same; exact suits, fun _ => .ok result, fun exceeds => absurd able exceeds⟩

theorem map {suits : β → Prop} (settles : Settles computable proper kind made) (change : α → β)
    (carries : ∀ result, proper result → suits (change result)) :
    Settles computable suits kind (made >>= fun result => pure (change result)) where
  proper result finished := by
    obtain ⟨middle, ran, same⟩ := Except.bind_eq_ok_iff.1 finished
    cases same
    exact carries middle (settles.proper middle ran)
  told able := (settles.told able).bind fun _ => .pure _
  overflows exceeds := by
    rw [settles.overflows exceeds]
    rfl

/-- More may be known of what is made. -/
theorem strengthen {suits : α → Prop} (settles : Settles computable proper kind made)
    (carries : ∀ result, made = .ok result → suits result) : Settles computable suits kind made :=
  ⟨carries, settles.told, settles.overflows⟩

/-- A number that has to be a signed number comes first. -/
theorem after_signed {number : Int} {next : Int → Except Failure α}
    (settles : Settles computable proper kind (next number)) :
    Settles (IsSigned number ∧ computable) proper kind (signed number >>= next) :=
  .after (fun able => ⟨number, if_pos able, settles⟩) fun exceeds => if_neg exceeds

end Settles

/-! ## Elements -/

namespace Layout

/-- The numbers that are computed on the way to a multi-index: how far each index leads, and the
position that is reached by it. They end before the first index that is not within its axis. -/
def advances (position : Int) : List Nat → List Axis → List Int
  | place :: index, axis :: axes =>
    if place < axis.extent then
      let distance := toSigned place * axis.stride
      distance :: (position + distance) :: advances (position + distance) index axes
    else []
  | _, _ => []

theorem settles_advance (position : Int) (number : Nat) (index : List Nat) (axes : List Axis) :
    Settles (AllSigned (advances position index axes)) (fun _ => True) TellsInvalid
      (advance position number index axes) := by
  induction axes generalizing position number index with
  | nil => cases index <;> exact .ok allSigned_nil trivial
  | cons axis axes ih =>
      cases index with
      | nil => exact .ok allSigned_nil trivial
      | cons place index =>
          unfold advance advances
          by_cases below : place < axis.extent
          · rw [if_neg (Nat.not_le_of_lt below), if_pos below]
            simp only [allSigned_cons]
            exact .after_signed (.after_signed (ih _ _ _))
          · rw [if_pos (Nat.le_of_not_lt below), if_neg below]
            exact .refused allSigned_nil ⟨_, rfl⟩

/-- In a layout inside a buffer, an index within its axis is read as a signed number without loss. -/
theorem Inside.exact {length : Nat} {start : Int} {axis : Axis} {axes : List Axis} {place : Nat}
    (short : length < 2 ^ 63) (inside : Inside length start (axis :: axes))
    (populated : Populated (axis :: axes)) (below : place < axis.extent) :
    toSigned place * axis.stride = place * axis.stride ∧ IsSigned (place * axis.stride) ∧
      IsSigned (start + place * axis.stride) := by
  obtain ⟨multiplied, added⟩ := inside.step_eq short populated below
  obtain ⟨small, same⟩ := signed_eq_ok_iff.1 multiplied
  rw [← same] at small
  exact ⟨same.symm, small, (signed_eq_ok_iff.1 added).1⟩

theorem Inside.exact_of_mem {length : Nat} {start : Int} {axes : List Axis} {axis : Axis}
    {place : Nat} (short : length < 2 ^ 63) (inside : Inside length start axes)
    (populated : Populated axes) (member : axis ∈ axes) (below : place < axis.extent) :
    toSigned place * axis.stride = place * axis.stride := by
  induction axes generalizing start with
  | nil => cases member
  | cons first axes ih =>
      obtain ⟨some, rest⟩ := populated_cons_iff.1 populated
      cases member with
      | head => exact (inside.exact short populated below).1
      | tail _ member => exact ih (inside.along some) rest member

theorem Inside.allSigned_advances {length : Nat} {start : Int} {axes : List Axis}
    (short : length < 2 ^ 63) (inside : Inside length start axes) (populated : Populated axes)
    (index : List Nat) : AllSigned (advances start index axes) := by
  induction axes generalizing start index with
  | nil => cases index <;> exact allSigned_nil
  | cons axis axes ih =>
      cases index with
      | nil => exact allSigned_nil
      | cons place index =>
          unfold advances
          split
          · rename_i below
            obtain ⟨same, distance, position⟩ := inside.exact short populated below
            have rest := ih (inside.along below) (populated_cons_iff.1 populated).2 index
            simp only [same, allSigned_cons]
            exact ⟨distance, position, rest⟩
          · exact allSigned_nil

end Layout

/-! ## Parts -/

namespace Slice

theorem tellsInvalid_signedIndex (index : Nat) : FailsOnly Layout.TellsInvalid (signedIndex index) :=
  Layout.tellsInvalid_signedOr _ _

theorem tellsInvalid_resolve (slice : Slice) (extent : Nat) :
    FailsOnly Layout.TellsInvalid (slice.resolve extent) := by
  have stops (size : Int) : FailsOnly Layout.TellsInvalid (slice.pastLastOf size) := by
    unfold pastLastOf
    split
    · exact tellsInvalid_signedIndex _
    · exact .pure _
  have starts (size : Int) : FailsOnly Layout.TellsInvalid (slice.firstOf size) := by
    unfold firstOf
    split
    · exact tellsInvalid_signedIndex _
    · exact .pure _
  rw [resolve_eq]
  refine (tellsInvalid_signedIndex extent).bind fun size => (stops size).bind fun _ =>
    (starts size).bind fun _ => ?_
  dsimp only
  split
  · exact .throw_bind ⟨_, rfl⟩
  · split
    · exact .throw_bind ⟨_, rfl⟩
    · exact .pure _

/-- No slice names more indices than the axis has. -/
theorem count_le {slice : Slice} {extent : Nat} {range : IndexRange}
    (resolved : slice.resolve extent = .ok range) : range.count ≤ extent := by
  obtain ⟨first, least, last, most, nonempty⟩ := resolve_eq_ok resolved
  unfold IndexRange.count
  rcases Nat.eq_zero_or_pos range.step.natAbs with still | moving
  · simp [still]
  · have reach : (range.pastLast - range.first).natAbs ≤ extent := by omega
    have steps : (range.pastLast - range.first).natAbs + range.step.natAbs - 1 ≤
        extent * range.step.natAbs := by
      have grown := Nat.mul_le_mul (show 1 ≤ extent by omega) (Nat.le_refl (range.step.natAbs - 1))
      have split : extent * range.step.natAbs = extent * (range.step.natAbs - 1) + extent := by
        rw [← Nat.mul_succ, Nat.succ_eq_add_one, Nat.sub_add_cancel moving]
      omega
    have counted := Nat.div_le_div_right (c := range.step.natAbs) steps
    rwa [Nat.mul_div_cancel extent moving] at counted

end Slice

namespace Part

open Layout

/-- The numbers that are computed in selecting: how far the first index that is named on an axis leads,
the position that is reached by it, and the new stride of an axis that is kept. They end before the
first selector that is refused. -/
def computes (position : Int) : List Axis → List Selector → List Int
  | [], _ => []
  | axis :: axes, selectors =>
    match selectors.headD .whole with
    | .index place =>
      if place < axis.extent then
        let distance := toSigned place * axis.stride
        distance :: (position + distance) :: computes (position + distance) axes selectors.tail
      else []
    | .slice slice =>
      if axis.extent = 0 ∧ slice = .all then computes position axes selectors.tail
      else
        match slice.resolve axis.extent with
        | .ok range =>
          let distance := range.first * axis.stride
          distance :: (position + distance) :: axis.stride * range.step ::
            computes (position + distance) axes selectors.tail
        | .error _ => []

/-- The new strides among them. -/
def newStrides : List Axis → List Selector → List Int
  | [], _ => []
  | axis :: axes, selectors =>
    match selectors.headD .whole with
    | .index place => if place < axis.extent then newStrides axes selectors.tail else []
    | .slice slice =>
      match slice.resolve axis.extent with
      | .ok range => axis.stride * range.step :: newStrides axes selectors.tail
      | .error _ => []

theorem settles_select (position : Int) (number : Nat) (axes : List Axis)
    (selectors : List Selector) :
    Settles (AllSigned (computes position axes selectors)) (fun _ => True) TellsInvalid
      (select position number axes selectors) := by
  induction axes generalizing position number selectors with
  | nil => exact .ok allSigned_nil trivial
  | cons axis axes ih =>
      unfold select computes
      cases selectors.headD .whole with
      | index place =>
          by_cases below : place < axis.extent
          · simp only [if_neg (Nat.not_le_of_lt below), if_pos below, allSigned_cons]
            exact .after_signed (.after_signed (ih _ _ _))
          · simp only [if_pos (Nat.le_of_not_lt below), if_neg below]
            exact .refused allSigned_nil ⟨_, rfl⟩
      | slice slice =>
          by_cases whole : axis.extent = 0 ∧ slice = .all
          · simp only [if_pos whole]
            exact (ih _ _ _).map _ fun _ _ => trivial
          · simp only [if_neg whole]
            have told := slice.tellsInvalid_resolve axis.extent
            cases resolved : slice.resolve axis.extent with
            | error failure => exact .refused allSigned_nil (told failure resolved)
            | ok range =>
                simp only [allSigned_cons]
                exact .after_signed (.after_signed (.after_signed ((ih _ _ _).map _ fun _ _ => trivial)))

/-- If the extents of the whole can be multiplied, so can those of a part, one after the other. -/
theorem multiplies_of_select {position : Int} {number before after : Nat} {axes : List Axis}
    {selectors : List Selector} {part : Part} (fewer : after ≤ before)
    (multiplies : Multiplies (· < 2 ^ 64) before (shape axes))
    (selected : select position number axes selectors = .ok part) :
    Multiplies (· < 2 ^ 64) after (shape part.axes) := by
  induction axes generalizing position number before after selectors part with
  | nil =>
      cases selected
      exact multiplies_nil.2 (Nat.lt_of_le_of_lt fewer multiplies.fits_start)
  | cons axis axes ih =>
      obtain ⟨first, rest⟩ := multiplies_cons.1 multiplies
      rcases select_cons selected with
        ⟨place, distance, below, _, selecting⟩ | ⟨slice, range, kept, resolved, selecting, rfl⟩ |
        ⟨kept, _, selecting, rfl⟩
      · refine ih (Nat.le_trans fewer ?_) rest selecting
        exact Nat.le_mul_of_pos_right before (Nat.zero_lt_of_lt below)
      · refine multiplies_cons.2 ⟨Nat.lt_of_le_of_lt fewer first, ih ?_ rest selecting⟩
        exact Nat.mul_le_mul fewer (Slice.count_le resolved)
      · refine multiplies_cons.2 ⟨Nat.lt_of_le_of_lt fewer first, ih ?_ rest selecting⟩
        exact Nat.mul_le_mul_right axis.extent fewer

/-- In a layout inside a buffer whose axes have elements, all that is computed but the new strides are
positions in the buffer and distances between them. -/
theorem allSigned_computes_iff {length : Nat} {position : Int} {axes : List Axis}
    {selectors : List Selector} (short : length < 2 ^ 63) (inside : Inside length position axes)
    (populated : Populated axes) :
    AllSigned (computes position axes selectors) ↔ AllSigned (newStrides axes selectors) := by
  induction axes generalizing position selectors with
  | nil => exact Iff.rfl
  | cons axis axes ih =>
      obtain ⟨some, rest⟩ := populated_cons_iff.1 populated
      unfold computes newStrides
      cases selectors.headD .whole with
      | index place =>
          by_cases below : place < axis.extent
          · obtain ⟨same, distance, reached⟩ := inside.exact short populated below
            simp only [if_pos below, same, allSigned_cons, distance, reached, true_and]
            exact ih (inside.along below) rest
          · simp only [if_neg below]
      | slice slice =>
          have filled : ¬ (axis.extent = 0 ∧ slice = .all) := fun whole => by omega
          simp only [if_neg filled]
          cases resolved : slice.resolve axis.extent with
          | error failure => exact Iff.rfl
          | ok range =>
              obtain ⟨nonneg, least, _⟩ := Slice.resolve_eq_ok resolved
              have start : range.first = (range.first.toNat : Int) := by omega
              have below : range.first.toNat < axis.extent := by omega
              obtain ⟨_, distance, reached⟩ := inside.exact short populated below
              have further : AllSigned (computes _ axes selectors.tail) ↔ _ :=
                ih (inside.along below) rest
              rw [← start] at distance reached further
              simp only [allSigned_cons, distance, reached, true_and, further]

end Part

/-! ## Views -/

namespace View

open Layout

/-- The numbers that are computed for the element at a multi-index. -/
def indexNumbers (view : View) (index : List Nat) : List Int :=
  if index.length = view.axes.length then advances (toSigned view.offset) index view.axes else []

/-- The numbers that are computed for a part. -/
def sliceNumbers (view : View) (selectors : List Selector) : List Int :=
  if selectors.length ≤ view.axes.length then
    Part.computes (toSigned view.offset) view.axes selectors
  else []

theorem settles_indexPosition (view : View) (index : List Nat) :
    Settles (AllSigned (view.indexNumbers index)) (fun _ => Within view.axes index) TellsInvalid
      (view.indexPosition index) := by
  have settles : Settles (AllSigned (view.indexNumbers index)) (fun _ => True) TellsInvalid
      (view.indexPosition index) := by
    unfold View.indexPosition Layout.indexPosition indexNumbers
    by_cases equal : index.length = view.axes.length
    · rw [if_neg (not_not_intro equal), if_pos equal]
      exact (settles_advance _ _ _ _).map _ fun _ _ => trivial
    · rw [if_pos equal, if_neg equal]
      exact .refused allSigned_nil ⟨_, rfl⟩
  exact settles.strengthen fun _ found => within_of_indexPosition found

/-- The elements of every view that can be obtained can be counted: making it has counted them, and a
part has no more along any axis. -/
theorem Reachable.countable {length : Nat} {view : View} (short : length < 2 ^ 63)
    (reachable : Reachable length view) : Countable view.shape := by
  induction reachable with
  | make known made =>
      obtain ⟨checked, _, axes⟩ := make_eq_ok made
      obtain ⟨ranks, _, _⟩ := check_eq_ok checked
      rw [shape, axes, shape_axes ranks]
      by_contra exceeds
      rw [check_of_not_countable ranks exceeds] at checked
      cases checked
  | ofBuffer known made =>
      cases made
      subst known
      refine multiplies_cons.2 ⟨by decide, multiplies_nil.2 ?_⟩
      rw [Nat.one_mul]
      exact Nat.lt_trans short (by decide)
  | slice _ sliced ih =>
      obtain ⟨selection, selected, _, axes, _⟩ := slice_eq_ok sliced
      rw [shape, axes]
      exact Part.multiplies_of_select (Nat.le_refl 1) ih selected

theorem settles_slice {view : View} (countable : Countable view.shape)
    (selectors : List Selector) :
    Settles (AllSigned (view.sliceNumbers selectors)) (fun _ => True) TellsInvalid
      (view.slice selectors) := by
  unfold View.slice sliceNumbers
  by_cases many : selectors.length ≤ view.axes.length
  · rw [if_neg (Nat.not_lt_of_le many), if_pos many]
    have settles := Part.settles_select (toSigned view.offset) 0 view.axes selectors
    refine ⟨fun _ _ => trivial, fun able => ?_, fun exceeds => ?_⟩
    · intro failure failed
      rcases Except.bind_eq_error_iff.1 failed with refused | ⟨part, selected, counting⟩
      · exact settles.told able failure refused
      · have counted := elementCount_of_countable
          (Part.multiplies_of_select (Nat.le_refl 1) countable selected)
        rw [counted] at counting
        cases counting
    · rw [settles.overflows exceeds]
      rfl
  · rw [if_pos (Nat.lt_of_not_le many), if_neg many]
    exact .refused allSigned_nil ⟨_, rfl⟩

/-- An access to an element overflows if one of the numbers computed is no signed number. Otherwise what
can be wrong is what was asked for, or that the elements are in use. -/
structure Accesses {α : Type} (computable : Prop) (program : Op α) (world : World) : Prop where
  overflows : ¬ computable → program world = .error (.fault .overflow) world
  told : computable → ∀ failure left, program world = .error failure left →
    TellsInvalid failure ∨ failure = .busy

theorem accesses_bind {α : Type} {computable : Prop} {proper : Nat → Prop}
    {find : Except Failure Nat} {use : Nat → Op α} {world : World}
    (settles : Settles computable proper TellsInvalid find)
    (used : ∀ position, find = .ok position → ∀ failure left,
      use position world = .error failure left → failure = .busy) :
    Accesses computable (Op.ofExcept find >>= use) world where
  overflows exceeds := by
    rw [settles.overflows exceeds]
    rfl
  told able failure left failed := by
    cases found : find with
    | error refusal =>
        rw [found] at failed
        cases failed
        exact .inl (settles.told able _ found)
    | ok position =>
        rw [found] at failed
        exact .inr (used position found failure left failed)

/-- How the arithmetic of a view of a buffer of the given length goes: it overflows just when one of
the numbers computed for an element or for a part is no signed number. In a view with elements, all
those for an element are, each of them what it is among the integers, and those for a part are if the
new strides are. -/
structure Arithmetic (length : Nat) (view : View) : Prop where
  position : ∀ index, Settles (AllSigned (view.indexNumbers index))
    (fun position => position < length ∧ Within view.axes index) TellsInvalid
    (view.indexPosition index)
  slice : ∀ selectors, Settles (AllSigned (view.sliceNumbers selectors))
    (Reachable length) TellsInvalid (view.slice selectors)
  get : ∀ world, (world.elements view.buffer.id).length = length → ∀ index,
    Accesses (AllSigned (view.indexNumbers index)) (view.get index) world
  set : ∀ world, (world.elements view.buffer.id).length = length → ∀ index element,
    Accesses (AllSigned (view.indexNumbers index)) (view.set index element) world
  elements : 0 < view.size → ∀ index, AllSigned (view.indexNumbers index)
  exact : 0 < view.size → ∀ axis ∈ view.axes, ∀ place < axis.extent,
    toSigned place * axis.stride = place * axis.stride
  parts : 0 < view.size → ∀ selectors, selectors.length ≤ view.axes.length →
    (AllSigned (view.sliceNumbers selectors) ↔ AllSigned (Part.newStrides view.axes selectors))

theorem Sound.toSigned_offset {length : Nat} {view : View} (short : length < 2 ^ 63)
    (sound : view.Sound length) (filled : 0 < view.size) : toSigned view.offset = view.offset := by
  have start := sound.inside.start_bounds (sound.populated_iff.2 filled)
  exact toSigned_of_lt (by omega)

theorem Sound.allSigned_indexNumbers {length : Nat} {view : View} (short : length < 2 ^ 63)
    (sound : view.Sound length) (filled : 0 < view.size) (index : List Nat) :
    AllSigned (view.indexNumbers index) := by
  unfold indexNumbers
  split
  · rw [sound.toSigned_offset short filled]
    exact sound.inside.allSigned_advances short (sound.populated_iff.2 filled) index
  · exact allSigned_nil

theorem Sound.allSigned_sliceNumbers_iff {length : Nat} {view : View} (short : length < 2 ^ 63)
    (sound : view.Sound length) (filled : 0 < view.size) {selectors : List Selector}
    (few : selectors.length ≤ view.axes.length) :
    AllSigned (view.sliceNumbers selectors) ↔ AllSigned (Part.newStrides view.axes selectors) := by
  rw [sliceNumbers, if_pos few, sound.toSigned_offset short filled]
  exact Part.allSigned_computes_iff short sound.inside (sound.populated_iff.2 filled)

/-- Reading and writing elements and taking parts overflows just when a number that has to be computed
is no signed number, and else tells what is wrong or succeeds. In a view with elements only the new
stride of a kept axis can be such a number. -/
theorem arithmetic_of_reachable {length : Nat} {view : View} (short : length < 2 ^ 63)
    (reachable : Reachable length view) : view.Arithmetic length := by
  have sound := reachable.sound short
  have positions (index : List Nat) : Settles (AllSigned (view.indexNumbers index))
      (fun position => position < length ∧ Within view.axes index) TellsInvalid
      (view.indexPosition index) :=
    (view.settles_indexPosition index).strengthen fun position found =>
      ⟨indexPosition_lt short sound found, within_of_indexPosition found⟩
  refine ⟨positions, ?slice, ?get, ?set, ?elements, ?exact, ?parts⟩
  case slice =>
    intro selectors
    exact (settles_slice (reachable.countable short) selectors).strengthen fun part sliced =>
      reachable.slice sliced
  case get =>
    intro world known index
    refine accesses_bind (positions index) fun position found failure left failed => ?_
    rw [BufferRef.get_eq (known ▸ indexPosition_lt short sound found)] at failed
    split at failed <;> cases failed
    rfl
  case set =>
    intro world known index element
    refine accesses_bind (positions index) fun position found failure left failed => ?_
    rw [BufferRef.set_eq (known ▸ indexPosition_lt short sound found)] at failed
    split at failed <;> cases failed
    rfl
  case elements => exact sound.allSigned_indexNumbers short
  case exact =>
    intro filled axis member place below
    exact sound.inside.exact_of_mem short (sound.populated_iff.2 filled) member below
  case parts =>
    intro filled selectors few
    exact sound.allSigned_sliceNumbers_iff short filled few

/-- Two of three elements seen with a gap between them, cut down to the first of them with a step that
is far too long. -/
theorem arithmetic_longStep :
    let first : View := ⟨⟨.bool, ⟨0⟩⟩, 0, [⟨1, 2 ^ 63 - 2⟩], 1, none⟩
    (3 < 2 ^ 63 ∧ Reachable 3 first) ∧ first.Arithmetic 3 := by
  intro first
  let world : World := ⟨default, ⟨[List.replicate 3 (.bool true)]⟩, default, []⟩
  have made : make ⟨.bool, ⟨0⟩⟩ 0 [2] [2] world =
      .ok ⟨⟨.bool, ⟨0⟩⟩, 0, [⟨2, 2⟩], 2, none⟩ world := rfl
  have sliced : View.slice ⟨⟨.bool, ⟨0⟩⟩, 0, [⟨2, 2⟩], 2, none⟩
      [.slice ⟨some 0, none, 2 ^ 62 - 1⟩] =
        .ok ⟨⟨.bool, ⟨0⟩⟩, 0, [⟨1, 2 ^ 63 - 2⟩], 1, none⟩ := by decide +kernel
  have reachable : Reachable 3 first := .slice (.make rfl made) sliced
  exact ⟨⟨by decide, reachable⟩, arithmetic_of_reachable (by decide) reachable⟩

/-- In a view without elements the distance that is asked for overflows before the axis without
elements is looked at, and in one with elements a new stride overflows that no element of the part
needs; but an overflow does not tell what is wrong. -/
theorem arithmetic_overflows :
    let world : World := ⟨default, ⟨[List.replicate 3 (.bool true)]⟩, default, []⟩
    let empty : View := ⟨⟨.bool, ⟨0⟩⟩, 0, [⟨2 ^ 40, 2 ^ 40⟩, ⟨0, 1⟩], 0, none⟩
    let gapped : View := ⟨⟨.bool, ⟨0⟩⟩, 0, [⟨2, 2⟩], 2, none⟩
    (make ⟨.bool, ⟨0⟩⟩ 0 [2 ^ 40, 0] [2 ^ 40, 1] world = .ok empty world ∧
        empty.get [2 ^ 39, 0] world = .error (.fault .overflow) world ∧
        empty.slice [.index (2 ^ 39)] = .error (.fault .overflow)) ∧
      (make ⟨.bool, ⟨0⟩⟩ 0 [2] [2] world = .ok gapped world ∧
        gapped.slice [.slice ⟨some 0, none, 2 ^ 63 - 1⟩] = .error (.fault .overflow)) ∧
      ¬ TellsInvalid (.fault .overflow) :=
  ⟨⟨rfl, rfl, rfl⟩, ⟨rfl, rfl⟩, nofun⟩

end View

end PathStore
