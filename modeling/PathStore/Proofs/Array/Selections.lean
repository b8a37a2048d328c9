import PathStore.Proofs.Array.Arithmetic

/-!
# Which elements a part has

A selector picks a single index of an axis, which takes the axis away, or a range of them, which keeps
it. A multi-index of the part leads back to one of the whole: the picked indices are put in again where
axes were taken away, and a place along a range becomes the index that the range has there. The element
of the part and that of the whole are the same one in the buffer. Going back through several parts is
going back through one after the other.
-/

namespace PathStore

open Address Layout

/-- What is picked of an axis: one of its indices, or a range of them. -/
inductive Pick where
  | single (place : Nat)
  | several (range : IndexRange)
  deriving DecidableEq

namespace Selector

/-- Whether the selector can be applied to an axis: its index is one of the axis, or its slice can be
resolved there. -/
def Valid (extent : Nat) : Selector → Prop
  | .index place => place < extent
  | .slice named => ∃ range, named.resolve extent = .ok range

/-- What the selector picks of an axis. -/
def pick (extent : Nat) : Selector → Option Pick
  | .index place => if place < extent then some (.single place) else none
  | .slice named => (named.resolve extent).toOption.map .several

theorem exists_pick_iff {selector : Selector} {extent : Nat} :
    (∃ pick, selector.pick extent = some pick) ↔ selector.Valid extent := by
  cases selector with
  | index place => by_cases below : place < extent <;> simp [pick, Valid, below]
  | slice named =>
      cases resolved : named.resolve extent <;> simp [pick, Valid, resolved, Except.toOption]

theorem pick_eq_single {selector : Selector} {extent place : Nat}
    (picking : selector.pick extent = some (.single place)) :
    selector = .index place ∧ place < extent := by
  cases selector with
  | index other =>
      by_cases below : other < extent
      · simp only [pick, if_pos below, Option.some.injEq, Pick.single.injEq] at picking
        exact ⟨congrArg _ picking, picking ▸ below⟩
      · simp [pick, if_neg below] at picking
  | slice named => simp [pick] at picking

theorem pick_eq_several {selector : Selector} {extent : Nat} {range : IndexRange}
    (picking : selector.pick extent = some (.several range)) :
    ∃ named, selector = .slice named ∧ named.resolve extent = .ok range := by
  cases selector with
  | index place => by_cases below : place < extent <;> simp [pick, below] at picking
  | slice named =>
      simp only [pick, Option.map_eq_some_iff, Pick.several.injEq, exists_eq_right,
        Except.toOption_eq_some_iff] at picking
      exact ⟨named, rfl, picking⟩

/-- The selector picks the whole axis, from its first index on and in steps of one. -/
def TakesWhole (extent : Nat) (selector : Selector) : Prop :=
  selector.pick extent = some (.several ⟨0, extent, 1⟩)

theorem takesWhole_whole {extent : Nat} (filled : 0 < extent) (small : extent < 2 ^ 63) :
    whole.TakesWhole extent := by
  have exact : Slice.signedIndex extent = .ok extent :=
    signedOr_eq_ok_iff.2 ⟨isSigned_of_lt (by omega) (by omega), rfl⟩
  have resolved : Slice.all.resolve extent = .ok ⟨0, extent, 1⟩ := by
    simp [Slice.resolve, Slice.all, exact, bind, Except.bind, pure, Except.pure, IndexRange.isEmpty,
      Nat.ne_of_gt filled]
  simp [TakesWhole, pick, whole, resolved, Except.toOption]

end Selector

theorem IndexRange.count_whole (extent : Nat) : IndexRange.count ⟨0, extent, 1⟩ = extent := by
  simp [count]

/-- Going along an axis to the first index that a slice names leads to a start from which the remaining
axes are inside. -/
theorem Layout.Inside.along_range {length : Nat} {start : Int} {axis : Axis} {axes : List Axis}
    {named : Slice} {range : IndexRange} (inside : Inside length start (axis :: axes))
    (resolved : named.resolve axis.extent = .ok range) :
    Inside length (start + range.first * axis.stride) axes := by
  obtain ⟨nonneg, least, _⟩ := Slice.resolve_eq_ok resolved
  have first : range.first.toNat < axis.extent := by omega
  have along := inside.along first
  rwa [Int.toNat_of_nonneg nonneg] at along

namespace Part

/-! ## Picks -/

/-- What selectors pick of axes, if each can be applied. An axis without selector is taken whole. -/
def picks : List Axis → List Selector → Option (List Pick)
  | [], _ => some []
  | axis :: axes, selectors => do
    let pick ← (selectors.headD .whole).pick axis.extent
    return pick :: (← picks axes selectors.tail)

/-- The axes that remain of those picked from. -/
def keptAxes : List Axis → List Pick → List Axis
  | axis :: axes, .several range :: picks =>
    ⟨range.count, axis.stride * range.step⟩ :: keptAxes axes picks
  | _ :: axes, .single _ :: picks => keptAxes axes picks
  | _, _ => []

/-- The multi-index of the whole that a multi-index of the part stands for. -/
def source : List Pick → List Nat → List Nat
  | .single place :: picks, index => place :: source picks index
  | .several range :: picks, place :: index =>
    (range.first + place * range.step).toNat :: source picks index
  | _, _ => []

theorem picks_cons {axis : Axis} {axes : List Axis} {selectors : List Selector}
    {picked : List Pick} :
    picks (axis :: axes) selectors = some picked ↔
      ∃ pick rest, (selectors.headD .whole).pick axis.extent = some pick ∧
        picks axes selectors.tail = some rest ∧ picked = pick :: rest := by
  simp only [picks, Option.bind_eq_bind, Option.bind_eq_some_iff, Option.pure_def, Option.some.injEq,
    eq_comm (a := _ :: _)]
  constructor
  · rintro ⟨pick, picking, rest, further, same⟩
    exact ⟨pick, rest, picking, further, same⟩
  · rintro ⟨pick, rest, picking, further, same⟩
    exact ⟨pick, picking, rest, further, same⟩

/-- Each selector meets a condition on the extent of its axis. -/
def Meets (condition : Nat → Selector → Prop) (axes : List Axis) (selectors : List Selector) : Prop :=
  ∀ (number : Nat) (selector : Selector) (axis : Axis), selectors[number]? = some selector →
    axes[number]? = some axis → condition axis.extent selector

theorem meets_cons {condition : Nat → Selector → Prop} {axis : Axis} {axes : List Axis}
    {selectors : List Selector} (whole : condition axis.extent .whole) :
    Meets condition (axis :: axes) selectors ↔
      condition axis.extent (selectors.headD .whole) ∧ Meets condition axes selectors.tail := by
  cases selectors with
  | nil =>
      constructor
      · intro _
        exact ⟨whole, nofun⟩
      · intro _
        exact nofun
  | cons selector selectors =>
      constructor
      · intro meets
        exact ⟨meets 0 selector axis rfl rfl, fun number => meets (number + 1)⟩
      · rintro ⟨head, tail⟩ number other place chosen found
        cases number with
        | zero =>
            cases chosen
            cases found
            exact head
        | succ number => exact tail number other place chosen found

/-- Something is picked of each axis just when each selector can be applied to its axis. -/
theorem exists_picks_iff {axes : List Axis} {selectors : List Selector} (populated : Populated axes)
    (small : ∀ axis ∈ axes, axis.extent < 2 ^ 63) :
    (∃ picked, picks axes selectors = some picked) ↔ Meets Selector.Valid axes selectors := by
  induction axes generalizing selectors with
  | nil => simp [picks, Meets]
  | cons axis axes ih =>
      obtain ⟨filled, rest⟩ := populated_cons_iff.1 populated
      obtain ⟨first, others⟩ := List.forall_mem_cons.1 small
      have whole : Selector.whole.Valid axis.extent :=
        Selector.exists_pick_iff.1 ⟨_, Selector.takesWhole_whole filled first⟩
      rw [meets_cons whole, ← ih rest others, ← Selector.exists_pick_iff]
      simp only [picks_cons]
      constructor
      · rintro ⟨picked, pick, remaining, picking, going, same⟩
        exact ⟨⟨pick, picking⟩, ⟨remaining, going⟩⟩
      · rintro ⟨⟨pick, picking⟩, ⟨remaining, going⟩⟩
        exact ⟨_, pick, remaining, picking, going, rfl⟩

/-! ## Elements -/

section Inside

variable {length : Nat} {position : Int} {number : Nat} {axis : Axis} {axes : List Axis}
  {selectors : List Selector}

/-- A single index is taken by going along the axis to it. -/
theorem select_single {place : Nat} (short : length < 2 ^ 63)
    (inside : Inside length position (axis :: axes)) (populated : Populated (axis :: axes))
    (picking : (selectors.headD .whole).pick axis.extent = some (.single place)) :
    select position number (axis :: axes) selectors =
      select (position + place * axis.stride) (number + 1) axes selectors.tail := by
  obtain ⟨taken, below⟩ := Selector.pick_eq_single picking
  obtain ⟨multiplied, added⟩ := inside.step_eq short populated below
  rw [select]
  rw [taken]
  dsimp only
  rw [if_neg (Nat.not_le_of_lt below), multiplied]
  change (add position _ >>= _) = _
  rw [added]
  rfl

/-- A range is taken by going along the axis to its first index, and with a new stride. -/
theorem select_several {range : IndexRange} (short : length < 2 ^ 63)
    (inside : Inside length position (axis :: axes)) (populated : Populated (axis :: axes))
    (picking : (selectors.headD .whole).pick axis.extent = some (.several range)) :
    select position number (axis :: axes) selectors = do
      let stride ← mul axis.stride range.step
      let part ← select (position + range.first * axis.stride) (number + 1) axes selectors.tail
      return part.keep ⟨range.count, stride⟩ := by
  obtain ⟨named, taken, resolved⟩ := Selector.pick_eq_several picking
  obtain ⟨nonneg, least, _⟩ := Slice.resolve_eq_ok resolved
  have filled : ¬ (axis.extent = 0 ∧ named = .all) := fun whole => by omega
  have start : range.first = (range.first.toNat : Int) := by omega
  have first : range.first.toNat < axis.extent := by omega
  obtain ⟨_, distance, reached⟩ := inside.exact short populated first
  rw [← start] at distance reached
  rw [select]
  rw [taken]
  dsimp only
  rw [if_neg filled, resolved]
  change (mul range.first axis.stride >>= _) = _
  rw [mul_of_isSigned distance]
  change (add position _ >>= _) = _
  rw [show add position _ = .ok _ from signed_of_isSigned reached]
  rfl

end Inside

/-- Whatever can be selected of axes with elements has been picked from each of them. -/
theorem exists_picks_of_select {position : Int} {number : Nat} {axes : List Axis}
    {selectors : List Selector} {part : Part} (populated : Populated axes)
    (selected : select position number axes selectors = .ok part) :
    ∃ picked, picks axes selectors = some picked := by
  induction axes generalizing position number selectors part with
  | nil => exact ⟨[], rfl⟩
  | cons axis axes ih =>
      obtain ⟨filled, rest⟩ := populated_cons_iff.1 populated
      simp only [picks_cons]
      rw [select] at selected
      cases taken : selectors.headD .whole with
      | index place =>
          rw [taken] at selected
          dsimp only at selected
          split at selected
          · cases selected
          · rename_i below
            obtain ⟨_, _, adding⟩ := Except.bind_eq_ok_iff.1 selected
            obtain ⟨_, _, selecting⟩ := Except.bind_eq_ok_iff.1 adding
            obtain ⟨picked, picking⟩ := ih rest selecting
            exact ⟨_, _, picked, if_pos (Nat.lt_of_not_le below), picking, rfl⟩
      | slice named =>
          have some : ¬ (axis.extent = 0 ∧ named = .all) := fun whole => by omega
          rw [taken] at selected
          dsimp only at selected
          rw [if_neg some] at selected
          obtain ⟨range, resolved, multiplying⟩ := Except.bind_eq_ok_iff.1 selected
          obtain ⟨_, _, adding⟩ := Except.bind_eq_ok_iff.1 multiplying
          obtain ⟨_, _, striding⟩ := Except.bind_eq_ok_iff.1 adding
          obtain ⟨_, _, keeping⟩ := Except.bind_eq_ok_iff.1 striding
          obtain ⟨_, selecting, _⟩ := Except.bind_eq_ok_iff.1 keeping
          obtain ⟨picked, picking⟩ := ih rest selecting
          exact ⟨_, .several range, picked, by simp [Selector.pick, resolved, Except.toOption], picking,
            rfl⟩

/-- What is picked can be selected, as long as the new strides can be computed. -/
theorem exists_select {length : Nat} {position : Int} {number : Nat} {axes : List Axis}
    {selectors : List Selector} {picked : List Pick} (short : length < 2 ^ 63)
    (inside : Inside length position axes) (populated : Populated axes)
    (picking : picks axes selectors = some picked) (fits : AllSigned (newStrides axes selectors)) :
    ∃ part, select position number axes selectors = .ok part := by
  induction axes generalizing position number selectors picked with
  | nil => exact ⟨_, rfl⟩
  | cons axis axes ih =>
      have rest := (populated_cons_iff.1 populated).2
      obtain ⟨pick, others, taking, going, _⟩ := picks_cons.1 picking
      cases pick with
      | single place =>
          obtain ⟨taken, below⟩ := Selector.pick_eq_single taking
          rw [newStrides, taken] at fits
          simp only [if_pos below] at fits
          rw [select_single short inside populated taking]
          exact ih (inside.along below) rest going fits
      | several range =>
          obtain ⟨named, taken, resolved⟩ := Selector.pick_eq_several taking
          rw [newStrides, taken] at fits
          simp only [resolved, allSigned_cons] at fits
          have along := inside.along_range resolved
          obtain ⟨part, selected⟩ : ∃ part, select _ (number + 1) axes selectors.tail = .ok part :=
            ih along rest going fits.2
          rw [select_several short inside populated taking, mul_of_isSigned fits.1]
          exact ⟨part.keep ⟨range.count, axis.stride * range.step⟩, by rw [selected]; rfl⟩

/-- The elements of a part stand where the picks lead back to. -/
theorem located_of_select {length : Nat} {position : Int} {number : Nat} {axes : List Axis}
    {selectors : List Selector} {picked : List Pick} {part : Part} (short : length < 2 ^ 63)
    (inside : Inside length position axes) (populated : Populated axes)
    (picking : picks axes selectors = some picked)
    (selected : select position number axes selectors = .ok part) :
    part.axes = keptAxes axes picked ∧ ∀ index, Within part.axes index →
      Within axes (source picked index) ∧
        part.position + displacement part.axes index =
          position + displacement axes (source picked index) := by
  induction axes generalizing position number selectors picked part with
  | nil =>
      cases selected
      cases picking
      exact ⟨rfl, fun index within => by cases within; exact ⟨.nil, rfl⟩⟩
  | cons axis axes ih =>
      have rest := (populated_cons_iff.1 populated).2
      obtain ⟨pick, others, taking, going, rfl⟩ := picks_cons.1 picking
      cases pick with
      | single place =>
          have below := (Selector.pick_eq_single taking).2
          rw [select_single short inside populated taking] at selected
          obtain ⟨same, located⟩ := ih (inside.along below) rest going selected
          refine ⟨same, fun index within => ?_⟩
          obtain ⟨member, equal⟩ := located index within
          refine ⟨within_cons_iff.2 ⟨below, member⟩, ?_⟩
          rw [equal, source, displacement, Int.add_assoc]
      | several range =>
          obtain ⟨named, _, resolved⟩ := Selector.pick_eq_several taking
          have along := inside.along_range resolved
          rw [select_several short inside populated taking] at selected
          obtain ⟨stride, strode, keeping⟩ := Except.bind_eq_ok_iff.1 selected
          obtain ⟨remaining, selecting, kept⟩ := Except.bind_eq_ok_iff.1 keeping
          cases kept
          cases mul_eq_ok strode
          obtain ⟨same, located⟩ := ih along rest going selecting
          refine ⟨by simp only [keep, keptAxes, same], fun index within => ?_⟩
          cases within with
          | @cons _ place _ index below within =>
              obtain ⟨above, under⟩ := Slice.resolve_index resolved below
              obtain ⟨member, equal⟩ := located index within
              refine ⟨within_cons_iff.2 ⟨by omega, member⟩, ?_⟩
              simp only [keep, source, displacement, Int.toNat_of_nonneg above]
              linear_combination equal

/-- Taking every axis whole changes nothing. -/
theorem select_whole {length : Nat} {position : Int} {number : Nat} {axes : List Axis}
    {selectors : List Selector} (short : length < 2 ^ 63) (inside : Inside length position axes)
    (populated : Populated axes) (small : ∀ axis ∈ axes, axis.extent < 2 ^ 63)
    (fits : AllSigned (newStrides axes selectors))
    (whole : Meets Selector.TakesWhole axes selectors) :
    select position number axes selectors = .ok ⟨position, axes⟩ := by
  induction axes generalizing position number selectors with
  | nil => rfl
  | cons axis axes ih =>
      obtain ⟨filled, rest⟩ := populated_cons_iff.1 populated
      obtain ⟨first, others⟩ := List.forall_mem_cons.1 small
      obtain ⟨taking, further⟩ := (meets_cons (Selector.takesWhole_whole filled first)).1 whole
      obtain ⟨named, taken, resolved⟩ := Selector.pick_eq_several taking
      rw [newStrides, taken] at fits
      simp only [resolved, allSigned_cons] at fits
      have along := inside.along filled
      rw [select_several short inside populated taking, mul_of_isSigned fits.1]
      simp only [Int.natCast_zero, Int.zero_mul, Int.add_zero] at along ⊢
      change (select position (number + 1) axes selectors.tail >>= _) = _
      rw [ih along rest others fits.2 further, Int.mul_one, IndexRange.count_whole]
      rfl

end Part

namespace View

/-- The part has the axes of which a range was picked, and the element at each of its multi-indices is
the one that the view has where that multi-index leads back to. -/
structure Shows (length : Nat) (view : View) (picked : List Pick) (part : View) : Prop where
  buffer_eq : part.buffer = view.buffer
  owner_eq : part.owner = view.owner
  axes_eq : part.axes = Part.keptAxes view.axes picked
  counted : part.size = part.shape.prod
  located : ∀ index, Within part.axes index →
    Within view.axes (Part.source picked index) ∧
      ∃ position < length, part.indexPosition index = .ok position ∧
        view.indexPosition (Part.source picked index) = .ok position

section Slicing

variable {length : Nat} {view part : View} {selectors : List Selector}

theorem slice_origin (sliced : view.slice selectors = .ok part) :
    part.buffer = view.buffer ∧ part.owner = view.owner ∧ selectors.length ≤ view.axes.length := by
  unfold View.slice at sliced
  split at sliced
  · cases sliced
  · rename_i few
    obtain ⟨_, _, counting⟩ := Except.bind_eq_ok_iff.1 sliced
    obtain ⟨_, _, finished⟩ := Except.bind_eq_ok_iff.1 counting
    cases finished
    exact ⟨rfl, rfl, Nat.le_of_not_lt few⟩

/-- Selecting from a view with as many selectors as it has axes, or fewer, is selecting from its
layout. -/
theorem Reachable.slice_eq {chosen : Part} (short : length < 2 ^ 63)
    (reachable : Reachable length view) (filled : 0 < view.size)
    (few : selectors.length ≤ view.axes.length)
    (selected : Part.select view.offset 0 view.axes selectors = .ok chosen) :
    view.slice selectors = .ok { view with
      offset := toUnsigned chosen.position
      axes := chosen.axes
      size := (Layout.shape chosen.axes).prod } := by
  have counted := elementCount_of_countable
    (Part.multiplies_of_select (Nat.le_refl 1) (reachable.countable short) selected)
  unfold View.slice
  rw [if_neg (Nat.not_lt_of_le few), (reachable.sound short).toSigned_offset short filled, selected]
  change (Layout.elementCount _ >>= _) = _
  rw [counted]
  rfl

theorem Sound.shows (short : length < 2 ^ 63) (sound : view.Sound length) (filled : 0 < view.size)
    {picked : List Pick} (picking : Part.picks view.axes selectors = some picked)
    (sliced : view.slice selectors = .ok part) : view.Shows length picked part := by
  obtain ⟨buffer, owner, _⟩ := slice_origin sliced
  obtain ⟨chosen, selected, offset, axes, _⟩ := slice_eq_ok sliced
  have populated := sound.populated_iff.2 filled
  have piece := sound.slice short sliced
  rw [sound.toSigned_offset short filled] at selected
  obtain ⟨same, located⟩ := Part.located_of_select short sound.inside populated picking selected
  rw [← axes] at same located
  refine ⟨buffer, owner, same, piece.counted, fun index within => ?_⟩
  obtain ⟨member, equal⟩ := located index within
  have start := (Part.inside_of_select short sound.inside selected).start_bounds
    (axes ▸ within.populated)
  have first : (part.offset : Int) = chosen.position := by
    rw [offset, (toUnsigned_start short start.1 start.2).2]
  obtain ⟨position, below, found, here⟩ := indexPosition_eq short piece.inside within
  obtain ⟨other, _, again, there⟩ := indexPosition_eq short sound.inside member
  rw [first, equal, ← there] at here
  cases Int.ofNat_inj.1 here
  exact ⟨member, position, below, found, again⟩

theorem Sound.filled_of_slice (sound : view.Sound length)
    (sliced : view.slice selectors = .ok part) {index : List Nat} (within : Within part.axes index) :
    0 < view.size := by
  obtain ⟨chosen, selected, _, axes, _⟩ := slice_eq_ok sliced
  rw [← sound.populated_iff]
  by_contra empty
  exact Part.not_populated_of_select empty selected (axes ▸ within.populated)

end Slicing

/-- What taking parts of a view of a buffer of the given length comes to. -/
structure Sliceable (length : Nat) (view : View) : Prop where
  /-- Selectors are accepted if they are not too many and each can be applied to its axis. -/
  accepts : ∀ selectors, AllSigned (Part.newStrides view.axes selectors) →
    ((∃ part, view.slice selectors = .ok part) ↔
      selectors.length ≤ view.axes.length ∧ Part.Meets Selector.Valid view.axes selectors)
  /-- The part shows just what the selectors pick. -/
  shows : ∀ selectors part, view.slice selectors = .ok part →
    ∃ picked, Part.picks view.axes selectors = some picked ∧ view.Shows length picked part
  /-- Selectors that pick whole axes change nothing, and the default selector does. -/
  whole : (∀ selectors, AllSigned (Part.newStrides view.axes selectors) →
      selectors.length ≤ view.axes.length →
      Part.Meets Selector.TakesWhole view.axes selectors → view.slice selectors = .ok view) ∧
    ∀ axis ∈ view.axes, Selector.whole.TakesWhole axis.extent
  /-- A part of a part shows what is found by leading back twice. -/
  composes : ∀ firsts seconds part piece picked further,
    view.slice firsts = .ok part → Part.picks view.axes firsts = some picked →
    part.slice seconds = .ok piece → Part.picks part.axes seconds = some further →
    ∀ index, Within piece.axes index →
      Within view.axes (Part.source picked (Part.source further index)) ∧
        ∃ position < length, piece.indexPosition index = .ok position ∧
          view.indexPosition (Part.source picked (Part.source further index)) = .ok position

/-- Taking a part of a view with elements succeeds just for selectors that can be applied, and then
shows exactly what they pick, whatever parts the view itself was taken from. -/
theorem sliceable_of_reachable {length : Nat} {view : View} (short : length < 2 ^ 63)
    (reachable : Reachable length view) (filled : 0 < view.size)
    (small : ∀ axis ∈ view.axes, axis.extent < 2 ^ 63) : view.Sliceable length := by
  have sound := reachable.sound short
  have populated := sound.populated_iff.2 filled
  refine ⟨?accepts, ?shows, ⟨?whole, ?default⟩, ?composes⟩
  case accepts =>
    intro selectors fits
    rw [← Part.exists_picks_iff populated small]
    constructor
    · rintro ⟨part, sliced⟩
      obtain ⟨_, selected, _⟩ := slice_eq_ok sliced
      exact ⟨(slice_origin sliced).2.2, Part.exists_picks_of_select populated selected⟩
    · rintro ⟨few, picked, picking⟩
      obtain ⟨chosen, selected⟩ := Part.exists_select short sound.inside populated picking fits
      exact ⟨_, reachable.slice_eq short filled few selected⟩
  case shows =>
    intro selectors part sliced
    obtain ⟨_, selected, _⟩ := slice_eq_ok sliced
    obtain ⟨picked, picking⟩ := Part.exists_picks_of_select populated selected
    exact ⟨picked, picking, sound.shows short filled picking sliced⟩
  case whole =>
    intro selectors fits few whole
    rw [reachable.slice_eq short filled few
      (Part.select_whole short sound.inside populated small fits whole)]
    have start := sound.inside.start_bounds populated
    have offset : toUnsigned view.offset = view.offset := toUnsigned_of_nonneg start.1 (by omega)
    have size : (Layout.shape view.axes).prod = view.size := sound.counted.symm
    simp only [offset, size]
  case default =>
    intro axis member
    exact Selector.takesWhole_whole (populated axis member) (small axis member)
  case composes =>
    intro firsts seconds part piece picked further sliced picking again going index within
    have piece_sound := sound.slice short sliced
    have shown := sound.shows short filled picking sliced
    have shownAgain := piece_sound.shows short (piece_sound.filled_of_slice again within) going again
    obtain ⟨member, position, below, found, same⟩ := shownAgain.located index within
    obtain ⟨whole, _, _, reached, origin⟩ := shown.located _ member
    cases same.symm.trans reached
    exact ⟨whole, position, below, found, origin⟩

/-- Six elements seen backwards as two rows of three. Of the last row, which comes first in the buffer,
every other element is taken backwards: the part begins at the first element of the buffer and goes on
by two. -/
theorem sliceable_backwardRows :
    let rows : View := ⟨⟨.bool, ⟨0⟩⟩, 5, [⟨2, -3⟩, ⟨3, -1⟩], 6, none⟩
    let row : View := ⟨⟨.bool, ⟨0⟩⟩, 0, [⟨2, 2⟩], 2, none⟩
    (6 < 2 ^ 63 ∧ Reachable 6 rows ∧ 0 < rows.size ∧ ∀ axis ∈ rows.axes, axis.extent < 2 ^ 63) ∧
      rows.Sliceable 6 ∧ rows.slice [.index 1, .slice ⟨none, none, -2⟩] = .ok row ∧
      rows.Shows 6 [.single 1, .several ⟨2, -1, -2⟩] row := by
  intro rows row
  let world : World := ⟨default, ⟨[List.replicate 6 (.bool true)]⟩, default, []⟩
  have made : make ⟨.bool, ⟨0⟩⟩ 5 [2, 3] [-3, -1] world =
      .ok ⟨⟨.bool, ⟨0⟩⟩, 5, [⟨2, -3⟩, ⟨3, -1⟩], 6, none⟩ world := rfl
  have reachable : Reachable 6 rows := .make rfl made
  have small : ∀ axis ∈ rows.axes, axis.extent < 2 ^ 63 := by decide
  have sliceable := sliceable_of_reachable (by decide) reachable (by decide) small
  have sliced : View.slice ⟨⟨.bool, ⟨0⟩⟩, 5, [⟨2, -3⟩, ⟨3, -1⟩], 6, none⟩
      [.index 1, .slice ⟨none, none, -2⟩] = .ok row := rfl
  obtain ⟨picked, picking, shown⟩ := sliceable.shows _ row sliced
  cases picking
  exact ⟨⟨by decide, reachable, by decide, small⟩, sliceable, sliced, shown⟩

end View

end PathStore
