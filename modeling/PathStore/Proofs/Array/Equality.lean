import PathStore.Proofs.Array.RowMajor
import PathStore.Proofs.World.Inquiries

/-!
# Equality of views

Two views are compared by their memory if that is the same, and element by element otherwise, which takes
reading both buffers. Neither way is an equivalence by itself: elements may differ from themselves, and
what is being written cannot be read. Together they are one, because the views of one memory are compared
with a further view in the same way; all that is needed of the elements is that their equality is
symmetric and transitive. Where elements are equal to themselves and can be read, equal views are those of
one shape with equal elements.
-/

namespace PathStore

open Layout

/-! ## Equality of elements -/

namespace Binary64

theorem same_symm {left right : Binary64} (equal : left.same right = true) :
    right.same left = true := by
  unfold same at *
  grind

theorem same_trans {left middle right : Binary64} (first : left.same middle = true)
    (second : middle.same right = true) : left.same right = true := by
  unfold same isZero magnitude at *
  grind

end Binary64

namespace Scalar

theorem same_symm (left right : Scalar) (equal : left.same right = true) :
    right.same left = true := by
  -- Only scalars of one type are ever equal.
  cases left <;> cases right <;> try cases equal
  case bool.bool => exact beq_iff_eq.2 (beq_iff_eq.1 equal).symm
  case integer.integer => exact beq_iff_eq.2 (beq_iff_eq.1 equal).symm
  case float.float => exact Binary64.same_symm equal
  case text.text => exact beq_iff_eq.2 (beq_iff_eq.1 equal).symm
  case complex.complex =>
    obtain ⟨re, im⟩ := Bool.and_eq_true_iff.1 equal
    exact Bool.and_eq_true_iff.2 ⟨Binary64.same_symm re, Binary64.same_symm im⟩

theorem same_trans (left middle right : Scalar) (first : left.same middle = true)
    (second : middle.same right = true) : left.same right = true := by
  cases left <;> cases middle <;> try cases first
  all_goals cases right <;> try cases second
  case bool.bool.bool => exact beq_iff_eq.2 ((beq_iff_eq.1 first).trans (beq_iff_eq.1 second))
  case integer.integer.integer =>
    exact beq_iff_eq.2 ((beq_iff_eq.1 first).trans (beq_iff_eq.1 second))
  case float.float.float => exact Binary64.same_trans first second
  case text.text.text => exact beq_iff_eq.2 ((beq_iff_eq.1 first).trans (beq_iff_eq.1 second))
  case complex.complex.complex =>
    obtain ⟨firstRe, firstIm⟩ := Bool.and_eq_true_iff.1 first
    obtain ⟨secondRe, secondIm⟩ := Bool.and_eq_true_iff.1 second
    exact Bool.and_eq_true_iff.2
      ⟨Binary64.same_trans firstRe secondRe, Binary64.same_trans firstIm secondIm⟩

end Scalar

theorem Layout.axes_shape_strides (axes : List Axis) :
    Layout.axes (shape axes) (strides axes) = axes := by
  induction axes with
  | nil => rfl
  | cons axis axes ih => exact congrArg (axis :: ·) ih

namespace View

/-! ## Comparing with any equality of elements -/

/-- Whether two views show equal elements at the given places, up to the first difference. -/
def agreeBy (equal : Scalar → Scalar → Bool) (left right : View)
    (leftElements rightElements : List Scalar) : List Nat → Except Failure Bool
  | [] => .ok true
  | place :: rest => do
    let leftElement ← left.pick leftElements place
    let rightElement ← right.pick rightElements place
    if equal leftElement rightElement then
      agreeBy equal left right leftElements rightElements rest
    else return false

/-- Equality of views of elements that have the given equality. -/
def sameBy (equal : Scalar → Scalar → Bool) (left right : View) : Op Bool :=
  if left.size ≠ right.size ∨ left.axes ≠ right.axes then pure false
  else if left.buffer = right.buffer ∧ left.offset = right.offset then pure true
  else do
    let compared ← Op.attempt <|
      left.buffer.id.reading .busy fun leftElements =>
        right.buffer.id.reading .busy fun rightElements =>
          Op.ofExcept (agreeBy equal left right leftElements rightElements (List.range left.size))
    return compared.toOption.getD false

theorem agree_eq_agreeBy (left right : View) (leftElements rightElements : List Scalar)
    (places : List Nat) :
    left.agree right leftElements rightElements places =
      agreeBy Scalar.same left right leftElements rightElements places := by
  induction places with
  | nil => rfl
  | cons place places ih => rw [agree, agreeBy, ih]

/-- Views are compared by the equality of scalars. -/
theorem same_eq_sameBy : View.same = sameBy Scalar.same := by
  funext left right
  unfold same sameBy
  simp only [agree_eq_agreeBy]

/-! ## What is compared -/

/-- The view is one that a program can hold, with an owner or without. -/
structure Obtained (world : World) (view : View) : Prop where
  short : (world.elements view.buffer.id).length < 2 ^ 63
  reachable : Reachable (world.elements view.buffer.id).length { view with owner := none }

/-- The views have the same first element in memory. -/
def Shares (left right : View) : Prop :=
  left.buffer = right.buffer ∧ left.offset = right.offset

/-- Both views can be read, and show equal elements at the given places. -/
structure Agrees (equal : Scalar → Scalar → Bool) (world : World) (left right : View)
    (places : List Nat) : Prop where
  leftReadable : world.admits ⟨.buffer left.buffer.id, .reading⟩
  rightReadable : world.admits ⟨.buffer right.buffer.id, .reading⟩
  elements : ∀ place ∈ places, ∃ leftElement rightElement,
    left.pick (world.elements left.buffer.id) place = .ok leftElement ∧
      right.pick (world.elements right.buffer.id) place = .ok rightElement ∧
        equal leftElement rightElement = true

/-- The views have the same axes, and the same memory or equal elements. -/
structure Equates (equal : Scalar → Scalar → Bool) (world : World) (left right : View) : Prop where
  axes : left.axes = right.axes
  shown : left.Shares right ∨ Agrees equal world left right (List.range left.size)

section Obtained

variable {equal : Scalar → Scalar → Bool} {world : World} {left middle right view : View}

theorem Obtained.sound (obtained : Obtained world view) :
    view.Sound (world.elements view.buffer.id).length :=
  have sound := Reachable.sound obtained.short obtained.reachable
  ⟨sound.counted, sound.inside⟩

/-- Which element is picked does not depend on whether the buffer may be read. -/
theorem Obtained.exists_pick (obtained : Obtained world view) {place : Nat}
    (below : place < view.size) :
    ∃ element ∈ world.elements view.buffer.id,
      view.pick (world.elements view.buffer.id) place = .ok element := by
  obtain ⟨position, inside, found, _⟩ :=
    obtained.sound.checkedPosition_eq_indexPosition obtained.short below
  exact ⟨_, List.getElem_mem inside, pick_eq found (List.getElem?_eq_getElem inside)⟩

theorem Obtained.picks (obtained : Obtained world view) :
    ∀ place ∈ List.range view.size, ∃ element,
      view.pick (world.elements view.buffer.id) place = .ok element := by
  intro place member
  obtain ⟨element, _, picked⟩ := obtained.exists_pick (List.mem_range.1 member)
  exact ⟨element, picked⟩

theorem size_eq_of_axes (leftObtained : Obtained world left) (rightObtained : Obtained world right)
    (axes : left.axes = right.axes) : left.size = right.size := by
  rw [leftObtained.sound.counted, rightObtained.sound.counted, View.shape, View.shape, axes]

theorem agreeBy_eq (equal : Scalar → Scalar → Bool) {leftElements rightElements : List Scalar}
    {places : List Nat}
    (leftPicks : ∀ place ∈ places, ∃ element, left.pick leftElements place = .ok element)
    (rightPicks : ∀ place ∈ places, ∃ element, right.pick rightElements place = .ok element) :
    ∃ verdict, agreeBy equal left right leftElements rightElements places = .ok verdict ∧
      (verdict = true ↔ ∀ place ∈ places, ∃ leftElement rightElement,
        left.pick leftElements place = .ok leftElement ∧
          right.pick rightElements place = .ok rightElement ∧
            equal leftElement rightElement = true) := by
  induction places with
  | nil => exact ⟨true, rfl, iff_of_true rfl (List.forall_mem_nil _)⟩
  | cons place places ih =>
      obtain ⟨⟨leftElement, leftPicked⟩, leftRest⟩ := List.forall_mem_cons.1 leftPicks
      obtain ⟨⟨rightElement, rightPicked⟩, rightRest⟩ := List.forall_mem_cons.1 rightPicks
      obtain ⟨verdict, decided, exact⟩ := ih leftRest rightRest
      rw [agreeBy, leftPicked, Except.ok_bind, rightPicked, Except.ok_bind, List.forall_mem_cons]
      by_cases same : equal leftElement rightElement = true
      · rw [if_pos same]
        refine ⟨verdict, decided, exact.trans (and_iff_right ?_).symm⟩
        exact ⟨leftElement, rightElement, leftPicked, rightPicked, same⟩
      · rw [if_neg same]
        refine ⟨false, rfl, iff_of_false Bool.false_ne_true ?_⟩
        rintro ⟨⟨leftOther, rightOther, leftAgain, rightAgain, equals⟩, _⟩
        cases leftPicked.symm.trans leftAgain
        cases rightPicked.symm.trans rightAgain
        exact same equals

/-- Comparing the elements of two views reads both buffers, if it is allowed to. -/
theorem reading_both (left right : BufferId) (world : World)
    (decide : List Scalar → List Scalar → Except Failure Bool) :
    (left.reading .busy fun leftElements => right.reading .busy fun rightElements =>
        Op.ofExcept (decide leftElements rightElements)) world =
      settled
        (if world.admits ⟨.buffer left, .reading⟩ ∧ world.admits ⟨.buffer right, .reading⟩ then
          decide (world.elements left) (world.elements right)
        else .error .busy) world := by
  have unhindered : (world.acquire ⟨.buffer left, .reading⟩).admits ⟨.buffer right, .reading⟩ =
      world.admits ⟨.buffer right, .reading⟩ := by
    simp [World.admits, World.acquire, Claim.conflicts]
  rw [BufferId.reading_apply]
  by_cases leftFree : world.admits ⟨.buffer left, .reading⟩
  · rw [if_pos leftFree, BufferId.reading_apply, unhindered]
    by_cases rightFree : world.admits ⟨.buffer right, .reading⟩
    · have unclaimed : (world.acquire ⟨.buffer left, .reading⟩).elements right =
          world.elements right := rfl
      rw [if_pos rightFree, if_pos ⟨leftFree, rightFree⟩, unclaimed]
      cases decide (world.elements left) (world.elements right) <;> rfl
    · rw [if_neg rightFree, if_neg fun both => rightFree both.2]
      rfl
  · rw [if_neg leftFree, if_neg fun both => leftFree both.1]
    rfl

/-- Comparing two views that a program holds always ends, with the verdict that they are equal or not, and
changes nothing. -/
theorem sameBy_eq (equal : Scalar → Scalar → Bool) (leftObtained : Obtained world left)
    (rightObtained : Obtained world right) :
    ∃ verdict, sameBy equal left right world = .ok verdict world ∧
      (verdict = true ↔ Equates equal world left right) := by
  unfold sameBy
  by_cases axes : left.axes = right.axes
  · have size := size_eq_of_axes leftObtained rightObtained axes
    rw [if_neg (by simp [axes, size])]
    by_cases shares : left.buffer = right.buffer ∧ left.offset = right.offset
    · rw [if_pos shares]
      exact ⟨true, rfl, iff_of_true rfl ⟨axes, .inl shares⟩⟩
    · rw [if_neg shares]
      have runs := Op.attempt_settled (reading_both left.buffer.id right.buffer.id world
        fun leftElements rightElements =>
          agreeBy equal left right leftElements rightElements (List.range left.size))
      obtain ⟨verdict, decided, exact⟩ :=
        agreeBy_eq equal leftObtained.picks (size ▸ rightObtained.picks)
      by_cases free : world.admits ⟨.buffer left.buffer.id, .reading⟩ ∧
          world.admits ⟨.buffer right.buffer.id, .reading⟩
      · rw [if_pos free, decided] at runs
        refine ⟨verdict, bind_of_ok runs, exact.trans ⟨fun same => ?_, fun equates => ?_⟩⟩
        · exact ⟨axes, .inr ⟨free.1, free.2, same⟩⟩
        · exact (equates.shown.resolve_left shares).elements
      · rw [if_neg free] at runs
        refine ⟨false, bind_of_ok runs, iff_of_false Bool.false_ne_true fun equates => ?_⟩
        have agrees := equates.shown.resolve_left shares
        exact free ⟨agrees.leftReadable, agrees.rightReadable⟩
  · rw [if_pos (.inr axes)]
    exact ⟨false, rfl, iff_of_false Bool.false_ne_true fun equates => axes equates.axes⟩

theorem sameBy_eq_true_iff (leftObtained : Obtained world left)
    (rightObtained : Obtained world right) :
    sameBy equal left right world = .ok true world ↔ Equates equal world left right := by
  obtain ⟨verdict, ran, exact⟩ := sameBy_eq equal leftObtained rightObtained
  rw [ran, ← exact]
  constructor
  · intro same
    exact (EStateM.Result.ok.inj same).1
  · rintro rfl
    rfl

/-! ## Views of one memory and views of equal elements -/

theorem Shares.symm (shares : left.Shares right) : right.Shares left :=
  ⟨shares.1.symm, shares.2.symm⟩

theorem Shares.trans (first : left.Shares middle) (second : middle.Shares right) :
    left.Shares right :=
  ⟨first.1.trans second.1, first.2.trans second.2⟩

/-- Views of one memory with the same axes pick the same elements. -/
theorem Shares.pick_eq (shares : left.Shares right) (axes : left.axes = right.axes)
    (elements : List Scalar) (place : Nat) : left.pick elements place = right.pick elements place := by
  unfold pick linearPosition
  rw [shares.2, axes]

namespace Agrees

variable {places : List Nat}

theorem symm (symmetric : ∀ left right, equal left right = true → equal right left = true)
    (agrees : Agrees equal world left right places) : Agrees equal world right left places where
  leftReadable := agrees.rightReadable
  rightReadable := agrees.leftReadable
  elements place member := by
    obtain ⟨leftElement, rightElement, leftPicked, rightPicked, same⟩ := agrees.elements place member
    exact ⟨rightElement, leftElement, rightPicked, leftPicked, symmetric _ _ same⟩

theorem trans
    (transitive : ∀ left middle right, equal left middle = true → equal middle right = true →
      equal left right = true)
    (first : Agrees equal world left middle places) (second : Agrees equal world middle right places) :
    Agrees equal world left right places where
  leftReadable := first.leftReadable
  rightReadable := second.rightReadable
  elements place member := by
    obtain ⟨leftElement, middleElement, leftPicked, middlePicked, same⟩ := first.elements place member
    obtain ⟨_, rightElement, again, rightPicked, further⟩ := second.elements place member
    cases middlePicked.symm.trans again
    exact ⟨leftElement, rightElement, leftPicked, rightPicked, transitive _ _ _ same further⟩

/-- A view may be replaced by another one of the same memory. -/
theorem of_shares (shares : left.Shares middle) (axes : left.axes = middle.axes)
    (agrees : Agrees equal world middle right places) : Agrees equal world left right places where
  leftReadable := shares.1 ▸ agrees.leftReadable
  rightReadable := agrees.rightReadable
  elements place member := by
    rw [shares.1, shares.pick_eq axes]
    exact agrees.elements place member

theorem shares (agrees : Agrees equal world left middle places) (shares : middle.Shares right)
    (axes : middle.axes = right.axes) : Agrees equal world left right places where
  leftReadable := agrees.leftReadable
  rightReadable := shares.1 ▸ agrees.rightReadable
  elements place member := by
    rw [← shares.1, ← shares.pick_eq axes]
    exact agrees.elements place member

end Agrees

namespace Equates

theorem refl (view : View) : Equates equal world view view := ⟨rfl, .inl ⟨rfl, rfl⟩⟩

theorem symm (symmetric : ∀ left right, equal left right = true → equal right left = true)
    (leftObtained : Obtained world left) (rightObtained : Obtained world right)
    (equates : Equates equal world left right) : Equates equal world right left where
  axes := equates.axes.symm
  shown := by
    rw [← size_eq_of_axes leftObtained rightObtained equates.axes]
    exact equates.shown.imp Shares.symm (Agrees.symm symmetric)

theorem trans
    (transitive : ∀ left middle right, equal left middle = true → equal middle right = true →
      equal left right = true)
    (leftObtained : Obtained world left) (middleObtained : Obtained world middle)
    (first : Equates equal world left middle) (second : Equates equal world middle right) :
    Equates equal world left right where
  axes := first.axes.trans second.axes
  shown := by
    have further := second.shown
    rw [← size_eq_of_axes leftObtained middleObtained first.axes] at further
    rcases first.shown with begins | agrees
    · rcases further with ends | agrees
      · exact .inl (begins.trans ends)
      · exact .inr (agrees.of_shares begins first.axes)
    · rcases further with ends | further
      · exact .inr (agrees.shares ends second.axes)
      · exact .inr (agrees.trans transitive further)

end Equates

/-- Where elements are equal to themselves, comparing the memory only spares comparing the elements. -/
theorem equates_iff_agrees (obtained : Obtained world left)
    (leftReadable : world.admits ⟨.buffer left.buffer.id, .reading⟩)
    (rightReadable : world.admits ⟨.buffer right.buffer.id, .reading⟩)
    (reflexive : ∀ element ∈ world.elements left.buffer.id, equal element element = true) :
    Equates equal world left right ↔
      left.axes = right.axes ∧ Agrees equal world left right (List.range left.size) := by
  refine ⟨fun equates => ⟨equates.axes, ?_⟩, fun same => ⟨same.1, .inr same.2⟩⟩
  rcases equates.shown with shares | agrees
  · refine ⟨leftReadable, rightReadable, fun place member => ?_⟩
    obtain ⟨element, stored, picked⟩ := obtained.exists_pick (List.mem_range.1 member)
    refine ⟨element, element, picked, ?_, reflexive element stored⟩
    rw [← shares.1, ← shares.pick_eq equates.axes, picked]
  · exact agrees

/-! ## Elements at multi-indices -/

theorem axes_eq_iff :
    left.axes = right.axes ↔ left.shape = right.shape ∧ left.strides = right.strides := by
  constructor
  · intro same
    exact ⟨congrArg Layout.shape same, congrArg Layout.strides same⟩
  · rintro ⟨shapes, strides⟩
    rw [← axes_shape_strides left.axes, ← axes_shape_strides right.axes]
    exact congrArg₂ Layout.axes shapes strides

/-- Reading at the multi-index of a place picks the element at the place. -/
theorem Obtained.get_eq_ok_iff (obtained : Obtained world view)
    (readable : world.admits ⟨.buffer view.buffer.id, .reading⟩) {place : Nat}
    (below : place < view.size) {element : Scalar} :
    view.get (rowMajorIndex view.axes place) world = .ok element world ↔
      view.pick (world.elements view.buffer.id) place = .ok element := by
  rw [obtained.sound.get_settled obtained.short rfl readable below]
  cases view.pick (world.elements view.buffer.id) place with
  | error failure => exact iff_of_false nofun nofun
  | ok found =>
      constructor
      · intro same
        exact congrArg Except.ok (EStateM.Result.ok.inj same).1
      · intro same
        cases same
        rfl

/-- Equal elements at all places are equal elements at all multi-indices. -/
theorem agrees_iff (leftObtained : Obtained world left) (rightObtained : Obtained world right)
    (axes : left.axes = right.axes)
    (leftReadable : world.admits ⟨.buffer left.buffer.id, .reading⟩)
    (rightReadable : world.admits ⟨.buffer right.buffer.id, .reading⟩) :
    Agrees equal world left right (List.range left.size) ↔
      ∀ index, Within left.axes index → ∃ leftElement rightElement,
        left.get index world = .ok leftElement world ∧
          right.get index world = .ok rightElement world ∧
            equal leftElement rightElement = true := by
  have size := size_eq_of_axes leftObtained rightObtained axes
  have picked {place : Nat} (below : place < left.size) {leftElement rightElement : Scalar} :
      left.get (rowMajorIndex left.axes place) world = .ok leftElement world ∧
          right.get (rowMajorIndex left.axes place) world = .ok rightElement world ∧
            equal leftElement rightElement = true ↔
        left.pick (world.elements left.buffer.id) place = .ok leftElement ∧
          right.pick (world.elements right.buffer.id) place = .ok rightElement ∧
            equal leftElement rightElement = true := by
    have rightRead : right.get (rowMajorIndex left.axes place) world = .ok rightElement world ↔ _ :=
      axes ▸ rightObtained.get_eq_ok_iff rightReadable (size ▸ below)
    rw [leftObtained.get_eq_ok_iff leftReadable below, rightRead]
  constructor
  · intro agrees index within
    have below : rowMajorPlace left.axes index < left.size :=
      leftObtained.sound.counted ▸ rowMajorPlace_lt within
    obtain ⟨leftElement, rightElement, same⟩ := agrees.elements _ (List.mem_range.2 below)
    rw [← rowMajorIndex_rowMajorPlace within]
    exact ⟨leftElement, rightElement, (picked below).2 same⟩
  · intro equals
    refine ⟨leftReadable, rightReadable, fun place member => ?_⟩
    have below := List.mem_range.1 member
    have populated := leftObtained.sound.populated_iff.2 (Nat.zero_lt_of_lt below)
    obtain ⟨leftElement, rightElement, same⟩ :=
      equals _ (within_rowMajorIndex populated place)
    exact ⟨leftElement, rightElement, (picked below).1 same⟩

end Obtained

/-! ## Equality of views -/

/-- How views are compared in a world: with a verdict, which changes nothing and is an equivalence of the
views that a program holds. If both can be read, and the elements of one are equal to themselves, the
verdict is that they have the same extents and strides and equal elements at each multi-index. -/
structure Compares (equal : Scalar → Scalar → Bool) (world : World) : Prop where
  ends : ∀ left right, Obtained world left → Obtained world right →
    ∃ verdict, sameBy equal left right world = .ok verdict world
  equivalence : Equivalence fun left right : { view // Obtained world view } =>
    sameBy equal left.1 right.1 world = .ok true world
  exact : ∀ left right, Obtained world left → Obtained world right →
    world.admits ⟨.buffer left.buffer.id, .reading⟩ →
    world.admits ⟨.buffer right.buffer.id, .reading⟩ →
    (∀ element ∈ world.elements left.buffer.id, equal element element = true) →
    (sameBy equal left right world = .ok true world ↔
      left.shape = right.shape ∧ left.strides = right.strides ∧
        ∀ index, Within left.axes index → ∃ leftElement rightElement,
          left.get index world = .ok leftElement world ∧
            right.get index world = .ok rightElement world ∧
              equal leftElement rightElement = true)

theorem compares {equal : Scalar → Scalar → Bool} (world : World)
    (symmetric : ∀ left right, equal left right = true → equal right left = true)
    (transitive : ∀ left middle right, equal left middle = true → equal middle right = true →
      equal left right = true) : Compares equal world where
  ends left right leftObtained rightObtained := by
    obtain ⟨verdict, ran, _⟩ := sameBy_eq equal leftObtained rightObtained
    exact ⟨verdict, ran⟩
  equivalence := by
    refine ⟨?refl, ?symm, ?trans⟩
    case refl =>
      intro ⟨view, obtained⟩
      exact (sameBy_eq_true_iff obtained obtained).2 (.refl view)
    case symm =>
      intro ⟨left, leftObtained⟩ ⟨right, rightObtained⟩ same
      have equates := (sameBy_eq_true_iff leftObtained rightObtained).1 same
      exact (sameBy_eq_true_iff rightObtained leftObtained).2
        (equates.symm symmetric leftObtained rightObtained)
    case trans =>
      intro ⟨left, leftObtained⟩ ⟨middle, middleObtained⟩ ⟨right, rightObtained⟩ first second
      have begins := (sameBy_eq_true_iff leftObtained middleObtained).1 first
      have ends := (sameBy_eq_true_iff middleObtained rightObtained).1 second
      exact (sameBy_eq_true_iff leftObtained rightObtained).2
        (begins.trans transitive leftObtained middleObtained ends)
  exact left right leftObtained rightObtained leftReadable rightReadable reflexive := by
    rw [sameBy_eq_true_iff leftObtained rightObtained,
      equates_iff_agrees leftObtained leftReadable rightReadable reflexive, ← and_assoc,
      ← axes_eq_iff]
    refine and_congr_right fun axes => ?_
    exact agrees_iff leftObtained rightObtained axes leftReadable rightReadable

/-- In every world, whoever reads or writes the buffers, equality of views is an equivalence relation if
that of the elements is symmetric and transitive, as the equality of scalars is. -/
theorem same_isEquivalence (world : World) :
    (∀ equal : Scalar → Scalar → Bool,
      (∀ left right, equal left right = true → equal right left = true) →
      (∀ left middle right, equal left middle = true → equal middle right = true →
        equal left right = true) → Compares equal world) ∧
    View.same = sameBy Scalar.same ∧ Compares Scalar.same world :=
  ⟨fun _ => compares world, same_eq_sameBy, compares world Scalar.same_symm Scalar.same_trans⟩

/-- Two buffers hold what is no number, and the second one is being written. The view of each is equal to
itself, and not to the other. -/
theorem same_isEquivalence_nan :
    let world : World :=
      ⟨default, ⟨[[.float .nan], [.float .nan]]⟩, default, [⟨.buffer ⟨1⟩, .writing⟩]⟩
    let first : View := ⟨⟨.float, ⟨0⟩⟩, 0, [⟨1, 1⟩], 1, none⟩
    let second : View := ⟨⟨.float, ⟨1⟩⟩, 0, [⟨1, 1⟩], 1, none⟩
    (Obtained world first ∧ Obtained world second ∧ Scalar.same (.float .nan) (.float .nan) = false) ∧
      Compares Scalar.same world ∧ first.same first world = .ok true world ∧
      second.same second world = .ok true world ∧ first.same second world = .ok false world := by
  intro world first second
  have firstMade : View.ofBuffer ⟨.float, ⟨0⟩⟩ world = .ok first world := rfl
  have secondMade : View.ofBuffer ⟨.float, ⟨1⟩⟩ world = .ok second world := rfl
  obtain ⟨general, _, _⟩ := same_isEquivalence world
  refine ⟨⟨⟨by decide, .ofBuffer rfl firstMade⟩, ⟨by decide, .ofBuffer rfl secondMade⟩, by decide⟩,
    general Scalar.same Scalar.same_symm Scalar.same_trans, rfl, rfl, rfl⟩

end View

end PathStore
