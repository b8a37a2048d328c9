import PathStore.Proofs.Array.Blocks

/-!
# What making an array can end with

Extents are multiplied one after the other, and each product has to be a machine integer. If all of
them are, making an array ends with one whose size is the exact product of its extents and whose
elements are all there, or with the reason why what was given does not fit. If one of them is not,
making ends with an overflow: a product that has lost its upper bits is never taken for a size. The
products of the extents without the zeros bound all that are computed.
-/

namespace PathStore

open Layout

namespace Layout

/-! ## Running products -/

section Products

variable {M : Type} [Monoid M] {fits : M → Prop} {start factor : M} {factors : List M}

/-- All products of a start with the factors from the first on fit. -/
def Multiplies (fits : M → Prop) (start : M) (factors : List M) : Prop :=
  ∀ count, fits (start * (factors.take count).prod)

theorem Multiplies.fits_start (multiplies : Multiplies fits start factors) : fits start := by
  simpa using multiplies 0

theorem multiplies_nil : Multiplies fits start [] ↔ fits start := by
  simp [Multiplies]

theorem multiplies_cons :
    Multiplies fits start (factor :: factors) ↔
      fits start ∧ Multiplies fits (start * factor) factors := by
  constructor
  · intro multiplies
    refine ⟨multiplies.fits_start, fun count => ?_⟩
    simpa [mul_assoc] using multiplies (count + 1)
  · rintro ⟨first, rest⟩ count
    cases count with
    | zero => simpa using first
    | succ count => simpa [mul_assoc] using rest count

end Products

/-- The elements of a shape can be counted: each product of extents from the first on is a size. -/
def Countable (shape : List Nat) : Prop :=
  Multiplies (· < 2 ^ 64) 1 shape

/-- The strides of a shape in row-major order can be computed: each product of extents, read as signed
numbers, from the last on is a signed number. -/
def Packable (shape : List Nat) : Prop :=
  Multiplies Address.IsSigned 1 (shape.reverse.map Address.toSigned)

theorem mulSize_of_lt {left right : Nat} (small : left * right < 2 ^ 64) :
    Address.mulSize left right = .ok (left * right) :=
  if_pos small

theorem mulSize_of_not_lt {left right : Nat} (large : ¬ left * right < 2 ^ 64) :
    Address.mulSize left right = .error (.fault .overflow) :=
  if_neg large

theorem foldlM_mulSize {shape : List Nat} {before : Nat}
    (multiplies : Multiplies (· < 2 ^ 64) before shape) :
    shape.foldlM Address.mulSize before = .ok (before * shape.prod) := by
  induction shape generalizing before with
  | nil => simp [pure, Except.pure]
  | cons extent shape ih =>
      have rest := (multiplies_cons.1 multiplies).2
      rw [List.foldlM_cons, mulSize_of_lt rest.fits_start, List.prod_cons, ← Nat.mul_assoc]
      exact ih rest

theorem foldlM_mulSize_error {shape : List Nat} {before : Nat} (small : before < 2 ^ 64)
    (exceeds : ¬ Multiplies (· < 2 ^ 64) before shape) :
    shape.foldlM Address.mulSize before = .error (.fault .overflow) := by
  induction shape generalizing before with
  | nil => exact (exceeds (multiplies_nil.2 small)).elim
  | cons extent shape ih =>
      rw [List.foldlM_cons]
      by_cases next : before * extent < 2 ^ 64
      · rw [mulSize_of_lt next]
        exact ih next fun rest => exceeds (multiplies_cons.2 ⟨small, rest⟩)
      · rw [mulSize_of_not_lt next]
        rfl

theorem elementCount_of_countable {shape : List Nat} (countable : Countable shape) :
    elementCount shape = .ok shape.prod := by
  simpa [elementCount] using foldlM_mulSize countable

theorem elementCount_of_not_countable {shape : List Nat} (exceeds : ¬ Countable shape) :
    elementCount shape = .error (.fault .overflow) :=
  foldlM_mulSize_error (by decide) exceeds

theorem mul_of_isSigned {left right : Int} (small : Address.IsSigned (left * right)) :
    Address.mul left right = .ok (left * right) :=
  if_pos small

theorem mul_of_not_isSigned {left right : Int} (large : ¬ Address.IsSigned (left * right)) :
    Address.mul left right = .error (.fault .overflow) :=
  if_neg large

theorem exists_runningProducts {shape : List Nat} {before : Int}
    (multiplies : Multiplies Address.IsSigned before (shape.map Address.toSigned)) :
    ∃ strides, runningProducts before shape = .ok strides ∧ strides.length = shape.length := by
  induction shape generalizing before with
  | nil => exact ⟨[], rfl, rfl⟩
  | cons extent shape ih =>
      have rest := (multiplies_cons.1 multiplies).2
      obtain ⟨strides, computed, length⟩ := ih rest
      refine ⟨before :: strides, ?_, by simp [length]⟩
      simp only [runningProducts, mul_of_isSigned rest.fits_start, bind, Except.bind, computed]
      rfl

theorem runningProducts_error {shape : List Nat} {before : Int} (small : Address.IsSigned before)
    (exceeds : ¬ Multiplies Address.IsSigned before (shape.map Address.toSigned)) :
    runningProducts before shape = .error (.fault .overflow) := by
  induction shape generalizing before with
  | nil => exact absurd (multiplies_nil.2 small) exceeds
  | cons extent shape ih =>
      by_cases next : Address.IsSigned (before * Address.toSigned extent)
      · have failed := ih next fun rest => exceeds (multiplies_cons.2 ⟨small, rest⟩)
        simp [runningProducts, mul_of_isSigned next, bind, Except.bind, failed]
      · simp [runningProducts, mul_of_not_isSigned next, bind, Except.bind]

theorem exists_rowMajorStrides {shape : List Nat} (packable : Packable shape) :
    ∃ strides, rowMajorStrides shape = .ok strides ∧ strides.length = shape.length := by
  unfold Packable at packable
  obtain ⟨strides, computed, length⟩ := exists_runningProducts packable
  refine ⟨strides.reverse, ?_, by simpa using length⟩
  simp [rowMajorStrides, computed, bind, Except.bind, pure, Except.pure]

theorem rowMajorStrides_of_not_packable {shape : List Nat} (exceeds : ¬ Packable shape) :
    rowMajorStrides shape = .error (.fault .overflow) := by
  have failed := runningProducts_error (show Address.IsSigned 1 by decide) exceeds
  simp [rowMajorStrides, failed, bind, Except.bind]

/-! ## Shapes whose products fit -/

/-- The product of the extents that are not zero. -/
def extentProduct (shape : List Nat) : Nat :=
  (shape.filter (· ≠ 0)).prod

theorem extentProduct_cons (extent : Nat) (shape : List Nat) :
    extentProduct (extent :: shape) =
      if extent = 0 then extentProduct shape else extent * extentProduct shape := by
  by_cases none : extent = 0 <;> simp [extentProduct, none]

theorem extentProduct_pos (shape : List Nat) : 0 < extentProduct shape := by
  induction shape with
  | nil => simp [extentProduct]
  | cons extent shape ih =>
      rw [extentProduct_cons]
      split
      · exact ih
      · rename_i some
        exact Nat.mul_pos (Nat.pos_of_ne_zero some) ih

/-- No product of extents exceeds the product of those that are not zero. -/
theorem prod_take_le (shape : List Nat) (count : Nat) :
    (shape.take count).prod ≤ extentProduct shape := by
  induction shape generalizing count with
  | nil => simp [extentProduct]
  | cons extent shape ih =>
      cases count with
      | zero => exact extentProduct_pos (extent :: shape)
      | succ count =>
          rw [List.take_succ_cons, List.prod_cons, extentProduct_cons]
          split
          · rename_i none
            simp [none]
          · exact Nat.mul_le_mul_left extent (ih count)

theorem le_extentProduct {shape : List Nat} {extent : Nat} (member : extent ∈ shape) :
    extent ≤ extentProduct shape := by
  induction member with
  | head shape =>
      rw [extentProduct_cons]
      split
      · rename_i none
        exact none ▸ Nat.zero_le _
      · exact Nat.le_mul_of_pos_right extent (extentProduct_pos shape)
  | tail other _ ih =>
      rw [extentProduct_cons]
      split
      · exact ih
      · rename_i some
        exact Nat.le_trans ih (Nat.le_mul_of_pos_left _ (Nat.pos_of_ne_zero some))

theorem extentProduct_reverse (shape : List Nat) :
    extentProduct shape.reverse = extentProduct shape := by
  simp [extentProduct, List.filter_reverse]

theorem countable_of_lt {shape : List Nat} (small : extentProduct shape < 2 ^ 64) :
    Countable shape := by
  intro count
  have below := prod_take_le shape count
  omega

/-- Extents are read as signed numbers without loss if their product is one. -/
theorem map_toSigned {shape : List Nat} (small : extentProduct shape < 2 ^ 63) :
    shape.map Address.toSigned = shape.map (Nat.cast : Nat → Int) := by
  refine List.map_congr_left fun extent member => ?_
  have below := le_extentProduct member
  exact Address.toSigned_of_lt (by omega)

theorem prod_map_cast (shape : List Nat) :
    (shape.map (Nat.cast : Nat → Int)).prod = (shape.prod : Int) := by
  induction shape with
  | nil => rfl
  | cons extent shape ih => rw [List.map_cons, List.prod_cons, List.prod_cons, ih, Nat.cast_mul]

theorem packable_of_lt {shape : List Nat} (small : extentProduct shape < 2 ^ 63) :
    Packable shape := by
  intro count
  rw [← extentProduct_reverse] at small
  have below := prod_take_le shape.reverse count
  have exact : ((shape.reverse.map Address.toSigned).take count).prod =
      ((shape.reverse.take count).prod : Int) := by
    rw [map_toSigned small, ← List.map_take, prod_map_cast]
  rw [exact]
  exact Address.isSigned_of_lt (by omega) (by omega)

/-! ## How the check of a layout fails -/

theorem strides_axes {extents : List Nat} {given : List Int}
    (equal : extents.length = given.length) :
    strides (axes extents given) = given := by
  induction extents generalizing given with
  | nil =>
      rw [List.eq_nil_of_length_eq_zero equal.symm]
      rfl
  | cons extent extents ih =>
      cases given with
      | nil => cases equal
      | cons stride given => exact congrArg (stride :: ·) (ih (Nat.succ.inj equal))

/-- The failure tells what is wrong with what was given. -/
def TellsInvalid (failure : Failure) : Prop :=
  ∃ cause, failure = .invalid cause

theorem tellsInvalid_signedOr (refusal : InvalidValue) (number : Int) :
    FailsOnly TellsInvalid (Address.signedOr refusal number) := by
  unfold Address.signedOr
  split
  · exact .ok _
  · exact .error ⟨refusal, rfl⟩

theorem tellsInvalid_extend (reach : Reach) (axis : Axis) :
    FailsOnly TellsInvalid (reach.extend axis) := by
  unfold Reach.extend
  refine (tellsInvalid_signedOr _ _).bind fun _ => (tellsInvalid_signedOr _ _).bind fun _ => ?_
  split
  · exact (tellsInvalid_signedOr _ _).bind fun _ => .pure _
  · exact (tellsInvalid_signedOr _ _).bind fun _ => .pure _

/-- A layout whose elements can be counted either passes the check or is told to be invalid. -/
theorem tellsInvalid_check {length offset : Nat} {shape : List Nat} {strides : List Int}
    (countable : shape.length = strides.length → Countable shape) :
    FailsOnly TellsInvalid (check length offset shape strides) := by
  unfold check
  split
  · exact .throw_bind ⟨_, rfl⟩
  · rename_i ranks
    rw [elementCount_of_countable (countable (not_not.1 ranks))]
    change FailsOnly TellsInvalid (if shape.prod = 0 then _ else _ : Except Failure Nat)
    split
    · exact .pure _
    · refine (tellsInvalid_signedOr _ _).bind fun start => ?_
      refine (FailsOnly.foldlM tellsInvalid_extend _ _).bind fun reach => ?_
      dsimp only
      split
      · exact .throw_bind ⟨_, rfl⟩
      · refine (tellsInvalid_signedOr _ _).bind fun length => ?_
        split
        · exact .throw_bind ⟨_, rfl⟩
        · exact .pure _

theorem check_of_not_countable {length offset : Nat} {shape : List Nat} {strides : List Int}
    (ranks : shape.length = strides.length) (exceeds : ¬ Countable shape) :
    check length offset shape strides = .error (.fault .overflow) := by
  simp [check, ranks, elementCount_of_not_countable exceeds, bind, Except.bind]

end Layout

/-! ## Outcomes -/

/-- How making an array ends, if it computes with machine integers that `compute` says are large enough:
with an array that is as it should be or a failure of the given kind, or else with an overflow. -/
structure Settles {α : Type} (computable : Prop) (proper : α → Prop) (kind : Failure → Prop)
    (made : Except Failure α) : Prop where
  proper : ∀ array, made = .ok array → proper array
  told : computable → FailsOnly kind made
  overflows : ¬ computable → made = .error (.fault .overflow)

namespace Settles

variable {α : Type} {computable : Prop} {proper : α → Prop} {kind : Failure → Prop}
  {made : Except Failure α}

/-- What has to be computed first has to be computable too. -/
theorem after {β : Type} {able : Prop} {first : Except Failure β} {next : β → Except Failure α}
    (computed : able → ∃ result, first = .ok result ∧ Settles computable proper kind (next result))
    (exceeded : ¬ able → first = .error (.fault .overflow)) :
    Settles (able ∧ computable) proper kind (first >>= next) := by
  by_cases first_able : able
  · obtain ⟨result, ran, settles⟩ := computed first_able
    rw [ran]
    exact ⟨settles.proper, fun both => settles.told both.2, fun exceeds =>
      settles.overflows fun rest => exceeds ⟨first_able, rest⟩⟩
  · rw [exceeded first_able]
    exact ⟨nofun, fun both => absurd both.1 first_able, fun _ => rfl⟩

end Settles

/-- The view has the layout that was asked for, its size is the exact product of the extents, and
every element stands in its buffer. -/
structure View.Fits (world : World) (buffer : BufferRef) (offset : Nat) (shape : List Nat)
    (strides : List Int) (view : View) : Prop where
  buffer_eq : view.buffer = buffer
  offset_eq : view.offset = offset
  shape_eq : view.shape = shape
  strides_eq : view.strides = strides
  counted : view.size = shape.prod
  addressed : view.Addressed (world.elements buffer.id).length

/-- The block has the extents that were asked for, its size is their exact product, that many elements
are stored, and every multi-index within the extents addresses one of them. -/
structure Block.Fits (world : World) (shape : List Nat) (block : Block) : Prop where
  shape_eq : block.shape = shape
  counted : block.size = shape.prod
  stored : ∃ elements, block.elements? world = some elements ∧ elements.length = block.size
  addressed : ∀ index, Within block.axes index →
    ∃ position < block.size, indexPosition 0 block.axes index = .ok position

namespace View

variable {world : World} {buffer : BufferRef} {offset : Nat} {shape : List Nat}
  {strides : List Int}

/-- A layout that passes the check gives a view of exactly what was asked for. -/
theorem fits_of_check {size : Nat}
    (checked : check (world.elements buffer.id).length offset shape strides = .ok size) :
    View.Fits world buffer offset shape strides
      ⟨buffer, offset, Layout.axes shape strides, size, none⟩ := by
  obtain ⟨equal, product, inside⟩ := check_eq_ok checked
  have sound : Sound (world.elements buffer.id).length
      ⟨buffer, offset, Layout.axes shape strides, size, none⟩ :=
    ⟨by rw [View.shape, shape_axes equal, product], inside⟩
  refine ⟨rfl, rfl, shape_axes equal, Layout.strides_axes equal, product, ?_⟩
  rcases Nat.eq_zero_or_pos size with none | filled
  · -- Without elements there is nothing to address, however long the buffer is.
    have empty : ∀ index, ¬ Within (Layout.axes shape strides) index := by
      intro index within
      have some := (populated_iff_prod_pos _).1 within.populated
      rw [shape_axes equal, ← product] at some
      omega
    subst none
    exact ⟨by simp [View.shape, View.strides, Layout.shape, Layout.strides], sound.counted,
      fun index within => absurd within (empty index),
      fun index within => absurd within (empty index),
      fun place below => absurd below (Nat.not_lt_zero place),
      fun place below => absurd below (Nat.not_lt_zero place)⟩
  · exact sound.addressed (length_lt_of_check checked filled)

/-- What making a view of a buffer ends with. -/
def overBuffer (world : World) (buffer : BufferRef) (offset : Nat) (shape : List Nat)
    (strides : List Int) : Except Failure View := do
  let size ← check (world.elements buffer.id).length offset shape strides
  return ⟨buffer, offset, Layout.axes shape strides, size, none⟩

theorem make_eq_ofExcept :
    make buffer offset shape strides world =
      Op.ofExcept (overBuffer world buffer offset shape strides) world := by
  change (Op.ofExcept (check _ _ _ _) >>= _) world = Op.ofExcept (check _ _ _ _ >>= _) world
  cases check (world.elements buffer.id).length offset shape strides <;> rfl

theorem settles_overBuffer :
    Settles (shape.length = strides.length → Countable shape)
      (View.Fits world buffer offset shape strides) TellsInvalid
      (overBuffer world buffer offset shape strides) where
  proper view made := by
    obtain ⟨size, checked, finished⟩ := Except.bind_eq_ok_iff.1 made
    cases finished
    exact fits_of_check checked
  told countable := (tellsInvalid_check countable).bind fun _ => .pure _
  overflows exceeds := by
    obtain ⟨ranks, exceeds⟩ := Classical.not_imp.1 exceeds
    simp [overBuffer, check_of_not_countable ranks exceeds, bind, Except.bind]

end View

namespace Block

variable {world : World} {shape : List Nat}

/-- A sound block that passed the check has what its extents say. -/
theorem Sound.fits {block : Block} {strides : List Int} (sound : block.Sound world)
    (layout : block.axes = Layout.axes shape strides)
    (checked : check block.size 0 shape strides = .ok block.size) (kept : block.Unreleased) :
    block.Fits world shape := by
  obtain ⟨equal, product, inside⟩ := check_eq_ok checked
  refine ⟨by rw [Block.shape, layout, shape_axes equal], product, ?_, ?_⟩
  · obtain ⟨elements, held⟩ := Option.isSome_iff_exists.1 (isSome_elements?.2 kept)
    exact ⟨elements, held, sound.length_elements held⟩
  · intro index within
    have filled : 0 < block.size := by
      have some := (populated_iff_prod_pos _).1 within.populated
      rwa [layout, shape_axes equal, ← product] at some
    obtain ⟨position, below, found, _⟩ :=
      indexPosition_eq (length_lt_of_check checked filled) sound.inside within
    exact ⟨position, below, found⟩

theorem settles_make (elem : ElemType) (data : List Scalar) (strides : List Int) :
    Settles (Countable shape) (Block.Fits world shape) TellsInvalid
      (make elem data shape strides) where
  proper block made := by
    have sound : block.Sound world := sound_make made
    obtain ⟨rfl, checked⟩ := make_eq_ok made
    exact sound.fits rfl checked nofun
  told countable := by
    unfold make
    rw [elementCount_of_countable countable]
    change FailsOnly TellsInvalid (if data.length ≠ shape.prod then _ else _ : Except Failure Block)
    split
    · exact .throw_bind ⟨_, rfl⟩
    · exact (tellsInvalid_check fun _ => countable).bind fun _ => .pure _
  overflows exceeds := by
    simp [make, elementCount_of_not_countable exceeds, bind, Except.bind]

theorem settles_ofShape (elem : ElemType) (data : List Scalar) :
    Settles (Packable shape ∧ Countable shape) (Block.Fits world shape) TellsInvalid
      (ofShape elem data shape) :=
  .after (fun packable =>
      let ⟨strides, computed, _⟩ := exists_rowMajorStrides packable
      ⟨strides, computed, settles_make elem data strides⟩)
    rowMajorStrides_of_not_packable

/-- The failure tells what is wrong with what was given, or that the buffer, whose elements were to be
copied, is being written. -/
def TellsInvalidOrBusy (world : World) (buffer : BufferRef) (memory : Memory)
    (failure : Failure) : Prop :=
  TellsInvalid failure ∨
    failure = .busy ∧ memory = .owned ∧ world.admits ⟨.buffer buffer.id, .reading⟩ = false

/-- What making a block over a buffer ends with. -/
def overBuffer (world : World) (buffer : BufferRef) (shape : List Nat) (strides : List Int)
    (memory : Memory) : Except Failure Block := do
  let size ← sizeOver (world.elements buffer.id).length shape strides
  if (makingClaims buffer memory).all world.admits then
    return ⟨buffer.elem, storageOf world buffer memory size, Layout.axes shape strides, size⟩
  else throw .busy

theorem ofBuffer_eq_ofExcept (buffer : BufferRef) (strides : List Int) (memory : Memory) :
    ofBuffer buffer shape strides memory world =
      Op.ofExcept (overBuffer world buffer shape strides memory) world := by
  rw [ofBuffer_eq, overBuffer]
  cases sizeOver (world.elements buffer.id).length shape strides with
  | error failure => rfl
  | ok size =>
      change (if _ then _ else _ : EStateM.Result _ _ _) =
        Op.ofExcept (if _ then _ else _ : Except Failure Block) world
      split <;> rfl

theorem tellsInvalid_sizeOver {length : Nat} {strides : List Int} (countable : Countable shape) :
    FailsOnly TellsInvalid (sizeOver length shape strides) := by
  unfold sizeOver
  rw [elementCount_of_countable countable]
  change FailsOnly TellsInvalid (if length < shape.prod then _ else _ : Except Failure Nat)
  split
  · exact .throw_bind ⟨_, rfl⟩
  · exact ((tellsInvalid_check fun _ => countable).map _).bind fun _ => .pure _

theorem refused_of_not_admitted {buffer : BufferRef} {memory : Memory}
    (refused : (makingClaims buffer memory).all world.admits = false) :
    memory = .owned ∧ world.admits ⟨.buffer buffer.id, .reading⟩ = false := by
  cases memory with
  | owned => exact ⟨rfl, by simpa [makingClaims] using refused⟩
  | borrowed => cases refused

theorem settles_overBuffer (buffer : BufferRef) (strides : List Int) (memory : Memory) :
    Settles (Countable shape) (Block.Fits world shape) (TellsInvalidOrBusy world buffer memory)
      (overBuffer world buffer shape strides memory) where
  proper block made := by
    obtain ⟨size, fitted, making⟩ := Except.bind_eq_ok_iff.1 made
    obtain ⟨long, checked⟩ := sizeOver_eq_ok fitted
    split at making
    · cases making
      refine (sound_of_check checked (filled_storageOf long)).fits rfl checked ?_
      cases memory <;> nofun
    · cases making
  told countable := by
    refine .bind (fun failure failed => .inl (tellsInvalid_sizeOver countable failure failed))
      fun size => ?_
    split
    · exact .pure _
    · rename_i refused
      exact .error (.inr ⟨rfl, refused_of_not_admitted (Bool.eq_false_iff.2 refused)⟩)
  overflows exceeds := by
    simp [overBuffer, sizeOver, elementCount_of_not_countable exceeds, bind, Except.bind]

theorem ofBufferShape_eq_ofExcept (buffer : BufferRef) (memory : Memory) :
    ofBufferShape buffer shape memory world =
      Op.ofExcept
        (rowMajorStrides shape >>= fun strides => overBuffer world buffer shape strides memory)
        world := by
  change (Op.ofExcept (rowMajorStrides shape) >>= _) world = _
  cases rowMajorStrides shape with
  | error failure => rfl
  | ok strides => exact ofBuffer_eq_ofExcept buffer strides memory

theorem settles_overBufferShape (buffer : BufferRef) (memory : Memory) :
    Settles (Packable shape ∧ Countable shape) (Block.Fits world shape)
      (TellsInvalidOrBusy world buffer memory)
      (rowMajorStrides shape >>= fun strides => overBuffer world buffer shape strides memory) :=
  .after (fun packable =>
      let ⟨strides, computed, _⟩ := exists_rowMajorStrides packable
      ⟨strides, computed, settles_overBuffer buffer strides memory⟩)
    rowMajorStrides_of_not_packable

end Block

/-- Every way to make a view or a block of a given shape changes nothing else and ends in one of three
ways. If the products that it computes are machine integers, it ends with an array of exactly that
shape, all of whose elements are there, or tells what is wrong with what was given (or that elements to
be copied are being written). Otherwise it overflows and makes nothing. All products are machine
integers if that of the extents which are not zero is an address. -/
theorem makings_settle (world : World) (buffer : BufferRef) (elem : ElemType)
    (data : List Scalar) (offset : Nat) (shape : List Nat) (strides : List Int)
    (memory : Memory) :
    (∃ made, View.make buffer offset shape strides world = Op.ofExcept made world ∧
        Settles (shape.length = strides.length → Countable shape)
          (View.Fits world buffer offset shape strides) TellsInvalid made) ∧
      Settles (Countable shape) (Block.Fits world shape) TellsInvalid
        (Block.make elem data shape strides) ∧
      Settles (Packable shape ∧ Countable shape) (Block.Fits world shape) TellsInvalid
        (Block.ofShape elem data shape) ∧
      (∃ made, Block.ofBuffer buffer shape strides memory world = Op.ofExcept made world ∧
        Settles (Countable shape) (Block.Fits world shape)
          (Block.TellsInvalidOrBusy world buffer memory) made) ∧
      (∃ made, Block.ofBufferShape buffer shape memory world = Op.ofExcept made world ∧
        Settles (Packable shape ∧ Countable shape) (Block.Fits world shape)
          (Block.TellsInvalidOrBusy world buffer memory) made) ∧
      (extentProduct shape < 2 ^ 63 → Packable shape ∧ Countable shape) := by
  refine ⟨?view, ?data, ?shaped, ?buffer, ?bufferShaped, ?small⟩
  case view => exact ⟨_, View.make_eq_ofExcept, View.settles_overBuffer⟩
  case data => exact Block.settles_make elem data strides
  case shaped => exact Block.settles_ofShape elem data
  case buffer =>
    exact ⟨_, Block.ofBuffer_eq_ofExcept buffer strides memory,
      Block.settles_overBuffer buffer strides memory⟩
  case bufferShaped =>
    exact ⟨_, Block.ofBufferShape_eq_ofExcept buffer memory,
      Block.settles_overBufferShape buffer memory⟩
  case small =>
    intro small
    exact ⟨packable_of_lt small, countable_of_lt (by omega)⟩

/-- A view of a single element is refused for a square that has more elements than can be counted, and
a block without data for a shape without elements whose strides cannot be computed; but neither refusal
tells what is wrong. -/
theorem makings_overflow :
    let world : World := ⟨default, ⟨[[.bool true]]⟩, default, []⟩
    View.make ⟨.bool, ⟨0⟩⟩ 0 [2 ^ 32, 2 ^ 32] [1, 1] world = .error (.fault .overflow) world ∧
      Block.ofShape .bool [] [0, 2, 2 ^ 63] = .error (.fault .overflow) ∧
      ¬ TellsInvalid (.fault .overflow) :=
  ⟨rfl, rfl, nofun⟩

end PathStore
