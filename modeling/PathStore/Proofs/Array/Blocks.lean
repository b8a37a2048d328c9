import PathStore.Proofs.Array.Needs
import PathStore.Proofs.Array.Views

/-!
# Blocks hold what their shape says

Every way to make a block checks that as many elements are stored as the extents say, or more where a
buffer is borrowed, and that the strides address only those. Access to a block relies on nothing else:
the elements of a block are the whole of its own data or the beginning of the buffer, and reading and
writing them never comes up short.
-/

namespace PathStore

open Layout

namespace Layout

/-- Only an offset and a length that are addresses pass the check, unless there is no element. -/
theorem length_lt_of_check {length offset size : Nat} {extents : List Nat} {strides : List Int}
    (checked : check length offset extents strides = .ok size) (filled : 0 < size) :
    length < 2 ^ 63 := by
  unfold check at checked
  split at checked
  · cases checked
  · obtain ⟨count, counted, checked⟩ := Except.bind_eq_ok_iff.1 checked
    split at checked
    · cases checked
      exact absurd filled (Nat.lt_irrefl 0)
    · obtain ⟨start, _, reaching⟩ := Except.bind_eq_ok_iff.1 checked
      obtain ⟨reach, _, bounding⟩ := Except.bind_eq_ok_iff.1 reaching
      dsimp only at bounding
      split at bounding
      · cases bounding
      · obtain ⟨limit, limited, _⟩ := Except.bind_eq_ok_iff.1 bounding
        obtain ⟨address, _⟩ := Address.signedOr_eq_ok_iff.1 limited
        unfold Address.IsSigned Address.greatest at address
        omega

end Layout

namespace Block

variable {α : Type} {world : World} {block : Block}

/-! ## Sound blocks -/

/-- The block has as many elements in storage as its size says. -/
def Filled (world : World) (block : Block) : Prop :=
  match block.storage with
  | .owned data => data.length = block.size
  | .borrowed buffer => block.size ≤ (world.elements buffer.id).length
  | .released => True

/-- The size of a block is the product of its extents, its strides address only that many elements,
and those are stored. -/
structure Sound (world : World) (block : Block) : Prop where
  counted : block.size = block.shape.prod
  inside : Inside block.size 0 block.axes
  filled : block.Filled world

/-- What a buffer has gained cannot harm a block over it. -/
theorem Sound.mono {left : World} (sound : block.Sound world)
    (keeps : ∀ id, (world.elements id).length ≤ (left.elements id).length) : block.Sound left where
  counted := sound.counted
  inside := sound.inside
  filled := by
    have filled := sound.filled
    unfold Filled at filled ⊢
    cases stored : block.storage with
    | owned data => rwa [stored] at filled
    | borrowed buffer =>
        rw [stored] at filled
        exact Nat.le_trans filled (keeps buffer.id)
    | released => trivial

/-! ## Making blocks -/

theorem sound_ofList (elem : ElemType) (data : List Scalar) : (ofList elem data).Sound world where
  counted := by simp [ofList, shape, Layout.shape]
  inside := View.inside_ofBuffer data.length
  filled := rfl

/-- A layout that passes the check for its own number of elements makes a sound block of them. -/
theorem sound_of_check {elem : ElemType} {storage : Storage} {extents : List Nat}
    {strides : List Int} {size : Nat} (checked : check size 0 extents strides = .ok size)
    (filled : Filled world ⟨elem, storage, Layout.axes extents strides, size⟩) :
    Sound world ⟨elem, storage, Layout.axes extents strides, size⟩ := by
  obtain ⟨equal, product, inside⟩ := check_eq_ok checked
  refine ⟨?_, inside, filled⟩
  rw [product, shape, shape_axes equal]

/-- A block of given data has the extents and strides that were asked for, and passed the check. -/
theorem make_eq_ok {elem : ElemType} {data : List Scalar} {extents : List Nat}
    {strides : List Int} (made : make elem data extents strides = .ok block) :
    block = ⟨elem, .owned data, Layout.axes extents strides, data.length⟩ ∧
      check data.length 0 extents strides = .ok data.length := by
  unfold make at made
  obtain ⟨computed, counted, checking⟩ := Except.bind_eq_ok_iff.1 made
  split at checking
  · cases checking
  · rename_i equal
    obtain ⟨size, checked, finished⟩ := Except.bind_eq_ok_iff.1 checking
    have same : size = data.length := by
      rw [(check_eq_ok checked).2.1, not_not.1 equal, elementCount_eq_ok counted]
    cases finished
    rw [same] at checked ⊢
    exact ⟨rfl, checked⟩

theorem sound_make {elem : ElemType} {data : List Scalar} {extents : List Nat}
    {strides : List Int} (made : make elem data extents strides = .ok block) :
    block.Sound world := by
  obtain ⟨rfl, checked⟩ := make_eq_ok made
  exact sound_of_check checked rfl

/-- Making a block in row-major order is making it with the strides of that order. -/
theorem ofShape_eq_ok {elem : ElemType} {data : List Scalar} {extents : List Nat}
    (made : ofShape elem data extents = .ok block) :
    ∃ strides, rowMajorStrides extents = .ok strides ∧
      make elem data extents strides = .ok block :=
  Except.bind_eq_ok_iff.1 made

/-- A shape that fits over a buffer has no more elements than the buffer, and its strides address
only those. -/
theorem sizeOver_eq_ok {length size : Nat} {extents : List Nat} {strides : List Int}
    (fitted : sizeOver length extents strides = .ok size) :
    size ≤ length ∧ check size 0 extents strides = .ok size := by
  unfold sizeOver at fitted
  obtain ⟨count, counted, fitting⟩ := Except.bind_eq_ok_iff.1 fitted
  split at fitting
  · cases fitting
  · rename_i long
    obtain ⟨_, discarded, finished⟩ := Except.bind_eq_ok_iff.1 fitting
    cases finished
    cases checked : check size 0 extents strides with
    | error failure =>
        rw [checked] at discarded
        cases discarded
    | ok computed =>
        have same : computed = size := by
          rw [(check_eq_ok checked).2.1, elementCount_eq_ok counted]
        exact ⟨Nat.le_of_not_lt long, congrArg Except.ok same⟩

/-- Where a block of the first elements of a buffer has them. -/
def storageOf (world : World) (buffer : BufferRef) (memory : Memory) (size : Nat) : Storage :=
  match memory with
  | .borrowed => .borrowed buffer
  | .owned => .owned ((world.elements buffer.id).take size)

/-- A block over a buffer is made once its shape is known to fit; only copying the elements has to
wait for those who write them. -/
theorem ofBuffer_eq (buffer : BufferRef) (extents : List Nat) (strides : List Int)
    (memory : Memory) :
    ofBuffer buffer extents strides memory world =
      match sizeOver (world.elements buffer.id).length extents strides with
      | .ok size =>
        if (makingClaims buffer memory).all world.admits then
          .ok ⟨buffer.elem, storageOf world buffer memory size, Layout.axes extents strides, size⟩ world
        else .error .busy world
      | .error failure => .error failure world := by
  rw [ofBuffer_apply]
  cases sizeOver (world.elements buffer.id).length extents strides with
  | error failure => rfl
  | ok size =>
      cases memory with
      | borrowed => rfl
      | owned =>
          have copied := buffer.id.reading_pure .busy
            (fun elements => Storage.owned (elements.take size)) world
          simp only [makingClaims, storageOf, List.all_cons, List.all_nil, Bool.and_true]
          change (buffer.id.reading .busy _ >>= _) world = _
          rw [Op.bind_apply, copied]
          cases world.admits ⟨.buffer buffer.id, .reading⟩ <;> rfl

theorem filled_storageOf {buffer : BufferRef} {memory : Memory} {size : Nat} {elem : ElemType}
    {axes : List Axis} (long : size ≤ (world.elements buffer.id).length) :
    Filled world ⟨elem, storageOf world buffer memory size, axes, size⟩ := by
  cases memory with
  | borrowed => exact long
  | owned => exact List.length_take_of_le long

theorem sound_ofBuffer {buffer : BufferRef} {extents : List Nat} {strides : List Int}
    {memory : Memory} {left : World}
    (made : ofBuffer buffer extents strides memory world = .ok block left) :
    left = world ∧ block.Sound world := by
  rw [ofBuffer_eq] at made
  cases fitted : sizeOver (world.elements buffer.id).length extents strides with
  | error failure =>
      rw [fitted] at made
      cases made
  | ok size =>
      obtain ⟨long, checked⟩ := sizeOver_eq_ok fitted
      rw [fitted] at made
      dsimp only at made
      split at made
      · cases made
        exact ⟨rfl, sound_of_check checked (filled_storageOf long)⟩
      · cases made

/-! ## Elements of blocks -/

/-- The elements of a block in storage order, unless it has given them away. -/
def elements? (world : World) (block : Block) : Option (List Scalar) :=
  match block.storage with
  | .owned data => some (data.take block.size)
  | .borrowed buffer => some ((world.elements buffer.id).take block.size)
  | .released => none

/-- No claim that is held forbids what a use of the block would claim. -/
def Open (world : World) (mode : Mode) (block : Block) : Prop :=
  ∀ claim ∈ block.claims mode, world.admits claim

/-- The block has not given its elements away. -/
def Unreleased (block : Block) : Prop := block.storage ≠ .released

instance (block : Block) : Decidable block.Unreleased :=
  inferInstanceAs (Decidable (block.storage ≠ .released))

theorem isSome_elements? : (block.elements? world).isSome ↔ block.Unreleased := by
  unfold elements? Unreleased
  cases block.storage <;> simp

/-- A sound block has exactly as many elements as its size says. -/
theorem Sound.length_elements {elements : List Scalar} (sound : block.Sound world)
    (held : block.elements? world = some elements) : elements.length = block.size := by
  have filled := sound.filled
  unfold elements? at held
  unfold Filled at filled
  cases stored : block.storage with
  | owned data =>
      rw [stored] at held filled
      cases held
      exact List.length_take_of_le filled.ge
  | borrowed buffer =>
      rw [stored] at held filled
      cases held
      exact List.length_take_of_le filled
  | released =>
      rw [stored] at held
      cases held

/-- No other list than the elements of a sound block is ever shown to a program that reads it. -/
theorem Sound.withData_congr {use other : List Scalar → Op α} (sound : block.Sound world)
    (agree : ∀ elements, elements.length = block.size → use elements = other elements) :
    block.withData use world = block.withData other world := by
  have filled := sound.filled
  unfold Filled at filled
  unfold withData
  cases stored : block.storage with
  | owned data =>
      rw [stored] at filled
      dsimp only
      rw [agree _ (List.length_take_of_le filled.ge)]
  | borrowed buffer =>
      rw [stored] at filled
      dsimp only
      rw [BufferId.reading_apply, BufferId.reading_apply, agree _ (List.length_take_of_le filled)]
  | released => rfl

/-- No other list than the elements of a sound block is ever shown to a program that writes it. -/
theorem Sound.modifyData_congr {use other : List Scalar → Op (α × List Scalar)}
    (sound : block.Sound world)
    (agree : ∀ elements, elements.length = block.size → use elements = other elements) :
    block.modifyData use world = block.modifyData other world := by
  have filled := sound.filled
  unfold Filled at filled
  unfold modifyData
  cases stored : block.storage with
  | owned data =>
      rw [stored] at filled
      dsimp only
      rw [agree _ (List.length_take_of_le filled.ge)]
  | borrowed buffer =>
      rw [stored] at filled
      dsimp only
      rw [Op.bind_apply, Op.bind_apply, BufferId.writing_apply, BufferId.writing_apply,
        agree _ (List.length_take_of_le filled)]
  | released => rfl

/-- What is decided from the elements of a block is decided without changing anything. -/
theorem withData_decided (decide : List Scalar → Except Failure α) {elements : List Scalar}
    (held : block.elements? world = some elements) (free : block.Open world .reading) :
    block.withData (fun given => Op.ofExcept (decide given)) world =
      Op.ofExcept (decide elements) world := by
  unfold elements? at held
  unfold withData
  cases stored : block.storage with
  | owned data =>
      rw [stored] at held
      cases held
      rfl
  | borrowed buffer =>
      rw [stored] at held
      cases held
      have admitted : world.admits ⟨.buffer buffer.id, .reading⟩ = true :=
        free _ (by simp only [claims, stored, List.mem_singleton])
      dsimp only
      rw [BufferId.reading_apply, if_pos admitted]
      cases decide ((world.elements buffer.id).take block.size) <;> rfl
  | released =>
      rw [stored] at held
      cases held

/-- The world and the block once elements are written back: owned data are replaced, and so is the
beginning of a borrowed buffer, neither of which changes its length. -/
def writtenBack (world : World) (block : Block) (written : List Scalar) : World × Block :=
  match block.storage with
  | .owned data =>
    (world, { block with storage := .owned (overlay (written.take block.size) data) })
  | .borrowed buffer =>
    (world.setElements buffer.id
      (overlay (written.take block.size) (world.elements buffer.id)), block)
  | .released => (world, block)

/-- What is decided from the elements of a block for writing is written back. -/
theorem modifyData_decided (decide : List Scalar → Except Failure (α × List Scalar))
    {elements : List Scalar} (held : block.elements? world = some elements)
    (free : block.Open world .writing) :
    block.modifyData (fun given => Op.ofExcept (decide given)) world =
      match decide elements with
      | .ok (result, written) =>
        .ok (result, (block.writtenBack world written).2) (block.writtenBack world written).1
      | .error failure => .error failure world := by
  unfold elements? at held
  unfold modifyData writtenBack
  cases stored : block.storage with
  | owned data =>
      rw [stored] at held
      cases held
      dsimp only
      rw [Op.bind_apply]
      cases decide (data.take block.size) <;> rfl
  | borrowed buffer =>
      rw [stored] at held
      cases held
      have admitted : world.admits ⟨.buffer buffer.id, .writing⟩ = true :=
        free _ (by simp only [claims, stored, List.mem_singleton])
      dsimp only
      rw [Op.bind_apply, BufferId.writing_apply, if_pos admitted, Op.bind_apply]
      cases decide ((world.elements buffer.id).take block.size) <;> rfl
  | released =>
      rw [stored] at held
      cases held

theorem withData_released {use : List Scalar → Op α} (gone : block.storage = .released) :
    block.withData use world = .error (.wrongState .released) world := by
  unfold withData
  rw [gone]
  rfl

theorem modifyData_released {use : List Scalar → Op (α × List Scalar)}
    (gone : block.storage = .released) :
    block.modifyData use world = .error (.wrongState .released) world := by
  unfold modifyData
  rw [gone]
  rfl

/-! ## Single elements -/

/-- Writing back elements of which one was replaced replaces that one. -/
theorem overlay_set {data : List Scalar} {size position : Nat} (below : position < size)
    (element : Scalar) :
    overlay (((data.take size).set position element).take size) data =
      data.set position element := by
  have front : ((data.take size).set position element).take size =
      (data.set position element).take size := by
    rw [← List.take_set, List.take_take, Nat.min_self]
  rw [front, overlay, List.length_take, List.length_set]
  rcases Nat.le_total size data.length with long | short
  · rw [Nat.min_eq_left long, List.take_take, Nat.min_eq_right long,
      ← List.drop_set_of_lt below, List.take_append_drop]
  · rw [Nat.min_eq_right short, List.drop_length, List.append_nil, List.take_take,
      Nat.min_eq_left short, List.take_of_length_le (by simp)]

theorem get_outside {position : Nat} (outside : block.size ≤ position) :
    block.get position world = .error (.invalid (.blockIndex position block.size)) world := by
  unfold get
  rw [if_pos outside]
  rfl

theorem set_outside {position : Nat} (outside : block.size ≤ position) (element : Scalar) :
    block.set position element world =
      .error (.invalid (.blockIndex position block.size)) world := by
  unfold set
  rw [if_pos outside]
  rfl

/-- The element at a position among those of a block. -/
def slot (block : Block) (position : Nat) (elements : List Scalar) : Except Failure Scalar :=
  match elements[position]? with
  | some element => .ok element
  | none => .error (.invalid (.blockIndex position block.size))

/-- The elements of a block with one of them replaced. -/
def slotted (block : Block) (position : Nat) (element : Scalar) (elements : List Scalar) :
    Except Failure (Unit × List Scalar) :=
  if position < elements.length then .ok ((), elements.set position element)
  else .error (.invalid (.blockIndex position block.size))

theorem get_inside {position : Nat} (below : position < block.size) :
    block.get position world =
      block.withData (fun elements => Op.ofExcept (block.slot position elements)) world := by
  have decided : (fun elements : List Scalar => (match elements[position]? with
      | some element => pure element
      | none => throw (.invalid (.blockIndex position block.size)) : Op Scalar)) =
      fun elements => Op.ofExcept (block.slot position elements) := by
    funext elements
    unfold slot
    cases elements[position]? <;> rfl
  rw [get, if_neg (Nat.not_le_of_lt below)]
  exact congrArg (fun use => block.withData use world) decided

theorem set_inside {position : Nat} (below : position < block.size) (element : Scalar) :
    block.set position element world =
      (Prod.snd <$> block.modifyData fun elements =>
        Op.ofExcept (block.slotted position element elements)) world := by
  have decided : (fun elements : List Scalar => (if position < elements.length
      then pure ((), elements.set position element)
      else throw (.invalid (.blockIndex position block.size)) : Op (Unit × List Scalar))) =
      fun elements => Op.ofExcept (block.slotted position element elements) := by
    funext elements
    unfold slotted
    split <;> rfl
  rw [← decided, set, if_neg (Nat.not_le_of_lt below), Op.map_apply]
  change (block.modifyData _ >>= _) world = _
  rw [Op.bind_apply]
  generalize block.modifyData _ world = outcome
  cases outcome <;> rfl

theorem set_released (gone : block.storage = .released) (position : Nat) (element : Scalar) :
    ∃ failure, block.set position element world = .error failure world := by
  by_cases below : position < block.size
  · refine ⟨.wrongState .released, ?_⟩
    rw [set_inside below, Op.map_apply, modifyData_released gone]
  · exact ⟨_, set_outside (Nat.le_of_not_lt below) element⟩

section Sound

variable (sound : block.Sound world) {position : Nat}

include sound

/-- Reading an element succeeds just for the positions below the size of a block that has not given its
elements away. -/
theorem Sound.get_eq_ok_iff (free : block.Open world .reading) :
    (∃ element, block.get position world = .ok element world) ↔
      position < block.size ∧ block.Unreleased := by
  constructor
  · rintro ⟨element, read⟩
    by_cases below : position < block.size
    · refine ⟨below, fun gone => ?_⟩
      rw [get_inside below, withData_released gone] at read
      cases read
    · rw [get_outside (Nat.le_of_not_lt below)] at read
      cases read
  · rintro ⟨below, kept⟩
    obtain ⟨elements, held⟩ := Option.isSome_iff_exists.1 (isSome_elements?.2 kept)
    have inside : position < elements.length := (sound.length_elements held).symm ▸ below
    refine ⟨elements[position], ?_⟩
    rw [get_inside below, withData_decided _ held free, slot, List.getElem?_eq_getElem inside]
    rfl

/-- Writing an element succeeds just where reading it does. -/
theorem Sound.set_eq_ok_iff (free : block.Open world .writing) (element : Scalar) :
    (∃ updated left, block.set position element world = .ok updated left) ↔
      position < block.size ∧ block.Unreleased := by
  constructor
  · rintro ⟨updated, left, written⟩
    by_cases below : position < block.size
    · refine ⟨below, fun gone => ?_⟩
      obtain ⟨failure, failed⟩ := set_released gone position element
      rw [failed] at written
      cases written
    · rw [set_outside (Nat.le_of_not_lt below)] at written
      cases written
  · rintro ⟨below, kept⟩
    obtain ⟨elements, held⟩ := Option.isSome_iff_exists.1 (isSome_elements?.2 kept)
    have inside : position < elements.length := (sound.length_elements held).symm ▸ below
    refine ⟨(block.writtenBack world (elements.set position element)).2,
      (block.writtenBack world (elements.set position element)).1, ?_⟩
    rw [set_inside below, Op.map_apply, modifyData_decided _ held free, slotted, if_pos inside]

variable {buffer : BufferRef} (shared : block.storage = .borrowed buffer)
  (below : position < block.size)

include shared below

/-- The elements of a block that borrows a buffer are those of the buffer. -/
theorem Sound.get_borrowed : block.get position world = buffer.get position world := by
  have long : position < (world.elements buffer.id).length := by
    have filled := sound.filled
    rw [Filled, shared] at filled
    exact Nat.lt_of_lt_of_le below filled
  rw [get_inside below, BufferRef.get_eq long, withData, shared]
  dsimp only
  rw [BufferId.reading_apply, slot, List.getElem?_take_of_lt below,
    List.getElem?_eq_getElem long]
  rfl

/-- Writing an element of a block that borrows a buffer writes that element of the buffer. -/
theorem Sound.set_borrowed (element : Scalar) :
    block.set position element world =
      match buffer.set position element world with
      | .ok _ left => .ok block left
      | .error failure left => .error failure left := by
  have long : position < (world.elements buffer.id).length := by
    have filled := sound.filled
    rw [Filled, shared] at filled
    exact Nat.lt_of_lt_of_le below filled
  have inside : position < ((world.elements buffer.id).take block.size).length := by
    rw [List.length_take]
    exact Nat.lt_min.2 ⟨below, long⟩
  rw [set_inside below, Op.map_apply, BufferRef.set_eq long]
  by_cases admitted : world.admits ⟨.buffer buffer.id, .writing⟩
  · have free : block.Open world .writing := by
      intro claim member
      rw [claims, shared, List.mem_singleton] at member
      exact member ▸ admitted
    have held : block.elements? world = some ((world.elements buffer.id).take block.size) := by
      rw [elements?, shared]
    rw [modifyData_decided _ held free, slotted, if_pos inside, if_pos admitted]
    dsimp only
    rw [writtenBack, shared]
    dsimp only
    rw [overlay_set below]
  · rw [modifyData, shared]
    dsimp only
    rw [Op.bind_apply, BufferId.writing_apply, if_neg admitted, if_neg admitted]

end Sound

/-! ## Runs of programs on elements -/

/-- What is laid over elements leaves those behind it. -/
theorem drop_overlay {front elements : List Scalar} {size : Nat} (short : front.length ≤ size) :
    (overlay front elements).drop size = elements.drop size := by
  rw [overlay, List.drop_append, List.drop_eq_nil_of_le (by simp; omega), List.nil_append,
    List.drop_drop, List.length_take]
  rcases Nat.le_total front.length elements.length with long | long
  · rw [Nat.min_eq_right long, Nat.add_sub_cancel' short]
  · rw [List.drop_eq_nil_of_le (by omega), List.drop_eq_nil_of_le (by omega)]

/-- Whatever a program does that writes the elements of a block over a buffer, what stands in the buffer
behind the block is as it was before. -/
theorem modifyData_beyond {use : List Scalar → Op (α × List Scalar)} {buffer : BufferRef}
    {left : World} {result : α × Block} (shared : block.storage = .borrowed buffer)
    (done : block.modifyData use world = .ok result left) :
    (left.elements buffer.id).drop block.size = (world.elements buffer.id).drop block.size := by
  rw [modifyData, shared] at done
  dsimp only at done
  rw [Op.bind_apply, BufferId.writing_apply] at done
  split at done
  · rename_i after written
    split at written
    · rw [Op.bind_apply] at written
      cases ran : use ((world.elements buffer.id).take block.size)
          (world.acquire ⟨.buffer buffer.id, .writing⟩) with
      | error failure abandoned =>
          rw [ran] at written
          cases written
      | ok given reached =>
          rw [ran] at written
          cases written
          cases done
          change ((reached.setElements buffer.id _).elements buffer.id).drop block.size = _
          rw [World.elements_setElements, if_pos rfl, drop_overlay]
          exact List.length_take_le _ _
    · cases written
  · cases done

end Block

end PathStore
