import PathStore.Array.View

/-!
# Blocks

A block of `size` elements in storage order. A block that owns its data keeps exactly that many
elements; one that borrows a buffer stands for the first `size` elements of it. Owned data can be
handed over once, after which the block holds nothing.
-/

namespace PathStore.Block

/-- A block of one axis that owns its data. -/
def ofList (elem : ElemType) (data : List Scalar) : Block :=
  { elem, storage := .owned data, axes := [⟨data.length, 1⟩], size := data.length }

/-- A block that owns its data, with the given extents and strides. -/
def make (elem : ElemType) (data : List Scalar) (shape : List Nat) (strides : List Int) :
    Except Failure Block := do
  let computed ← Layout.elementCount shape
  if data.length ≠ computed then throw (.invalid (.dataSize data.length computed))
  let size ← Layout.check data.length 0 shape strides
  return { elem, storage := .owned data, axes := Layout.axes shape strides, size }

/-- A block that owns its data, in row-major order. -/
def ofShape (elem : ElemType) (data : List Scalar) (shape : List Nat) : Except Failure Block := do
  make elem data shape (← Layout.rowMajorStrides shape)

/-- A block of the first elements of a buffer, which it copies or shares. -/
def ofBuffer (buffer : BufferRef) (shape : List Nat) (strides : List Int) (memory : Memory) :
    Op Block := do
  let size ← Layout.elementCount shape
  let length ← buffer.length
  if length < size then throw (.invalid (.bufferTooShort length shape))
  discard (Layout.check size 0 shape strides : Except Failure Nat)
  let storage ←
    match memory with
    | .borrowed => pure (.borrowed buffer)
    | .owned => buffer.id.reading .busy fun elements => pure (.owned (elements.take size))
  return { elem := buffer.elem, storage, axes := Layout.axes shape strides, size }

/-- The same, in row-major order. -/
def ofBufferShape (buffer : BufferRef) (shape : List Nat) (memory : Memory) : Op Block := do
  ofBuffer buffer shape (← Layout.rowMajorStrides shape) memory

/-- The extents. -/
def shape (block : Block) : List Nat := Layout.shape block.axes

/-- The strides. -/
def strides (block : Block) : List Int := Layout.strides block.axes

/-- Run a program on the elements in storage order while reading them. -/
def withData {α : Type} (block : Block) (use : List Scalar → Op α) : Op α :=
  match block.storage with
  | .owned data => use (data.take block.size)
  | .borrowed buffer => buffer.id.reading .busy fun elements => use (elements.take block.size)
  | .released => throw (.wrongState .released)

/-- Lay elements over the beginning of others, as far as those go. -/
def overlay (front elements : List Scalar) : List Scalar :=
  front.take elements.length ++ elements.drop front.length

@[simp] theorem length_overlay (front elements : List Scalar) :
    (overlay front elements).length = elements.length := by
  simp only [overlay, List.length_append, List.length_take, List.length_drop]
  omega

/-- Run a program on the elements in storage order while writing them. What it yields beside its
result is laid over the elements; neither their number nor what stands behind them changes. -/
def modifyData {α : Type} (block : Block) (use : List Scalar → Op (α × List Scalar)) :
    Op (α × Block) := do
  match block.storage with
  | .owned data =>
    let (result, written) ← use (data.take block.size)
    return (result, { block with storage := .owned (overlay (written.take block.size) data) })
  | .borrowed buffer =>
    let result ← buffer.id.writing fun elements => do
      let (result, written) ← use (elements.take block.size)
      return (result, overlay (written.take block.size) elements)
    return (result, block)
  | .released => throw (.wrongState .released)

/-- The element at a position in storage order. -/
def get (block : Block) (position : Nat) : Op Scalar := do
  if block.size ≤ position then throw (.invalid (.blockIndex position block.size))
  block.withData fun elements =>
    match elements[position]? with
    | some element => pure element
    | none => throw (.invalid (.blockIndex position block.size))

/-- Overwrite the element at a position in storage order. -/
def set (block : Block) (position : Nat) (element : Scalar) : Op Block := do
  if block.size ≤ position then throw (.invalid (.blockIndex position block.size))
  let ((), block) ← block.modifyData fun elements =>
    if position < elements.length then pure ((), elements.set position element)
    else throw (.invalid (.blockIndex position block.size))
  return block

/-- All elements in storage order. -/
def toList (block : Block) : Op (List Scalar) :=
  block.withData pure

/-- Hand over the data that the block owns. The storage is taken out of the block first; a buffer that
is only borrowed is put back. -/
def release (block : Block) : Except Failure (List Scalar) × Block :=
  let emptied := { block with storage := .released }
  match block.storage with
  | .owned data => (.ok data, emptied)
  | .borrowed buffer =>
    (.error (.wrongState .releaseBorrowed), { emptied with storage := .borrowed buffer })
  | .released => (.error (.wrongState .releaseTwice), emptied)

/-- The block without elements that stays when a block is taken away. -/
def husk (block : Block) : Block := ofList block.elem []

/-- A view of the buffer that the block borrows. -/
def view (block : Block) : Op View :=
  match block.storage with
  | .borrowed buffer => View.make buffer 0 block.shape block.strides
  | _ => throw (.wrongState .viewUnshared)

/-- A copy that owns or borrows its data. What is owned cannot be borrowed from. -/
def copyAs (block : Block) (memory : Memory) : Op Block :=
  match block.storage, memory with
  | .released, _ => throw (.wrongState .released)
  | .borrowed _, .borrowed => pure block
  | .owned _, .borrowed => throw (.wrongState .borrowOwned)
  | _, .owned => return { block with storage := .owned (← block.toList) }

/-- Whether two blocks have the same extents and strides and equal elements. What cannot be read is
not equal. -/
def same (left right : Block) : Op Bool :=
  if left.axes ≠ right.axes then pure false
  else do
    let compared ← Op.attempt <|
      left.withData fun leftElements =>
        right.withData fun rightElements =>
          pure (leftElements.isEqv rightElements Scalar.same)
    return compared.toOption.getD false

end PathStore.Block
