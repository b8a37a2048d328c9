import PathStore.World

/-!
# Buffers

A buffer is a shared run of elements of fixed length. Every name of a buffer leads to the same
elements, so a write through one is seen through all.
-/

namespace PathStore.BufferRef

/-- A new buffer. -/
def create (elem : ElemType) (data : List Scalar) : Op BufferRef := do
  let id : BufferId := ⟨(← get).buffers.next⟩
  modify fun world => { world with buffers := world.buffers.push data }
  return { elem, id }

/-- The number of elements. It never changes, so no claim is needed. -/
def length (buffer : BufferRef) : Op Nat :=
  return ((← get).elements buffer.id).length

/-- The element at a position. -/
def get (buffer : BufferRef) (position : Nat) : Op Scalar :=
  buffer.id.reading .busy fun elements =>
    match elements[position]? with
    | some element => pure element
    | none => throw (.invalid (.bufferIndex position elements.length))

/-- Overwrite the element at a position. -/
def set (buffer : BufferRef) (position : Nat) (element : Scalar) : Op Unit :=
  buffer.id.writing fun elements =>
    if position < elements.length then pure ((), elements.set position element)
    else throw (.invalid (.bufferIndex position elements.length))

/-- All elements. Nobody can be told that the buffer is being written. -/
def toList (buffer : BufferRef) : Op (List Scalar) :=
  buffer.id.reading .locked pure

end PathStore.BufferRef
