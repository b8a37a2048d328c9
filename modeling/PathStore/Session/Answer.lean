import PathStore.Snapshot

/-!
# Answers

What a step of a session answers. Answers hold no shared objects, so they keep saying what was the
case when they were given.
-/

namespace PathStore

/-- The owner of a view at one moment: its kind, its text if it lives, and how it is shown. -/
structure OwnerShown where
  kind : OwnerKind
  text : Option String
  display : String

/-- What is known of a view without reading its elements. -/
structure ViewInfo where
  size : Nat
  shape : List Nat
  strides : List Int
  offset : Nat
  bufferLength : Nat
  isRowMajor : Bool
  isColumnMajor : Bool

/-- What is known of a block without reading its elements. -/
structure BlockInfo where
  size : Nat
  shape : List Nat
  strides : List Int
  memory : Option Memory
  isRowMajor : Bool
  isColumnMajor : Bool

/-- What is known of a view. -/
def View.info (view : View) : Op ViewInfo :=
  return { size := view.size, shape := view.shape, strides := view.strides, offset := view.offset,
           bufferLength := ← view.buffer.length, isRowMajor := Layout.isRowMajor view.axes,
           isColumnMajor := Layout.isColumnMajor view.axes }

/-- What is known of a block. -/
def Block.info (block : Block) : BlockInfo :=
  { size := block.size, shape := block.shape, strides := block.strides,
    memory := block.storage.memory?, isRowMajor := Layout.isRowMajor block.axes,
    isColumnMajor := Layout.isColumnMajor block.axes }

/-- What a step answers. -/
inductive Answer where
  | nothing
  | truth (holds : Bool)
  | count (number : Nat)
  | integers (list : List Int)
  | text (text : String)
  | texts (list : List String)
  | element (element : Scalar)
  | elements (list : List Scalar)
  | value (shown : Snapshot)
  | cell (shown : Option Snapshot)
  | fullness (shown : Option Snapshot)
  | location (location : Location)
  | handle (location : Location)
  | buffer (elem : ElemType) (length : Nat)
  | length (length : Nat)
  | slice (slice : Slice)
  | view (info : ViewInfo)
  | block (info : BlockInfo)
  | owner (shown : Option OwnerShown)
  | entry (relativeKey fullKey : String)
  | listing (location : Location) (entries : List (String × Except Error Snapshot))
  /-- A value was lent for reading. -/
  | valueRead (seen : Snapshot) (body : List Answer)
  /-- A value was lent for writing. -/
  | valueWritten (seen after : Snapshot) (body : List Answer)
  /-- A cell was lent for reading. -/
  | cellRead (seen : Option Snapshot) (body : List Answer)
  /-- A cell was lent for writing. -/
  | cellWritten (seen after : Option Snapshot) (body : List Answer)
  /-- Elements were lent for reading. -/
  | dataRead (seen : List Scalar) (body : List Answer)
  /-- Elements were lent for writing. -/
  | dataWritten (seen after : List Scalar) (body : List Answer)
  | failed (failure : Failure)

end PathStore
