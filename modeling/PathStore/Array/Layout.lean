import PathStore.Address

/-!
# Strided layouts

An axis has an extent and a stride; the element at a multi-index stands at the offset plus, for
each axis, the index times the stride. The position of an element is found from its multi-index or
from its place in row-major order, in which the last axis runs fastest. A layout is checked once,
against the length of the buffer, when an array is made.
-/

namespace PathStore

/-- One direction of an array. -/
structure Axis where
  extent : Nat
  stride : Int
  deriving DecidableEq

namespace Layout

open Address

/-- The axes with the given extents and strides. -/
def axes (shape : List Nat) (strides : List Int) : List Axis :=
  List.zipWith Axis.mk shape strides

/-- The extents of axes. -/
def shape (axes : List Axis) : List Nat := axes.map (·.extent)

/-- The strides of axes. -/
def strides (axes : List Axis) : List Int := axes.map (·.stride)

/-- The number of elements of a shape: the product of its extents, one if there are none. -/
def elementCount (shape : List Nat) : Except Failure Nat :=
  shape.foldlM mulSize 1

/-- The least and the greatest position that a layout reaches. -/
structure Reach where
  lowest : Int
  highest : Int

/-- What a layout reaches with one more axis, which has at least one element. -/
def Reach.extend (reach : Reach) (axis : Axis) : Except Failure Reach := do
  let last ← signedOr .addressOverflow (axis.extent - 1 : Nat)
  let distance ← signedOr .addressOverflow (last * axis.stride)
  if distance < 0 then
    return { reach with lowest := ← signedOr .addressOverflow (reach.lowest + distance) }
  else
    return { reach with highest := ← signedOr .addressOverflow (reach.highest + distance) }

/-- Check that extents and strides agree in number and that every element lies in a buffer of the
given length. Yields the number of elements; if there are none, nothing else is checked. -/
def check (length offset : Nat) (shape : List Nat) (strides : List Int) : Except Failure Nat := do
  if shape.length ≠ strides.length then
    throw (.invalid (.ranksDiffer shape.length strides.length))
  let size ← elementCount shape
  if size = 0 then return 0
  let start ← signedOr .addressOverflow offset
  let reach ← (axes shape strides).foldlM Reach.extend ⟨start, start⟩
  let outside := Failure.invalid (.layoutOutside shape strides offset length)
  if reach.lowest < 0 then throw outside
  let length ← signedOr .addressOverflow length
  if length ≤ reach.highest then throw outside
  return size

/-- Whether each stride is the product of the extents before it, in the order given. Products
beyond the range of strides equal no stride but the extreme one. -/
def isPacked (expected : Int) : List Axis → Bool
  | [] => true
  | axis :: rest =>
    axis.stride == expected && isPacked (clamp (expected * toSigned axis.extent)) rest

/-- Whether the elements stand in row-major order without gaps. One axis may have any stride. -/
def isRowMajor (axes : List Axis) : Bool :=
  axes.length == 1 || isPacked 1 axes.reverse

/-- Whether the elements stand in column-major order without gaps. One axis may have any stride. -/
def isColumnMajor (axes : List Axis) : Bool :=
  axes.length == 1 || isPacked 1 axes

/-- The product of the extents before each position of a shape. -/
def runningProducts (product : Int) : List Nat → Except Failure (List Int)
  | [] => .ok []
  | extent :: rest => do
    let next ← mul product (toSigned extent)
    return product :: (← runningProducts next rest)

/-- The strides of a shape whose first axis runs fastest. -/
def columnMajorStrides (shape : List Nat) : Except Failure (List Int) :=
  runningProducts 1 shape

/-- The strides of a shape whose last axis runs fastest. -/
def rowMajorStrides (shape : List Nat) : Except Failure (List Int) := do
  return (← runningProducts 1 shape.reverse).reverse

/-- Advance a position along axes, the fastest one first, to the element that is `rest` places
further in their order. -/
def unravel (position : Int) (rest : Nat) : List Axis → Except Failure Int
  | [] => .ok position
  | axis :: more => do
    if axis.extent = 0 then throw (.fault .divisionByZero)
    let distance ← mul (toSigned (rest % axis.extent)) axis.stride
    unravel (← add position distance) (rest / axis.extent) more

/-- The position of an element given by its place in row-major order. -/
def linearPosition (offset : Nat) (axes : List Axis) (place : Nat) : Except Failure Nat :=
  toUnsigned <$> unravel (toSigned offset) place axes.reverse

/-- Advance a position along axes, of which the first has the given number, to a multi-index. -/
def advance (position : Int) (number : Nat) : List Nat → List Axis → Except Failure Int
  | index :: indices, axis :: axes => do
    if axis.extent ≤ index then throw (.invalid (.axisIndex index number axis.extent))
    let distance ← mul (toSigned index) axis.stride
    advance (← add position distance) (number + 1) indices axes
  | _, _ => .ok position

/-- The position of an element given by its multi-index. -/
def indexPosition (offset : Nat) (axes : List Axis) (index : List Nat) : Except Failure Nat := do
  if index.length ≠ axes.length then throw (.invalid (.indexRank index axes.length))
  return toUnsigned (← advance (toSigned offset) 0 index axes)

end Layout

end PathStore
