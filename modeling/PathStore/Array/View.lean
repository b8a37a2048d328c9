import PathStore.Array.Buffer
import PathStore.Array.Selection

/-!
# Views

The layout of a view is checked against its buffer once, when the view is made; a part of a view is
not checked again. Elements are read and written in the shared buffer.
-/

namespace PathStore.View

/-- A view from an offset on, with the given extents and strides. -/
def make (buffer : BufferRef) (offset : Nat) (shape : List Nat) (strides : List Int) :
    Op View := do
  let size ← Layout.check (← buffer.length) offset shape strides
  return { buffer, offset, axes := Layout.axes shape strides, size, owner := none }

/-- A view of a whole buffer. -/
def ofBuffer (buffer : BufferRef) : Op View := do
  let size ← buffer.length
  return { buffer, offset := 0, axes := [⟨size, 1⟩], size, owner := none }

/-- The extents. -/
def shape (view : View) : List Nat := Layout.shape view.axes

/-- The strides. -/
def strides (view : View) : List Int := Layout.strides view.axes

/-- The position in the buffer of the element at a multi-index. -/
def indexPosition (view : View) (index : List Nat) : Except Failure Nat :=
  Layout.indexPosition view.offset view.axes index

/-- The position in the buffer of the element at a place in row-major order. -/
def linearPosition (view : View) (place : Nat) : Except Failure Nat :=
  Layout.linearPosition view.offset view.axes place

/-- The same, for a place that may lie outside. -/
def checkedPosition (view : View) (place : Nat) : Except Failure Nat :=
  if view.size ≤ place then .error (.invalid (.viewIndex place)) else view.linearPosition place

/-- The element at a multi-index. -/
def get (view : View) (index : List Nat) : Op Scalar := do
  view.buffer.get (← view.indexPosition index)

/-- Overwrite the element at a multi-index. -/
def set (view : View) (index : List Nat) (element : Scalar) : Op Unit := do
  view.buffer.set (← view.indexPosition index) element

/-- The element at a place in row-major order. -/
def getLinear (view : View) (place : Nat) : Op Scalar := do
  view.buffer.get (← view.checkedPosition place)

/-- Overwrite the element at a place in row-major order. -/
def setLinear (view : View) (place : Nat) (element : Scalar) : Op Unit := do
  view.buffer.set (← view.checkedPosition place) element

/-- The element at a place in row-major order, out of the elements of the buffer. -/
def pick (view : View) (elements : List Scalar) (place : Nat) : Except Failure Scalar := do
  match elements[← view.linearPosition place]? with
  | some element => return element
  | none => throw (.fault .indexOutside)

/-- Whether a list of all elements takes no more bytes than can be addressed, given the number of
elements in the buffer. The buffer is such a list itself, so one that is no longer has room. -/
def Listable (view : View) (length : Nat) : Prop :=
  view.size ≤ length ∨ Address.IsSigned (view.size * view.buffer.elem.width : Nat)

instance (view : View) (length : Nat) : Decidable (view.Listable length) :=
  inferInstanceAs (Decidable (_ ∨ _))

/-- All elements in row-major order, out of the elements of the buffer. There has to be room for
them before the first is read. -/
def pickAll (view : View) (elements : List Scalar) : Except Failure (List Scalar) :=
  if view.Listable elements.length then (List.range view.size).mapM (view.pick elements)
  else .error (.fault .capacity)

/-- All elements in row-major order. -/
def toList (view : View) : Op (List Scalar) :=
  view.buffer.id.reading .busy fun elements => Op.ofExcept (view.pickAll elements)

/-- The part of a view that selectors name, the first of them on the first axis. Axes beyond the
selectors are taken whole. -/
def slice (view : View) (selectors : List Selector) : Except Failure View := do
  if view.axes.length < selectors.length then
    throw (.invalid (.tooManySelectors selectors.length view.axes.length))
  let part ← Part.select (Address.toSigned view.offset) 0 view.axes selectors
  let size ← Layout.elementCount (Layout.shape part.axes)
  return { view with offset := Address.toUnsigned part.position, axes := part.axes, size }

/-- Whether two views show the same elements at the given places, up to the first difference. -/
def agree (left right : View) (leftElements rightElements : List Scalar) :
    List Nat → Except Failure Bool
  | [] => .ok true
  | place :: rest => do
    let leftElement ← left.pick leftElements place
    let rightElement ← right.pick rightElements place
    if leftElement.same rightElement then agree left right leftElements rightElements rest
    else return false

/-- Whether two views have the same extents and strides and show the same memory or equal
elements. What cannot be read is not equal. -/
def same (left right : View) : Op Bool :=
  if left.size ≠ right.size ∨ left.axes ≠ right.axes then pure false
  else if left.buffer = right.buffer ∧ left.offset = right.offset then pure true
  else do
    let compared ← Op.attempt <|
      left.buffer.id.reading .busy fun leftElements =>
        right.buffer.id.reading .busy fun rightElements =>
          Op.ofExcept (agree left right leftElements rightElements (List.range left.size))
    return compared.toOption.getD false

end PathStore.View
