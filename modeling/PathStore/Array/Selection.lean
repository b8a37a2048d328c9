import PathStore.Array.Layout

/-!
# Selecting a part of an array

A slice is resolved against the extent of an axis to the indices it names; selectors are applied to
the axes of an array from the first on, and what is left are the axes of the part.
-/

namespace PathStore

open Address

/-- Evenly spaced indices of an axis of known extent. With a negative step the end may be `-1`. -/
structure IndexRange where
  first : Int
  pastLast : Int
  step : Int
  deriving DecidableEq

namespace IndexRange

/-- Whether the range names no index. -/
def isEmpty (range : IndexRange) : Bool :=
  if 0 < range.step then range.pastLast ≤ range.first else range.first ≤ range.pastLast

/-- The number of indices in the range. -/
def count (range : IndexRange) : Nat :=
  let distance := (range.pastLast - range.first).natAbs
  let step := range.step.natAbs
  (distance + step - 1) / step

end IndexRange

namespace Slice

/-- A slice with the given ends and step, which must not be zero. -/
def stepped (start stop : Option Nat) (step : Int) : Except Failure Slice :=
  if step = 0 then .error (.invalid .zeroStep) else .ok ⟨start, stop, step⟩

/-- An index as a signed number. -/
def signedIndex (index : Nat) : Except Failure Int :=
  signedOr (.indexTooLarge index) index

/-- The indices that a slice names on an axis. They must be some, and within the axis. -/
def resolve (slice : Slice) (extent : Nat) : Except Failure IndexRange := do
  let extent ← signedIndex extent
  let pastLast ←
    match slice.stop with
    | some stop => signedIndex stop
    | none => pure (if 0 < slice.step then extent else -1)
  let first ←
    match slice.start with
    | some start => signedIndex start
    | none => pure (if 0 < slice.step then 0 else extent - 1)
  if extent ≤ first ∨ extent < pastLast then throw (.invalid (.sliceOutside slice extent))
  let range : IndexRange := { first, pastLast, step := slice.step }
  if range.isEmpty then throw (.invalid (.sliceEmpty slice))
  return range

/-- The number of indices that a slice names on an axis. -/
def count (slice : Slice) (extent : Nat) : Except Failure Nat :=
  return (← slice.resolve extent).count

end Slice

/-- A part of an array: where its first element stands, and its axes. -/
structure Part where
  position : Int
  axes : List Axis

namespace Part

/-- The part with one more axis in front. -/
def keep (axis : Axis) (part : Part) : Part :=
  { part with axes := axis :: part.axes }

/-- Select from axes, of which the first has the given number, beginning at a position. Axes
without selector are taken whole. An axis without elements can only be taken whole. -/
def select (position : Int) (number : Nat) :
    List Axis → List Selector → Except Failure Part
  | [], _ => .ok ⟨position, []⟩
  | axis :: axes, selectors => do
    match selectors.headD .whole with
    | .index index =>
      if axis.extent ≤ index then throw (.invalid (.axisIndex index number axis.extent))
      let distance ← mul (toSigned index) axis.stride
      select (← add position distance) (number + 1) axes selectors.tail
    | .slice slice =>
      if axis.extent = 0 ∧ slice = .all then
        return (← select position (number + 1) axes selectors.tail).keep axis
      else
        let range ← slice.resolve axis.extent
        let distance ← mul range.first axis.stride
        let position ← add position distance
        let stride ← mul axis.stride range.step
        let part ← select position (number + 1) axes selectors.tail
        return part.keep { extent := range.count, stride }

end Part

end PathStore
