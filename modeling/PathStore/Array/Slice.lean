/-!
# Slices and selectors

A slice names evenly spaced indices of an axis whose extent is not yet known; an end left open is
filled in from the extent. A selector is what is asked of one axis: a single index, which takes the
axis away, or a slice, which keeps it.
-/

namespace PathStore

/-- Evenly spaced indices along an axis, from `start` towards `stop`. -/
structure Slice where
  start : Option Nat
  stop : Option Nat
  step : Int
  deriving DecidableEq

/-- What is selected of one axis. -/
inductive Selector where
  | index (position : Nat)
  | slice (slice : Slice)
  deriving DecidableEq

namespace Slice

/-- The greatest index there can be, `2 ^ 64 - 1`. -/
def lastIndex : Nat := 0xffffffffffffffff

/-- Every index of the axis. -/
def all : Slice := ⟨none, none, 1⟩

/-- A single index. -/
def single (index : Nat) : Slice :=
  ⟨some index, some (min (index + 1) lastIndex), 1⟩

/-- The indices from one up to, but without, another. -/
def span (start stop : Nat) : Slice := ⟨some start, some stop, 1⟩

/-- How an end of a slice is shown. -/
def showEnd : Option Nat → String
  | some index => toString index
  | none => "Auto"

/-- How a slice is shown. -/
def display (slice : Slice) : String :=
  "(" ++ showEnd slice.start ++ ", " ++ showEnd slice.stop ++ ", " ++ toString slice.step ++ ")"

example : (⟨some 7, none, -1⟩ : Slice).display = "(7, Auto, -1)" := by decide +kernel

end Slice

namespace Selector

/-- The whole axis. -/
def whole : Selector := .slice .all

end Selector

end PathStore
