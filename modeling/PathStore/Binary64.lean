/-!
# Binary floating-point numbers

Numbers of the IEEE 754 format binary64, kept as their bits. They are stored, compared and shown,
never computed with, so the only operations are comparison and exact widening from binary32.
-/

namespace PathStore

/-- A binary64 number by its bits: a sign bit, eleven exponent bits, fifty-two fraction bits. -/
structure Binary64 where
  bits : UInt64
  deriving DecidableEq

namespace Binary64

/-- The bits of positive infinity; all greater magnitudes stand for no number. -/
def infinityBits : Nat := 0x7ff0000000000000

/-- The bits without the sign. -/
def magnitude (number : Binary64) : Nat :=
  number.bits.toNat % (1 <<< 63)

/-- Whether the sign bit is set. -/
def isNegative (number : Binary64) : Bool :=
  1 <<< 63 ≤ number.bits.toNat

/-- Whether this stands for no number. -/
def isNaN (number : Binary64) : Bool :=
  infinityBits < number.magnitude

/-- Whether this is one of the two infinities. -/
def isInfinite (number : Binary64) : Bool :=
  number.magnitude == infinityBits

/-- Whether this is one of the two zeros. -/
def isZero (number : Binary64) : Bool :=
  number.magnitude == 0

/-- The fraction bits, with the leading bit of a normal number in front. -/
def significand (number : Binary64) : Nat :=
  if number.magnitude < 1 <<< 52 then number.magnitude
  else 1 <<< 52 + number.magnitude % (1 <<< 52)

/-- The power of two by which the significand is scaled. -/
def exponent (number : Binary64) : Int :=
  (max (number.magnitude >>> 52) 1 : Nat) - 1075

/-- Numerical equality: the two zeros are equal, and what is no number equals nothing. -/
def same (left right : Binary64) : Bool :=
  !left.isNaN && !right.isNaN && (left.bits == right.bits || (left.isZero && right.isZero))

/-- The one form in which what is no number is written down. -/
def nan : Binary64 := ⟨0x7ff8000000000000⟩

/-- The bits under which a number is written down. -/
def canonicalBits (number : Binary64) : UInt64 :=
  if number.isNaN then nan.bits else number.bits

/-- A number from its sign and the bits below it. -/
def ofMagnitude (negative : Bool) (magnitude : Nat) : Binary64 :=
  ⟨UInt64.ofNat (magnitude + if negative then 1 <<< 63 else 0)⟩

/-- The magnitude of a binary32 number, given by its bits without the sign, in binary64. A number
too small for a leading bit there has one here. -/
def widenMagnitude (magnitude : Nat) : Nat :=
  let exponent := magnitude >>> 23
  let fraction := magnitude % (1 <<< 23)
  if exponent = 255 then infinityBits + fraction <<< 29
  else if exponent = 0 then
    if fraction = 0 then 0
    else
      let top := fraction.log2
      (top + 874) <<< 52 + (fraction - 1 <<< top) <<< (52 - top)
  else (exponent + 896) <<< 52 + fraction <<< 29

/-- The same number as a binary32 one, given by its bits. -/
def ofBinary32 (bits : UInt32) : Binary64 :=
  let number := ofMagnitude (1 <<< 31 ≤ bits.toNat) (widenMagnitude (bits.toNat % (1 <<< 31)))
  if number.isNaN then nan else number

end Binary64

end PathStore
