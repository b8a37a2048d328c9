import PathStore.Error

/-!
# Address arithmetic

Sizes and indices are 64-bit unsigned numbers; strides and running positions are 64-bit signed
ones. Results are checked against those ranges, and one that leaves its range is a fault. Reading a
number of one kind as the other keeps its bits.
-/

namespace PathStore.Address

/-- The least signed number, `-2 ^ 63`. -/
def least : Int := -0x8000000000000000

/-- The greatest signed number, `2 ^ 63 - 1`. -/
def greatest : Int := 0x7fffffffffffffff

/-- Whether an integer is a signed number. -/
def IsSigned (number : Int) : Prop := least ≤ number ∧ number ≤ greatest

instance (number : Int) : Decidable (IsSigned number) :=
  inferInstanceAs (Decidable (least ≤ number ∧ number ≤ greatest))

/-- An unsigned number read as a signed one of the same bits. -/
def toSigned (number : Nat) : Int := (number : Int).bmod 0x10000000000000000

/-- A signed number read as an unsigned one of the same bits. -/
def toUnsigned (number : Int) : Nat := (number % 0x10000000000000000).toNat

/-- The signed number nearest to an integer. -/
def clamp (number : Int) : Int := max least (min greatest number)

/-- An integer that has to be a signed number. -/
def signed (number : Int) : Except Failure Int :=
  if IsSigned number then .ok number else .error (.fault .overflow)

/-- An integer that has to be a size. -/
def size (number : Nat) : Except Failure Nat :=
  if number < 0x10000000000000000 then .ok number else .error (.fault .overflow)

/-- A sum of signed numbers. -/
def add (left right : Int) : Except Failure Int := signed (left + right)

/-- A product of signed numbers. -/
def mul (left right : Int) : Except Failure Int := signed (left * right)

/-- A product of sizes. -/
def mulSize (left right : Nat) : Except Failure Nat := size (left * right)

/-- An integer that must be a signed number for a given reason. -/
def signedOr (refusal : InvalidValue) (number : Int) : Except Failure Int :=
  if IsSigned number then .ok number else .error (.invalid refusal)

end PathStore.Address
