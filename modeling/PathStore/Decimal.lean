import PathStore.Binary64

/-!
# Shortest decimal text of a number

A binary64 number stands for an interval of reals, those that are nearer to it than to its
neighbours. Its shortest decimal is the one with the fewest digits in that interval, and of those
the nearest to the number itself. All arithmetic is exact: the number and the ends of its interval
are fractions over one common denominator.
-/

namespace PathStore

/-- A decimal number `digits * 10 ^ exponent`. -/
structure Decimal where
  digits : Nat
  exponent : Int
  deriving DecidableEq

/-- The reals that round to a positive number: from `low / scale` to `high / scale` around
`value / scale`, with or without both ends. -/
structure RoundingInterval where
  value : Nat
  low : Nat
  high : Nat
  scale : Nat
  closed : Bool

namespace RoundingInterval

/-- The interval of a finite number other than zero. The gap below a power of two is half the gap
above it; an end belongs to the number with the even significand. -/
def ofBinary64 (number : Binary64) : RoundingInterval :=
  let m := number.significand
  let q := number.exponent - 2
  let below := if m = 1 <<< 52 ∧ number.exponent ≠ -1074 then 1 else 2
  let up := 1 <<< q.toNat
  { value := 4 * m * up, low := (4 * m - below) * up, high := (4 * m + 2) * up,
    scale := 1 <<< (-q).toNat, closed := m % 2 = 0 }

/-- Whether `numerator / denominator` lies in the interval. -/
def holds (interval : RoundingInterval) (numerator denominator : Nat) : Bool :=
  let point := numerator * interval.scale
  let low := interval.low * denominator
  let high := interval.high * denominator
  if interval.closed then low ≤ point && point ≤ high else low < point && point < high

/-- The power of ten that the value stays below while it reaches the one before it. -/
def magnitude (interval : RoundingInterval) : Int :=
  if interval.scale ≤ interval.value then (Nat.toDigits 10 (interval.value / interval.scale)).length
  else
    match (List.range 330).find? fun zeros =>
      interval.scale ≤ interval.value * Nat.pow 10 (zeros + 1) with
    | some zeros => -(zeros : Int)
    | none => -330

/-- The best point of the grid `10 ^ exponent` in the interval, if there is one. Of two points
equally near the greater is taken. -/
def nearest? (interval : RoundingInterval) (exponent : Int) : Option Decimal :=
  let up := Nat.pow 10 exponent.toNat
  let down := Nat.pow 10 (-exponent).toNat
  let numerator := interval.value * down
  let denominator := interval.scale * up
  let floor := numerator / denominator
  let twice := 2 * (numerator % denominator)
  let choices := if twice < denominator then [floor, floor + 1] else [floor + 1, floor]
  (choices.find? fun digits => interval.holds (digits * up) down).map (⟨·, exponent⟩)

end RoundingInterval

namespace Decimal

/-- Move the zeros at the end of the digits into the exponent, at most `limit` of them. -/
def trim (limit : Nat) (decimal : Decimal) : Decimal :=
  match limit with
  | 0 => decimal
  | limit + 1 =>
    if decimal.digits % 10 = 0 then trim limit ⟨decimal.digits / 10, decimal.exponent + 1⟩
    else decimal

/-- The shortest decimal of a finite number other than zero, without its sign. Seventeen digits
always suffice. -/
def shortest (number : Binary64) : Decimal :=
  let interval := RoundingInterval.ofBinary64 number
  let found := (List.range 17).findSome? fun more =>
    interval.nearest? (interval.magnitude - (more + 1 : Nat))
  trim 20 (found.getD ⟨0, 0⟩)

/-- How the decimal text of a number is laid out. -/
structure Style where
  /-- From this power of ten on a number is written with an exponent. -/
  tooLarge : Int
  /-- Below this power of ten a number is written with an exponent. -/
  tooSmall : Int
  /-- Stands between the digits and the exponent. -/
  exponentMark : String
  /-- Ends a whole number that is written without exponent. -/
  wholeSuffix : String
  nan : String
  infinity : String

/-- Digits with a point behind the first one, if there are more. -/
def pointAfterFirst (digits : List Char) : String :=
  match digits with
  | [] => ""
  | [only] => only.toString
  | first :: rest => first.toString ++ "." ++ String.ofList rest

/-- A run of zeros. -/
def zeros (count : Nat) : String := String.ofList (List.replicate count '0')

/-- The text of a positive decimal. -/
def layout (style : Style) (decimal : Decimal) : String :=
  let digits := Nat.toDigits 10 decimal.digits
  let power := decimal.exponent + digits.length
  if style.tooLarge < power ∨ power ≤ style.tooSmall then
    pointAfterFirst digits ++ style.exponentMark ++ toString (power - 1)
  else if power ≤ 0 then
    "0." ++ zeros (-power).toNat ++ String.ofList digits
  else if 0 ≤ decimal.exponent then
    String.ofList digits ++ zeros decimal.exponent.toNat ++ style.wholeSuffix
  else
    String.ofList (digits.take power.toNat) ++ "." ++ String.ofList (digits.drop power.toNat)

/-- The text of any number. -/
def write (style : Style) (number : Binary64) : String :=
  if number.isNaN then style.nan
  else
    let size :=
      if number.isInfinite then style.infinity
      else if number.isZero then "0" ++ style.wholeSuffix
      else layout style (shortest number)
    if number.isNegative then "-" ++ size else size

end Decimal

end PathStore
