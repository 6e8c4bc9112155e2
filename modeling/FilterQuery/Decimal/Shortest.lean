/-!
# Shortest decimals

A binary float `m · 2 ^ q` is the number that all reals of some interval round to.  Of the decimals
in that interval, `shortest` chooses one with the fewest digits; among those the one nearest to the
float; and of two equally near ones the one with the even last digit.

The choice is made in exact arithmetic.  For each number of digits, the decimals of that many digits
form a grid around the float, and if any point of the grid lies in the interval, then so does one of
the two grid points next to the float.  So it is enough to test these two, for one digit, two
digits, and so on; seventeen digits always suffice.
-/

namespace FilterQuery

/-- A positive decimal in scientific form: digits `d₀ d₁ … dₙ` and exponent `x` stand for
`d₀.d₁…dₙ × 10 ^ x`.  Neither the first nor the last digit is zero. -/
structure Decimal where
  digits : List Char
  exponent : Int

namespace Decimal

/-! ## The interval of a float -/

/-- The reals that round to one float.  The ends belong to it iff the float's significand is even,
since a tie between two floats goes to the even one. -/
structure Interval where
  value : Rat
  low : Rat
  high : Rat
  closed : Bool

/-- Does the interval hold the point? -/
def Interval.holds (interval : Interval) (point : Rat) : Bool :=
  if interval.closed then interval.low ≤ point && point ≤ interval.high
  else interval.low < point && point < interval.high

/-- The weight of the leading binary digit of a significand, `2 ^ 52`. -/
def leadingDigit : Nat := 0x10000000000000

/-- The number of values of the exponent field, `2 ^ 11`. -/
def exponentFields : Nat := 0x800

/-- The interval of a positive finite float, from its bits.  Below a power of two the floats stand
twice as close as above it, so there the lower half of the interval is half as long. -/
def Interval.ofBits (bits : UInt64) : Interval :=
  let field : Nat := bits.toNat / leadingDigit % exponentFields
  let fraction : Nat := bits.toNat % leadingDigit
  let significand : Nat := if field = 0 then fraction else leadingDigit + fraction
  let scale : Int := if field = 0 then -1074 else (field : Int) - 1075
  let unit : Rat := 2 ^ scale
  let value : Rat := significand * unit
  { value
    low := value - (if fraction = 0 ∧ 1 < field then unit / 4 else unit / 2)
    high := value + unit / 2
    closed := significand % 2 = 0 }

/-! ## Grids -/

/-- The number of decimal digits of a natural number; zero has one. -/
def digitCount (n : Nat) : Nat :=
  (Nat.toDigits 10 n).length

/-- The exponent `x` with `10 ^ x ≤ value < 10 ^ (x + 1)`, for a positive value. -/
def magnitude (value : Rat) : Int :=
  let estimate : Int := (digitCount value.num.toNat : Int) - digitCount value.den
  if (10 : Rat) ^ estimate ≤ value then estimate else estimate - 1

/-- The point `count · 10 ^ scale` of a grid. -/
structure GridPoint where
  count : Nat
  scale : Int

def GridPoint.value (point : GridPoint) : Rat :=
  point.count * (10 : Rat) ^ point.scale

/-- Of the two points next to the value on the grid with step `10 ^ scale`, the one to take, if any
of them lies in the interval. -/
def Interval.pointAt? (interval : Interval) (scale : Int) : Option GridPoint :=
  let count := (interval.value / (10 : Rat) ^ scale).floor.toNat
  let below : GridPoint := ⟨count, scale⟩
  let above : GridPoint := ⟨count + 1, scale⟩
  match interval.holds below.value, interval.holds above.value with
  | true, true =>
    let down := interval.value - below.value
    let up := above.value - interval.value
    some (if down < up ∨ down = up ∧ count % 2 = 0 then below else above)
  | true, false => some below
  | false, true => some above
  | false, false => none

/-- The point with the fewest digits in the interval. -/
def Interval.shortest? (interval : Interval) : Option GridPoint :=
  let top := magnitude interval.value
  (List.range 17).findSome? fun (n : Nat) => interval.pointAt? (top - n)

/-- The scientific form of a positive grid point. -/
def ofGridPoint (point : GridPoint) : Decimal :=
  let digits := Nat.toDigits 10 point.count
  { digits := (digits.reverse.dropWhile (· == '0')).reverse
    exponent := point.scale + digits.length - 1 }

/-- The shortest decimal that rounds to the float with the given bits, whose sign is ignored.  It is
`none` for zero, which has no scientific form. -/
def shortest? (x : Float) : Option Decimal :=
  if x == 0 then none else (Interval.ofBits x.toBits).shortest?.map ofGridPoint

end Decimal

end FilterQuery
