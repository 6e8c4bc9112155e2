import FilterQuery.Decimal.Shortest

/-!
# Layouts of decimals

How the digits and the exponent of a decimal are set out as text.  A layout says between which
exponents a decimal is written positionally, with zeros filled in; outside of that range it is
written in scientific form.
-/

namespace FilterQuery

namespace Decimal

/-- The choices that a number format makes. -/
structure Layout where
  /-- The least exponent that is written positionally. -/
  lowest : Int
  /-- The least exponent above `lowest` that is not written positionally. -/
  limit : Int
  /-- What follows the digits of a positional whole number. -/
  wholeEnd : List Char
  /-- What stands between the digits and the exponent. -/
  mark : List Char
  /-- The sign of an exponent that is not negative. -/
  plus : List Char

/-- The digits with the point in its place and zeros where digits are missing. -/
def positional (layout : Layout) (decimal : Decimal) : List Char :=
  if decimal.exponent < 0 then
    '0' :: '.' :: List.replicate (-decimal.exponent - 1).toNat '0' ++ decimal.digits
  else
    let whole := decimal.exponent.toNat + 1
    if decimal.digits.length ≤ whole then
      decimal.digits ++ List.replicate (whole - decimal.digits.length) '0' ++ layout.wholeEnd
    else
      decimal.digits.take whole ++ '.' :: decimal.digits.drop whole

/-- One digit before the point, and the exponent written out. -/
def scientific (layout : Layout) (decimal : Decimal) : List Char :=
  let mantissa := match decimal.digits with
    | lead :: next :: rest => lead :: '.' :: next :: rest
    | digits => digits
  let sign := if decimal.exponent < 0 then ['-'] else layout.plus
  mantissa ++ layout.mark ++ sign ++ Nat.toDigits 10 decimal.exponent.natAbs

/-- The text of a decimal. -/
def write (layout : Layout) (decimal : Decimal) : List Char :=
  if layout.lowest ≤ decimal.exponent ∧ decimal.exponent < layout.limit then
    decimal.positional layout
  else
    decimal.scientific layout

/-- The text of a finite float: its shortest decimal after its sign.  Zero is written as the digit
zero at exponent zero, and its sign is kept. -/
def writeFloat (layout : Layout) (x : Float) : List Char :=
  let sign := if x.toBits < 0x8000000000000000 then [] else ['-']
  sign ++ write layout ((shortest? x).getD ⟨['0'], 0⟩)

end Decimal

end FilterQuery
