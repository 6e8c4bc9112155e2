import FilterQuery.Json.Basic
import FilterQuery.Json.Fault

/-!
# Numerals

Reading a JSON number.  The digits before and after the point are gathered into one natural number,
the significand, for as long as it fits 64 bits; digits beyond that are dropped and only their
places are counted.  A numeral without point and exponent whose significand is complete is an integer.
Every other numeral is the float of its significand, scaled by a power of ten.

The scaling multiplies or divides once by a rounded power of ten, or divides several times for
very small numbers.  It is exact for short numerals and may be off in the last place for long ones.
-/

namespace FilterQuery

/-! ## Digits -/

/-- The value of a decimal digit. -/
def digitValue (c : Char) : Nat :=
  c.toNat - '0'.toNat

/-- Appends digits to a natural number until the result would reach `limit`.  Gives the number and
how many digits were dropped, the one that would have been too much included. -/
def gather (limit : Nat) : Nat → List Char → Nat × Nat
  | n, [] => (n, 0)
  | n, c :: rest =>
    let next := n * 10 + digitValue c
    if next < limit then gather limit next rest else (n, rest.length + 1)

/-! ## Scaling -/

/-- The float nearest to a power of ten. -/
def powerOfTen (exponent : Nat) : Float :=
  Float.ofScientific 1 false exponent

/-- The greatest exponent whose power of ten is a finite float. -/
def greatestExponent : Nat := 308

/-- Divides some times by the greatest finite power of ten, or until zero is reached. -/
def shrink : Nat → Float → Float
  | 0, x => x
  | n + 1, x => if x == 0 then x else shrink n (x / powerOfTen greatestExponent)

/-- A significand times a power of ten.  The result is infinite if it is too large for a float. -/
def scale (significand : Nat) (exponent : Int) : Float :=
  let x := significand.toUInt64.toFloat
  let places := exponent.natAbs
  if 0 ≤ exponent then
    if places ≤ greatestExponent then x * powerOfTen places
    else if x == 0 then x else 1 / 0
  else
    shrink ((places - 1) / greatestExponent) x / powerOfTen ((places - 1) % greatestExponent + 1)

/-! ## The parts of a numeral -/

/-- What was read of a numeral: its sign, the significand, and the power of ten by which the
significand is to be scaled. -/
structure Numeral where
  negative : Bool
  significand : Nat
  exponent : Int

namespace Numeral

/-- The float that a numeral denotes. -/
def toFloat (numeral : Numeral) : Float :=
  let x := scale numeral.significand numeral.exponent
  if numeral.negative then -x else x

/-- The number that a numeral denotes as a float, unless it is too large for one. -/
def decimal? (numeral : Numeral) : Option Number :=
  Number.ofFloat? numeral.toFloat

/-- The greatest distance from zero of a negative integer, `2 ^ 63`. -/
def greatestNegative : Nat := 0x8000000000000000

/-- The integer that a numeral without point and exponent denotes.  A negative one has to fit a
signed word, and negative zero is no integer. -/
def integer? (numeral : Numeral) : Option Number :=
  if numeral.exponent ≠ 0 then none
  else if !numeral.negative then some (.integer numeral.significand)
  else if 0 < numeral.significand ∧ numeral.significand ≤ greatestNegative then
    some (.integer (-numeral.significand))
  else none

/-- The float of a numeral whose text ends where `rest` begins. -/
def readDecimal (numeral : Numeral) (rest : List Char) : Except Fault (Number × List Char) :=
  match numeral.decimal? with
  | some number => .ok (number, rest)
  | none => .error (.before .numberOutOfRange rest)

/-- Ends a numeral without point and exponent. -/
def readWhole (numeral : Numeral) (rest : List Char) : Except Fault (Number × List Char) :=
  match numeral.integer? with
  | some number => .ok (number, rest)
  | none => numeral.readDecimal rest

/-- The least exponent that is too large to be written out, `2 ^ 31`. -/
def exponentLimit : Nat := 0x80000000

/-- Reads the exponent that follows an `e` and ends the numeral.  An exponent of too many digits
makes the numeral too large, or zero if the exponent is negative or the significand zero. -/
def readExponent (numeral : Numeral) (text : List Char) : Except Fault (Number × List Char) :=
  let (descending, unsigned) := match text with
    | '+' :: rest => (false, rest)
    | '-' :: rest => (true, rest)
    | _ => (false, text)
  match unsigned with
  | [] => .error (.before .endOfValue [])
  | c :: _ =>
    if !c.isDigit then .error (.within .invalidNumber unsigned)
    else
      let (exponent, dropped) := gather exponentLimit 0 (unsigned.takeWhile Char.isDigit)
      let rest := unsigned.dropWhile Char.isDigit
      if dropped = 0 then
        let shift : Int := if descending then -exponent else exponent
        readDecimal { numeral with exponent := numeral.exponent + shift } rest
      else if numeral.significand ≠ 0 ∧ !descending then
        .error ⟨.numberOutOfRange, byteLength rest + (dropped - 1)⟩
      else
        readDecimal { numeral with significand := 0, exponent := 0 } rest

/-- Reads an exponent, if there is one, and ends the numeral. -/
def readEnd (numeral : Numeral) (text : List Char) : Except Fault (Number × List Char) :=
  match text with
  | 'e' :: rest | 'E' :: rest => numeral.readExponent rest
  | _ => numeral.readDecimal text

/-- Reads the digits after the point. -/
def readFraction (numeral : Numeral) (text : List Char) : Except Fault (Number × List Char) :=
  let digits := text.takeWhile Char.isDigit
  let rest := text.dropWhile Char.isDigit
  if digits.isEmpty then
    .error (.within (if rest.isEmpty then .endOfValue else .invalidNumber) rest)
  else
    let (significand, dropped) := gather UInt64.size numeral.significand digits
    readEnd
      { numeral with
        significand
        exponent := numeral.exponent - (digits.length - dropped : Nat) }
      rest

/-- Reads a numeral without its sign.  A leading zero stands alone before the point. -/
def read (negative : Bool) (text : List Char) : Except Fault (Number × List Char) :=
  match text with
  | [] => .error (.before .endOfValue [])
  | c :: tail =>
    if !c.isDigit then .error (.within .invalidNumber text)
    else
      let digits := if c = '0' then [c] else text.takeWhile Char.isDigit
      let rest := if c = '0' then tail else text.dropWhile Char.isDigit
      let (significand, dropped) := gather UInt64.size 0 digits
      let numeral : Numeral := ⟨negative, significand, dropped⟩
      match rest with
      | '.' :: fraction => numeral.readFraction fraction
      | 'e' :: _ | 'E' :: _ => numeral.readEnd rest
      | next :: _ =>
        if c = '0' ∧ next.isDigit then .error (.within .invalidNumber rest)
        else numeral.readWhole rest
      | [] => numeral.readWhole rest

end Numeral

end FilterQuery
