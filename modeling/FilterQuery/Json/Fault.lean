import FilterQuery.Json.Basic

/-!
# Faults in JSON text

Reading stops at the first character that no JSON text could have there.  A fault says what is wrong
and how many bytes of the text were still unread when that became clear; from this `SyntaxError`
derives the line and the column.

Lines are counted from 1.  The column is the number of bytes since the last line break, so a fault
right behind a line break has column 0.
-/

namespace FilterQuery

/-- What can be wrong with a JSON text. -/
inductive Flaw where
  | endOfValue
  | endOfList
  | endOfObject
  | endOfString
  | expectedWord
  | expectedValue
  | expectedListEnd
  | expectedObjectEnd
  | expectedColon
  | keyNotString
  | trailingComma
  | trailingCharacters
  | tooDeep
  | controlCharacter
  | invalidEscape
  | loneSurrogate
  | unfinishedPair
  | invalidNumber
  | numberOutOfRange
  deriving DecidableEq

/-- What was expected between two parts, or behind the last one. -/
def commaOr (closing : String) : String :=
  "expected `,` or `" ++ closing ++ "`"

/-- The flaw in words. -/
def Flaw.message : Flaw → String
  | endOfValue => "EOF while parsing a value"
  | endOfList => "EOF while parsing a list"
  | endOfObject => "EOF while parsing an object"
  | endOfString => "EOF while parsing a string"
  | expectedWord => "expected ident"
  | expectedValue => "expected value"
  | expectedListEnd => commaOr "]"
  | expectedObjectEnd => commaOr Json.closeBrace
  | expectedColon => "expected `:`"
  | keyNotString => "key must be a string"
  | trailingComma => "trailing comma"
  | trailingCharacters => "trailing characters"
  | tooDeep => "recursion limit exceeded"
  | controlCharacter => "control character (\\u0000-\\u001F) found while parsing a string"
  | invalidEscape => "invalid escape"
  | loneSurrogate => "lone leading surrogate in hex escape"
  | unfinishedPair => "unexpected end of hex escape"
  | invalidNumber => "invalid number"
  | numberOutOfRange => "number out of range"

/-- The length of some text in bytes. -/
def byteLength : List Char → Nat
  | [] => 0
  | c :: rest => c.utf8Size + byteLength rest

/-- A flaw and the number of bytes unread when it was found. -/
structure Fault where
  flaw : Flaw
  unread : Nat

namespace Fault

/-- The flaw shows before `rest` is read. -/
def before (flaw : Flaw) (rest : List Char) : Fault :=
  ⟨flaw, byteLength rest⟩

/-- The flaw shows at the first byte of `rest`, or at the end of the text if there is none. -/
def within (flaw : Flaw) (rest : List Char) : Fault :=
  ⟨flaw, byteLength rest - 1⟩

end Fault

/-! ## Positions -/

/-- A place in a text. -/
structure Position where
  line : Nat
  column : Nat

/-- The place that so many bytes of the text lead to from a given place. -/
def Position.advance (position : Position) : List Char → Nat → Position
  | [], _ => position
  | c :: rest, bytes =>
    if bytes = 0 then position
    else if c = '\n' then advance ⟨position.line + 1, 0⟩ rest (bytes - 1)
    else
      advance ⟨position.line, position.column + min c.utf8Size bytes⟩ rest (bytes - c.utf8Size)

/-- A flaw and its place in the text. -/
structure SyntaxError where
  flaw : Flaw
  position : Position

namespace SyntaxError

/-- The error that a fault in `text` is. -/
def ofFault (text : List Char) (fault : Fault) : SyntaxError where
  flaw := fault.flaw
  position := Position.advance ⟨1, 0⟩ text (byteLength text - fault.unread)

def message (error : SyntaxError) : String :=
  error.flaw.message ++ " at line " ++ toString error.position.line ++ " column "
    ++ toString error.position.column

end SyntaxError

end FilterQuery
