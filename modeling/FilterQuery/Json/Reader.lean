import FilterQuery.Entries
import FilterQuery.Json.Numeral

/-!
# Reading JSON

`Json.parse` reads a text that holds one JSON value and nothing else but blanks.  A reader takes the
text that is left and gives what it read and what is then left, or the fault it met; the first fault
in the text is the one that is met.

* Arrays and objects are nested at most `Json.depthLimit` deep.
* A key that occurs again in an object replaces the value and keeps its first place.
* The readers of lists of things (`repeatRead`) take a bound on the number of things.  Each thing
  takes at least one character, so the length of the text is bound enough.
-/

namespace FilterQuery

/-- A reader of some things: from the text left, the thing and the text then left. -/
abbrev Reader (α : Type) := List Char → Except Fault (α × List Char)

/-- Reads things for as long as `next` gives one.  The bound is never reached if it is greater than
the number of characters left and each thing takes at least one of them. -/
def repeatRead {α : Type} (next : Reader (Option α)) : Nat → Reader (List α)
  | 0, text => .error (.before .endOfValue text)
  | bound + 1, text => do
    match ← next text with
    | (none, rest) => return ([], rest)
    | (some thing, rest) =>
      let (things, rest) ← repeatRead next bound rest
      return (thing :: things, rest)

namespace Json

/-- Space, line feed, carriage return and tab may stand between any two parts of a text. -/
def isBlank (c : Char) : Bool :=
  c = ' ' || c = '\n' || c = '\t' || c = '\r'

/-- Leaves out leading blanks. -/
def skipBlanks (text : List Char) : List Char :=
  text.dropWhile isBlank

/-! ## Strings -/

/-- The value of a hexadecimal digit. -/
def hexValue? (c : Char) : Option Nat :=
  if c.isDigit then some (c.toNat - '0'.toNat)
  else if 'a' ≤ c ∧ c ≤ 'f' then some (c.toNat - 'a'.toNat + 10)
  else if 'A' ≤ c ∧ c ≤ 'F' then some (c.toNat - 'A'.toNat + 10)
  else none

/-- The number that some hexadecimal digits write. -/
def hexNumber? (digits : List Char) : Option Nat :=
  digits.foldlM (fun n c => (hexValue? c).map (n * 16 + ·)) 0

/-- Reads the four bytes of a code unit. -/
def readUnit : Reader Nat := fun text =>
  let digits := text.take 4
  if byteLength digits < 4 then .error (.before .endOfString [])
  else match hexNumber? digits with
    | some unit => .ok (unit, text.drop 4)
    | none => .error ⟨.invalidEscape, byteLength text - 4⟩

/-- Reads the second half of a pair of code units: another escape, of a low surrogate. -/
def readLowSurrogate : Reader Nat := fun text =>
  match text with
  | '\\' :: 'u' :: rest => do
    let (unit, rest) ← readUnit rest
    if 0xDC00 ≤ unit ∧ unit ≤ 0xDFFF then return (unit, rest)
    else throw (.before .loneSurrogate rest)
  | [] | ['\\'] => .error (.before .endOfString [])
  | '\\' :: rest => .error (.within .unfinishedPair rest)
  | _ => .error (.within .unfinishedPair text)

/-- Reads the code of a character: one code unit, or the two that stand for a character beyond the
first 65536. -/
def readCode : Reader Char := fun text => do
  let (unit, rest) ← readUnit text
  if 0xDC00 ≤ unit ∧ unit ≤ 0xDFFF then
    throw (.before .loneSurrogate rest)
  else if 0xD800 ≤ unit ∧ unit ≤ 0xDBFF then
    let (low, rest) ← readLowSurrogate rest
    return (Char.ofNat (0x10000 + (unit - 0xD800) * 0x400 + (low - 0xDC00)), rest)
  else
    return (Char.ofNat unit, rest)

/-- Reads what follows a backslash. -/
def readEscape : Reader Char := fun text =>
  match text with
  | [] => .error (.before .endOfString [])
  | 'u' :: rest => readCode rest
  | '\"' :: rest => .ok ('\"', rest)
  | '\\' :: rest => .ok ('\\', rest)
  | '/' :: rest => .ok ('/', rest)
  | 'b' :: rest => .ok ('\x08', rest)
  | 'f' :: rest => .ok ('\x0c', rest)
  | 'n' :: rest => .ok ('\n', rest)
  | 'r' :: rest => .ok ('\r', rest)
  | 't' :: rest => .ok ('\t', rest)
  | _ => .error (.within .invalidEscape text)

/-- Reads one character of a string, or the quote that ends it. -/
def readCharacter? : Reader (Option Char) := fun text =>
  match text with
  | [] => .error (.before .endOfString [])
  | '\"' :: rest => .ok (none, rest)
  | '\\' :: rest => do
    let (c, rest) ← readEscape rest
    return (some c, rest)
  | c :: rest =>
    if c.toNat < 0x20 then .error (.within .controlCharacter text) else .ok (some c, rest)

/-- Reads a string from behind its opening quote. -/
def readString : Reader String := fun text => do
  let (characters, rest) ← repeatRead readCharacter? (text.length + 1) text
  return (String.ofList characters, rest)

/-! ## Words -/

/-- Reads the letters of a word. -/
def readWord (json : Json) : List Char → Reader Json
  | [], text => .ok (json, text)
  | _ :: _, [] => .error (.before .endOfValue [])
  | letter :: letters, c :: rest =>
    if c = letter then readWord json letters rest else .error (.within .expectedWord (c :: rest))

/-! ## Values -/

/-- Reads a value whose arrays and objects are read by the readers given, each from behind the
opening bracket. -/
def readValueWith (readItems readMembers : Reader Json) : Reader Json := fun text =>
  match skipBlanks text with
  | [] => .error (.before .endOfValue [])
  | 'n' :: rest => readWord null ['u', 'l', 'l'] rest
  | 't' :: rest => readWord (bool true) ['r', 'u', 'e'] rest
  | 'f' :: rest => readWord (bool false) ['a', 'l', 's', 'e'] rest
  | '\"' :: rest => do
    let (s, rest) ← readString rest
    return (string s, rest)
  | '-' :: rest => do
    let (n, rest) ← Numeral.read true rest
    return (number n, rest)
  | '[' :: rest => readItems rest
  | '{' :: rest => readMembers rest
  | c :: rest =>
    if c.isDigit then do
      let (n, rest) ← Numeral.read false (c :: rest)
      return (number n, rest)
    else .error (.within .expectedValue (c :: rest))

/-- Reads the comma before another element and the element, or the bracket behind the last one. -/
def readNextItem? (readValue : Reader Json) : Reader (Option Json) := fun text =>
  match skipBlanks text with
  | [] => .error (.before .endOfList [])
  | ']' :: rest => .ok (none, rest)
  | ',' :: rest =>
    match skipBlanks rest with
    | ']' :: rest => .error (.within .trailingComma (']' :: rest))
    | rest => do
      let (item, rest) ← readValue rest
      return (some item, rest)
  | rest => .error (.within .expectedListEnd rest)

/-- Reads an array from behind its opening bracket. -/
def readArray (readValue : Reader Json) : Reader Json := fun text =>
  match skipBlanks text with
  | [] => .error (.before .endOfList [])
  | ']' :: rest => .ok (array [], rest)
  | rest => do
    let (first, rest) ← readValue rest
    let (others, rest) ← repeatRead (readNextItem? readValue) (rest.length + 1) rest
    return (array (first :: others), rest)

/-- Reads a member from behind the opening quote of its key. -/
def readMember (readValue : Reader Json) : Reader (String × Json) := fun text => do
  let (key, rest) ← readString text
  match skipBlanks rest with
  | [] => throw (.before .endOfObject [])
  | ':' :: rest =>
    let (value, rest) ← readValue rest
    return ((key, value), rest)
  | rest => throw (.within .expectedColon rest)

/-- Reads the comma before another member and the member, or the brace behind the last one. -/
def readNextMember? (readValue : Reader Json) : Reader (Option (String × Json)) := fun text =>
  match skipBlanks text with
  | [] => .error (.before .endOfObject [])
  | '}' :: rest => .ok (none, rest)
  | ',' :: rest =>
    match skipBlanks rest with
    | [] => .error (.before .endOfValue [])
    | '\"' :: rest => do
      let (member, rest) ← readMember readValue rest
      return (some member, rest)
    | '}' :: rest => .error (.within .trailingComma ('}' :: rest))
    | rest => .error (.within .keyNotString rest)
  | rest => .error (.within .expectedObjectEnd rest)

/-- The object of some members, in which a key that occurs again replaces the value. -/
def ofMembers (members : List (String × Json)) : Json :=
  object (members.foldl (fun merged (key, value) => Entries.put key value merged) [])

/-- Reads an object from behind its opening brace. -/
def readObject (readValue : Reader Json) : Reader Json := fun text =>
  match skipBlanks text with
  | [] => .error (.before .endOfObject [])
  | '}' :: rest => .ok (object [], rest)
  | '\"' :: rest => do
    let (first, rest) ← readMember readValue rest
    let (others, rest) ← repeatRead (readNextMember? readValue) (rest.length + 1) rest
    return (ofMembers (first :: others), rest)
  | rest => .error (.within .keyNotString rest)

/-- Refuses an array or object that is nested too deeply.  The fault is at its opening bracket,
which is one byte before the text given. -/
def refuseDepth : Reader Json := fun text =>
  .error (.before .tooDeep text)

/-- Reads a value in which arrays and objects are nested at most `depth` deep. -/
def readValue : Nat → Reader Json
  | 0 => readValueWith refuseDepth refuseDepth
  | depth + 1 => readValueWith (readArray (readValue depth)) (readObject (readValue depth))

/-- How deep arrays and objects may be nested. -/
def depthLimit : Nat := 127

/-- Reads a value and makes sure that only blanks are left. -/
def readText (text : List Char) : Except Fault Json := do
  let (json, rest) ← readValue depthLimit text
  match skipBlanks rest with
  | [] => return json
  | rest => throw (.within .trailingCharacters rest)

/-- The value of a JSON text. -/
def parse (text : String) : Except SyntaxError Json :=
  (readText text.toList).mapError (SyntaxError.ofFault text.toList)

end Json

end FilterQuery
