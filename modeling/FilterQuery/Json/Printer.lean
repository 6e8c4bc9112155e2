import FilterQuery.Decimal.Layout
import FilterQuery.Json.Basic

/-!
# Writing JSON

`Json.compact` writes a value without any space; `Json.pretty` writes one element or member per
line, indented by two spaces per level, and leaves empty arrays and objects on one line.

In a string, quotes, backslashes and control characters are escaped and all else is written as it
is.  A float is written by the shortest digits that read back, positionally from `0.00001` to below
`10 ^ 16` and always with a point there, with a signed exponent elsewhere.
-/

namespace FilterQuery

namespace Json

/-! ## Scalars -/

/-- JSON numbers: `1.0`, `0.00001`, `1e+16`, `1.5e-7`. -/
def numberLayout : Decimal.Layout where
  lowest := -5
  limit := 16
  wholeEnd := ['.', '0']
  mark := ['e']
  plus := ['+']

/-- The text of a number. -/
def numberText : Number → String
  | .integer n => toString n
  | .decimal x _ => String.ofList (Decimal.writeFloat numberLayout x)

example : (Number.ofFloat? 100).map numberText = some "100.0" := by decide +kernel

example : (Number.ofFloat? 0.00001).map numberText = some "0.00001" := by decide +kernel

example : (Number.ofFloat? 1.5e-7).map numberText = some "1.5e-7" := by decide +kernel

example : (Number.ofFloat? 1e16).map numberText = some "1e+16" := by decide +kernel

example : (Number.ofFloat? (-0.0)).map numberText = some "-0.0" := by decide +kernel

/-- A character of a string.  The control characters without a short escape are written by their
code in two hexadecimal digits. -/
def escape (c : Char) : List Char :=
  if c = '\"' then ['\\', '\"']
  else if c = '\\' then ['\\', '\\']
  else if c = '\x08' then ['\\', 'b']
  else if c = '\x0c' then ['\\', 'f']
  else if c = '\n' then ['\\', 'n']
  else if c = '\r' then ['\\', 'r']
  else if c = '\t' then ['\\', 't']
  else if c.toNat < 0x20 then
    ['\\', 'u', '0', '0', Nat.digitChar (c.toNat / 16), Nat.digitChar (c.toNat % 16)]
  else [c]

/-- A string in quotes. -/
def quote (s : String) : String :=
  String.ofList ('\"' :: s.toList.flatMap escape ++ ['\"'])

/-! ## Compact text -/

mutual

/-- The text of a value without spaces. -/
def compact : Json → String
  | null => "null"
  | bool b => if b then "true" else "false"
  | number n => numberText n
  | string s => quote s
  | array items => "[" ++ ",".intercalate (compactItems items) ++ "]"
  | object members => inBraces (",".intercalate (compactMembers members))

/-- The texts of some values. -/
def compactItems : List Json → List String
  | [] => []
  | item :: rest => item.compact :: compactItems rest

/-- The texts of some members, each a key and a value with a colon between them. -/
def compactMembers : List (String × Json) → List String
  | [] => []
  | (key, value) :: rest => (quote key ++ ":" ++ value.compact) :: compactMembers rest

end

/-! ## Text over several lines -/

/-- The start of a line at some depth of nesting. -/
def lineStart (depth : Nat) : String :=
  "\n" ++ String.ofList (List.replicate (2 * depth) ' ')

/-- Lays out some texts between brackets, each on a line of its own at depth `depth + 1`. -/
def block (openText closeText : String) (depth : Nat) : List String → String
  | [] => openText ++ closeText
  | texts =>
    openText ++ lineStart (depth + 1) ++ ("," ++ lineStart (depth + 1)).intercalate texts
      ++ lineStart depth ++ closeText

mutual

/-- The text of a value that starts on a line of some depth. -/
def prettyAt (depth : Nat) : Json → String
  | null => "null"
  | bool b => if b then "true" else "false"
  | number n => numberText n
  | string s => quote s
  | array items => block "[" "]" depth (prettyItems (depth + 1) items)
  | object members => block openBrace closeBrace depth (prettyMembers (depth + 1) members)

/-- The texts of some values at some depth. -/
def prettyItems (depth : Nat) : List Json → List String
  | [] => []
  | item :: rest => item.prettyAt depth :: prettyItems depth rest

/-- The texts of some members at some depth. -/
def prettyMembers (depth : Nat) : List (String × Json) → List String
  | [] => []
  | (key, value) :: rest =>
    (quote key ++ ": " ++ value.prettyAt depth) :: prettyMembers depth rest

end

/-- The text of a value over several lines. -/
def pretty (json : Json) : String :=
  json.prettyAt 0

end Json

end FilterQuery
