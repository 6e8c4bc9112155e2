/-!
# JSON values

The values that a JSON text denotes.  An object is a list of members, in the order of the text; a
value that comes from a text never has two members of one key.

Numbers keep apart what a text keeps apart.  A numeral without fraction and exponent is an integer
as long as integers of 64 bits can hold it, and every other numeral is a float, also if its value is
whole.  No numeral denotes an infinite float or one that is not a number, so `Number.decimal`
carries the proof that its float is finite.
-/

namespace FilterQuery

/-- A JSON number: an integer, or a finite float. -/
inductive Number where
  | integer (n : Int)
  | decimal (x : Float) (finite : x.isFinite = true)

/-- The float as a number, unless it is infinite or not a number. -/
def Number.ofFloat? (x : Float) : Option Number :=
  if finite : x.isFinite = true then some (.decimal x finite) else none

/-- A JSON value. -/
inductive Json where
  | null
  | bool (b : Bool)
  | number (n : Number)
  | string (s : String)
  | array (items : List Json)
  | object (members : List (String × Json))

namespace Json

instance : Inhabited Json := ⟨null⟩

/-- The text of a string value. -/
def string? : Json → Option String
  | string s => some s
  | _ => none

/-- The elements of an array. -/
def items? : Json → Option (List Json)
  | array items => some items
  | _ => none

/-- The members of an object. -/
def members? : Json → Option (List (String × Json))
  | object members => some members
  | _ => none

/-! ## Braces -/

/-- The text `{`. -/
def openBrace : String := "\x7b"

/-- The text `}`. -/
def closeBrace : String := "\x7d"

/-- The text `{inside}`. -/
def inBraces (inside : String) : String :=
  openBrace ++ inside ++ closeBrace

/-- The text `{}`, which denotes an object without members. -/
def emptyObjectText : String := inBraces ""

@[simp] theorem toList_openBrace : openBrace.toList = ['{'] := rfl

@[simp] theorem toList_closeBrace : closeBrace.toList = ['}'] := rfl

@[simp] theorem toList_inBraces (inside : String) :
    (inBraces inside).toList = '{' :: (inside.toList ++ ['}']) := by
  simp [inBraces]

end Json

end FilterQuery
