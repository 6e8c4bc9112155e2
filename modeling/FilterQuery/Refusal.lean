import FilterQuery.Json.Fault
import FilterQuery.Json.Printer
import FilterQuery.Keyword

/-!
# Refusals

Why a description is refused.  Each cause carries what its message names, and the wording is in one
place.  Names are put into a message as they are, without quoting or escaping.
-/

namespace FilterQuery

/-- The key, reserved inside the conditions of a field, that holds the join. -/
def joinKey : String := "operator"

/-- How a description of a filter can miss the shape of one. -/
inductive FilterFlaw where
  /-- The join of a field is not given by a string. -/
  | joinNotString
  /-- A join stands beside the fields of a group, where it would have to stand inside one. -/
  | joinOutsideField (found : Json)
  /-- A field is not given an object of operators. -/
  | fieldNotObject (field : String)
  /-- A filter is neither an object nor an array. -/
  | notFilter (found : Json)
  /-- An object is to be bound. -/
  | objectAsValue
  /-- An integer is to be bound that does not fit a signed word of 64 bits. -/
  | integerOutOfRange (n : Int)

def FilterFlaw.message : FilterFlaw → String
  | joinNotString => "'" ++ joinKey ++ "' must be a string"
  | joinOutsideField found =>
    "'" ++ joinKey ++ "' belongs inside a field's operator map, e.g. "
      ++ Json.inBraces ("\"a\": "
        ++ Json.inBraces ("\"equals\": 1, \"" ++ joinKey ++ "\": " ++ found.compact))
  | fieldNotObject field => "field '" ++ field ++ "' must map to an object of operators"
  | notFilter found => "expected an object or an array, got " ++ found.compact
  | objectAsValue => "objects cannot be bound as values"
  | integerOutOfRange n => "integer " ++ toString n ++ " out of range"

/-- How a description of a selection can miss the shape of one. -/
inductive SelectionFlaw where
  | notObject
  /-- The columns are not an array of strings. -/
  | columns
  /-- The ordering is not an object. -/
  | order
  /-- The direction of a column is not given by a string. -/
  | directionNotString (column : String)
  /-- The value of a key is not a count. -/
  | count (key : String)
  | unknownKey (key : String)

def SelectionFlaw.message : SelectionFlaw → String
  | notObject => "options must be an object"
  | columns => "'columns' must be an array of strings"
  | order => "'order' must map columns to ASC or DESC"
  | directionNotString column => "direction for '" ++ column ++ "' must be a string"
  | count key => "'" ++ key ++ "' must be a non-negative integer"
  | unknownKey key => "unknown key '" ++ key ++ "'"

/-- Why a description is refused. -/
inductive Refusal where
  | unknownOperator (name : String)
  | unknownJoin (word : String)
  | unknownDirection (word : String)
  | filter (flaw : FilterFlaw)
  | selection (flaw : SelectionFlaw)
  | malformed (error : SyntaxError)

namespace Refusal

def message : Refusal → String
  | unknownOperator name =>
    "Operation not found: '" ++ name ++ "', use ("
      ++ ", ".intercalate (Operator.all.map Operator.name) ++ ")"
  | unknownJoin word => "unknown join operator '" ++ word ++ "', use (AND, OR)"
  | unknownDirection word => "unknown order direction '" ++ word ++ "', use (ASC, DESC)"
  | filter flaw => "invalid filter: " ++ flaw.message
  | selection flaw => "invalid options: " ++ flaw.message
  | malformed error => "JSON error: " ++ error.message

/-- The messages from the refusal itself down to its first cause.  Only a malformed text has a cause
of its own, the flaw in the text. -/
def causes (refusal : Refusal) : List String :=
  match refusal with
  | malformed error => [refusal.message, error.message]
  | _ => [refusal.message]

end Refusal

/-! ## Keywords that a description mentions -/

/-- The operator of that name. -/
def Operator.ofName (name : String) : Except Refusal Operator :=
  match ofName? name with
  | some op => .ok op
  | none => .error (.unknownOperator name)

/-- The join written as `word`. -/
def Join.ofWord (word : String) : Except Refusal Join :=
  match ofWord? word with
  | some join => .ok join
  | none => .error (.unknownJoin word)

/-- The direction written as `word`. -/
def Direction.ofWord (word : String) : Except Refusal Direction :=
  match ofWord? word with
  | some direction => .ok direction
  | none => .error (.unknownDirection word)

end FilterQuery
