import FilterQuery.Document.Filter
import FilterQuery.Selection.Basic

/-!
# Selections as JSON

A selection is described by a JSON object with the keys `columns`, `where`, `order`, `page` and
`limit`, each of which may be absent; `null` stands for the object without keys.  A member is a
change to the standard selection, and the members are applied from the first to the last.
-/

namespace FilterQuery

namespace Selection

/-- The names in an array of strings. -/
def columnsOfJson (json : Json) : Except Refusal (List String) :=
  match json.items?.bind fun items => items.mapM Json.string? with
  | some names => return names
  | none => throw (.selection .columns)

/-- One column of an ordering. -/
def directionOfMember : String × Json → Except Refusal (String × Direction)
  | (column, value) =>
    match value.string? with
    | some word => do
      let direction ← Direction.ofWord word
      return (column, direction)
    | none => throw (.selection (.directionNotString column))

/-- The ordering that an object describes: each key is a column, each value a direction. -/
def orderOfJson (json : Json) : Except Refusal (Entries String Direction) :=
  match json.members? with
  | some members => members.mapM directionOfMember
  | none => throw (.selection .order)

/-- The natural number below `2 ^ 64` that a JSON value is, if it is one. -/
def count? : Json → Option UInt64
  | .number (.integer n) =>
    if 0 ≤ n ∧ n.toNat < UInt64.size then some (UInt64.ofNat n.toNat) else none
  | _ => none

/-- A page or a limit: a count, or `null` for none. -/
def countOfJson (key : String) : Json → Except Refusal (Option UInt64)
  | .null => return none
  | json =>
    match count? json with
    | some count => return some count
    | none => throw (.selection (.count key))

/-- The change that one member asks for. -/
def settingOfMember : String × Json → Except Refusal Setting
  | (key, value) =>
    match key with
    | "columns" => .columns <$> columnsOfJson value
    | "where" => .filter <$> Filter.ofJson value
    | "order" => .order <$> orderOfJson value
    | "page" => .page <$> countOfJson key value
    | "limit" => .limit <$> countOfJson key value
    | _ => throw (.selection (.unknownKey key))

/-- Makes the change that one member asks for. -/
def readMember (selection : Selection) (member : String × Json) : Except Refusal Selection := do
  let setting ← settingOfMember member
  return selection.apply setting

/-- The selection that the members of an object describe. -/
def ofMembers (members : List (String × Json)) : Except Refusal Selection :=
  members.foldlM readMember standard

/-- The selection that a JSON value describes. -/
def ofJson : Json → Except Refusal Selection
  | .null => return standard
  | .object members => ofMembers members
  | _ => throw (.selection .notObject)

/-- The selection that a text describes. -/
def parse (text : String) : Except Refusal Selection := do
  let json ← (Json.parse text).mapError .malformed
  ofJson json

end Selection

end FilterQuery
