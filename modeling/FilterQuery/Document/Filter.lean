import FilterQuery.Document.Value
import FilterQuery.Filter.Basic
import FilterQuery.Json.Reader

/-!
# Filter descriptions

A filter description is a JSON value.  An object is a group, and its members give fields their
conditions; an array is a sequence; `null` is the empty group.  The conditions of a field are an
object as well, whose keys are names of operators.  The key `operator` is reserved there for the
join.

A description is read from the front to the back, and the first problem is the one reported.
-/

namespace FilterQuery

/-- Reads one member of the conditions of a field. -/
def Conditions.readMember (conditions : Conditions) :
    String × Json → Except Refusal Conditions
  | (key, value) =>
    if key = joinKey then
      match value.string? with
      | some word => do
        let join ← Join.ofWord word
        return conditions.joinedBy join
      | none => throw (.filter .joinNotString)
    else do
      let op ← Operator.ofName key
      let bound ← Value.ofJson value
      return conditions.set op (some bound)

/-- The conditions that the members of an object describe. -/
def Conditions.ofMembers (members : List (String × Json)) : Except Refusal Conditions :=
  members.foldlM readMember .empty

/-- Reads one member of a group. -/
def Group.readMember (group : Group) : String × Json → Except Refusal Group
  | (name, value) =>
    if name = joinKey ∧ value.string?.isSome then
      throw (.filter (.joinOutsideField value))
    else
      match value.members? with
      | some members => do
        let conditions ← Conditions.ofMembers members
        return group.field name conditions
      | none => throw (.filter (.fieldNotObject name))

/-- The group that the members of an object describe. -/
def Group.ofMembers (members : List (String × Json)) : Except Refusal Group :=
  members.foldlM readMember .empty

namespace Filter

mutual

/-- The filter that a JSON value describes. -/
def ofJson : Json → Except Refusal Filter
  | .null => return empty
  | .object members => do
    let fields ← Group.ofMembers members
    return group fields
  | .array items => do
    let children ← listOfJson items
    return sequence children
  | found => throw (.filter (.notFilter found))

/-- The filters that some JSON values describe. -/
def listOfJson : List Json → Except Refusal (List Filter)
  | [] => return []
  | item :: rest => do
    let child ← ofJson item
    let children ← listOfJson rest
    return child :: children

end

/-- The filter that a text describes. -/
def parse (text : String) : Except Refusal Filter := do
  let json ← (Json.parse text).mapError .malformed
  ofJson json

end Filter

end FilterQuery
