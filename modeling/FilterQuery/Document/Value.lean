import FilterQuery.Refusal
import FilterQuery.Value

/-!
# Bind values as JSON

Six of the seven kinds of values have a JSON form of their own, and a JSON value that is no object
and no integer beyond 64 bits is read back as the value it came from.  Blobs have no such form: a
blob is written as the array of its bytes.  A float that JSON cannot write is written as `null`.
-/

namespace FilterQuery

namespace Value

/-- The least integer that can be bound, `-2 ^ 63`. -/
def leastInteger : Int := -0x8000000000000000

/-- The least integer above all that can be bound, `2 ^ 63`. -/
def integerLimit : Int := 0x8000000000000000

mutual

/-- The JSON form of a value. -/
def toJson : Value → Json
  | null => .null
  | bool b => .bool b
  | int n => .number (.integer n.toInt)
  | float x => (Number.ofFloat? x).elim .null .number
  | text s => .string s
  | blob bytes => .array (bytes.map fun byte => .number (.integer byte.toNat))
  | list items => .array (listToJson items)

/-- The JSON forms of some values. -/
def listToJson : List Value → List Json
  | [] => []
  | item :: rest => item.toJson :: listToJson rest

end

mutual

/-- The value that a JSON value stands for.  Objects stand for none. -/
def ofJson : Json → Except Refusal Value
  | .null => return null
  | .bool b => return bool b
  | .number (.integer n) =>
    if leastInteger ≤ n ∧ n < integerLimit then return int (Int64.ofInt n)
    else throw (.filter (.integerOutOfRange n))
  | .number (.decimal x _) => return float x
  | .string s => return text s
  | .array items => do
    let values ← listOfJson items
    return list values
  | .object _ => throw (.filter .objectAsValue)

/-- The values that some JSON values stand for. -/
def listOfJson : List Json → Except Refusal (List Value)
  | [] => return []
  | item :: rest => do
    let value ← ofJson item
    let values ← listOfJson rest
    return value :: values

end

/-- The JSON text of a value. -/
def jsonText (value : Value) : String :=
  value.toJson.compact

end Value

end FilterQuery
