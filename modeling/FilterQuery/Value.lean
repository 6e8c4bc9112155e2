/-!
# Bind values

A value never becomes part of SQL text.  It travels beside the text that refers to it and fills
one placeholder there.  `Value` is what a placeholder can be filled with, and `ToValue` says which
types of the surrounding program convert to one.

Equality of values is that of their numbers: a float that is not a number differs from itself, and
the two zeros are equal.  Values of different kinds are never equal, `1` and `1.0` included.
-/

namespace FilterQuery

/-- A value bound to a placeholder. -/
inductive Value where
  | null
  | bool (b : Bool)
  | int (n : Int64)
  | float (x : Float)
  | text (s : String)
  | blob (bytes : List UInt8)
  | list (items : List Value)

namespace Value

instance : Inhabited Value := ⟨null⟩

mutual

/-- Equality of two values, floats compared as numbers. -/
def beq : Value → Value → Bool
  | null, null => true
  | bool a, bool b => a == b
  | int a, int b => a == b
  | float a, float b => a == b
  | text a, text b => a == b
  | blob a, blob b => a == b
  | list as, list bs => beqAll as bs
  | _, _ => false

/-- Equality of two lists of values, element by element. -/
def beqAll : List Value → List Value → Bool
  | [], [] => true
  | a :: as, b :: bs => beq a b && beqAll as bs
  | _, _ => false

end

instance : BEq Value := ⟨beq⟩

/-- The elements of a list value. -/
def items? : Value → Option (List Value)
  | list items => some items
  | _ => none

theorem items?_eq_some_iff {value : Value} {items : List Value} :
    value.items? = some items ↔ value = list items := by
  cases value <;> simp [items?]

/-- Is this a list value? -/
def isList (value : Value) : Bool :=
  value.items?.isSome

end Value

/-! ## Conversions

Every integer type whose range lies in that of `Int64` becomes an integer, both float types a float
(the narrower one exactly), a byte array one blob, a list a list of converted elements, and an
absent value `null`. -/

/-- Types whose elements can be bound. -/
class ToValue (α : Type) where
  /-- The value that stands for an element. -/
  toValue : α → Value

export ToValue (toValue)

instance : ToValue Value := ⟨id⟩

instance : ToValue Int64 := ⟨.int⟩

instance : ToValue Int32 := ⟨fun n => .int n.toInt64⟩

instance : ToValue Int16 := ⟨fun n => .int n.toInt64⟩

instance : ToValue Int8 := ⟨fun n => .int n.toInt64⟩

instance : ToValue UInt32 := ⟨fun n => .int (Int64.ofNat n.toNat)⟩

instance : ToValue UInt16 := ⟨fun n => .int (Int64.ofNat n.toNat)⟩

instance : ToValue UInt8 := ⟨fun n => .int (Int64.ofNat n.toNat)⟩

instance : ToValue Bool := ⟨.bool⟩

instance : ToValue Float := ⟨.float⟩

instance : ToValue Float32 := ⟨fun x => .float x.toFloat⟩

instance : ToValue String := ⟨.text⟩

instance : ToValue ByteArray := ⟨fun bytes => .blob bytes.toList⟩

instance {α : Type} [ToValue α] : ToValue (Option α) :=
  ⟨fun value? => value?.elim .null toValue⟩

instance {α : Type} [ToValue α] : ToValue (List α) :=
  ⟨fun items => .list (items.map toValue)⟩

end FilterQuery
