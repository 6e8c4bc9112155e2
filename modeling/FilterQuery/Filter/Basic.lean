import FilterQuery.Comparison
import FilterQuery.Entries

/-!
# Filters

A filter is a tree.  Its leaves are groups, and a group gives each of its fields a set of
conditions: comparison operators with values, in the order in which they were first mentioned.  Its
inner nodes are sequences of filters.

* An entry of `Conditions` may be *undefined*: the operator is mentioned, and nothing is compared.
* Conditions may carry a join.  It is the join of the group in which the field stands, not of the
  comparisons of that field, which all have to hold.
* The join of a group is the one carried by its last field that carries any, and `AND` if none does.
-/

namespace FilterQuery

/-! ## The conditions of one field -/

/-- What is asked of one field: a value, or nothing as yet, for each operator mentioned. -/
structure Conditions where
  entries : Entries Operator (Option Value)
  join : Option Join
  deriving BEq

namespace Conditions

/-- No operator is mentioned and no join carried. -/
def empty : Conditions := ⟨[], none⟩

/-- Compares by `op` with `value?`, or leaves that comparison undefined.  An operator mentioned
before keeps its place. -/
def set (op : Operator) (value? : Option Value) (conditions : Conditions) : Conditions :=
  { conditions with entries := Entries.put op value? conditions.entries }

/-- Carries the join `join?`, or none. -/
def setJoin (join? : Option Join) (conditions : Conditions) : Conditions :=
  { conditions with join := join? }

/-- Mentions `op` without a value. -/
def undefined (conditions : Conditions) (op : Operator) : Conditions :=
  conditions.set op none

/-- Carries `join`. -/
def joinedBy (conditions : Conditions) (join : Join) : Conditions :=
  conditions.setJoin (some join)

section Comparisons

variable {α : Type} [ToValue α]

def equals (conditions : Conditions) (value : α) : Conditions :=
  conditions.set .equals (some (toValue value))

def notEquals (conditions : Conditions) (value : α) : Conditions :=
  conditions.set .notEquals (some (toValue value))

def lt (conditions : Conditions) (value : α) : Conditions :=
  conditions.set .lt (some (toValue value))

def lte (conditions : Conditions) (value : α) : Conditions :=
  conditions.set .lte (some (toValue value))

def gt (conditions : Conditions) (value : α) : Conditions :=
  conditions.set .gt (some (toValue value))

def gte (conditions : Conditions) (value : α) : Conditions :=
  conditions.set .gte (some (toValue value))

/-- Matches a pattern.  The pattern is bound as it is given, wildcards included. -/
def contains (conditions : Conditions) (pattern : α) : Conditions :=
  conditions.set .contains (some (toValue pattern))

def isIn (conditions : Conditions) (values : List α) : Conditions :=
  conditions.set .isIn (some (toValue values))

def notIn (conditions : Conditions) (values : List α) : Conditions :=
  conditions.set .notIn (some (toValue values))

end Comparisons

/-- The defined entries, in order. -/
def defined (conditions : Conditions) : List (Operator × Value) :=
  conditions.entries.filterMap fun (op, value?) => value?.map (op, ·)

/-- The defined entries are those that have a value. -/
theorem map_some_defined (conditions : Conditions) :
    conditions.defined.map (fun (op, value) => (op, some value)) =
      conditions.entries.filter fun (_, value?) => value?.isSome := by
  rw [defined]
  induction conditions.entries with
  | nil => rfl
  | cons entry rest ih =>
    obtain ⟨op, value?⟩ := entry
    cases value? <;> simp [ih]

/-- The comparisons that the conditions make when they are put on `field`. -/
def comparisons (field : String) (conditions : Conditions) : List Comparison :=
  conditions.defined.map fun (op, value) => ⟨field, op, value⟩

/-- Is no comparison defined? -/
def isEmpty (conditions : Conditions) : Bool :=
  conditions.defined.isEmpty

end Conditions

/-! ## Groups -/

/-- Fields with their conditions. -/
structure Group where
  fields : Entries String Conditions
  deriving BEq

namespace Group

/-- The group without fields. -/
def empty : Group := ⟨[]⟩

/-- Puts conditions on the field `name`.  A field mentioned before keeps its place and loses the
conditions it had. -/
def field (name : String) (conditions : Conditions) (group : Group) : Group :=
  ⟨Entries.put name conditions group.fields⟩

/-- The join of the group: that of the last field that carries one, `AND` if there is none. -/
def join (group : Group) : Join :=
  ((group.fields.filterMap fun (_, conditions) => conditions.join).getLast?).getD default

/-- Has the group no fields at all? -/
def isEmpty (group : Group) : Bool :=
  group.fields.isEmpty

end Group

/-! ## Filter trees -/

/-- A filter: a group of fields, or a sequence of filters. -/
inductive Filter where
  | group (fields : Group)
  | sequence (children : List Filter)

namespace Filter

/-- The filter that says nothing: a group without fields. -/
def empty : Filter := group .empty

instance : Inhabited Filter := ⟨empty⟩

/-- The group with a single field. -/
def field (name : String) (conditions : Conditions) : Filter :=
  group (Group.empty.field name conditions)

mutual

/-- Equality of filters.  The order of fields and of entries counts, and so do undefined entries;
a join that is not carried differs from `AND`. -/
def beq : Filter → Filter → Bool
  | group a, group b => a == b
  | sequence as, sequence bs => beqAll as bs
  | _, _ => false

/-- Equality of two lists of filters, element by element. -/
def beqAll : List Filter → List Filter → Bool
  | [], [] => true
  | a :: as, b :: bs => beq a b && beqAll as bs
  | _, _ => false

end

instance : BEq Filter := ⟨beq⟩

end Filter

end FilterQuery
