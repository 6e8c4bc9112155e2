import FilterQuery.Fragment

/-!
# Comparisons

A comparison `field op value` is the smallest thing that a filter says.  It becomes the field, the
operator and a placeholder.  Where a membership test meets a list, each element gets a placeholder
of its own, in parentheses, and is bound on its own; everywhere else there is one placeholder and
the value is bound whole, lists included.
-/

namespace FilterQuery

namespace Operator

/-- The elements into which a value is spread under an operator: those of a list under a membership
test, and none for any other pair. -/
def spread? (op : Operator) (value : Value) : Option (List Value) :=
  if op.spreadsLists then value.items? else none

theorem spread?_eq_some_iff {op : Operator} {value : Value} {items : List Value} :
    op.spread? value = some items ↔ op.spreadsLists = true ∧ value = .list items := by
  rw [spread?, Option.ite_none_right_eq_some, Value.items?_eq_some_iff]

/-- The placeholders of a value under an operator.  An empty list under a membership test gives
`()`. -/
def marks (op : Operator) (value : Value) : String :=
  match op.spread? value with
  | some items => "(" ++ ", ".intercalate (items.map fun _ => placeholder) ++ ")"
  | none => placeholder

/-- The values that fill `marks`, in order. -/
def binds (op : Operator) (value : Value) : List Value :=
  (op.spread? value).getD [value]

end Operator

/-- One comparison of a field with a value. -/
structure Comparison where
  field : String
  operator : Operator
  value : Value

/-- The comparison as SQL.  The name of the field is written as it is given. -/
def Comparison.fragment (comparison : Comparison) : Fragment where
  sql := comparison.field ++ " " ++ comparison.operator.sql ++ " "
    ++ comparison.operator.marks comparison.value
  params := comparison.operator.binds comparison.value

end FilterQuery
