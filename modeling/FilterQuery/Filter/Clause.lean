import FilterQuery.Filter.Basic
import FilterQuery.Trace

/-!
# From filters to `WHERE` clauses

A filter compiles to flat text: the comparisons of the tree, one after the other, with a joining
word between neighbours and no parentheses.  Parts that compile to nothing leave no trace in the
text; they do count for the joins.

* The comparisons of one field are joined by `AND`.
* The fields of a group are joined by the join of the group.
* The children of a sequence are joined by the join that the last child reports, whether or not
  that child compiles to anything; a sequence reports the join it uses, and `AND` if it is empty.
-/

namespace FilterQuery

/-- Compiles the conditions of one field, and reports them. -/
def Conditions.compile (field : String) (conditions : Conditions) : Logged Fragment := do
  let fragment := Fragment.join .and ((conditions.comparisons field).map Comparison.fragment)
  Logged.emit (.field field fragment.sql)
  return fragment

/-- Compiles the fields of a group, from the first to the last. -/
def Group.compile (group : Group) : Logged Fragment := do
  let fragments ← group.fields.mapM fun (name, conditions) => conditions.compile name
  return Fragment.join group.join fragments

/-- A compiled filter: its fragment and the join it reports. -/
structure Compiled where
  fragment : Fragment
  join : Join

/-- The join that the last of some compiled filters reports, `AND` if there are none. -/
def Compiled.lastJoin (compiled : List Compiled) : Join :=
  (compiled.getLast?.map Compiled.join).getD default

namespace Filter

mutual

/-- Compiles a filter, depth first and in order. -/
def compile : Filter → Logged Compiled
  | group fields => do
    let fragment ← fields.compile
    return ⟨fragment, fields.join⟩
  | sequence children => do
    let compiled ← compileAll children
    let join := Compiled.lastJoin compiled
    return ⟨Fragment.join join (compiled.map Compiled.fragment), join⟩

/-- Compiles the filters of a sequence, from the first to the last. -/
def compileAll : List Filter → Logged (List Compiled)
  | [] => return []
  | child :: rest => do
    let first ← child.compile
    let others ← compileAll rest
    return first :: others

end

/-- The `WHERE` clause of a filter, without text if the filter says nothing. -/
def whereClause (filter : Filter) : Logged Fragment := do
  let compiled ← filter.compile
  Logged.emit (.clause compiled.fragment.markCount compiled.join)
  return compiled.fragment.prefixed "WHERE"

end Filter

end FilterQuery
