import FilterQuery.Filter.Clause
import FilterQuery.Selection.Basic

/-!
# Statements

A `SELECT` statement is a row of parts with single spaces between them: the columns, the table, the
`WHERE` clause, the ordering and the page.  A part without text is left out together with its
space.  Only the `WHERE` clause has bind values.
-/

namespace FilterQuery

namespace Selection

/-- The `ORDER BY` parts.  An ordering without text is left out. -/
def orderParts (selection : Selection) : List String :=
  let order := ", ".intercalate
    (selection.ordering.map fun (column, direction) => column ++ " " ++ direction.sql)
  if order.isEmpty then [] else ["ORDER BY", order]

/-- The `LIMIT` and `OFFSET` parts.  An offset needs a limit. -/
def pageParts (selection : Selection) : List String :=
  match selection.limit? with
  | none => []
  | some limit =>
    ("LIMIT " ++ toString limit.toNat) ::
      (selection.offset?.map fun offset => "OFFSET " ++ toString offset.toNat).toList

/-- All parts of the statement on `table` whose `WHERE` clause is `clause`, empty ones included. -/
def parts (selection : Selection) (table clause : String) : List String :=
  ["SELECT", ", ".intercalate selection.columns, "FROM", table, clause]
    ++ selection.orderParts ++ selection.pageParts

/-- The text of the statement on `table` whose `WHERE` clause is `clause`. -/
def statementText (selection : Selection) (table clause : String) : String :=
  " ".intercalate ((selection.parts table clause).filter fun part => !part.isEmpty)

/-- Builds the `SELECT` statement on `table`. -/
def select (selection : Selection) (table : String) : Logged Fragment := do
  let clause ← selection.filter.whereClause
  Logged.emit (.statement table clause.params.length)
  return ⟨selection.statementText table clause.sql, clause.params⟩

theorem value_select (selection : Selection) (table : String) :
    (selection.select table).value =
      ⟨selection.statementText table selection.filter.whereClause.value.sql,
        selection.filter.whereClause.value.params⟩ := rfl

end Selection

/-- The statement that fetches one row of `table` by its `id`, which the caller binds. -/
def fetchRow (table : String) : String :=
  "SELECT * FROM " ++ table ++ " WHERE id = ? LIMIT 1;"

end FilterQuery
