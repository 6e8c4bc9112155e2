import FilterQuery.Filter.Basic

/-!
# Selections

A selection is what a `SELECT` statement is to contain: columns, a filter, an ordering and a page.

The ordering is `none` until one is chosen; until then the statement is ordered by `id DESC`.  The
first column that is added to the ordering replaces that default, and a chosen ordering stays
chosen, even if it is empty or equal to the default.

`Setting` lists the changes that can be made to a selection, as data, and `Selection.apply` makes
one.
-/

namespace FilterQuery

/-- What a `SELECT` statement is to contain. -/
structure Selection where
  columns : List String
  filter : Filter
  /-- The ordering chosen, if any was. -/
  order? : Option (Entries String Direction)
  /-- The page, counted from 1.  It matters only together with a limit. -/
  page? : Option UInt64
  /-- The number of rows on a page. -/
  limit? : Option UInt64
  deriving BEq

namespace Selection

/-- All columns, no filter, no ordering chosen, no page. -/
def standard : Selection where
  columns := ["*"]
  filter := .empty
  order? := none
  page? := none
  limit? := none

instance : Inhabited Selection := ⟨standard⟩

/-- The ordering used while none is chosen. -/
def standardOrder : Entries String Direction :=
  [("id", .desc)]

/-- The ordering of the statement. -/
def ordering (selection : Selection) : Entries String Direction :=
  selection.order?.getD standardOrder

/-- The number of rows before the page.  There is none unless both the page and the limit are set,
and none either if the number does not fit 64 bits.  Page 0 counts as page 1. -/
def offset? (selection : Selection) : Option UInt64 :=
  match selection.limit?, selection.page? with
  | some limit, some page =>
    let rows := limit.toNat * (page.toNat - 1)
    if rows < UInt64.size then some (UInt64.ofNat rows) else none
  | _, _ => none

/-! ## Changes -/

/-- A change to a selection. -/
inductive Setting where
  | columns (names : List String)
  | filter (filter : Filter)
  /-- Chooses an ordering.  Columns may occur in it more than once. -/
  | order (order : Entries String Direction)
  /-- Adds a column to the chosen ordering, or gives its first occurrence another direction. -/
  | orderBy (column : String) (direction : Direction)
  | page (page? : Option UInt64)
  | limit (limit? : Option UInt64)

/-- Makes a change. -/
def apply (selection : Selection) : Setting → Selection
  | .columns names => { selection with columns := names }
  | .filter filter => { selection with filter }
  | .order order => { selection with order? := some order }
  | .orderBy column direction =>
    { selection with
      order? := some (Entries.put column direction (selection.order?.getD [])) }
  | .page page? => { selection with page? }
  | .limit limit? => { selection with limit? }

end Selection

end FilterQuery
