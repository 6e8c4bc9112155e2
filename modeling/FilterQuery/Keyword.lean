/-!
# Keywords

The three closed vocabularies of a description: comparison operators, the words that join
comparisons, and the directions of an ordering.  Each keyword has the text that stands in SQL, and
an operator also has the name under which descriptions mention it.  Names are case-sensitive.
-/

namespace FilterQuery

/-! ## Comparison operators -/

/-- The comparisons that a condition may ask for. -/
inductive Operator where
  | equals
  | notEquals
  | lt
  | lte
  | gt
  | gte
  | contains
  | isIn
  | notIn
  deriving DecidableEq

namespace Operator

/-- Every operator, in the order in which they are listed to the user. -/
def all : List Operator :=
  [equals, notEquals, lt, lte, gt, gte, contains, isIn, notIn]

/-- The name of an operator in a description. -/
def name : Operator → String
  | equals => "equals"
  | notEquals => "notEquals"
  | lt => "lt"
  | lte => "lte"
  | gt => "gt"
  | gte => "gte"
  | contains => "contains"
  | isIn => "in"
  | notIn => "notIn"

/-- The comparison as SQL writes it. -/
def sql : Operator → String
  | equals => "="
  | notEquals => "<>"
  | lt => "<"
  | lte => "<="
  | gt => ">"
  | gte => ">="
  | contains => "LIKE"
  | isIn => "IN"
  | notIn => "NOT IN"

/-- Membership tests compare with each element of a list; all others take a list as one value. -/
def spreadsLists : Operator → Bool
  | isIn | notIn => true
  | _ => false

/-- The operator of that name, if there is one. -/
def ofName? (name : String) : Option Operator :=
  all.find? fun op => op.name == name

/-- The place of an operator in `all`, counted from zero. -/
def index (op : Operator) : Nat :=
  all.idxOf op

theorem ofName?_name (op : Operator) : ofName? op.name = some op := by
  cases op <;> decide

theorem sql_inj {op op' : Operator} (h : op.sql = op'.sql) : op = op' := by
  have hfind : ∀ op : Operator, all.find? (fun other => other.sql == op.sql) = some op := by
    intro op
    cases op <;> decide
  have hop := hfind op
  rw [h, hfind] at hop
  exact (Option.some.inj hop).symm

end Operator

/-! ## Joins -/

/-- The word between two comparisons. -/
inductive Join where
  | and
  | or
  deriving DecidableEq

namespace Join

/-- A join that nothing asks for is `AND`. -/
instance : Inhabited Join := ⟨and⟩

/-- The join as SQL, and also a description, writes it. -/
def sql : Join → String
  | and => "AND"
  | or => "OR"

/-- The join written as `word`, if there is one. -/
def ofWord? (word : String) : Option Join :=
  [and, or].find? fun join => join.sql == word

theorem ofWord?_sql (join : Join) : ofWord? join.sql = some join := by
  cases join <;> decide

theorem sql_inj {join join' : Join} (h : join.sql = join'.sql) : join = join' := by
  have hword := ofWord?_sql join
  rw [h, ofWord?_sql] at hword
  exact (Option.some.inj hword).symm

end Join

/-! ## Directions -/

/-- The direction of one column of an ordering. -/
inductive Direction where
  | asc
  | desc
  deriving DecidableEq

namespace Direction

/-- The direction as SQL, and also a description, writes it. -/
def sql : Direction → String
  | asc => "ASC"
  | desc => "DESC"

/-- The direction written as `word`, if there is one. -/
def ofWord? (word : String) : Option Direction :=
  [asc, desc].find? fun direction => direction.sql == word

theorem ofWord?_sql (direction : Direction) : ofWord? direction.sql = some direction := by
  cases direction <;> decide

theorem sql_inj {direction direction' : Direction} (h : direction.sql = direction'.sql) :
    direction = direction' := by
  have hword := ofWord?_sql direction
  rw [h, ofWord?_sql] at hword
  exact (Option.some.inj hword).symm

end Direction

end FilterQuery
