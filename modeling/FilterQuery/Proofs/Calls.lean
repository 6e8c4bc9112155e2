import Mathlib.Data.List.Induction
import FilterQuery.Proofs.Compilation
import FilterQuery.Proofs.Spelling
import FilterQuery.Proofs.Success
import FilterQuery.Refusal
import FilterQuery.Selection.Basic

/-!
# Documents as calls

A document is also an instruction to build: each member of an object is one change, made in the
order of the document, a repeated key as often as it is written.

* `Conditions.BuiltFrom`, `Group.BuiltFrom` and `Selection.BuiltFromMembers` add one member at the
  end of a document and make one more change to what was built.
* `Filter.BuiltFrom` and `Selection.BuiltFrom` say what a whole document builds.
* `Draft.ValidFilter` and `Draft.ValidSelection` ask of every member, overwritten ones included, to
  be valid for its place.  Such documents build something, and no others do
  (`Filter.exists_builtFrom_iff`, `Selection.exists_builtFrom_iff`).
-/

namespace FilterQuery

/-! ## Documents -/

namespace Draft

/-- Arrays and objects are nested at most so deep. -/
inductive NestedWithin : Nat → Draft → Prop
  | null {depth : Nat} : NestedWithin depth .null
  | bool {depth : Nat} (b : Bool) : NestedWithin depth (.bool b)
  | numeral {depth : Nat} (literal : Literal) : NestedWithin depth (.numeral literal)
  | string {depth : Nat} (s : String) : NestedWithin depth (.string s)
  | array {depth : Nat} {items : List Draft} (h : ∀ item ∈ items, NestedWithin depth item) :
      NestedWithin (depth + 1) (.array items)
  | object {depth : Nat} {members : List (String × Draft)}
      (h : ∀ member ∈ members, NestedWithin depth member.2) :
      NestedWithin (depth + 1) (.object members)

attribute [simp] NestedWithin.null NestedWithin.bool NestedWithin.numeral NestedWithin.string

@[simp] lemma nestedWithin_array_iff {depth : Nat} {items : List Draft} :
    NestedWithin (depth + 1) (.array items) ↔ ∀ item ∈ items, item.NestedWithin depth :=
  ⟨by rintro ⟨⟩; assumption, .array⟩

@[simp] lemma nestedWithin_object_iff {depth : Nat} {members : List (String × Draft)} :
    NestedWithin (depth + 1) (.object members) ↔ ∀ member ∈ members, member.2.NestedWithin depth :=
  ⟨by rintro ⟨⟩; assumption, .object⟩

/-- The bind value that a draft writes.  An object writes none. -/
inductive Binds : Draft → Value → Prop
  | null : Binds .null .null
  | bool (b : Bool) : Binds (.bool b) (.bool b)
  | integer {literal : Literal} {n : Int64} (h : literal.number? = some (.integer n.toInt)) :
      Binds (.numeral literal) (.int n)
  | decimal {literal : Literal} {x : Float} {finite : x.isFinite = true}
      (h : literal.number? = some (.decimal x finite)) : Binds (.numeral literal) (.float x)
  | string (s : String) : Binds (.string s) (.text s)
  | array {items : List Draft} {values : List Value} (h : List.Forall₂ Binds items values) :
      Binds (.array items) (.list values)

/-- The count that a draft writes, or `null` for none. -/
inductive Counts : Draft → Option UInt64 → Prop
  | unset : Counts .null none
  | count {literal : Literal} {n : UInt64} (h : literal.number? = some (.integer n.toNat)) :
      Counts (.numeral literal) (some n)

end Draft

/-! ## Calls in the order of a document -/

/-- The conditions that are built by setting the operators that are mentioned, and the join. -/
inductive Conditions.BuiltFrom : List (String × Draft) → Conditions → Prop
  | start : BuiltFrom [] .empty
  | comparison {members : List (String × Draft)} {conditions : Conditions}
      (h : BuiltFrom members conditions) (op : Operator) {d : Draft} {value : Value}
      (hvalue : d.Binds value) :
      BuiltFrom (members ++ [(op.name, d)]) (conditions.set op (some value))
  | join {members : List (String × Draft)} {conditions : Conditions}
      (h : BuiltFrom members conditions) (join : Join) :
      BuiltFrom (members ++ [(joinKey, .string join.sql)]) (conditions.joinedBy join)

/-- The group that is built by putting conditions on the fields that are mentioned. -/
inductive Group.BuiltFrom : List (String × Draft) → Group → Prop
  | start : BuiltFrom [] .empty
  | field {members entries : List (String × Draft)} {group : Group} {conditions : Conditions}
      (h : BuiltFrom members group) (name : String) (hentries : conditions.BuiltFrom entries) :
      BuiltFrom (members ++ [(name, .object entries)]) (group.field name conditions)

/-- The filter that a document builds. -/
inductive Filter.BuiltFrom : Draft → Filter → Prop
  | null : BuiltFrom .null .empty
  | sequence {items : List Draft} {children : List Filter}
      (h : List.Forall₂ BuiltFrom items children) : BuiltFrom (.array items) (.sequence children)
  | group {members : List (String × Draft)} {fields : Group} (h : Group.BuiltFrom members fields) :
      BuiltFrom (.object members) (.group fields)

/-- The selection that is built by the changes that are mentioned.  The member `order` starts an
empty ordering and adds the columns one by one. -/
inductive Selection.BuiltFromMembers : List (String × Draft) → Selection → Prop
  | start : BuiltFromMembers [] .standard
  | columns {members : List (String × Draft)} {selection : Selection}
      (h : BuiltFromMembers members selection) (names : List String) :
      BuiltFromMembers (members ++ [("columns", .array (names.map .string))])
        (selection.apply (.columns names))
  | filter {members : List (String × Draft)} {selection : Selection}
      (h : BuiltFromMembers members selection) {d : Draft} {filter : Filter}
      (hfilter : filter.BuiltFrom d) :
      BuiltFromMembers (members ++ [("where", d)]) (selection.apply (.filter filter))
  | order {members : List (String × Draft)} {selection : Selection}
      (h : BuiltFromMembers members selection) (columns : List (String × Direction)) :
      BuiltFromMembers
        (members ++ [("order", .object (columns.map fun (column, direction) =>
          (column, .string direction.sql)))])
        (columns.foldl (fun selection (column, direction) =>
          selection.apply (.orderBy column direction)) (selection.apply (.order [])))
  | page {members : List (String × Draft)} {selection : Selection}
      (h : BuiltFromMembers members selection) {d : Draft} {page? : Option UInt64}
      (hpage : d.Counts page?) :
      BuiltFromMembers (members ++ [("page", d)]) (selection.apply (.page page?))
  | limit {members : List (String × Draft)} {selection : Selection}
      (h : BuiltFromMembers members selection) {d : Draft} {limit? : Option UInt64}
      (hlimit : d.Counts limit?) :
      BuiltFromMembers (members ++ [("limit", d)]) (selection.apply (.limit limit?))

/-- The selection that a document builds. -/
inductive Selection.BuiltFrom : Draft → Selection → Prop
  | null : BuiltFrom .null .standard
  | object {members : List (String × Draft)} {selection : Selection}
      (h : BuiltFromMembers members selection) : BuiltFrom (.object members) selection

/-! ## Valid documents -/

namespace Draft

/-- A member of the conditions of a field: a join, or a value for an operator. -/
inductive ValidCondition : String × Draft → Prop
  | comparison (op : Operator) {d : Draft} (h : ∃ value, d.Binds value) :
      ValidCondition (op.name, d)
  | join (join : Join) : ValidCondition (joinKey, .string join.sql)

/-- A member of a group: a field and an object of conditions. -/
def ValidField (member : String × Draft) : Prop :=
  ∃ entries, member.2 = .object entries ∧ ∀ entry ∈ entries, ValidCondition entry

/-- A document that describes a filter. -/
inductive ValidFilter : Draft → Prop
  | null : ValidFilter .null
  | array {items : List Draft} (h : ∀ item ∈ items, ValidFilter item) : ValidFilter (.array items)
  | object {members : List (String × Draft)} (h : ∀ member ∈ members, ValidField member) :
      ValidFilter (.object members)

/-- A member of a selection. -/
inductive ValidSetting : String × Draft → Prop
  | columns (names : List String) : ValidSetting ("columns", .array (names.map .string))
  | filter {d : Draft} (h : d.ValidFilter) : ValidSetting ("where", d)
  | order (columns : List (String × Direction)) :
      ValidSetting ("order", .object (columns.map fun (column, direction) =>
        (column, .string direction.sql)))
  | page {d : Draft} (h : ∃ page?, d.Counts page?) : ValidSetting ("page", d)
  | limit {d : Draft} (h : ∃ limit?, d.Counts limit?) : ValidSetting ("limit", d)

/-- A document that describes a selection. -/
inductive ValidSelection : Draft → Prop
  | null : ValidSelection .null
  | object {members : List (String × Draft)} (h : ∀ member ∈ members, ValidSetting member) :
      ValidSelection (.object members)

end Draft

/-- Something is built from a list if each element can be added at the end. -/
lemma exists_built_of_step {α σ : Type} {Built : List α → σ → Prop} {Valid : α → Prop} {start : σ}
    (hstart : Built [] start)
    (hstep : ∀ {xs s x}, Built xs s → Valid x → ∃ t, Built (xs ++ [x]) t) (xs : List α)
    (h : ∀ x ∈ xs, Valid x) : ∃ s, Built xs s := by
  induction xs using List.reverseRecOn with
  | nil => exact ⟨start, hstart⟩
  | append_singleton xs x ih =>
      rw [List.forall_mem_append, List.forall_mem_singleton] at h
      obtain ⟨s, hs⟩ := ih h.1
      exact hstep hs h.2

section Valid

variable {members : List (String × Draft)}

lemma Conditions.exists_builtFrom (h : ∀ member ∈ members, Draft.ValidCondition member) :
    ∃ conditions, BuiltFrom members conditions := by
  refine exists_built_of_step .start ?_ members h
  rintro members conditions _ hbuilt (⟨op, value, hvalue⟩ | ⟨join⟩)
  · exact ⟨_, hbuilt.comparison op hvalue⟩
  · exact ⟨_, hbuilt.join join⟩

lemma Conditions.BuiltFrom.valid {conditions : Conditions} (h : BuiltFrom members conditions) :
    ∀ member ∈ members, Draft.ValidCondition member := by
  induction h with
  | start => simp
  | comparison _ op hvalue ih =>
      exact List.forall_mem_append.mpr
        ⟨ih, List.forall_mem_singleton.mpr (.comparison op ⟨_, hvalue⟩)⟩
  | join _ join ih =>
      exact List.forall_mem_append.mpr ⟨ih, List.forall_mem_singleton.mpr (.join join)⟩

lemma Group.exists_builtFrom (h : ∀ member ∈ members, Draft.ValidField member) :
    ∃ group, BuiltFrom members group := by
  refine exists_built_of_step .start ?_ members h
  rintro members group ⟨name, _⟩ hbuilt ⟨entries, rfl, hentries⟩
  obtain ⟨conditions, hconditions⟩ := Conditions.exists_builtFrom hentries
  exact ⟨_, hbuilt.field name hconditions⟩

lemma Group.BuiltFrom.valid {group : Group} (h : BuiltFrom members group) :
    ∀ member ∈ members, Draft.ValidField member := by
  induction h with
  | start => simp
  | field _ _ hentries ih =>
      exact List.forall_mem_append.mpr
        ⟨ih, List.forall_mem_singleton.mpr ⟨_, rfl, hentries.valid⟩⟩

/-- The documents that describe filters are those that build one. -/
lemma Filter.exists_builtFrom_iff {d : Draft} :
    (∃ filter, BuiltFrom d filter) ↔ d.ValidFilter := by
  constructor
  · rintro ⟨filter, h⟩
    induction filter generalizing d with
    | group fields =>
        cases h with
        | null => exact .null
        | group hfields => exact .object hfields.valid
    | sequence children ih =>
        cases h with
        | sequence hitems =>
            refine .array fun item hitem => ?_
            obtain ⟨child, hmem, hchild⟩ := exists_mem_of_forall₂ hitems hitem
            exact ih child hmem hchild
  · intro h
    induction h with
    | null => exact ⟨_, .null⟩
    | array _ ih =>
        obtain ⟨children, hchildren⟩ := exists_forall₂_iff.mpr ih
        exact ⟨_, .sequence hchildren⟩
    | object hmembers =>
        obtain ⟨group, hgroup⟩ := Group.exists_builtFrom hmembers
        exact ⟨_, .group hgroup⟩

namespace Selection

lemma exists_builtFromMembers (h : ∀ member ∈ members, Draft.ValidSetting member) :
    ∃ selection, BuiltFromMembers members selection := by
  refine exists_built_of_step .start ?_ members h
  intro members selection _ hbuilt hmember
  cases hmember with
  | columns names => exact ⟨_, hbuilt.columns names⟩
  | filter hfilter =>
      obtain ⟨filter, hfilter⟩ := Filter.exists_builtFrom_iff.mpr hfilter
      exact ⟨_, hbuilt.filter hfilter⟩
  | order columns => exact ⟨_, hbuilt.order columns⟩
  | page hpage =>
      obtain ⟨page?, hpage⟩ := hpage
      exact ⟨_, hbuilt.page hpage⟩
  | limit hlimit =>
      obtain ⟨limit?, hlimit⟩ := hlimit
      exact ⟨_, hbuilt.limit hlimit⟩

lemma BuiltFromMembers.valid {selection : Selection} (h : BuiltFromMembers members selection) :
    ∀ member ∈ members, Draft.ValidSetting member := by
  induction h with
  | start => simp
  | columns _ names ih =>
      exact List.forall_mem_append.mpr ⟨ih, List.forall_mem_singleton.mpr (.columns names)⟩
  | filter _ hfilter ih =>
      exact List.forall_mem_append.mpr ⟨ih, List.forall_mem_singleton.mpr
        (.filter (Filter.exists_builtFrom_iff.mp ⟨_, hfilter⟩))⟩
  | order _ columns ih =>
      exact List.forall_mem_append.mpr ⟨ih, List.forall_mem_singleton.mpr (.order columns)⟩
  | page _ hpage ih =>
      exact List.forall_mem_append.mpr ⟨ih, List.forall_mem_singleton.mpr (.page ⟨_, hpage⟩)⟩
  | limit _ hlimit ih =>
      exact List.forall_mem_append.mpr ⟨ih, List.forall_mem_singleton.mpr (.limit ⟨_, hlimit⟩)⟩

/-- The documents that describe selections are those that build one. -/
lemma exists_builtFrom_iff {d : Draft} :
    (∃ selection, BuiltFrom d selection) ↔ d.ValidSelection := by
  constructor
  · rintro ⟨selection, h⟩
    cases h with
    | null => exact .null
    | object hmembers => exact .object hmembers.valid
  · intro h
    cases h with
    | null => exact ⟨_, .null⟩
    | object hmembers =>
        obtain ⟨selection, hselection⟩ := exists_builtFromMembers hmembers
        exact ⟨_, .object hselection⟩

end Selection

end Valid

end FilterQuery
