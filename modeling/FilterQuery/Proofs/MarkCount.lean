import Mathlib.Algebra.BigOperators.Group.List.Basic
import Mathlib.Data.Nat.Cast.Basic
import FilterQuery.Proofs.Statement

/-!
# Counting question marks

Every bind value has a placeholder, so a statement has at least as many question marks as bind
values.  It has more exactly if a name has some: names are written as they are given, the name of a
field once for each comparison that is made with it.  `Selection.markCount_select` gives the exact
excess, and says when there is none.

Counting is additive along every step of the assembly (`questionMarks_append`,
`questionMarks_intercalate`), and parts that are left out have no question marks.
-/

namespace FilterQuery

/-! ## Question marks of texts -/

/-- The number of question marks in a text. -/
def questionMarks (text : String) : Nat :=
  text.toList.count '?'

lemma Fragment.markCount_eq (fragment : Fragment) :
    fragment.markCount = questionMarks fragment.sql := rfl

@[simp] lemma questionMarks_append (a b : String) :
    questionMarks (a ++ b) = questionMarks a + questionMarks b := by
  simp [questionMarks]

lemma questionMarks_eq_zero_iff {text : String} : questionMarks text = 0 ↔ '?' ∉ text.toList :=
  List.count_eq_zero

/-- Parts without text may be left out. -/
lemma sum_questionMarks_filter (texts : List String) :
    ((texts.filter fun text => !text.isEmpty).map questionMarks).sum =
      (texts.map questionMarks).sum := by
  induction texts with
  | nil => rfl
  | cons text texts ih =>
      by_cases h : text = ""
      · simp [h, ih, questionMarks]
      · simp [h, ih]

lemma questionMarks_intercalate {sep : String} (hsep : '?' ∉ sep.toList) (texts : List String) :
    questionMarks (sep.intercalate texts) = (texts.map questionMarks).sum := by
  induction texts with
  | nil => rfl
  | cons text texts ih =>
      cases texts with
      | nil => simp
      | cons next rest =>
          have hnone := questionMarks_eq_zero_iff.mpr hsep
          simp only [String.intercalate_cons_cons, questionMarks_append, hnone, Nat.add_zero, ih,
            List.map_cons, List.sum_cons]

lemma Join.questionMarks_interpose (word : Join) (texts : List String) :
    questionMarks (word.interpose texts) = (texts.map questionMarks).sum := by
  have hsep : '?' ∉ (" " ++ word.sql ++ " ").toList := by
    cases word <;> decide
  rw [interpose, questionMarks_intercalate hsep, sum_questionMarks_filter]

/-! ## Question marks of comparisons -/

/-- A comparison has one question mark for each value that it binds, and those of its field. -/
lemma Comparison.questionMarks_sql (c : Comparison) :
    questionMarks c.fragment.sql = c.fragment.params.length + questionMarks c.field := by
  have hop : questionMarks c.operator.sql = 0 := by
    cases c.operator <;> decide
  have hmarks : questionMarks (c.operator.marks c.value) = (c.operator.binds c.value).length := by
    rw [Operator.marks, Operator.binds]
    cases c.operator.spread? c.value with
    | none => rfl
    | some items =>
        have hitem : questionMarks placeholder = 1 := rfl
        have hparens : questionMarks "(" = 0 ∧ questionMarks ")" = 0 := by decide
        simp [questionMarks_intercalate, hitem, hparens]
  have hspace : questionMarks " " = 0 := rfl
  simp only [fragment, questionMarks_append, hop, hmarks, hspace]
  omega

lemma Outline.questionMarks_text (write : Comparison → String) (outline : Outline) :
    questionMarks (outline.text write) =
      (outline.comparisons.map fun c => questionMarks (write c)).sum := by
  induction outline with
  | leaf comparison => simp [text]
  | node word parts ih =>
      rw [text, Join.questionMarks_interpose, comparisons_node, List.map_flatMap, List.flatMap,
        List.sum_flatten, List.map_map, List.map_map]
      exact congrArg List.sum (List.map_congr_left ih)

/-! ## Question marks of clauses -/

namespace Filter

/-- The fields of the tree with their conditions, depth first and in order. -/
def fields : Filter → List (String × Conditions)
  | group g => g.fields
  | sequence children => children.flatMap fields

lemma comparisons_eq_flatMap_fields (filter : Filter) :
    filter.comparisons =
      filter.fields.flatMap fun (name, conditions) => conditions.comparisons name := by
  induction filter with
  | group g => rw [comparisons, fields, Group.comparisons]
  | sequence children ih =>
      rw [comparisons, fields, List.flatMap_assoc]
      exact congrArg List.flatten (List.map_congr_left ih)

/-- The question marks of field names, counted once for each comparison. -/
def marksInFields (filter : Filter) : Nat :=
  (filter.comparisons.map fun c => questionMarks c.field).sum

/-- Only names of fields with a defined comparison count. -/
lemma marksInFields_eq_zero_iff (filter : Filter) :
    filter.marksInFields = 0 ↔
      ∀ field ∈ filter.fields, '?' ∈ field.1.toList → field.2.isEmpty = true := by
  have hfield : ∀ field : String × Conditions,
      (∀ c ∈ field.2.comparisons field.1, '?' ∉ c.field.toList) ↔
        ('?' ∈ field.1.toList → field.2.isEmpty = true) := by
    rintro ⟨name, conditions⟩
    rw [Conditions.isEmpty, Conditions.comparisons, List.forall_mem_map]
    rcases conditions.defined with _ | ⟨entry, rest⟩
    · simp
    · simpa using fun h _ _ _ => h
  rw [marksInFields, List.sum_eq_zero_iff_forall_eq_nat, comparisons_eq_flatMap_fields]
  simp only [List.forall_mem_map, questionMarks_eq_zero_iff, List.mem_flatMap,
    forall_exists_index, and_imp]
  constructor
  · exact fun h field hmem => (hfield field).mp fun c hc => h c field hmem hc
  · exact fun h c field hmem hc => (hfield field).mpr (h field hmem) c hc

/-- A clause has a question mark for each bind value, and those of field names. -/
lemma markCount_whereClause (filter : Filter) :
    filter.whereClause.value.markCount =
      filter.whereClause.value.params.length + filter.marksInFields := by
  have htext : questionMarks filter.outline.fragment.sql =
      filter.outline.fragment.params.length + filter.marksInFields := by
    rw [Outline.fragment, Outline.questionMarks_text, comparisons_outline, List.length_flatMap,
      marksInFields, ← List.sum_map_add]
    exact congrArg List.sum (List.map_congr_left fun c _ => c.questionMarks_sql)
  rw [value_whereClause, Fragment.markCount_eq]
  by_cases hnone : filter.comparisons = []
  · simp [hnone, marksInFields, Outline.fragment, questionMarks]
  · have hword : questionMarks "WHERE " = 0 := by decide
    simp [hnone, htext, hword]

end Filter

/-! ## Question marks of statements -/

namespace Selection

/-- The question marks of names in the statement on `table`. -/
def marksInNames (selection : Selection) (table : String) : Nat :=
  questionMarks table + (selection.columns.map questionMarks).sum +
    (selection.ordering.map fun entry => questionMarks entry.1).sum +
    selection.filter.marksInFields

lemma sum_questionMarks_orderParts (selection : Selection) :
    (selection.orderParts.map questionMarks).sum =
      (selection.ordering.map fun entry => questionMarks entry.1).sum := by
  have hentry : ∀ entry : String × Direction,
      questionMarks (orderText entry) = questionMarks entry.1 := by
    rintro ⟨column, direction⟩
    have hword : questionMarks (" " ++ direction.sql) = 0 := by
      cases direction <;> decide
    rw [orderText, String.append_assoc, questionMarks_append, hword, Nat.add_zero]
  have hkeyword : questionMarks "ORDER BY" = 0 := by decide
  rw [orderParts_eq]
  split
  · rename_i hnone
    simp [hnone]
  · simp [hkeyword, questionMarks_intercalate, Function.comp_def, hentry]

lemma sum_questionMarks_pageParts (selection : Selection) :
    (selection.pageParts.map questionMarks).sum = 0 := by
  have hnumber : ∀ n : Nat, questionMarks (toString n) = 0 := fun n =>
    questionMarks_eq_zero_iff.mpr (notMem_toString (by decide) n)
  have hlimit : questionMarks "LIMIT " = 0 := by decide
  have hoffset : questionMarks "OFFSET " = 0 := by decide
  rw [pageParts]
  split
  · rfl
  · cases selection.offset? <;>
      simp only [Option.map_none, Option.map_some, Option.toList_none, Option.toList_some,
        List.map_cons, List.map_nil, List.sum_cons, List.sum_nil, questionMarks_append, hnumber,
        hlimit, hoffset, Nat.add_zero]

/-- **Placeholders and bind values are counted alike.**  The question marks of a statement are its
placeholders, one for each bind value, and those of names: of the table, of the columns, of the
ordering, and of the field of each comparison that is made.  So there are as many question marks as
bind values exactly if none of these names has any; names of fields without a defined comparison do
not matter.  The same holds of the `WHERE` clause with the names of fields alone. -/
theorem markCount_select (selection : Selection) (table : String) :
    (selection.select table).value.markCount =
      (selection.select table).value.params.length + selection.marksInNames table ∧
    selection.filter.whereClause.value.markCount =
      selection.filter.whereClause.value.params.length + selection.filter.marksInFields ∧
    ((selection.select table).value.markCount = (selection.select table).value.params.length ↔
      '?' ∉ table.toList ∧ (∀ column ∈ selection.columns, '?' ∉ column.toList) ∧
      (∀ entry ∈ selection.ordering, '?' ∉ entry.1.toList) ∧
      ∀ field ∈ selection.filter.fields, '?' ∈ field.1.toList → field.2.isEmpty = true) ∧
    (selection.filter.whereClause.value.markCount =
        selection.filter.whereClause.value.params.length ↔
      ∀ field ∈ selection.filter.fields, '?' ∈ field.1.toList → field.2.isEmpty = true) := by
  have hclause := selection.filter.markCount_whereClause
  have hstatement : (selection.select table).value.markCount =
      (selection.select table).value.params.length + selection.marksInNames table := by
    have hwords : questionMarks "SELECT" = 0 ∧ questionMarks "FROM" = 0 := by decide
    rw [Fragment.markCount_eq] at hclause
    rw [value_select, Fragment.markCount_eq, statementText,
      questionMarks_intercalate (by decide), sum_questionMarks_filter, parts]
    simp only [List.map_append, List.sum_append, List.map_cons, List.map_nil, List.sum_cons,
      List.sum_nil, hwords, sum_questionMarks_orderParts, sum_questionMarks_pageParts, hclause,
      questionMarks_intercalate (by decide : '?' ∉ ", ".toList), marksInNames]
    omega
  refine ⟨hstatement, hclause, ?_, ?_⟩
  · rw [hstatement, Nat.add_eq_left, marksInNames, ← Filter.marksInFields_eq_zero_iff]
    simp only [Nat.add_eq_zero_iff, List.sum_eq_zero_iff_forall_eq_nat, List.forall_mem_map,
      questionMarks_eq_zero_iff, and_assoc]
  · rw [hclause, Nat.add_eq_left, Filter.marksInFields_eq_zero_iff]

/-- Two values, two question marks of a field that is compared twice, none of a field that is not
compared at all. -/
example : (Filter.group ⟨[("a?", ⟨[(.gt, some .null), (.lt, some .null)], none⟩),
    ("b?", ⟨[(.lt, none)], some .or⟩)]⟩).whereClause.value.markCount = 4 := by
  decide +kernel

end Selection

end FilterQuery
