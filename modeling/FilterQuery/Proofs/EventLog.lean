import FilterQuery.Proofs.FlatForm
import FilterQuery.Proofs.MarkCount
import FilterQuery.Proofs.Simplification

/-!
# The log of a statement

Building a statement reports each field of the filter, then the clause, then the statement itself.
The reports of fields come in the order of the tree and leave none out, although the text has only
the fields that make a comparison (`Filter.events_compile`).

What the reports say fits together: the texts reported of the fields, as far as they are not empty,
are the pieces that the clause consists of (`Filter.isWoven_compile`), and the number of
placeholders reported for the clause is that of the fields together
(`Filter.questionMarks_compile`).
-/

namespace FilterQuery

/-! ## Texts woven from pieces -/

/-- The text consists of the pieces, with a joining word between any two neighbours. -/
def IsWoven (pieces : List String) (text : String) : Prop :=
  ∃ words : List Join, words.length = pieces.length - 1 ∧ text = flatText pieces words

namespace IsWoven

variable {pieces pieces' : List String} {text text' : String}

lemma nil : IsWoven [] "" :=
  ⟨[], rfl, rfl⟩

lemma singleton (text : String) : IsWoven [text] text :=
  ⟨[], rfl, by simp [flatText]⟩

lemma eq_empty_iff (h : IsWoven pieces text) (hne : ∀ piece ∈ pieces, piece ≠ "") :
    text = "" ↔ pieces = [] := by
  obtain ⟨words, -, rfl⟩ := h
  cases pieces with
  | nil => simp [flatText]
  | cons first others => simp [flatText, hne first]

/-- Two texts with a word between them are woven from the pieces of both. -/
lemma append (h : IsWoven pieces text) (h' : IsWoven pieces' text') (hpieces : pieces ≠ [])
    (hpieces' : pieces' ≠ []) (word : Join) :
    IsWoven (pieces ++ pieces') (text ++ " " ++ word.sql ++ " " ++ text') := by
  obtain ⟨first, others, rfl⟩ := List.exists_cons_of_ne_nil hpieces
  obtain ⟨next, others', rfl⟩ := List.exists_cons_of_ne_nil hpieces'
  obtain ⟨words, hlength, rfl⟩ := h
  obtain ⟨words', hlength', rfl⟩ := h'
  simp only [List.length_cons, Nat.add_sub_cancel] at hlength hlength'
  refine ⟨words ++ word :: words', ?_, ?_⟩
  · simp only [List.length_append, List.length_cons]
    omega
  · rw [List.cons_append, flatText, flatText, flatText, List.zip_append hlength, List.zip_cons_cons,
      List.map_append, String.join_append, List.map_cons, String.join_cons]
    simp only [String.append_assoc]

/-- Texts that are woven from their pieces make a text that is woven from the pieces of all. -/
lemma interpose {α : Type} (word : Join) {pieces : α → List String} {text : α → String}
    {xs : List α} (hxs : ∀ x ∈ xs, IsWoven (pieces x) (text x))
    (hne : ∀ x ∈ xs, ∀ piece ∈ pieces x, piece ≠ "") :
    IsWoven (xs.flatMap pieces) (word.interpose (xs.map text)) := by
  induction xs with
  | nil => exact .nil
  | cons x xs ih =>
      rw [List.forall_mem_cons] at hxs hne
      have hrest := ih hxs.2 hne.2
      have hempty := hxs.1.eq_empty_iff hne.1
      have hrests : ∀ piece ∈ xs.flatMap pieces, piece ≠ "" := by
        intro piece hpiece
        obtain ⟨y, hy, hmem⟩ := List.mem_flatMap.mp hpiece
        exact hne.2 y hy piece hmem
      have hempties := hrest.eq_empty_iff hrests
      rw [List.flatMap_cons, List.map_cons]
      by_cases hx : text x = ""
      · rw [hx, hempty.mp hx, Join.interpose_cons_empty]
        exact hrest
      · rw [Join.interpose_cons word hx]
        split
        · rename_i hnone
          rw [hempties.mp hnone, List.append_nil]
          exact hxs.1
        · rename_i hsome
          exact hxs.1.append hrest (mt hempty.mpr hx) (mt hempties.mpr hsome) word

end IsWoven

/-! ## Reports of fields -/

lemma Logged.events_mapM {α β : Type} (f : α → Logged β) (xs : List α) :
    (xs.mapM f).events = xs.flatMap fun x => (f x).events := by
  induction xs with
  | nil => rfl
  | cons x xs ih => simp [List.mapM_cons, ih]

namespace Filter

/-- The text that a field compiles to. -/
def fieldText (field : String × Conditions) : String :=
  (field.2.compile field.1).value.sql

/-- The report of a field: its name and its text. -/
def fieldEvent (field : String × Conditions) : Event :=
  .field field.1 (fieldText field)

/-- The texts of the fields that make a comparison. -/
def fieldTexts (filter : Filter) : List String :=
  (filter.fields.map fieldText).filter fun text => !text.isEmpty

lemma ne_empty_of_mem_filter {texts : List String} :
    ∀ text ∈ texts.filter fun text => !text.isEmpty, text ≠ "" := by
  intro text htext
  simpa using (List.mem_filter.mp htext).2

lemma events_compileAll (children : List Filter) :
    (compileAll children).events = children.flatMap fun child => child.compile.events := by
  induction children with
  | nil => rfl
  | cons child rest ih => simp [compileAll, ih]

/-- **Compiling a filter** reports each field once, depth first and in order. -/
theorem events_compile (filter : Filter) :
    filter.compile.events = filter.fields.map fieldEvent := by
  induction filter with
  | group g =>
      have hfield : ∀ field : String × Conditions,
          (field.2.compile field.1).events = [fieldEvent field] := fun _ => rfl
      rw [compile, fields]
      simp only [Logged.events_bind, Logged.events_pure, List.append_nil, Group.compile,
        Logged.events_mapM, hfield]
      exact List.map_eq_flatMap.symm
  | sequence children ih =>
      rw [compile, fields, List.map_flatMap]
      simp only [Logged.events_bind, Logged.events_pure, List.append_nil, events_compileAll]
      exact congrArg List.flatten (List.map_congr_left ih)

lemma sql_compile_group (g : Group) :
    (group g).compile.value.fragment.sql = g.join.interpose (g.fields.map fieldText) := by
  rw [value_compile_group, Fragment.sql_join, List.map_map]
  rfl

lemma sql_compile_sequence (children : List Filter) :
    (sequence children).compile.value.fragment.sql =
      (sequence children).compile.value.join.interpose
        (children.map fun child => child.compile.value.fragment.sql) := by
  rw [value_compile_sequence, Compiled.joined, Fragment.sql_join, List.map_map, List.map_map]
  rfl

/-- The text of a filter is woven from the texts of its fields. -/
lemma isWoven_compile (filter : Filter) :
    IsWoven filter.fieldTexts filter.compile.value.fragment.sql := by
  induction filter with
  | group g =>
      have htext : ∀ field : String × Conditions,
          IsWoven ([fieldText field].filter fun text => !text.isEmpty) (fieldText field) := by
        intro field
        by_cases h : fieldText field = ""
        · simpa [h] using IsWoven.nil
        · simpa [h] using IsWoven.singleton (fieldText field)
      rw [fieldTexts, fields, List.map_eq_flatMap, List.filter_flatMap, sql_compile_group]
      exact .interpose _ (fun field _ => htext field) fun _ _ => ne_empty_of_mem_filter
  | sequence children ih =>
      have hpieces : (sequence children).fieldTexts = children.flatMap fieldTexts := by
        rw [fieldTexts, fields, List.map_flatMap, List.filter_flatMap]
        rfl
      rw [hpieces, sql_compile_sequence]
      exact .interpose _ ih fun _ _ => ne_empty_of_mem_filter

lemma questionMarks_compile (filter : Filter) :
    questionMarks filter.compile.value.fragment.sql =
      (filter.fields.map fun field => questionMarks (fieldText field)).sum := by
  induction filter with
  | group g =>
      rw [sql_compile_group, Join.questionMarks_interpose, fields, List.map_map]
      rfl
  | sequence children ih =>
      rw [sql_compile_sequence, Join.questionMarks_interpose, fields, List.map_flatMap,
        List.flatMap, List.sum_flatten, List.map_map, List.map_map]
      exact congrArg List.sum (List.map_congr_left ih)

/-- The clause is the text of the filter behind its keyword, if a field has text. -/
lemma sql_whereClause (filter : Filter) :
    filter.whereClause.value.sql =
      if filter.fieldTexts = [] then "" else "WHERE " ++ filter.compile.value.fragment.sql := by
  have hnone : filter.fieldTexts = [] ↔ filter.comparisons = [] := by
    rw [← filter.isWoven_compile.eq_empty_iff ne_empty_of_mem_filter, value_compile]
    exact filter.sql_outline_eq_empty_iff
  rw [value_whereClause, value_compile]
  simp only [hnone]

/-- The keyword has no question marks. -/
lemma questionMarks_whereClause (filter : Filter) :
    questionMarks filter.whereClause.value.sql =
      questionMarks filter.compile.value.fragment.sql := by
  have hword : questionMarks "WHERE " = 0 := by decide
  rw [sql_whereClause]
  split
  · rename_i hnone
    rw [(filter.isWoven_compile.eq_empty_iff ne_empty_of_mem_filter).mpr hnone]
  · rw [questionMarks_append, hword, Nat.zero_add]

/-- The clause is reported after the fields. -/
lemma events_whereClause (filter : Filter) :
    filter.whereClause.events =
      filter.fields.map fieldEvent ++
        [.clause (questionMarks filter.whereClause.value.sql) filter.compile.value.join] := by
  rw [questionMarks_whereClause, ← events_compile]
  rfl

end Filter

/-! ## The log -/

/-- **The log of a statement** has one report for each field of the filter, with its name and its
text, one for the clause and one for the statement.  The clause is reported with the placeholders of
all fields, which are those of its text, and with its join; its text consists of the texts of the
fields that are not empty, with joining words between them.  The statement is reported with the
number of its bind values. -/
theorem Selection.events_select (selection : Selection) (table : String) :
    (selection.select table).events =
      selection.filter.fields.map (fun field =>
        .field field.1 (field.2.compile field.1).value.sql) ++
      [.clause (questionMarks selection.filter.whereClause.value.sql)
          selection.filter.compile.value.join,
        .statement table (selection.select table).value.params.length] ∧
    (selection.select table).events.map Event.level =
      List.replicate selection.filter.fields.length .trace ++ [.debug, .debug] ∧
    questionMarks selection.filter.whereClause.value.sql =
      (selection.filter.fields.map fun field =>
        questionMarks (field.2.compile field.1).value.sql).sum ∧
    IsWoven selection.filter.fieldTexts selection.filter.compile.value.fragment.sql ∧
    selection.filter.whereClause.value.sql =
      (if selection.filter.fieldTexts = [] then ""
        else "WHERE " ++ selection.filter.compile.value.fragment.sql) ∧
    (selection.select table).value.sql =
      selection.statementText table selection.filter.whereClause.value.sql := by
  have hevents : (selection.select table).events =
      selection.filter.fields.map Filter.fieldEvent ++
        [.clause (questionMarks selection.filter.whereClause.value.sql)
            selection.filter.compile.value.join,
          .statement table (selection.select table).value.params.length] := by
    rw [select, Logged.events_bind, Logged.events_bind, Logged.events_pure, Logged.events_emit,
      Filter.events_whereClause, List.append_nil, List.append_assoc]
    rfl
  refine ⟨hevents, ?_, ?_, selection.filter.isWoven_compile, selection.filter.sql_whereClause,
    rfl⟩
  · have hfields : (selection.filter.fields.map Filter.fieldEvent).map Event.level =
        List.replicate selection.filter.fields.length .trace := by
      rw [List.map_map]
      exact List.map_const ..
    rw [hevents, List.map_append, hfields]
    rfl
  · rw [Filter.questionMarks_whereClause, Filter.questionMarks_compile]
    rfl

/-- A field without a comparison is reported, though the text has nothing of it. -/
example :
    let clause := (Filter.sequence [.field "a" ⟨[(.lt, none)], some .or⟩, .sequence [],
      .field "b?" ⟨[(.gt, some .null)], none⟩]).whereClause
    clause.events.map Event.level = [.trace, .trace, .debug] ∧ clause.value.sql = "WHERE b? > ?" := by
  decide +kernel

end FilterQuery
