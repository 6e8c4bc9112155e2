import FilterQuery.Proofs.Statement

/-!
# Placeholders and bind values

Text and bind values leave a compilation apart from each other, and a database driver puts them
together again: it fills the first question mark with the first value, the second with the second,
and so on.  This module proves that the driver cannot go wrong, whatever the tree.  `Fills` is the
relation between a text, the texts of the values and the filled text; it composes along
concatenation (`Fills.append`), so it climbs from a comparison to rows, to filters, and to
statements.

## What a filled text is compared with

`Filter.written` is the filter compiled with each value written in its place: the same tree, whose
comparisons never had a placeholder.  A question mark in a name would be filled like any other, so
names have none; rendered values may contain any characters.
-/

namespace FilterQuery

/-! ## Filling marks -/

/-- Replaces every question mark of a text, the `k`-th one by the `k`-th of the given texts, in one
pass from left to right.  There is no result unless there are exactly as many texts as marks. -/
def fillMarks : List Char → List (List Char) → Option (List Char)
  | [], [] => some []
  | [], _ :: _ => none
  | c :: text, values =>
    if c = '?' then
      match values with
      | [] => none
      | value :: rest => (fillMarks text rest).map (value ++ ·)
    else (fillMarks text values).map (c :: ·)

/-- Filling the marks of `sql` by `values` uses up both and gives `text`. -/
def Fills (sql : String) (values : List String) (text : String) : Prop :=
  fillMarks sql.toList (values.map String.toList) = some text.toList

/-- The text of a fragment with each placeholder replaced by its value, written by `render`. -/
def Fragment.filled? (render : Value → String) (fragment : Fragment) : Option String :=
  (fillMarks fragment.sql.toList (fragment.params.map fun value => (render value).toList)).map
    String.ofList

lemma fillMarks_append {a b : List Char} {us vs : List (List Char)} {x y : List Char}
    (ha : fillMarks a us = some x) (hb : fillMarks b vs = some y) :
    fillMarks (a ++ b) (us ++ vs) = some (x ++ y) := by
  induction a generalizing us x with
  | nil =>
      cases us with
      | nil =>
          obtain rfl : [] = x := by simpa [fillMarks] using ha
          simpa using hb
      | cons u us => simp [fillMarks] at ha
  | cons c a ih =>
      by_cases hc : c = '?'
      · cases us with
        | nil => simp [fillMarks, hc] at ha
        | cons u us =>
            obtain ⟨x', hx', rfl⟩ : ∃ x', fillMarks a us = some x' ∧ u ++ x' = x := by
              simpa [fillMarks, hc] using ha
            simp [fillMarks, hc, ih hx']
      · obtain ⟨x', hx', rfl⟩ : ∃ x', fillMarks a us = some x' ∧ c :: x' = x := by
          simpa [fillMarks, hc] using ha
        simp [fillMarks, hc, ih hx']

lemma Fills.append {a b x y : String} {us vs : List String} (ha : Fills a us x)
    (hb : Fills b vs y) : Fills (a ++ b) (us ++ vs) (x ++ y) := by
  have h := fillMarks_append ha hb
  simpa [Fills] using h

lemma fills_self {s : String} (hs : '?' ∉ s.toList) : Fills s [] s := by
  rw [Fills, List.map_nil]
  generalize s.toList = cs at hs
  induction cs with
  | nil => rfl
  | cons c cs ih =>
      simp only [List.mem_cons, not_or] at hs
      simp [fillMarks, ih hs.2, Ne.symm hs.1]

lemma fills_placeholder (value : String) : Fills placeholder [value] value := by
  simp [Fills, placeholder, fillMarks]

/-- Texts with a separator between them are filled one by one.  Each piece is a text with marks,
the values for it, and the filled text. -/
lemma fills_intercalate {sep : String} (hsep : '?' ∉ sep.toList)
    (pieces : List (String × List String × String))
    (hpieces : ∀ piece ∈ pieces, Fills piece.1 piece.2.1 piece.2.2) :
    Fills (sep.intercalate (pieces.map fun piece => piece.1))
      (pieces.flatMap fun piece => piece.2.1)
      (sep.intercalate (pieces.map fun piece => piece.2.2)) := by
  induction pieces with
  | nil => simp [Fills, fillMarks]
  | cons piece pieces ih =>
      have hhead := hpieces piece (by simp)
      have htail := ih fun p hp => hpieces p (List.mem_cons_of_mem _ hp)
      cases pieces with
      | nil => simpa using hhead
      | cons next pieces =>
          have h := (hhead.append (fills_self hsep)).append htail
          simpa [String.intercalate_cons_cons] using h

lemma fills_intercalate_self {sep : String} (hsep : '?' ∉ sep.toList) {parts : List String}
    (hparts : ∀ part ∈ parts, Fills part [] part) :
    Fills (sep.intercalate parts) [] (sep.intercalate parts) := by
  have hnone : (parts.flatMap fun _ => ([] : List String)) = [] :=
    List.flatMap_eq_nil_iff.mpr fun _ _ => rfl
  have h := fills_intercalate hsep (parts.map fun part => (part, [], part)) (by simpa using hparts)
  simpa [List.flatMap_map, Function.comp_def, hnone] using h

/-- Among parts without marks, filling one part fills the whole. -/
lemma fills_intercalate_around {sep : String} (hsep : '?' ∉ sep.toList) {front back : List String}
    {sql text : String} {values : List String} (hfront : ∀ part ∈ front, Fills part [] part)
    (hsql : Fills sql values text) (hback : ∀ part ∈ back, Fills part [] part) :
    Fills (sep.intercalate (front ++ sql :: back)) values
      (sep.intercalate (front ++ text :: back)) := by
  have hpieces : ∀ piece ∈ (front.map fun part => (part, [], part)) ++
      (sql, values, text) :: back.map fun part => (part, [], part),
      Fills piece.1 piece.2.1 piece.2.2 := by
    intro piece hpiece
    rcases List.mem_append.mp hpiece with h | h
    · obtain ⟨part, hpart, rfl⟩ := List.mem_map.mp h
      exact hfront part hpart
    · rcases List.mem_cons.mp h with rfl | h
      · exact hsql
      · obtain ⟨part, hpart, rfl⟩ := List.mem_map.mp h
        exact hback part hpart
  have hnone : ∀ parts : List String, (parts.flatMap fun _ => ([] : List String)) = [] :=
    fun _ => List.flatMap_eq_nil_iff.mpr fun _ _ => rfl
  have h := fills_intercalate hsep _ hpieces
  simpa [List.flatMap_map, Function.comp_def, hnone] using h

/-! ## Comparisons -/

/-- A comparison with its values written in it by `render`. -/
def Comparison.written (render : Value → String) (c : Comparison) : String :=
  c.field ++ " " ++ c.operator.sql ++ " " ++
    match c.operator.spread? c.value with
    | some items => "(" ++ ", ".intercalate (items.map render) ++ ")"
    | none => render c.value

lemma Comparison.written_ne_empty (render : Value → String) (c : Comparison) :
    c.written render ≠ "" := by
  simp [written]

lemma Operator.notMem_sql (op : Operator) : '?' ∉ op.sql.toList := by
  cases op <;> decide

lemma Join.notMem_sql (word : Join) : '?' ∉ word.sql.toList := by
  cases word <;> decide

lemma Direction.notMem_sql (direction : Direction) : '?' ∉ direction.sql.toList := by
  cases direction <;> decide

lemma Comparison.fills (render : Value → String) {c : Comparison} (hc : '?' ∉ c.field.toList) :
    Fills c.fragment.sql (c.fragment.params.map render) (c.written render) := by
  have hspace : Fills " " [] " " := fills_self (by decide)
  have hfront : Fills (c.field ++ " " ++ c.operator.sql ++ " ") []
      (c.field ++ " " ++ c.operator.sql ++ " ") :=
    (((fills_self hc).append hspace).append (fills_self c.operator.notMem_sql)).append hspace
  refine hfront.append ?_
  simp only [Comparison.fragment, Operator.marks, Operator.binds]
  cases c.operator.spread? c.value with
  | none => exact fills_placeholder (render c.value)
  | some items =>
      have hitems := fills_intercalate (by decide : '?' ∉ ", ".toList)
        (items.map fun item => (placeholder, [render item], render item))
        (by simpa using fun item _ => fills_placeholder (render item))
      have hopen : Fills "(" [] "(" := fills_self (by decide)
      have hclose : Fills ")" [] ")" := fills_self (by decide)
      have hvalues : (items.flatMap fun item => [render item]) = items.map render :=
        List.map_eq_flatMap.symm
      simpa [List.flatMap_map, Function.comp_def, hvalues] using
        (hopen.append hitems).append hclose

/-! ## Filters -/

section Filters

variable (render : Value → String)

lemma fills_rowTail {row : List (Join × Occurrence)}
    (hrow : ∀ entry ∈ row, '?' ∉ entry.2.comparison.field.toList) :
    Fills (rowTail (fun c => c.fragment.sql) row)
      ((row.flatMap fun entry => entry.2.comparison.fragment.params).map render)
      (rowTail (Comparison.written render) row) := by
  induction row with
  | nil => simp [rowTail, Fills, fillMarks]
  | cons entry row ih =>
      obtain ⟨word, occurrence⟩ := entry
      have hspace : Fills " " [] " " := fills_self (by decide)
      have hword : Fills (" " ++ word.sql ++ " ") [] (" " ++ word.sql ++ " ") :=
        (hspace.append (fills_self word.notMem_sql)).append hspace
      have hhead := hword.append
        (Comparison.fills render (hrow (word, occurrence) (by simp)))
      have htail := ih fun e he => hrow e (List.mem_cons_of_mem _ he)
      simpa [rowTail] using hhead.append htail

lemma fills_rowText {row : List (Join × Occurrence)}
    (hrow : ∀ entry ∈ row, '?' ∉ entry.2.comparison.field.toList) :
    Fills (rowText (fun c => c.fragment.sql) row)
      ((row.flatMap fun entry => entry.2.comparison.fragment.params).map render)
      (rowText (Comparison.written render) row) := by
  cases row with
  | nil => simp [rowText, Fills, fillMarks]
  | cons entry row =>
      have hhead := Comparison.fills render (hrow entry (by simp))
      have htail := fills_rowTail render fun e he => hrow e (List.mem_cons_of_mem _ he)
      simpa [rowText] using hhead.append htail

/-- **Filling an outline.**  The text with marks, filled by the bind values, is the text of the
tree in which every comparison is written with its values in it. -/
lemma Outline.fills {outline : Outline}
    (hfields : ∀ c ∈ outline.comparisons, '?' ∉ c.field.toList) :
    Fills outline.fragment.sql (outline.fragment.params.map render)
      (outline.text (Comparison.written render)) := by
  have hrow : ∀ entry ∈ outline.row .and, '?' ∉ entry.2.comparison.field.toList := by
    intro entry hentry
    refine hfields entry.2.comparison (List.mem_map_of_mem ?_)
    rw [← map_snd_row .and outline]
    exact List.mem_map_of_mem hentry
  have hparams : outline.fragment.params =
      (outline.row .and).flatMap fun entry => entry.2.comparison.fragment.params := by
    rw [Outline.fragment, comparisons, ← map_snd_row .and outline, List.map_map,
      List.flatMap_map]
    rfl
  rw [hparams, Outline.fragment, text_eq_rowText Comparison.sql_ne_empty outline .and,
    text_eq_rowText (Comparison.written_ne_empty render) outline .and]
  exact fills_rowText render hrow

end Filters

namespace Filter

/-- The filter compiled with every value written in its place by `render`. -/
def written (render : Value → String) (filter : Filter) : String :=
  filter.outline.text (Comparison.written render)

/-- The `WHERE` clause with every value written in its place by `render`. -/
def writtenClause (render : Value → String) (filter : Filter) : String :=
  if filter.written render = "" then "" else "WHERE " ++ filter.written render

lemma writtenClause_eq (render : Value → String) (filter : Filter) :
    filter.writtenClause render =
      if filter.comparisons = [] then "" else "WHERE " ++ filter.written render := by
  have h := Outline.text_eq_empty_iff (Comparison.written_ne_empty render) filter.outline
  rw [comparisons_outline] at h
  simp only [writtenClause, written, h]

lemma fills_whereClause (render : Value → String) {filter : Filter}
    (hfields : ∀ c ∈ filter.comparisons, '?' ∉ c.field.toList) :
    Fills filter.whereClause.value.sql (filter.whereClause.value.params.map render)
      (filter.writtenClause render) := by
  rw [value_whereClause, writtenClause_eq]
  by_cases hnone : filter.comparisons = []
  · simp [hnone, Outline.fragment, Fills, fillMarks]
  · have hfill : Fills filter.outline.fragment.sql (filter.outline.fragment.params.map render)
        (filter.written render) :=
      Outline.fills render (by rwa [comparisons_outline])
    simpa [hnone] using (fills_self (s := "WHERE ") (by decide)).append hfill

end Filter

/-! ## Statements -/

namespace Selection

lemma fills_toString (n : Nat) : Fills (toString n) [] (toString n) :=
  fills_self (notMem_toString (by decide) n)

lemma fills_of_mem_frontParts {selection : Selection} {table : String}
    (htable : '?' ∉ table.toList) (hcolumns : ∀ column ∈ selection.columns, '?' ∉ column.toList) :
    ∀ part ∈ selection.frontParts table, Fills part [] part := by
  have htext := fills_intercalate_self (by decide : '?' ∉ ", ".toList) fun column hcolumn =>
    fills_self (hcolumns column hcolumn)
  have hselect : Fills "SELECT" [] "SELECT" := fills_self (by decide)
  have hfrom : Fills "FROM" [] "FROM" := fills_self (by decide)
  have hall : ∀ part ∈ ["SELECT", ", ".intercalate selection.columns, "FROM", table],
      Fills part [] part := by
    simp [hselect, htext, hfrom, fills_self htable]
  exact fun part hpart => hall part (List.mem_filter.mp hpart).1

lemma fills_of_mem_orderParts {selection : Selection}
    (horder : ∀ entry ∈ selection.ordering, '?' ∉ entry.1.toList) :
    ∀ part ∈ selection.orderParts, Fills part [] part := by
  have hentries : ∀ part ∈ selection.ordering.map orderText, Fills part [] part := by
    intro part hpart
    obtain ⟨⟨column, direction⟩, hentry, rfl⟩ := List.mem_map.mp hpart
    exact ((fills_self (horder _ hentry)).append (fills_self (s := " ") (by decide))).append
      (fills_self direction.notMem_sql)
  have htext := fills_intercalate_self (by decide : '?' ∉ ", ".toList) hentries
  have hkeyword : Fills "ORDER BY" [] "ORDER BY" := fills_self (by decide)
  rw [orderParts_eq]
  split
  · simp
  · simp [hkeyword, htext]

lemma fills_of_mem_pageParts {selection : Selection} :
    ∀ part ∈ selection.pageParts, Fills part [] part := by
  intro part hpart
  have hlimit : Fills "LIMIT " [] "LIMIT " := fills_self (by decide)
  have hoffset : Fills "OFFSET " [] "OFFSET " := fills_self (by decide)
  rw [pageParts] at hpart
  split at hpart
  · simp at hpart
  · rename_i limit _
    rcases List.mem_cons.mp hpart with rfl | hrest
    · exact hlimit.append (fills_toString limit.toNat)
    · obtain ⟨offset, -, rfl⟩ := Option.map_eq_some_iff.mp (by simpa using hrest)
      exact hoffset.append (fills_toString offset.toNat)

/-- A statement is filled by filling its `WHERE` clause. -/
lemma fills_statementText {selection : Selection} {table clause written : String}
    {values : List String} (hclause : Fills clause values written)
    (hempty : clause = "" ↔ written = "") (htable : '?' ∉ table.toList)
    (hcolumns : ∀ column ∈ selection.columns, '?' ∉ column.toList)
    (horder : ∀ entry ∈ selection.ordering, '?' ∉ entry.1.toList) :
    Fills (selection.statementText table clause) values
      (selection.statementText table written) := by
  have hfront := fills_of_mem_frontParts htable hcolumns
  have hback : ∀ part ∈ selection.backParts, Fills part [] part := by
    intro part hpart
    rcases List.mem_append.mp hpart with h | h
    · exact fills_of_mem_orderParts horder part h
    · exact fills_of_mem_pageParts part h
  have hspace : '?' ∉ " ".toList := by decide
  rw [statementText_eq, statementText_eq]
  by_cases hnone : clause = ""
  · obtain rfl : values = [] := by
      rw [hnone, Fills] at hclause
      cases values with
      | nil => rfl
      | cons value values => simp [fillMarks] at hclause
    rw [if_pos hnone, if_pos (hempty.mp hnone), List.nil_append]
    exact fills_intercalate_self hspace fun part hpart =>
      (List.mem_append.mp hpart).elim (hfront part) (hback part)
  · rw [if_neg hnone, if_neg fun h => hnone (hempty.mpr h)]
    exact fills_intercalate_around hspace hfront hclause hback

end Selection

/-! ## Alignment -/

lemma Fragment.filled?_eq_some {render : Value → String} {fragment : Fragment} {text : String}
    (h : Fills fragment.sql (fragment.params.map render) text) :
    fragment.filled? render = some text := by
  rw [Fills, List.map_map] at h
  simp only [filled?]
  rw [show (fun value => (render value).toList) = String.toList ∘ render from rfl, h]
  simp

/-- **Placeholders and bind values are aligned.**  However the values are rendered, filling the
`WHERE` clause of a filter, or a statement with that filter, uses up all question marks and all
values, and gives the text in which every comparison is written with its own value.  The bind
values are those of the defined comparisons, one comparison after the other. -/
theorem filled_whereClause_and_select (render : Value → String) (filter : Filter)
    (hfields : ∀ c ∈ filter.comparisons, '?' ∉ c.field.toList) :
    filter.whereClause.value.filled? render = some (filter.writtenClause render) ∧
    filter.whereClause.value.params =
      filter.comparisons.flatMap (fun c => c.operator.binds c.value) ∧
    ∀ (selection : Selection) (table : String), selection.filter = filter →
      '?' ∉ table.toList → (∀ column ∈ selection.columns, '?' ∉ column.toList) →
      (∀ entry ∈ selection.ordering, '?' ∉ entry.1.toList) →
      (selection.select table).value.filled? render =
        some (selection.statementText table (filter.writtenClause render)) ∧
      (selection.select table).value.params =
        filter.comparisons.flatMap fun c => c.operator.binds c.value := by
  have hclause := Filter.fills_whereClause render hfields
  refine ⟨Fragment.filled?_eq_some hclause, filter.params_whereClause, ?_⟩
  rintro selection table rfl htable hcolumns horder
  have hempty : selection.filter.whereClause.value.sql = "" ↔
      selection.filter.writtenClause render = "" := by
    rw [Filter.value_whereClause, Filter.writtenClause_eq]
    split <;> simp
  constructor
  · exact Fragment.filled?_eq_some
      (Selection.fills_statementText hclause hempty htable hcolumns horder)
  · exact selection.filter.params_whereClause

/-- A filter with undefined entries, lists under several operators and an empty part. -/
def layeredFilter : Filter :=
  .sequence
    [.group ⟨[("name", ⟨[(.isIn, some (.list [.text "?", .null])), (.lt, none)], none⟩),
      ("rank", ⟨[(.equals, some (.list [.bool true]))], some .or⟩)]⟩,
      .sequence [],
      .field "state" ⟨[(.notIn, some (.list [])), (.notEquals, some (.bool false))], some .or⟩]

theorem filled_layeredFilter :
    layeredFilter.whereClause.value.filled? (fun _ => "?") =
        some "WHERE name IN (?, ?) OR rank = ? OR state NOT IN () AND state <> ?" ∧
      ((Selection.standard.apply (.filter layeredFilter)).select "rows").value.filled?
          (fun _ => "?") =
        some ("SELECT * FROM rows WHERE name IN (?, ?) OR rank = ? OR state NOT IN () AND " ++
          "state <> ? ORDER BY id DESC") := by
  have hfields : ∀ c ∈ layeredFilter.comparisons, '?' ∉ c.field.toList := by
    simp [layeredFilter, Filter.comparisons, Group.comparisons, Conditions.comparisons,
      Conditions.defined, Filter.field, Group.field, Group.empty, Entries.put]
  obtain ⟨hclause, -, hselect⟩ :=
    filled_whereClause_and_select (fun _ => "?") layeredFilter hfields
  obtain ⟨hstatement, -⟩ := hselect (Selection.standard.apply (.filter layeredFilter)) "rows" rfl
    (by decide) (by decide) (by decide)
  have hwritten : layeredFilter.writtenClause (fun _ => "?") =
      "WHERE name IN (?, ?) OR rank = ? OR state NOT IN () AND state <> ?" := by
    simp [layeredFilter, Filter.writtenClause, Filter.written, Filter.outline, Group.outline,
      Conditions.outline, Conditions.comparisons, Conditions.defined, Outline.text, Join.interpose,
      Comparison.written, Operator.spread?, Operator.spreadsLists, Operator.sql, Join.sql,
      Group.join, Filter.join, Filter.lastGroup?, Group.carriedJoin?, Filter.field, Group.field,
      Group.empty, Entries.put, Value.items?]
    decide
  constructor
  · rw [hclause, hwritten]
  · rw [hstatement, hwritten]
    simp [Selection.statementText, Selection.parts, Selection.standard, Selection.apply,
      Selection.orderParts, Selection.pageParts, Selection.ordering, Selection.standardOrder,
      Direction.sql]

end FilterQuery
