import FilterQuery.Proofs.Statement
import FilterQuery.Proofs.Tokens

/-!
# Statements are unambiguous

Two statements with the same text and the same bind values ask for the same rows: they have the
same table, columns, ordering and page, and their filters make the same comparisons with the same
words between them.  Names may be anything that can be told from its surroundings, keywords
included (`Selection.WellNamed`).

The proof reads a statement from the front, token by token.  A comma after a column tells that the
list of columns goes on; the table is one token; and after it each keyword tells which part comes
next, because what stands in the place of a keyword is never a name.
-/

namespace FilterQuery

/-- Selections and tables whose names can be told from their surroundings. -/
structure Selection.WellNamed (selection : Selection) (table : String) : Prop where
  table_ne_empty : table ≠ ""
  table_spaceless : ' ' ∉ table.toList
  columns_ne_nil : selection.columns ≠ []
  column_ne_empty : ∀ column ∈ selection.columns, column ≠ ""
  columns_plain : ∀ column ∈ selection.columns, ' ' ∉ column.toList ∧ ',' ∉ column.toList
  fields_spaceless : ∀ c ∈ selection.filter.comparisons, ' ' ∉ c.field.toList
  ordering_spaceless : ∀ entry ∈ selection.ordering, ' ' ∉ entry.1.toList

namespace Selection

/-! ## Columns and orderings -/

lemma columns_append_inj {xs ys : List String} {r s : List Token}
    (hxs : ∀ x ∈ xs, ' ' ∉ x.toList ∧ ',' ∉ x.toList)
    (hys : ∀ y ∈ ys, ' ' ∉ y.toList ∧ ',' ∉ y.toList) (hxne : xs ≠ []) (hyne : ys ≠ [])
    (h : tokens (", ".intercalate xs) ++ r = tokens (", ".intercalate ys) ++ s) :
    xs = ys ∧ r = s := by
  have hcolumn : ∀ stop ∈ ["", ","], ∀ x : String, ' ' ∉ x.toList →
      tokens (x ++ stop) = [x.toList ++ stop.toList] := by
    intro stop hstop x hx
    have hspace : ' ' ∉ stop.toList := by revert stop; decide
    rw [tokens_of_notMem (by simp [hx, hspace]), String.toList_append]
  rw [← List.map_id xs, ← List.map_id ys] at h
  refine intercalate_append_inj (P := fun x => ' ' ∉ x.toList ∧ ',' ∉ x.toList) ?_ ?_ hxs hys
    hxne hyne h
  · intro stop hstop x y hx hy r s h
    simpa [hcolumn stop hstop, hx, hy, String.toList_inj] using h
  · intro x y hx hy r s h
    simp only [id_eq] at h
    rw [hcolumn "," (by simp) x hx.1, hcolumn "" (by simp) y hy.1] at h
    obtain ⟨hxy, -⟩ := List.cons.inj h
    refine hy.2 ?_
    simpa using congrArg (',' ∈ ·) hxy

lemma ordering_append_inj {xs ys : Entries String Direction} {r s : List Token}
    (hxs : ∀ x ∈ xs, ' ' ∉ x.1.toList) (hys : ∀ y ∈ ys, ' ' ∉ y.1.toList)
    (hxne : xs ≠ []) (hyne : ys ≠ [])
    (h : tokens (", ".intercalate (xs.map orderText)) ++ r =
      tokens (", ".intercalate (ys.map orderText)) ++ s) :
    xs = ys ∧ r = s := by
  have hentry : ∀ stop ∈ ["", ","], ∀ x : String × Direction, ' ' ∉ x.1.toList →
      tokens (orderText x ++ stop) = [x.1.toList, x.2.sql.toList ++ stop.toList] := by
    rintro stop hstop ⟨column, direction⟩ hx
    have hword : tokens (direction.sql ++ stop) = [direction.sql.toList ++ stop.toList] := by
      revert stop
      cases direction <;> decide
    rw [orderText, String.append_assoc, tokens_append, tokens_of_notMem hx, hword]
    rfl
  refine intercalate_append_inj (P := fun x => ' ' ∉ x.1.toList) ?_ ?_ hxs hys hxne hyne h
  · intro stop hstop x y hx hy r s h
    rw [hentry stop hstop x hx, hentry stop hstop y hy] at h
    simp only [List.cons_append, List.nil_append, List.cons.injEq, List.append_left_inj,
      String.toList_inj] at h
    exact ⟨Prod.ext h.1 (Direction.sql_inj h.2.1), h.2.2⟩
  · intro x y hx hy r s h
    rw [hentry "," (by simp) x hx, hentry "" (by simp) y hy] at h
    obtain ⟨-, hwords, -⟩ : x.1.toList = y.1.toList ∧
        x.2.sql.toList ++ [','] = y.2.sql.toList ∧ r = s := by
      simpa using h
    revert hwords
    cases x.2 <;> cases y.2 <;> decide

/-! ## What follows the `WHERE` clause -/

/-- The tokens of the `ORDER BY` parts. -/
def orderTokens (selection : Selection) : List Token :=
  selection.orderParts.flatMap tokens

/-- The tokens of the `LIMIT` and `OFFSET` parts. -/
def pageTokens (selection : Selection) : List Token :=
  selection.pageParts.flatMap tokens

lemma orderTokens_eq (selection : Selection) :
    selection.orderTokens = if selection.ordering = [] then []
      else "ORDER".toList :: "BY".toList ::
        tokens (", ".intercalate (selection.ordering.map orderText)) := by
  have hkeyword : tokens "ORDER BY" = ["ORDER".toList, "BY".toList] := by decide
  rw [orderTokens, orderParts_eq]
  split
  · rfl
  · rw [List.flatMap_cons, List.flatMap_cons, List.flatMap_nil, List.append_nil, hkeyword]
    rfl

lemma tokens_count (word : String) (hword : ' ' ∉ word.toList) (n : Nat) :
    tokens (word ++ " " ++ toString n) = [word.toList, (toString n).toList] := by
  have hdigits : ' ' ∉ (toString n).toList := notMem_toString (by decide) n
  rw [tokens_append, tokens_of_notMem hword, tokens_of_notMem hdigits]
  rfl

lemma pageTokens_eq (selection : Selection) :
    selection.pageTokens = match selection.limit? with
      | none => []
      | some limit => "LIMIT".toList :: (toString limit.toNat).toList ::
          match selection.offset? with
          | none => []
          | some offset => ["OFFSET".toList, (toString offset.toNat).toList] := by
  rw [pageTokens, pageParts]
  cases selection.limit? with
  | none => rfl
  | some limit =>
      have hlimit := tokens_count "LIMIT" (by decide) limit.toNat
      cases selection.offset? with
      | none => simpa using hlimit
      | some offset =>
          have hoffset := tokens_count "OFFSET" (by decide) offset.toNat
          simpa using congrArg₂ (· ++ ·) hlimit hoffset

lemma eq_of_toString_eq {m n : UInt64}
    (h : (toString m.toNat).toList = (toString n.toNat).toList) : m = n := by
  rw [Nat.toString_eq_ofList_toDigits, Nat.toString_eq_ofList_toDigits, String.toList_ofList,
    String.toList_ofList] at h
  have hdigits := congrArg (fun cs => Nat.ofDigitChars 10 cs 0) h
  simp only [Nat.ofDigitChars_ten_toDigits] at hdigits
  exact UInt64.toNat_inj.mp hdigits

lemma pageTokens_inj {a b : Selection} (h : a.pageTokens = b.pageTokens) :
    a.limit? = b.limit? ∧ a.offset? = b.offset? := by
  have hnone : ∀ selection : Selection, selection.limit? = none → selection.offset? = none := by
    intro selection hlimit
    rw [offset?, hlimit]
  rw [pageTokens_eq, pageTokens_eq] at h
  cases hlimit : a.limit? with
  | none =>
      cases hlimit' : b.limit? with
      | none => exact ⟨rfl, by rw [hnone a hlimit, hnone b hlimit']⟩
      | some limit' => simp [hlimit, hlimit'] at h
  | some limit =>
      cases hlimit' : b.limit? with
      | none => simp [hlimit, hlimit'] at h
      | some limit' =>
          simp only [hlimit, hlimit', List.cons.injEq, true_and] at h
          obtain ⟨hcount, hrest⟩ := h
          refine ⟨by rw [eq_of_toString_eq hcount], ?_⟩
          cases hoffset : a.offset? <;> cases hoffset' : b.offset? <;>
            simp only [hoffset, hoffset', List.cons.injEq, reduceCtorEq, true_and,
              and_true] at hrest
          · rfl
          · rw [eq_of_toString_eq hrest]

lemma stops_of_head {token : Token} {r : List Token}
    (htoken : token = "ORDER".toList ∨ token = "LIMIT".toList) : Stops (token :: r) := by
  rintro _ ⟨⟩
  rcases htoken with rfl | rfl <;> exact ⟨by decide, fun word => by cases word <;> decide⟩

lemma stops_nil : Stops [] := by
  simp [Stops]

/-- What follows the `WHERE` clause cannot be taken for a part of it. -/
lemma stops_orderTokens_append (selection : Selection) :
    Stops (selection.orderTokens ++ selection.pageTokens) := by
  rw [orderTokens_eq]
  split
  · rw [pageTokens_eq]
    cases selection.limit? with
    | none => exact stops_nil
    | some limit => exact stops_of_head (.inr rfl)
  · exact stops_of_head (.inl rfl)

lemma orderTokens_append_inj {a b : Selection} (ha : ∀ entry ∈ a.ordering, ' ' ∉ entry.1.toList)
    (hb : ∀ entry ∈ b.ordering, ' ' ∉ entry.1.toList)
    (h : a.orderTokens ++ a.pageTokens = b.orderTokens ++ b.pageTokens) :
    a.ordering = b.ordering ∧ a.pageTokens = b.pageTokens := by
  have hpage : ∀ (selection : Selection) (r : List Token),
      selection.pageTokens ≠ "ORDER".toList :: r := by
    intro selection r hr
    rw [pageTokens_eq] at hr
    cases hlimit : selection.limit? with
    | none => simp [hlimit] at hr
    | some limit => simp [hlimit] at hr
  rw [orderTokens_eq, orderTokens_eq] at h
  split at h <;> split at h
  · rename_i ha' hb'
    exact ⟨by rw [ha', hb'], h⟩
  · exact absurd h (hpage a _)
  · exact absurd h.symm (hpage b _)
  · rename_i ha' hb'
    simp only [List.cons_append, List.cons.injEq, true_and] at h
    exact ordering_append_inj ha hb ha' hb' h

/-! ## The whole statement -/

lemma WellNamed.frontParts_eq {selection : Selection} {table : String}
    (hnamed : selection.WellNamed table) :
    selection.frontParts table = ["SELECT", ", ".intercalate selection.columns, "FROM", table] := by
  have hcolumns : ", ".intercalate selection.columns ≠ "" := by
    obtain ⟨column, rest, hcons⟩ := List.exists_cons_of_ne_nil hnamed.columns_ne_nil
    have hcolumn := hnamed.column_ne_empty column (by simp [hcons])
    rw [hcons]
    cases rest <;> simp [hcolumn]
  simp [frontParts, hcolumns, hnamed.table_ne_empty]

/-- The tokens of a statement, part by part. -/
lemma WellNamed.tokens_select {selection : Selection} {table : String}
    (hnamed : selection.WellNamed table) :
    tokens (selection.select table).value.sql =
      "SELECT".toList :: (tokens (", ".intercalate selection.columns) ++
        "FROM".toList :: table.toList ::
          (selection.filter.clauseTokens ++ (selection.orderTokens ++ selection.pageTokens))) := by
  have hclause : (if selection.filter.whereClause.value.sql = "" then []
        else [selection.filter.whereClause.value.sql]).flatMap tokens =
      selection.filter.clauseTokens := by
    by_cases hnone : selection.filter.comparisons = []
    · simp [Filter.value_whereClause, hnone, Filter.clauseTokens]
    · rw [← Filter.tokens_whereClause hnone hnamed.fields_spaceless]
      simp [Filter.value_whereClause, hnone]
  have hselect : tokens "SELECT" = ["SELECT".toList] := by decide
  have hfrom : tokens "FROM" = ["FROM".toList] := by decide
  rw [value_select, statementText_eq, hnamed.frontParts_eq, tokens_intercalate (by simp),
    List.flatMap_append, List.flatMap_append, hclause, backParts, List.flatMap_append,
    ← orderTokens, ← pageTokens]
  simp [hselect, hfrom, tokens_of_notMem hnamed.table_spaceless]

/-- **Statements are unambiguous.**  If two well-named selections give the same text and the same
bind values, then table, columns, ordering, limit and offset are the same, and the filters make the
same comparisons with the same words between them.  The trees may differ. -/
theorem eq_of_select_eq {a b : Selection} {table table' : String}
    (ha : a.WellNamed table) (hb : b.WellNamed table')
    (h : (a.select table).value = (b.select table').value) :
    table = table' ∧ a.columns = b.columns ∧ a.ordering = b.ordering ∧ a.limit? = b.limit? ∧
      a.offset? = b.offset? ∧ a.filter.comparisons = b.filter.comparisons ∧
      a.filter.outline.words = b.filter.outline.words := by
  have htokens := congrArg (fun fragment => tokens fragment.sql) h
  simp only [ha.tokens_select, hb.tokens_select, List.cons.injEq, true_and]
    at htokens
  obtain ⟨hcolumns, hrest⟩ := columns_append_inj ha.columns_plain hb.columns_plain
    ha.columns_ne_nil hb.columns_ne_nil htokens
  simp only [List.cons.injEq, true_and, String.toList_inj] at hrest
  obtain ⟨htable, hclause⟩ := hrest
  obtain ⟨hshapes, hwords, horderPage⟩ := Filter.clauseTokens_append_inj
    a.stops_orderTokens_append b.stops_orderTokens_append hclause
  obtain ⟨hordering, hpage⟩ := orderTokens_append_inj ha.ordering_spaceless
    hb.ordering_spaceless horderPage
  obtain ⟨hlimit, hoffset⟩ := pageTokens_inj hpage
  have hparams := congrArg Fragment.params h
  simp only [value_select, Filter.params_whereClause] at hparams
  exact ⟨htable, hcolumns, hordering, hlimit, hoffset, eq_of_shape_eq hshapes hparams, hwords⟩

/-- A selection by two alternatives whose names are keywords. -/
def keywordSelection (filter : Filter) (page : UInt64) : Selection where
  columns := ["FROM", "id"]
  filter := filter
  order? := some [("ASC", .desc), ("a,b", .asc), ("ASC", .asc)]
  page? := some page
  limit? := some 10

/-- The alternatives as one group. -/
def grouped : Filter :=
  .group ⟨[("AND", ⟨[(.notIn, some (.list [.null, .bool true]))], some .or⟩),
    ("x", ⟨[(.lte, some (.text "?"))], none⟩)]⟩

/-- The alternatives apart from each other, with an empty part and an undefined entry. -/
def scattered : Filter :=
  .sequence [.group ⟨[("AND", ⟨[(.notIn, some (.list [.null, .bool true]))], none⟩)]⟩,
    .sequence [], .group ⟨[("x", ⟨[(.lt, none), (.lte, some (.text "?"))], some .or⟩)]⟩]

lemma wellNamed_keywordSelection {filter : Filter} (page : UInt64)
    (hfields : ∀ c ∈ filter.comparisons, ' ' ∉ c.field.toList) :
    (keywordSelection filter page).WellNamed "WHERE" where
  table_ne_empty := by decide
  table_spaceless := by decide
  columns_ne_nil := by simp [keywordSelection]
  column_ne_empty := by simp [keywordSelection]
  columns_plain := by simp [keywordSelection]
  fields_spaceless := hfields
  ordering_spaceless := by simp [keywordSelection, ordering]

lemma value_select_keywordSelection {filter : Filter} {params : List Value} (page : UInt64)
    (hclause : filter.whereClause.value = ⟨"WHERE AND NOT IN (?, ?) OR x <= ?", params⟩)
    (hoffset : (keywordSelection filter page).offset? = some 0) :
    ((keywordSelection filter page).select "WHERE").value =
      ⟨"SELECT FROM, id FROM WHERE WHERE AND NOT IN (?, ?) OR x <= ? ORDER BY " ++
        "ASC DESC, a,b ASC, ASC ASC LIMIT 10 OFFSET 0", params⟩ := by
  have hfilter : (keywordSelection filter page).filter = filter := rfl
  rw [value_select, hfilter, hclause, statementText, parts, pageParts, hoffset]
  simp [keywordSelection, orderParts, ordering, Direction.sql]
  decide

theorem eq_of_select_eq_keywordSelection :
    ((keywordSelection grouped 0).select "WHERE").value =
        ⟨"SELECT FROM, id FROM WHERE WHERE AND NOT IN (?, ?) OR x <= ? ORDER BY " ++
          "ASC DESC, a,b ASC, ASC ASC LIMIT 10 OFFSET 0", [.null, .bool true, .text "?"]⟩ ∧
      (keywordSelection grouped 0).offset? = (keywordSelection scattered 1).offset? ∧
      grouped.comparisons = scattered.comparisons ∧
      grouped.outline.words = scattered.outline.words := by
  have hgrouped : grouped.whereClause.value =
      ⟨"WHERE AND NOT IN (?, ?) OR x <= ?", [.null, .bool true, .text "?"]⟩ := by
    rw [Filter.value_whereClause]
    simp [grouped, Filter.comparisons, Group.comparisons, Filter.outline, Group.outline,
      Group.join, Conditions.outline, Conditions.comparisons, Conditions.defined,
      Outline.fragment, Outline.text, Join.interpose, Comparison.fragment, Operator.marks,
      Operator.binds, Operator.spread?, Operator.spreadsLists, Operator.sql, Join.sql,
      Value.items?, placeholder]
  have hscattered : scattered.whereClause.value =
      ⟨"WHERE AND NOT IN (?, ?) OR x <= ?", [.null, .bool true, .text "?"]⟩ := by
    rw [Filter.value_whereClause]
    simp [scattered, Filter.comparisons, Group.comparisons, Filter.outline, Group.outline,
      Filter.join, Filter.lastGroup?, Group.carriedJoin?, Conditions.outline,
      Conditions.comparisons, Conditions.defined, Outline.fragment, Outline.text, Join.interpose,
      Comparison.fragment, Operator.marks, Operator.binds, Operator.spread?,
      Operator.spreadsLists, Operator.sql, Join.sql, Value.items?, placeholder]
  have hfields : ∀ c ∈ grouped.comparisons, ' ' ∉ c.field.toList := by
    simp [grouped, Filter.comparisons, Group.comparisons, Conditions.comparisons,
      Conditions.defined]
  have hfields' : ∀ c ∈ scattered.comparisons, ' ' ∉ c.field.toList := by
    simp [scattered, Filter.comparisons, Group.comparisons, Conditions.comparisons,
      Conditions.defined]
  have hselect := value_select_keywordSelection 0 hgrouped (by decide)
  have hselect' := value_select_keywordSelection 1 hscattered (by decide)
  obtain ⟨-, -, -, -, hoffset, hcomparisons, hwords⟩ :=
    eq_of_select_eq (wellNamed_keywordSelection 0 hfields) (wellNamed_keywordSelection 1 hfields')
      (hselect.trans hselect'.symm)
  exact ⟨hselect, hoffset, hcomparisons, hwords⟩

end Selection

end FilterQuery
