import FilterQuery.Proofs.Compilation

/-!
# The flat form of a filter

A compiled filter is the list of its defined comparisons, from left to right, with one word between
any two neighbours.  Which word that is depends on the two comparisons alone: it is the word of the
lowest node of the tree that contains both.  What lies between them in the tree, fields without
comparisons and empty groups or sequences, has no influence.
-/

namespace FilterQuery

/-- The texts with the words between them, everything separated by single spaces. -/
def flatText : List String → List Join → String
  | [], _ => ""
  | first :: rest, words =>
    first ++ String.join ((words.zip rest).map fun (word, text) => " " ++ word.sql ++ " " ++ text)

lemma Outline.rowText_row (write : Comparison → String) (lead : Join) (outline : Outline) :
    rowText write (outline.row lead) = flatText (outline.comparisons.map write) outline.words := by
  rw [row_eq_zip, comparisons]
  cases outline.leaves with
  | nil => rfl
  | cons first rest =>
      simp [rowText, rowTail, flatText, List.zip_map_right, Function.comp_def, Prod.map]

namespace Filter

lemma length_words_outline (filter : Filter) :
    filter.outline.words.length = filter.comparisons.length - 1 := by
  have hleaves : filter.outline.leaves.length = filter.comparisons.length := by
    rw [← comparisons_outline, Outline.comparisons, List.length_map]
  simp [Outline.words, hleaves]

lemma sql_compile (filter : Filter) :
    filter.compile.value.fragment.sql =
      flatText (filter.comparisons.map fun c => c.fragment.sql) filter.outline.words := by
  rw [value_compile, Outline.fragment,
    Outline.text_eq_rowText Comparison.sql_ne_empty filter.outline .and, Outline.rowText_row,
    comparisons_outline]

/-- **The flat form of a filter.**  The text of a compiled filter consists of the defined
comparisons of the tree and of the words between neighbours, one less than there are comparisons.
Each word is that of the lowest common ancestor.  There is no text, and there are no bind values
and no `WHERE`, exactly if no comparison is defined.  The join reported is that of the root, found
along the last children. -/
theorem compile_flat (filter : Filter) :
    filter.compile.value.fragment.sql =
      flatText (filter.comparisons.map fun c => c.fragment.sql) filter.outline.words ∧
    filter.outline.comparisons = filter.comparisons ∧
    filter.outline.words.length = filter.comparisons.length - 1 ∧
    (filter.compile.value.fragment.sql = "" ↔ filter.comparisons = []) ∧
    (filter.comparisons = [] → filter.compile.value.fragment.params = []) ∧
    filter.whereClause.value.sql =
      (if filter.comparisons = [] then ""
        else "WHERE " ++ filter.compile.value.fragment.sql) ∧
    filter.compile.value.join = filter.join ∧
    filter.outline.join = filter.join := by
  refine ⟨filter.sql_compile, filter.comparisons_outline, filter.length_words_outline, ?_, ?_, ?_,
    ?_, filter.join_outline⟩
  · rw [value_compile]
    exact filter.sql_outline_eq_empty_iff
  · intro hnone
    simp [value_compile, Outline.fragment, hnone]
  · rw [value_whereClause, value_compile]
  · rw [value_compile]

end Filter

end FilterQuery
