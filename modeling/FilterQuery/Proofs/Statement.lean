import FilterQuery.Proofs.Compilation
import FilterQuery.Selection.Statement

/-!
# The parts of a statement

The `WHERE` clause stands in the middle of a statement.  The parts in front of it and the parts
behind it do not depend on it, and a clause without text is left out with its space
(`Selection.statementText_eq`).
-/

namespace FilterQuery

lemma notMem_toString {c : Char} (hc : c.isDigit = false) (n : Nat) :
    c ∉ (toString n).toList := by
  intro hmem
  rw [Nat.toString_eq_ofList_toDigits, String.toList_ofList] at hmem
  have hdigit := Nat.isDigit_of_mem_toDigits (by decide) (by decide) hmem
  simp [hc] at hdigit

lemma notMem_intercalate {c : Char} {sep : String} {texts : List String} (hsep : c ∉ sep.toList)
    (h : ∀ text ∈ texts, c ∉ text.toList) : c ∉ (sep.intercalate texts).toList := by
  induction texts with
  | nil => simp
  | cons text texts ih =>
      obtain ⟨htext, htexts⟩ := List.forall_mem_cons.mp h
      cases texts with
      | nil => simpa using htext
      | cons next others =>
          rw [String.intercalate_cons_cons]
          simpa [htext, hsep] using ih htexts

namespace Selection

/-- The text of one column of an ordering. -/
def orderText (entry : String × Direction) : String :=
  entry.1 ++ " " ++ entry.2.sql

/-- The parts in front of the `WHERE` clause. -/
def frontParts (selection : Selection) (table : String) : List String :=
  ["SELECT", ", ".intercalate selection.columns, "FROM", table].filter fun part => !part.isEmpty

/-- The parts behind the `WHERE` clause. -/
def backParts (selection : Selection) : List String :=
  selection.orderParts ++ selection.pageParts

lemma orderParts_eq (selection : Selection) :
    selection.orderParts = if selection.ordering = [] then []
      else ["ORDER BY", ", ".intercalate (selection.ordering.map orderText)] := by
  have horder : selection.orderParts =
      if (", ".intercalate (selection.ordering.map orderText)).isEmpty then []
      else ["ORDER BY", ", ".intercalate (selection.ordering.map orderText)] := rfl
  rw [horder]
  cases selection.ordering with
  | nil => rfl
  | cons entry rest =>
      have hne : ", ".intercalate ((entry :: rest).map orderText) ≠ "" := by
        cases rest <;> simp [orderText]
      simpa using hne

lemma ne_empty_of_mem_orderParts {selection : Selection} :
    ∀ part ∈ selection.orderParts, part ≠ "" := by
  intro part hpart
  simp only [orderParts] at hpart
  split at hpart
  · simp at hpart
  · rename_i hne
    obtain rfl | rfl : part = "ORDER BY" ∨ part = _ := by simpa using hpart
    · decide
    · simpa using hne

lemma ne_empty_of_mem_pageParts {selection : Selection} :
    ∀ part ∈ selection.pageParts, part ≠ "" := by
  intro part hpart
  rw [pageParts] at hpart
  split at hpart
  · simp at hpart
  · rcases List.mem_cons.mp hpart with rfl | hoffset
    · simp
    · obtain ⟨offset, -, rfl⟩ := Option.map_eq_some_iff.mp (by simpa using hoffset)
      simp

/-- **The text of a statement** is that of its parts, the clause among them if it has text. -/
lemma statementText_eq (selection : Selection) (table clause : String) :
    selection.statementText table clause =
      " ".intercalate (selection.frontParts table ++
        ((if clause = "" then [] else [clause]) ++ selection.backParts)) := by
  have hback : selection.backParts.filter (fun part => !part.isEmpty) = selection.backParts := by
    refine List.filter_eq_self.mpr fun part hpart => ?_
    rcases List.mem_append.mp hpart with h | h
    · simpa using ne_empty_of_mem_orderParts part h
    · simpa using ne_empty_of_mem_pageParts part h
  have hparts : selection.parts table clause =
      ["SELECT", ", ".intercalate selection.columns, "FROM", table] ++
        ([clause] ++ selection.backParts) := by
    simp [parts, backParts]
  have hclause : [clause].filter (fun part => !part.isEmpty) =
      if clause = "" then [] else [clause] := by
    by_cases h : clause = "" <;> simp [h]
  rw [statementText, hparts, List.filter_append, List.filter_append, hback, hclause, frontParts]

end Selection

end FilterQuery
