import Mathlib.Algebra.Group.Nat.Defs
import FilterQuery.Proofs.Unambiguous

/-!
# Pages

A limit cuts the rows of a statement into pages, and a page starts behind as many rows as the pages
in front of it hold.  `Selection.select_paged` collects what a caller relies on.

* The offset is the exact product, or there is none: it never wraps around.
* The text of a statement is that of the statement without a page, with the limit and the offset
  behind it.  As the last words of the text they can be read off it again.
* Each row is on exactly one page, up to the last row that 64 bits can number.
-/

namespace FilterQuery

namespace Selection

/-- The selection with this limit and this page. -/
def paged (selection : Selection) (limit? page? : Option UInt64) : Selection :=
  { selection with limit?, page? }

/-! ## Offsets -/

/-- The number of rows in front of a page. -/
def rowsBefore (limit page : UInt64) : Nat :=
  limit.toNat * (max page.toNat 1 - 1)

lemma offset?_paged (selection : Selection) (limit page : UInt64) :
    (selection.paged (some limit) (some page)).offset?.map UInt64.toNat =
      if rowsBefore limit page < 2 ^ 64 then some (rowsBefore limit page) else none := by
  have hrows : limit.toNat * (page.toNat - 1) = rowsBefore limit page := by
    have hpage : page.toNat - 1 = max page.toNat 1 - 1 := by omega
    rw [rowsBefore, hpage]
  have hsize : UInt64.size = 2 ^ 64 := rfl
  simp only [offset?, paged, hrows, hsize]
  split
  · rename_i hfits
    rw [Option.map_some, UInt64.toNat_ofNat_of_lt' hfits]
  · rfl

lemma offset?_paged_eq_some_iff (selection : Selection) (limit page offset : UInt64) :
    (selection.paged (some limit) (some page)).offset? = some offset ↔
      offset.toNat = rowsBefore limit page := by
  have hexact := offset?_paged selection limit page
  have hfits : offset.toNat < 2 ^ 64 := offset.toNat_lt
  constructor
  · intro hoffset
    rw [hoffset, Option.map_some] at hexact
    split at hexact
    · exact Option.some.inj hexact
    · contradiction
  · intro hoffset
    rw [if_pos (hoffset ▸ hfits), ← hoffset] at hexact
    obtain ⟨other, hother, heq⟩ := Option.map_eq_some_iff.mp hexact
    rw [hother, UInt64.toNat_inj.mp heq]

lemma offset?_eq_none {selection : Selection}
    (h : selection.limit? = none ∨ selection.page? = none) : selection.offset? = none := by
  rw [offset?]
  rcases h with h | h
  · rw [h]
  · rw [h]
    cases selection.limit? <;> rfl

/-- **Each row is on exactly one page**, the one whose number counts the pages in front of it. -/
lemma existsUnique_page (selection : Selection) {limit : UInt64} (hlimit : 1 ≤ limit.toNat)
    {row : Nat} (hrow : row < 2 ^ 64 - 1) :
    ∃! page : UInt64, 1 ≤ page.toNat ∧
      ∃ offset, (selection.paged (some limit) (some page)).offset? = some offset ∧
        offset.toNat ≤ row ∧ row < offset.toNat + limit.toNat := by
  have hquotient : row / limit.toNat ≤ row := Nat.div_le_self row limit.toNat
  have hfits : row / limit.toNat + 1 < 2 ^ 64 := by omega
  have hpage : (UInt64.ofNat (row / limit.toNat + 1)).toNat = row / limit.toNat + 1 :=
    UInt64.toNat_ofNat_of_lt' hfits
  have hdivision := Nat.div_add_mod row limit.toNat
  have hrest := Nat.mod_lt row hlimit
  refine ⟨UInt64.ofNat (row / limit.toNat + 1), ⟨?_, ?_⟩, ?_⟩
  · rw [hpage]
    exact Nat.le_add_left 1 _
  · have hrows : rowsBefore limit (UInt64.ofNat (row / limit.toNat + 1)) =
        limit.toNat * (row / limit.toNat) := by
      rw [rowsBefore, hpage, Nat.max_eq_left (Nat.le_add_left 1 _), Nat.add_sub_cancel]
    have hsmall : limit.toNat * (row / limit.toNat) < 2 ^ 64 := by omega
    have hoffset : (UInt64.ofNat (limit.toNat * (row / limit.toNat))).toNat =
        limit.toNat * (row / limit.toNat) := UInt64.toNat_ofNat_of_lt' hsmall
    refine ⟨UInt64.ofNat (limit.toNat * (row / limit.toNat)), ?_, ?_, ?_⟩
    · rw [offset?_paged_eq_some_iff, hoffset, hrows]
    · rw [hoffset]
      omega
    · rw [hoffset]
      omega
  · rintro page ⟨hone, offset, hoffset, hbefore, hbehind⟩
    rw [offset?_paged_eq_some_iff, rowsBefore, Nat.max_eq_left hone] at hoffset
    rw [hoffset] at hbefore hbehind
    have hnumber : row / limit.toNat = page.toNat - 1 := by
      refine Nat.div_eq_of_lt_le ?_ ?_
      · rwa [Nat.mul_comm]
      · rwa [Nat.add_mul, Nat.one_mul, Nat.mul_comm]
    refine UInt64.toNat_inj.mp ?_
    omega

/-! ## The text of a page -/

/-- The end of a statement with a limit. -/
def pageText (limit : UInt64) (offset? : Option UInt64) : String :=
  " LIMIT " ++ toString limit.toNat ++
    match offset? with
    | none => ""
    | some offset => " OFFSET " ++ toString offset.toNat

lemma append_pageText_none (front : String) (limit : UInt64) :
    front ++ pageText limit none = front ++ " " ++ ("LIMIT" ++ " " ++ toString limit.toNat) := by
  have hspace : " LIMIT " = " " ++ ("LIMIT" ++ " ") := rfl
  simp only [pageText, hspace, String.append_assoc, String.append_empty]

lemma append_pageText_some (front : String) (limit offset : UInt64) :
    front ++ pageText limit (some offset) =
      front ++ pageText limit none ++ " " ++ ("OFFSET" ++ " " ++ toString offset.toNat) := by
  have hspace : " OFFSET " = " " ++ ("OFFSET" ++ " ") := rfl
  simp only [pageText, hspace, String.append_assoc, String.append_empty]

lemma intercalate_append_pageParts {selection : Selection} {limit : UInt64}
    (hlimit : selection.limit? = some limit) {front : List String} (hfront : front ≠ []) :
    " ".intercalate (front ++ selection.pageParts) =
      " ".intercalate front ++ pageText limit selection.offset? := by
  have hparts : selection.pageParts = ("LIMIT" ++ " " ++ toString limit.toNat) ::
      (selection.offset?.map fun offset => "OFFSET" ++ " " ++ toString offset.toNat).toList := by
    rw [pageParts, hlimit]
    rfl
  rw [hparts, String.intercalate_append_of_ne_nil hfront (List.cons_ne_nil _ _)]
  cases selection.offset? with
  | none => rw [append_pageText_none, Option.map_none, Option.toList_none,
      String.intercalate_singleton]
  | some offset =>
      rw [append_pageText_some, append_pageText_none, Option.map_some, Option.toList_some,
        String.intercalate_cons_cons, String.intercalate_singleton]
      simp only [String.append_assoc]

/-- The text of a statement is that of the statement without a page, and the page behind it. -/
lemma value_select_eq {selection : Selection} {limit : UInt64}
    (hlimit : selection.limit? = some limit) (table : String) :
    (selection.select table).value =
      ⟨((selection.paged none none).select table).value.sql ++
          pageText limit selection.offset?,
        ((selection.paged none none).select table).value.params⟩ := by
  have hfront : selection.frontParts table ≠ [] := by simp [frontParts]
  have hunpaged : (selection.paged none none).backParts = selection.orderParts :=
    List.append_nil _
  rw [value_select, value_select, statementText_eq, statementText_eq, hunpaged, backParts,
    ← List.append_assoc, ← List.append_assoc,
    intercalate_append_pageParts hlimit (by simp [hfront]), List.append_assoc]
  rfl

lemma tokens_append_pageText (front : String) (limit : UInt64) (offset? : Option UInt64) :
    tokens (front ++ pageText limit offset?) =
      tokens front ++ "LIMIT".toList :: (toString limit.toNat).toList ::
        match offset? with
        | none => []
        | some offset => ["OFFSET".toList, (toString offset.toNat).toList] := by
  have hlimit : tokens (front ++ pageText limit none) =
      tokens front ++ ["LIMIT".toList, (toString limit.toNat).toList] := by
    rw [append_pageText_none, tokens_append, tokens_count "LIMIT" (by decide)]
  cases offset? with
  | none => exact hlimit
  | some offset =>
      rw [append_pageText_some, tokens_append, tokens_count "OFFSET" (by decide), hlimit,
        List.append_assoc]
      rfl

/-- The offset can be read off the end of a statement. -/
lemma offset?_eq_of_append_pageText {front front' : String} {limit : UInt64}
    {offset? offset?' : Option UInt64}
    (h : front ++ pageText limit offset? = front' ++ pageText limit offset?') :
    offset? = offset?' := by
  have htokens := congrArg (fun text => (tokens text).reverse) h
  simp only [tokens_append_pageText, List.reverse_append, List.reverse_cons] at htokens
  cases offset? with
  | none =>
      cases offset?' with
      | none => rfl
      | some offset' => simp at htokens
  | some offset =>
      cases offset?' with
      | none => simp at htokens
      | some offset' =>
          obtain ⟨hcount, -⟩ := List.cons.inj htokens
          rw [eq_of_toString_eq hcount]

lemma exists_sql_eq_append_pageText_iff {selection : Selection} {limit : UInt64}
    (hlimit : selection.limit? = some limit) (table : String) (offset? : Option UInt64) :
    (∃ front, (selection.select table).value.sql = front ++ pageText limit offset?) ↔
      selection.offset? = offset? := by
  rw [value_select_eq hlimit]
  constructor
  · rintro ⟨front, hends⟩
    exact offset?_eq_of_append_pageText hends
  · rintro rfl
    exact ⟨_, rfl⟩

lemma pageParts_eq_nil {selection : Selection} (hlimit : selection.limit? = none) :
    selection.pageParts = [] := by
  rw [pageParts, hlimit]

/-- Without a limit a page has no effect. -/
lemma select_eq_of_limit?_eq_none {selection : Selection} (hlimit : selection.limit? = none)
    (table : String) :
    selection.select table = (selection.paged none none).select table := by
  have hparts : selection.pageParts = (selection.paged none none).pageParts :=
    pageParts_eq_nil hlimit
  have htext : selection.statementText table = (selection.paged none none).statementText table := by
    funext clause
    rw [statementText, statementText, parts, parts, hparts]
    rfl
  rw [select, select, htext]
  rfl

/-- **Pages tile the rows, and a statement shows its page exactly.**

* With a limit and a page the offset is the number of rows on the pages in front, and there is none
  if 64 bits do not hold that number.  With only one of them, or neither, there is no offset.
* With a limit the statement is the one without a page, and behind it the limit, and behind that
  the offset if there is one.  No other ending with this limit fits the text.
* Without a limit it is the statement without a page.
* The pages of one limit overlap nowhere and leave no row out. -/
theorem select_paged (selection : Selection) (table : String) :
    (∀ limit page : UInt64,
      (selection.paged (some limit) (some page)).offset?.map UInt64.toNat =
        if limit.toNat * (max page.toNat 1 - 1) < 2 ^ 64
          then some (limit.toNat * (max page.toNat 1 - 1)) else none) ∧
    (selection.limit? = none ∨ selection.page? = none → selection.offset? = none) ∧
    (∀ limit, selection.limit? = some limit →
      (selection.select table).value =
        ⟨((selection.paged none none).select table).value.sql ++
            pageText limit selection.offset?,
          ((selection.paged none none).select table).value.params⟩ ∧
      ∀ offset?, (∃ front, (selection.select table).value.sql = front ++ pageText limit offset?) ↔
        selection.offset? = offset?) ∧
    (selection.limit? = none →
      selection.select table = (selection.paged none none).select table ∧
        selection.pageParts = []) ∧
    ∀ limit : UInt64, 1 ≤ limit.toNat → ∀ row < 2 ^ 64 - 1,
      ∃! page : UInt64, 1 ≤ page.toNat ∧
        ∃ offset, (selection.paged (some limit) (some page)).offset? = some offset ∧
          offset.toNat ≤ row ∧ row < offset.toNat + limit.toNat := by
  refine ⟨fun limit page => offset?_paged selection limit page, offset?_eq_none,
    fun limit hlimit => ⟨value_select_eq hlimit table,
      fun offset? => exists_sql_eq_append_pageText_iff hlimit table offset?⟩,
    fun hlimit => ⟨select_eq_of_limit?_eq_none hlimit table, pageParts_eq_nil hlimit⟩,
    fun limit hlimit row hrow => existsUnique_page selection hlimit hrow⟩

-- With one row on a page, the last page holds the last row that is on any page.
example : (standard.paged (some 1) (some (UInt64.ofNat (2 ^ 64 - 1)))).offset? =
    some (UInt64.ofNat (2 ^ 64 - 2)) := by decide

end Selection

end FilterQuery
