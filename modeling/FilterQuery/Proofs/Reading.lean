import Mathlib.Data.List.ReduceOption
import FilterQuery.Proofs.Outline

/-!
# Reading rows

A row of values with words between them is read as a database reads it, without parentheses and
with `AND` binding more tightly than `OR`.  This module relates the value of a row that is put
together from other rows to the values of those.

* Rows joined by `OR` are read one by one (`readRow_flatten_or`), and so are rows joined by `AND`
  in which no `OR` occurs (`readRow_flatten_and`).
* Otherwise values get mixed up.  Among true values, a row that reads true makes the whole true
  (`readRow_flatten_of_true`), and so does a row with an `OR`, even if there is another row with
  false values (`readRow_flatten_of_or`).
-/

namespace FilterQuery

/-! ## The value of a row -/

/-- The value of `b` and what follows it, read without parentheses: `AND` takes the next value into
the conjunction read so far, and `OR` closes that conjunction. -/
def readFrom (b : Bool) : List (Join × Bool) → Bool
  | [] => b
  | (.and, c) :: rest => readFrom (b && c) rest
  | (.or, c) :: rest => b || readFrom c rest

/-- The value of a row of values.  The word in front of the first is left out. -/
def readRow : List (Join × Bool) → Bool
  | [] => false
  | (_, b) :: rest => readFrom b rest

section Reading

variable {r s : List (Join × Bool)}

lemma readFrom_append_or (b c : Bool) :
    readFrom b (r ++ (.or, c) :: s) = (readFrom b r || readFrom c s) := by
  induction r generalizing b with
  | nil => rfl
  | cons entry r ih =>
      obtain ⟨word, d⟩ := entry
      cases word with
      | and => exact ih (b && d)
      | or => simp [readFrom, ih d, Bool.or_assoc]

lemma readFrom_and (b : Bool) (hr : ∀ entry ∈ r, entry.1 = .and) :
    readFrom b r = (b && r.all Prod.snd) := by
  induction r generalizing b with
  | nil => simp [readFrom]
  | cons entry r ih =>
      obtain ⟨word, c⟩ := entry
      obtain rfl : word = .and := hr (word, c) (by simp)
      have htail := ih (b && c) fun e he => hr e (by simp [he])
      simp [readFrom, htail, Bool.and_assoc]

/-- Joined by `OR`, rows are read one by one. -/
lemma readRow_flatten_or {rows : List (List (Join × Bool))}
    (hrows : ∀ row ∈ rows, HeadedBy .or row) :
    readRow rows.flatten = rows.any readRow := by
  induction rows with
  | nil => rfl
  | cons row rows ih =>
      have hrest := ih fun row hrow => hrows row (List.mem_cons_of_mem _ hrow)
      have hhead := HeadedBy.flatten fun row hrow => hrows row (List.mem_cons_of_mem _ hrow)
      rw [List.flatten_cons, List.any_cons, ← hrest]
      cases row with
      | nil => rfl
      | cons first row =>
          rcases hflat : rows.flatten with _ | ⟨⟨lead, c⟩, rest⟩
          · simp [readRow]
          · obtain rfl : lead = .or := hhead (lead, c) (by simp [hflat])
            exact readFrom_append_or first.2 c

lemma readRow_and (hr : ∀ entry ∈ r, entry.1 = .and) (hne : r ≠ []) :
    readRow r = r.all Prod.snd := by
  cases r with
  | nil => exact absurd rfl hne
  | cons entry r => exact readFrom_and entry.2 fun e he => hr e (by simp [he])

/-- Without an `OR` in them, rows are read one by one and have to be true together. -/
lemma readRow_flatten_and {rows : List (List (Join × Bool))} (hrows : rows ≠ [])
    (hne : ∀ row ∈ rows, row ≠ []) (hand : ∀ row ∈ rows, ∀ entry ∈ row, entry.1 = .and) :
    readRow rows.flatten = rows.all readRow := by
  have hflat : ∀ entry ∈ rows.flatten, entry.1 = .and := by
    intro entry hentry
    obtain ⟨row, hrow, hmem⟩ := List.mem_flatten.mp hentry
    exact hand row hrow entry hmem
  have hflat' : rows.flatten ≠ [] := by
    obtain ⟨row, hrow⟩ := List.exists_mem_of_ne_nil rows hrows
    exact fun h => hne row hrow (List.flatten_eq_nil_iff.mp h row hrow)
  rw [readRow_and hflat hflat', Bool.eq_iff_iff]
  simp only [List.all_eq_true, List.mem_flatten, forall_exists_index, and_imp]
  constructor
  · intro h row hrow
    rw [readRow_and (hand row hrow) (hne row hrow), List.all_eq_true]
    exact fun entry hentry => h entry row hrow hentry
  · intro h entry row hrow hentry
    have hrow' := h row hrow
    rw [readRow_and (hand row hrow) (hne row hrow), List.all_eq_true] at hrow'
    exact hrow' entry hentry

/-! ### What true values force -/

lemma readRow_eq_readFrom (hr : HeadedBy .and r) (hne : r ≠ []) : readRow r = readFrom true r := by
  rcases r with _ | ⟨⟨word, b⟩, r⟩
  · exact absurd rfl hne
  · obtain rfl : word = .and := hr (word, b) (by simp)
    simp [readRow, readFrom]

lemma readFrom_append_of_true_left (hr : ∀ entry ∈ r, entry.2 = true)
    (hs : readFrom true s = true) : readFrom true (r ++ s) = true := by
  induction r with
  | nil => exact hs
  | cons entry r ih =>
      obtain ⟨word, b⟩ := entry
      obtain rfl : b = true := hr (word, b) (by simp)
      have htail := ih fun e he => hr e (by simp [he])
      cases word <;> simp [readFrom, htail]

lemma readFrom_true (hr : ∀ entry ∈ r, entry.2 = true) : readFrom true r = true := by
  rw [← List.append_nil r]
  exact readFrom_append_of_true_left hr rfl

lemma readFrom_append_of_true_right {b : Bool} (hr : readFrom b r = true)
    (hs : ∀ entry ∈ s, entry.2 = true) : readFrom b (r ++ s) = true := by
  induction r generalizing b with
  | nil =>
      obtain rfl : b = true := hr
      exact readFrom_true hs
  | cons entry r ih =>
      obtain ⟨word, c⟩ := entry
      cases word with
      | and => exact ih hr
      | or =>
          simp only [readFrom, List.cons_append, Bool.or_eq_true] at hr ⊢
          exact hr.imp_right ih

/-- True values with an `OR` among them make the text true, whatever follows. -/
lemma readFrom_append_of_or_left (hor : .or ∈ r.map Prod.fst) (hr : ∀ entry ∈ r, entry.2 = true) :
    readFrom true (r ++ s) = true := by
  induction r with
  | nil => simp at hor
  | cons entry r ih =>
      obtain ⟨word, b⟩ := entry
      obtain rfl : b = true := hr (word, b) (by simp)
      cases word with
      | and => exact ih (by simpa using hor) fun e he => hr e (by simp [he])
      | or => simp [readFrom]

lemma readFrom_of_or (hor : .or ∈ r.map Prod.fst) (hr : ∀ entry ∈ r, entry.2 = true) (b : Bool) :
    readFrom b r = true := by
  induction r generalizing b with
  | nil => simp at hor
  | cons entry r ih =>
      obtain ⟨word, c⟩ := entry
      obtain rfl : c = true := hr (word, c) (by simp)
      have htail : ∀ entry ∈ r, entry.2 = true := fun e he => hr e (by simp [he])
      cases word with
      | and => exact ih (by simpa using hor) htail (b && true)
      | or => simp [readFrom, readFrom_true htail]

/-- True values with an `OR` among them make the text true, whatever stands in front. -/
lemma readFrom_append_of_or_right (hor : .or ∈ s.map Prod.fst) (hs : ∀ entry ∈ s, entry.2 = true)
    (b : Bool) : readFrom b (r ++ s) = true := by
  induction r generalizing b with
  | nil => exact readFrom_of_or hor hs b
  | cons entry r ih =>
      obtain ⟨word, c⟩ := entry
      cases word with
      | and => exact ih (b && c)
      | or => simp [readFrom, ih c]

end Reading

/-! ## Rows of rows -/

section Rows

variable {rows : List (List (Join × Bool))}

lemma mem_flatten_take {n : Nat} {entry : Join × Bool} (hentry : entry ∈ (rows.take n).flatten) :
    ∃ i, ∃ hi : i < rows.length, i < n ∧ entry ∈ rows[i] := by
  obtain ⟨row, hrow, hmem⟩ := List.mem_flatten.mp hentry
  obtain ⟨i, hi, rfl⟩ := List.getElem_of_mem hrow
  rw [List.length_take] at hi
  exact ⟨i, by omega, by omega, by simpa using hmem⟩

lemma mem_flatten_drop {n : Nat} {entry : Join × Bool} (hentry : entry ∈ (rows.drop n).flatten) :
    ∃ i, ∃ hi : i < rows.length, n ≤ i ∧ entry ∈ rows[i] := by
  obtain ⟨row, hrow, hmem⟩ := List.mem_flatten.mp hentry
  obtain ⟨i, hi, rfl⟩ := List.getElem_of_mem hrow
  rw [List.length_drop] at hi
  exact ⟨n + i, by omega, by omega, by simpa using hmem⟩

/-- A row that reads true, joined by `AND` to rows of true values, gives a true text. -/
lemma readRow_flatten_of_true (hrows : ∀ row ∈ rows, HeadedBy .and row) {k : Nat}
    (hk : k < rows.length) (hread : readRow rows[k] = true)
    (hothers : ∀ i (hi : i < rows.length), i ≠ k → ∀ entry ∈ rows[i], entry.2 = true) :
    readRow rows.flatten = true := by
  have hne : rows[k] ≠ [] := by
    intro h
    simp [h, readRow] at hread
  have hflat : rows.flatten ≠ [] :=
    fun h => hne (List.flatten_eq_nil_iff.mp h rows[k] (List.getElem_mem hk))
  rw [readRow_eq_readFrom (hrows _ (List.getElem_mem hk)) hne] at hread
  rw [readRow_eq_readFrom (HeadedBy.flatten hrows) hflat]
  have hsplit : rows.flatten =
      (rows.take k).flatten ++ (rows[k] ++ (rows.drop (k + 1)).flatten) := by
    rw [← List.flatten_cons, ← List.drop_eq_getElem_cons hk, ← List.flatten_append,
      List.take_append_drop]
  rw [hsplit]
  refine readFrom_append_of_true_left ?_ (readFrom_append_of_true_right hread ?_)
  · intro entry hentry
    obtain ⟨i, hi, hik, hmem⟩ := mem_flatten_take hentry
    exact hothers i hi (by omega) entry hmem
  · intro entry hentry
    obtain ⟨i, hi, hik, hmem⟩ := mem_flatten_drop hentry
    exact hothers i hi (by omega) entry hmem

/-- A row with an `OR` in it escapes the rows beside it: if only one other row has values that are
not true, the text is true. -/
lemma readRow_flatten_of_or (hrows : ∀ row ∈ rows, HeadedBy .and row) {k m : Nat}
    (hk : k < rows.length) (hor : .or ∈ rows[k].map Prod.fst) (hmk : m ≠ k)
    (hothers : ∀ i (hi : i < rows.length), i ≠ m → ∀ entry ∈ rows[i], entry.2 = true) :
    readRow rows.flatten = true := by
  have hmem : ∀ {chosen : List (List (Join × Bool))}, rows[k] ∈ chosen →
      .or ∈ chosen.flatten.map Prod.fst := by
    intro chosen hchosen
    obtain ⟨entry, hentry, hfst⟩ := List.mem_map.mp hor
    exact List.mem_map.mpr ⟨entry, List.mem_flatten.mpr ⟨rows[k], hchosen, hentry⟩, hfst⟩
  have hflat : rows.flatten ≠ [] := fun h => by
    simpa [h] using hmem (List.getElem_mem hk)
  rw [readRow_eq_readFrom (HeadedBy.flatten hrows) hflat]
  -- The rows are cut next to the one that may be false, so that the `OR` is on the other side.
  rcases Nat.lt_or_gt_of_ne hmk with hlt | hgt
  · rw [← List.take_append_drop (m + 1) rows, List.flatten_append]
    refine readFrom_append_of_or_right (hmem ?_) ?_ true
    · exact List.mem_drop_iff_getElem.mpr ⟨k - (m + 1), by omega, by congr 1; omega⟩
    · intro entry hentry
      obtain ⟨i, hi, hmi, hin⟩ := mem_flatten_drop hentry
      exact hothers i hi (by omega) entry hin
  · rw [← List.take_append_drop m rows, List.flatten_append]
    refine readFrom_append_of_or_left (hmem ?_) ?_
    · exact List.mem_take_iff_getElem.mpr ⟨k, by omega, rfl⟩
    · intro entry hentry
      obtain ⟨i, hi, him, hin⟩ := mem_flatten_take hentry
      exact hothers i hi (by omega) entry hin

end Rows

/-- If two elements or more have a property, then one of them is not at the position `k`. -/
lemma exists_ne_of_two_le_countP {α : Type} {p : α → Bool} {xs : List α}
    (hmany : 2 ≤ xs.countP p) (k : Nat) : ∃ m, ∃ hm : m < xs.length, m ≠ k ∧ p xs[m] = true := by
  induction xs generalizing k with
  | nil => simp at hmany
  | cons x xs ih =>
      rw [List.countP_cons] at hmany
      cases k with
      | zero =>
          have hrest : 0 < xs.countP p := by split at hmany <;> omega
          obtain ⟨y, hy, hpy⟩ := List.countP_pos_iff.mp hrest
          obtain ⟨m, hm, rfl⟩ := List.getElem_of_mem hy
          exact ⟨m + 1, by simpa using hm, by simp, hpy⟩
      | succ k =>
          by_cases hx : p x = true
          · exact ⟨0, by simp, by simp, hx⟩
          · obtain ⟨m, hm, hmk, hpm⟩ := ih (by simpa [hx] using hmany) k
            exact ⟨m + 1, by simpa using hm, by omega, hpm⟩

/-! ## Joining values -/

/-- Values joined by one word. -/
def Join.holds : Join → List Bool → Bool
  | .and, values => values.all id
  | .or, values => values.any id

/-- The values that there are, joined by one word.  There is no value if there are none. -/
def Join.combine (word : Join) (values : List (Option Bool)) : Option Bool :=
  if values.reduceOption = [] then none else some (word.holds values.reduceOption)

/-- Each value that there is equals `b`: joined by any word they give `b`. -/
lemma Join.combine_of_forall (word : Join) {values : List (Option Bool)} {b : Bool}
    (hsome : some b ∈ values) (hvalues : ∀ v, some v ∈ values → v = b) :
    word.combine values = some b := by
  simp only [← List.reduceOption_mem_iff] at hsome hvalues
  have hne : values.reduceOption.length ≠ 0 := by
    simpa using List.ne_nil_of_mem hsome
  rw [combine, if_neg (List.ne_nil_of_mem hsome), List.eq_replicate_of_mem hvalues]
  cases word with
  | and => simp [holds, hne]
  | or => simp [holds, hne]

lemma Join.combine_and_of_mem_false {values : List (Option Bool)} (hfalse : some false ∈ values) :
    Join.and.combine values = some false := by
  rw [← List.reduceOption_mem_iff] at hfalse
  rw [combine, if_neg (List.ne_nil_of_mem hfalse)]
  simpa [holds] using hfalse

/-- The value of a row, if it has any entry. -/
def readRow? (row : List (Join × Bool)) : Option Bool :=
  if row = [] then none else some (readRow row)

lemma reduceOption_map_readRow? (rows : List (List (Join × Bool))) :
    (rows.map readRow?).reduceOption = (rows.filter fun row => !row.isEmpty).map readRow := by
  induction rows with
  | nil => rfl
  | cons row rows ih => cases row <;> simp [readRow?, ih]

/-- Unless `AND` joins two rows or more with an `OR` in them, rows may be read before or after they
are joined. -/
lemma Join.combine_map_readRow? {word : Join} {rows : List (List (Join × Bool))}
    (hrows : ∀ row ∈ rows, HeadedBy word row)
    (hsound : word = .and → 2 ≤ rows.countP (fun row => !row.isEmpty) →
      ∀ row ∈ rows, ∀ entry ∈ row, entry.1 = .and) :
    word.combine (rows.map readRow?) = readRow? rows.flatten := by
  have hkept : ∀ row ∈ rows.filter fun row => !row.isEmpty, row ∈ rows ∧ row ≠ [] := by
    intro row hrow
    simpa using hrow
  rw [combine, reduceOption_map_readRow?, ← List.flatten_filter_not_isEmpty, readRow?]
  rw [List.countP_eq_length_filter] at hsound
  generalize rows.filter (fun row => !row.isEmpty) = kept at hsound hkept
  rcases eq_or_ne kept [] with rfl | hne
  · rfl
  have hflat : kept.flatten ≠ [] := by
    obtain ⟨row, hrow⟩ := List.exists_mem_of_ne_nil kept hne
    exact fun h => (hkept row hrow).2 (List.flatten_eq_nil_iff.mp h row hrow)
  rw [if_neg (by simpa using hne), if_neg hflat]
  congr 1
  cases word with
  | or =>
      rw [readRow_flatten_or fun row hrow => hrows row (hkept row hrow).1]
      simp [holds]
  | and =>
      rw [holds, List.all_map, Function.id_comp]
      rcases Nat.lt_or_ge kept.length 2 with hfew | hmany
      · obtain ⟨row, rfl⟩ : ∃ row, kept = [row] := by
          have hpos := List.length_pos_iff.mpr hne
          exact List.length_eq_one_iff.mp (by omega)
        simp
      · rw [readRow_flatten_and hne (fun row hrow => (hkept row hrow).2)
          fun row hrow => hsound rfl hmany row (hkept row hrow).1]

end FilterQuery
