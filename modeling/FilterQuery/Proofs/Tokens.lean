import Mathlib.Data.List.Basic
import FilterQuery.Proofs.FlatForm

/-!
# Tokens

The tokens of a text are its pieces between spaces.  Cutting a text at spaces turns a concatenation
with a space into a concatenation of tokens (`tokens_append`), and so the parts of a text become
parts of a list, as long as names have no spaces.

## Reading from the front

The lemmas `…_append_inj` say that something can be read off the front of a list of tokens, without
knowing where it ends: if the tokens of two things, each with something after it, are the same, then
the two things are the same, and so is what follows.  They are proved for lists with commas, for
operators, for placeholders, for comparisons, and at last for the `WHERE` clause of a filter, which
goes on as long as a joining word comes next.

A list of placeholders shows its length and nothing else of the values, so what is read off a
comparison is its `Shape`.  The values are found among the bind values (`eq_of_shape_eq`).
-/

namespace FilterQuery

/-- A token: a piece of text between two spaces. -/
abbrev Token := List Char

/-- The tokens of a text.  Two spaces in a row have an empty token between them. -/
def tokens (text : String) : List Token :=
  text.toList.splitOn ' '

lemma tokens_append (front back : String) :
    tokens (front ++ " " ++ back) = tokens front ++ tokens back := by
  simp only [tokens, String.toList_append, List.append_assoc]
  exact List.splitOn_append_cons_self _ _

lemma tokens_of_notMem {text : String} (htext : ' ' ∉ text.toList) :
    tokens text = [text.toList] :=
  List.splitOn_eq_singleton htext

lemma tokens_intercalate {texts : List String} (hne : texts ≠ []) :
    tokens (" ".intercalate texts) = texts.flatMap tokens := by
  induction texts with
  | nil => exact absurd rfl hne
  | cons text texts ih =>
      cases texts with
      | nil => simp
      | cons next texts =>
          rw [String.intercalate_cons_cons, tokens_append, ih (by simp), ← List.flatMap_cons]

/-! ## Lists with commas -/

lemma tokens_intercalate_cons_cons (text next : String) (texts : List String) (stop : String) :
    tokens (", ".intercalate (text :: next :: texts) ++ stop) =
      tokens (text ++ ",") ++ tokens (", ".intercalate (next :: texts) ++ stop) := by
  have hsplit : ", ".intercalate (text :: next :: texts) ++ stop =
      text ++ "," ++ " " ++ (", ".intercalate (next :: texts) ++ stop) := by
    simp [String.intercalate_cons_cons, ← String.toList_inj]
  rw [hsplit, tokens_append]

/-- A list with commas can be read off the front of any tokens, if each element can, and if the
comma after an element tells whether the list goes on. -/
lemma intercalate_append_inj {α : Type} {P : α → Prop} {text : α → String}
    (hread : ∀ stop ∈ ["", ","], ∀ x y, P x → P y → ∀ r s : List Token,
      tokens (text x ++ stop) ++ r = tokens (text y ++ stop) ++ s → x = y ∧ r = s)
    (hcomma : ∀ x y, P x → P y → ∀ r s : List Token,
      tokens (text x ++ ",") ++ r ≠ tokens (text y ++ "") ++ s)
    {xs ys : List α} (hxs : ∀ x ∈ xs, P x) (hys : ∀ y ∈ ys, P y) (hxne : xs ≠ []) (hyne : ys ≠ [])
    {r s : List Token}
    (h : tokens (", ".intercalate (xs.map text)) ++ r =
      tokens (", ".intercalate (ys.map text)) ++ s) :
    xs = ys ∧ r = s := by
  rw [← String.append_empty (s := ", ".intercalate (xs.map text)),
    ← String.append_empty (s := ", ".intercalate (ys.map text))] at h
  induction xs generalizing ys with
  | nil => exact absurd rfl hxne
  | cons x xs ih =>
      obtain ⟨y, ys, rfl⟩ := List.exists_cons_of_ne_nil hyne
      have hx := hxs x (by simp)
      have hy := hys y (by simp)
      rcases xs with _ | ⟨x', xs⟩ <;> rcases ys with _ | ⟨y', ys⟩ <;>
        simp only [List.map_cons, List.map_nil, String.intercalate_singleton,
          tokens_intercalate_cons_cons, List.append_assoc] at h
      · obtain ⟨rfl, rfl⟩ := hread "" (by simp) x y hx hy r s h
        exact ⟨rfl, rfl⟩
      · exact absurd h.symm (hcomma y x hy hx _ _)
      · exact absurd h (hcomma x y hx hy _ _)
      · obtain ⟨rfl, hrest⟩ := hread "," (by simp) x y hx hy _ _ h
        obtain ⟨htail, rfl⟩ := ih (fun e he => hxs e (List.mem_cons_of_mem _ he))
          (fun e he => hys e (List.mem_cons_of_mem _ he)) (by simp) (by simp) hrest
        exact ⟨by rw [htail], rfl⟩

/-! ## Operators and placeholders -/

lemma Operator.tokens_append_inj {op op' : Operator} {r s : List Token}
    (h : tokens op.sql ++ r = tokens op'.sql ++ s) : op = op' ∧ r = s := by
  -- Only `NOT IN` has a second token, and no operator is called `NOT`.
  have htokens : ∀ op : Operator, tokens op.sql =
      if op = .notIn then ["NOT".toList, "IN".toList] else [op.sql.toList] := by
    intro op
    cases op <;> decide
  have hnot : ∀ op : Operator, op.sql.toList ≠ "NOT".toList := by
    intro op
    cases op <;> decide
  rw [htokens, htokens] at h
  by_cases hop : op = .notIn <;> by_cases hop' : op' = .notIn <;>
    simp only [hop, hop', if_true, if_false, List.cons_append, List.nil_append,
      List.cons.injEq, true_and] at h
  · exact ⟨hop.trans hop'.symm, h⟩
  · exact absurd h.1.symm (hnot op')
  · exact absurd h.1 (hnot op)
  · exact ⟨sql_inj (String.toList_inj.mp h.1), h.2⟩

/-- The tokens of a list of placeholders, up to the closing parenthesis. -/
def markTail : Nat → List Token
  | 0 => [")".toList]
  | 1 => ["?)".toList]
  | n + 2 => "?,".toList :: markTail (n + 1)

lemma tokens_marks (n : Nat) :
    tokens (", ".intercalate (List.replicate n placeholder) ++ ")") = markTail n := by
  induction n with
  | zero => decide
  | succ n ih =>
      cases n with
      | zero => decide
      | succ n =>
          rw [List.replicate_succ, List.replicate_succ, tokens_intercalate_cons_cons,
            ← List.replicate_succ, ih]
          rfl

lemma markTail_append_inj {m n : Nat} {r s : List Token}
    (h : markTail m ++ r = markTail n ++ s) : m = n ∧ r = s := by
  induction m using markTail.induct generalizing n with
  | case1 => rcases n with _ | _ | n <;> simp_all [markTail]
  | case2 => rcases n with _ | _ | n <;> simp_all [markTail]
  | case3 m ih =>
      rcases n with _ | _ | n
      · simp [markTail] at h
      · simp [markTail] at h
      · simp only [markTail, List.cons_append, List.cons.injEq, true_and] at h
        obtain ⟨hmn, hrs⟩ := ih h
        exact ⟨by omega, hrs⟩

/-! ## Comparisons -/

/-- What the text of a comparison shows: everything but the values.  A list that is spread shows
its length. -/
structure Shape where
  field : String
  operator : Operator
  length? : Option Nat

/-- The shape of a comparison. -/
def Comparison.shape (c : Comparison) : Shape :=
  ⟨c.field, c.operator, (c.operator.spread? c.value).map List.length⟩

/-- The tokens of placeholders: a single one, or a list of them in parentheses. -/
def markTokens : Option Nat → List Token
  | none => [placeholder.toList]
  | some n => (markTail n).modifyHead ('(' :: ·)

/-- The tokens of a comparison of some shape. -/
def Shape.tokens (shape : Shape) : List Token :=
  shape.field.toList :: (FilterQuery.tokens shape.operator.sql ++ markTokens shape.length?)

lemma tokens_marks_eq (op : Operator) (value : Value) :
    tokens (op.marks value) = markTokens ((op.spread? value).map List.length) := by
  rw [Operator.marks]
  cases op.spread? value with
  | none => decide
  | some items =>
      simp only [List.map_const', Option.map_some, markTokens, ← tokens_marks]
      rw [String.append_assoc, tokens, String.toList_append]
      exact List.splitOn_cons_eq_if_modifyHead '(' _

lemma Comparison.tokens_sql {c : Comparison} (hc : ' ' ∉ c.field.toList) :
    tokens c.fragment.sql = c.shape.tokens := by
  rw [fragment, tokens_append, tokens_append, tokens_of_notMem hc, tokens_marks_eq]
  rfl

lemma markTokens_append_inj {m? n? : Option Nat} {r s : List Token}
    (h : markTokens m? ++ r = markTokens n? ++ s) : m? = n? ∧ r = s := by
  have hne : ∀ n, ∃ head rest, markTail n = head :: rest := by
    intro n
    rcases n with _ | _ | n <;> exact ⟨_, _, rfl⟩
  cases m? with
  | none =>
      cases n? with
      | none => simpa [markTokens] using h
      | some n =>
          obtain ⟨head, rest, hn⟩ := hne n
          simp [markTokens, hn, placeholder] at h
  | some m =>
      obtain ⟨head, rest, hm⟩ := hne m
      cases n? with
      | none => simp [markTokens, hm, placeholder] at h
      | some n =>
          obtain ⟨head', rest', hn⟩ := hne n
          have htail : markTail m ++ r = markTail n ++ s := by
            simpa [markTokens, hm, hn] using h
          obtain ⟨rfl, rfl⟩ := markTail_append_inj htail
          exact ⟨rfl, rfl⟩

lemma Shape.tokens_append_inj {a b : Shape} {r s : List Token}
    (h : a.tokens ++ r = b.tokens ++ s) : a = b ∧ r = s := by
  obtain ⟨field, operator, length?⟩ := a
  obtain ⟨field', operator', length?'⟩ := b
  simp only [tokens, List.cons_append, List.append_assoc, List.cons.injEq, String.toList_inj] at h
  obtain ⟨rfl, hrest⟩ := h
  obtain ⟨rfl, hmarks⟩ := Operator.tokens_append_inj hrest
  obtain ⟨rfl, rfl⟩ := markTokens_append_inj hmarks
  exact ⟨rfl, rfl⟩

/-- The shape says how many values a comparison binds, and these give its value back. -/
lemma Comparison.binds_append_inj {c d : Comparison} (hshape : c.shape = d.shape)
    {r s : List Value}
    (h : c.operator.binds c.value ++ r = d.operator.binds d.value ++ s) : c = d ∧ r = s := by
  obtain ⟨field, op, value⟩ := c
  obtain ⟨field', op', value'⟩ := d
  simp only [shape, Shape.mk.injEq] at hshape
  obtain ⟨rfl, rfl, hlength⟩ := hshape
  simp only [Operator.binds] at h
  cases hv : op.spread? value with
  | none =>
      rw [hv] at h hlength
      have hv' : op.spread? value' = none := by simpa using hlength.symm
      obtain ⟨rfl, rfl⟩ : value = value' ∧ r = s := by simpa [hv'] using h
      exact ⟨rfl, rfl⟩
  | some items =>
      rw [hv] at h hlength
      obtain ⟨items', hv', hitems⟩ := Option.map_eq_some_iff.mp hlength.symm
      rw [hv'] at h
      obtain ⟨rfl, rfl⟩ := List.append_inj h hitems.symm
      rw [(Operator.spread?_eq_some_iff.mp hv).2, (Operator.spread?_eq_some_iff.mp hv').2]
      exact ⟨rfl, rfl⟩

/-- Comparisons of equal shapes with the same bind values are the same comparisons. -/
lemma eq_of_shape_eq {cs ds : List Comparison}
    (hshape : cs.map Comparison.shape = ds.map Comparison.shape)
    (hbinds : cs.flatMap (fun c => c.operator.binds c.value) =
      ds.flatMap fun d => d.operator.binds d.value) : cs = ds := by
  induction cs generalizing ds with
  | nil => simpa using hshape.symm
  | cons c cs ih =>
      obtain ⟨d, ds, rfl⟩ := List.exists_cons_of_ne_nil (l := ds) (by rintro rfl; simp at hshape)
      simp only [List.map_cons, List.cons.injEq] at hshape
      obtain ⟨hhead, htail⟩ := hshape
      rw [List.flatMap_cons, List.flatMap_cons] at hbinds
      obtain ⟨rfl, hrest⟩ := Comparison.binds_append_inj hhead hbinds
      rw [ih htail hrest]

/-! ## Comparisons in a row -/

/-- The tokens of a text that is continued by words and further texts. -/
lemma tokens_append_join (text : String) (links : List (Join × String)) :
    tokens (text ++ String.join (links.map fun (word, next) => " " ++ word.sql ++ " " ++ next)) =
      tokens text ++ links.flatMap fun (word, next) => word.sql.toList :: tokens next := by
  induction links generalizing text with
  | nil => simp
  | cons link links ih =>
      obtain ⟨word, next⟩ := link
      have hword : tokens word.sql = [word.sql.toList] :=
        tokens_of_notMem (by cases word <;> decide)
      have hsplit : text ++ String.join (((word, next) :: links).map
            fun (word, next) => " " ++ word.sql ++ " " ++ next) =
          text ++ " " ++ word.sql ++ " " ++ (next ++ String.join (links.map
            fun (word, next) => " " ++ word.sql ++ " " ++ next)) := by
        simp [String.append_assoc]
      rw [hsplit, tokens_append, tokens_append, hword, ih]
      simp

/-- The tokens of comparisons that follow another one, each with the word in front of it. -/
def linkTokens (links : List (Join × Shape)) : List Token :=
  links.flatMap fun (word, shape) => word.sql.toList :: shape.tokens

/-- Tokens that neither begin a `WHERE` clause nor go on with one. -/
def Stops (r : List Token) : Prop :=
  ∀ token ∈ r.head?, token ≠ "WHERE".toList ∧ ∀ word : Join, token ≠ word.sql.toList

lemma linkTokens_append_inj {xs ys : List (Join × Shape)} {r s : List Token} (hr : Stops r)
    (hs : Stops s) (h : linkTokens xs ++ r = linkTokens ys ++ s) : xs = ys ∧ r = s := by
  induction xs generalizing ys with
  | nil =>
      cases ys with
      | nil => exact ⟨rfl, h⟩
      | cons y ys =>
          obtain rfl : r = _ := h
          exact absurd rfl ((hr y.1.sql.toList (by simp [linkTokens])).2 y.1)
  | cons x xs ih =>
      cases ys with
      | nil =>
          obtain rfl : _ = s := h
          exact absurd rfl ((hs x.1.sql.toList (by simp [linkTokens])).2 x.1)
      | cons y ys =>
          obtain ⟨word, shape⟩ := x
          obtain ⟨word', shape'⟩ := y
          simp only [linkTokens, List.flatMap_cons, List.cons_append, List.append_assoc,
            List.cons.injEq] at h
          obtain ⟨hword, hrest⟩ := h
          obtain rfl := Join.sql_inj (String.toList_inj.mp hword)
          obtain ⟨rfl, hlinks⟩ := Shape.tokens_append_inj hrest
          obtain ⟨rfl, rfl⟩ := ih hlinks
          exact ⟨rfl, rfl⟩

namespace Filter

/-- The shapes that follow the first one, each with the word in front of it. -/
def links (filter : Filter) : List (Join × Shape) :=
  filter.outline.words.zip (filter.comparisons.tail.map Comparison.shape)

lemma map_fst_links (filter : Filter) : filter.links.map Prod.fst = filter.outline.words := by
  rw [links, List.map_fst_zip]
  simp [length_words_outline]

lemma map_snd_links (filter : Filter) :
    filter.links.map Prod.snd = filter.comparisons.tail.map Comparison.shape := by
  rw [links, List.map_snd_zip]
  simp [length_words_outline]

/-- The tokens of the `WHERE` clause. -/
def clauseTokens (filter : Filter) : List Token :=
  match filter.comparisons with
  | [] => []
  | first :: _ => "WHERE".toList :: (first.shape.tokens ++ linkTokens filter.links)

lemma tokens_whereClause {filter : Filter} (hne : filter.comparisons ≠ [])
    (hfields : ∀ c ∈ filter.comparisons, ' ' ∉ c.field.toList) :
    tokens filter.whereClause.value.sql = filter.clauseTokens := by
  have hsql := filter.sql_compile
  rw [value_compile] at hsql
  obtain ⟨first, rest, hcs⟩ := List.exists_cons_of_ne_nil hne
  have hfirst : tokens first.fragment.sql = first.shape.tokens :=
    Comparison.tokens_sql (hfields first (by simp [hcs]))
  have hlinks : ((filter.outline.words.zip (rest.map fun c => c.fragment.sql)).flatMap
        fun (word, next) => word.sql.toList :: tokens next) = linkTokens filter.links := by
    rw [linkTokens, links, hcs, List.tail_cons, List.zip_map_right, List.zip_map_right,
      List.flatMap_map, List.flatMap_map]
    refine List.flatMap_congr fun (word, c) hlink => ?_
    have hc : c ∈ filter.comparisons := by
      rw [hcs]
      exact List.mem_cons_of_mem _ (List.of_mem_zip hlink).2
    simp [Comparison.tokens_sql (hfields c hc)]
  have hwhere : "WHERE " ++ filter.outline.fragment.sql =
      "WHERE" ++ " " ++ filter.outline.fragment.sql := by
    rw [show "WHERE " = "WHERE" ++ " " by decide]
  have hkeyword : tokens "WHERE" = ["WHERE".toList] := by decide
  rw [value_whereClause, if_neg hne, clauseTokens, hwhere, tokens_append, hkeyword, hsql, hcs,
    List.map_cons, flatText, tokens_append_join, hfirst, hlinks]
  rfl

/-- The `WHERE` clause can be read off the front of tokens that do not go on with it. -/
lemma clauseTokens_append_inj {f g : Filter} {r s : List Token} (hr : Stops r) (hs : Stops s)
    (h : f.clauseTokens ++ r = g.clauseTokens ++ s) :
    f.comparisons.map Comparison.shape = g.comparisons.map Comparison.shape ∧
      f.outline.words = g.outline.words ∧ r = s := by
  have hnone : ∀ filter : Filter, filter.comparisons = [] → filter.outline.words = [] := by
    intro filter hempty
    have hlength := filter.length_words_outline
    simpa [hempty] using hlength
  rw [clauseTokens, clauseTokens] at h
  rcases hf : f.comparisons with _ | ⟨c, cs⟩ <;> rcases hg : g.comparisons with _ | ⟨d, ds⟩ <;>
    rw [hf, hg] at h
  · exact ⟨rfl, by rw [hnone f hf, hnone g hg], by simpa using h⟩
  · obtain rfl : r = _ := h
    exact absurd rfl (hr "WHERE".toList rfl).1
  · obtain rfl : _ = s := h
    exact absurd rfl (hs "WHERE".toList rfl).1
  · simp only [List.cons_append, List.append_assoc, List.cons.injEq, true_and] at h
    obtain ⟨hshape, hrest⟩ := Shape.tokens_append_inj h
    obtain ⟨hlinks, rfl⟩ := linkTokens_append_inj hr hs hrest
    have htail : cs.map Comparison.shape = ds.map Comparison.shape := by
      have hsnd := congrArg (List.map Prod.snd) hlinks
      simpa [map_snd_links, hf, hg] using hsnd
    have hwords : f.outline.words = g.outline.words := by
      rw [← map_fst_links, ← map_fst_links, hlinks]
    exact ⟨by rw [List.map_cons, List.map_cons, hshape, htail], hwords, rfl⟩

end Filter

end FilterQuery
