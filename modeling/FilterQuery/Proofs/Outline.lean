import Mathlib.Tactic.Common
import FilterQuery.Comparison

/-!
# Outlines

A filter has three kinds of inner levels, fields, groups and sequences, and all three do the same
when they are compiled: they put their non-empty parts next to each other with one joining word.
An *outline* is the tree in which only that is left.  Its leaves are comparisons, and a node has
its parts and the word between them.  Parts that say nothing stay in the outline: they leave no
trace in the text, but they count for the places of their neighbours.

## Reading an outline from left to right

`Outline.leaves` lists the comparisons, each with its `Place`: the numbers of the parts that lead
to it from the root.  The word between two comparisons is that of their lowest common ancestor,
which is the node at the longest common beginning of their places (`Outline.wordBetween`), and
`Outline.words` lists the words between neighbours.

## Rows

`Outline.row` is the same as one list: each comparison with the word in front of it.  Rows exist
because lowest common ancestors are awkward in an induction, while the row of a node is simply that
of its parts, one after the other, with the word of the node wherever two parts meet
(`Outline.row_node`).  The text that a tree recursion puts together is that of the row
(`Outline.text_eq_rowText`), so whatever is to be known about flat text is proved about lists.
-/

namespace FilterQuery

/-- The texts that are not empty, with the word between any two neighbours. -/
def Join.interpose (word : Join) (texts : List String) : String :=
  (" " ++ word.sql ++ " ").intercalate (texts.filter fun text => !text.isEmpty)

/-- The levels of a filter: comparisons, and nodes whose parts are joined by one word. -/
inductive Outline where
  | leaf (comparison : Comparison)
  | node (join : Join) (parts : List Outline)

/-- A way down from the root of an outline: which part to take at each node, from zero. -/
abbrev Place := List Nat

/-- The longest common beginning of two places. -/
def Place.meet : Place → Place → Place
  | i :: p, k :: q => if i = k then i :: meet p q else []
  | _, _ => []

/-- A comparison at its place in an outline. -/
structure Occurrence where
  place : Place
  comparison : Comparison

/-- An occurrence in the part number `i` of a node, seen from the node. -/
def Occurrence.within (i : Nat) (occurrence : Occurrence) : Occurrence :=
  { occurrence with place := i :: occurrence.place }

namespace Outline

@[elab_as_elim, induction_eliminator]
theorem induct {motive : Outline → Prop} (leaf : ∀ comparison, motive (.leaf comparison))
    (node : ∀ join parts, (∀ part ∈ parts, motive part) → motive (.node join parts)) :
    ∀ outline, motive outline
  | .leaf comparison => leaf comparison
  | .node join parts => node join parts fun part _ => induct leaf node part

/-- The text of an outline whose comparisons are written by `write`. -/
def text (write : Comparison → String) : Outline → String
  | leaf comparison => write comparison
  | node join parts => join.interpose (parts.map (text write))

/-- The comparisons with their places, from left to right. -/
def leaves : Outline → List Occurrence
  | leaf comparison => [⟨[], comparison⟩]
  | node _ parts => ((parts.map leaves).mapIdx fun i found => found.map (·.within i)).flatten

/-- The comparisons, from left to right. -/
def comparisons (outline : Outline) : List Comparison :=
  outline.leaves.map Occurrence.comparison

/-- The outline at a place, if there is one. -/
def at? : Outline → Place → Option Outline
  | outline, [] => some outline
  | leaf _, _ :: _ => none
  | node _ parts, i :: place => parts[i]?.bind fun part => part.at? place

/-- The joining word of a node. -/
def join : Outline → Join
  | leaf _ => .and
  | node join _ => join

/-- The word of the lowest common ancestor of two places. -/
def wordBetween (outline : Outline) (p q : Place) : Join :=
  ((outline.at? (p.meet q)).map join).getD .and

/-- The words between neighbouring comparisons. -/
def words (outline : Outline) : List Join :=
  List.zipWith (fun a b => outline.wordBetween a.place b.place) outline.leaves outline.leaves.tail

@[simp] lemma comparisons_leaf (c : Comparison) : (leaf c).comparisons = [c] := by
  simp [comparisons, leaves]

@[simp] lemma comparisons_node (join : Join) (parts : List Outline) :
    (node join parts).comparisons = parts.flatMap comparisons := by
  rw [comparisons, leaves, List.map_flatten, List.flatMap]
  congr 1
  refine List.ext_getElem (by simp) fun i _ _ => ?_
  simp [comparisons, Occurrence.within, Function.comp_def]

/-! ## The word between two places -/

lemma wordBetween_within {join : Join} {parts : List Outline} {i : Nat} (hi : i < parts.length)
    (p q : Place) :
    (node join parts).wordBetween (i :: p) (i :: q) = parts[i].wordBetween p q := by
  simp [wordBetween, Place.meet, at?, List.getElem?_eq_getElem hi]

lemma wordBetween_apart (word : Join) (parts : List Outline) {i k : Nat} (hik : i ≠ k)
    (p q : Place) : (node word parts).wordBetween (i :: p) (k :: q) = word := by
  simp [wordBetween, Place.meet, at?, hik, join]

end Outline

/-! ## Lists with words between their elements -/

section Linked

variable {α β : Type}

/-- A list with the words between its elements: each element is paired with the word in front of
it, and the first with `lead`. -/
def linked (between : α → α → Join) (lead : Join) (xs : List α) : List (Join × α) :=
  (lead :: List.zipWith between xs xs.tail).zip xs

@[simp] lemma linked_nil (f : α → α → Join) (lead : Join) : linked f lead [] = [] := rfl

@[simp] lemma linked_singleton (f : α → α → Join) (lead : Join) (x : α) :
    linked f lead [x] = [(lead, x)] := rfl

@[simp] lemma linked_cons_cons (f : α → α → Join) (lead : Join) (x y : α) (ys : List α) :
    linked f lead (x :: y :: ys) = (lead, x) :: linked f (f x y) (y :: ys) := rfl

@[simp] lemma map_snd_linked (f : α → α → Join) (lead : Join) (xs : List α) :
    (linked f lead xs).map Prod.snd = xs := by
  induction xs generalizing lead with
  | nil => rfl
  | cons x xs ih =>
      cases xs with
      | nil => rfl
      | cons y ys => simp [ih]

lemma linked_map (g : β → α) (f : α → α → Join) (lead : Join) (xs : List β) :
    linked f lead (xs.map g) =
      (linked (fun a b => f (g a) (g b)) lead xs).map (Prod.map id g) := by
  induction xs generalizing lead with
  | nil => rfl
  | cons x xs ih =>
      cases xs with
      | nil => rfl
      | cons y ys => simpa using ih (f (g x) (g y))

lemma linked_append {f : α → α → Join} {word : Join} {xs ys : List α}
    (hf : ∀ a ∈ xs, ∀ b ∈ ys, f a b = word) (hxs : xs ≠ []) (lead : Join) :
    linked f lead (xs ++ ys) = linked f lead xs ++ linked f word ys := by
  induction xs generalizing lead with
  | nil => exact absurd rfl hxs
  | cons x xs ih =>
      cases xs with
      | nil =>
          cases ys with
          | nil => rfl
          | cons y ys => simp [hf x (by simp) y (by simp)]
      | cons x' xs =>
          have htail := ih (fun a ha => hf a (by simp [ha])) (by simp) (f x x')
          simpa using htail

/-- Blocks of elements with the same word between any two blocks: the list of all of them is that
of the blocks, one after the other. -/
lemma linked_flatten {f : α → α → Join} {word : Join} {blocks : List (List α)}
    (hf : blocks.Pairwise fun xs ys => ∀ a ∈ xs, ∀ b ∈ ys, f a b = word) :
    linked f word blocks.flatten = (blocks.map (linked f word)).flatten := by
  induction blocks with
  | nil => rfl
  | cons xs blocks ih =>
      obtain ⟨hhead, htail⟩ := List.pairwise_cons.mp hf
      rw [List.flatten_cons, List.map_cons, List.flatten_cons, ← ih htail]
      rcases eq_or_ne xs [] with rfl | hxs
      · simp
      · refine linked_append (fun a ha b hb => ?_) hxs word
        obtain ⟨ys, hys, hmem⟩ := List.mem_flatten.mp hb
        exact hhead ys hys a ha b hmem

/-- The word in front of the first element, if there is one, is `word`. -/
def HeadedBy (word : Join) (row : List (Join × α)) : Prop :=
  ∀ head ∈ row.head?, head.1 = word

lemma headedBy_linked (f : α → α → Join) (lead : Join) (xs : List α) :
    HeadedBy lead (linked f lead xs) := by
  rcases xs with _ | ⟨x, _ | ⟨y, ys⟩⟩ <;> simp [HeadedBy]

lemma HeadedBy.map {word : Join} {row : List (Join × α)} (hrow : HeadedBy word row) (g : α → β) :
    HeadedBy word (row.map (Prod.map id g)) := by
  cases row with
  | nil => simp [HeadedBy]
  | cons first row => simpa [HeadedBy] using hrow

lemma HeadedBy.flatten {word : Join} {rows : List (List (Join × α))}
    (hrows : ∀ row ∈ rows, HeadedBy word row) : HeadedBy word rows.flatten := by
  intro head hhead
  rw [List.head?_flatten] at hhead
  obtain ⟨row, hrow, hfirst⟩ := List.exists_of_findSome?_eq_some hhead
  exact hrows row hrow head hfirst

end Linked

/-! ## Rows -/

namespace Outline

/-- The comparisons, each with the word in front of it, and `lead` in front of the first. -/
def row (lead : Join) (outline : Outline) : List (Join × Occurrence) :=
  linked (fun a b => outline.wordBetween a.place b.place) lead outline.leaves

/-- The rows of the parts of a node, seen from the node. -/
def partRows (word : Join) (parts : List Outline) : List (List (Join × Occurrence)) :=
  parts.mapIdx fun i part => (part.row word).map (Prod.map id (·.within i))

lemma row_eq_zip (lead : Join) (outline : Outline) :
    outline.row lead = (lead :: outline.words).zip outline.leaves := rfl

@[simp] lemma row_leaf (lead : Join) (comparison : Comparison) :
    (leaf comparison).row lead = [(lead, ⟨[], comparison⟩)] := by
  simp [row, leaves]

@[simp] lemma map_snd_row (lead : Join) (outline : Outline) :
    (outline.row lead).map Prod.snd = outline.leaves := by
  simp [row]

lemma row_eq_nil_iff (lead : Join) (outline : Outline) :
    outline.row lead = [] ↔ outline.comparisons = [] := by
  rw [comparisons, ← map_snd_row lead outline, List.map_map, List.map_eq_nil_iff]

lemma map_fst_row (lead : Join) (outline : Outline) :
    (outline.row lead).map Prod.fst =
      if outline.comparisons = [] then [] else lead :: outline.words := by
  rw [row_eq_zip, words, comparisons]
  rcases outline.leaves with _ | ⟨a, rest⟩
  · rfl
  · simp [List.map_fst_zip]

lemma headedBy_of_mem_partRows {word : Join} {parts : List Outline} :
    ∀ row ∈ partRows word parts, HeadedBy word row := by
  intro row hrow
  obtain ⟨i, hi, rfl⟩ := List.mem_mapIdx.mp hrow
  exact (headedBy_linked _ word _).map _

/-- **The row of a node** is that of its parts, one after the other, with the word of the node
where two parts meet. -/
theorem row_node (word : Join) (parts : List Outline) :
    (node word parts).row word = (partRows word parts).flatten := by
  have happart : ((parts.map leaves).mapIdx fun i found => found.map (·.within i)).Pairwise
      fun xs ys => ∀ a ∈ xs, ∀ b ∈ ys,
        (node word parts).wordBetween a.place b.place = word := by
    rw [List.pairwise_iff_getElem]
    intro i k hi hk hik a ha b hb
    simp only [List.getElem_mapIdx, List.mem_map] at ha hb
    obtain ⟨a', -, rfl⟩ := ha
    obtain ⟨b', -, rfl⟩ := hb
    exact wordBetween_apart word parts (Nat.ne_of_lt hik) a'.place b'.place
  rw [row, leaves, linked_flatten happart]
  congr 1
  refine List.ext_getElem (by simp [partRows]) fun i hi _ => ?_
  have hparts : i < parts.length := by simpa using hi
  simp only [partRows, List.getElem_map, List.getElem_mapIdx, linked_map, Occurrence.within, row,
    wordBetween_within hparts]

end Outline

/-! ## Texts of rows -/

section RowText

variable {write : Comparison → String}

/-- The texts of a row, each with its word in front of it. -/
def rowTail (write : Comparison → String) (row : List (Join × Occurrence)) : String :=
  String.join (row.map fun (word, occurrence) =>
    " " ++ word.sql ++ " " ++ write occurrence.comparison)

/-- The text of a row.  The word in front of the first comparison is left out. -/
def rowText (write : Comparison → String) : List (Join × Occurrence) → String
  | [] => ""
  | (_, occurrence) :: rest => write occurrence.comparison ++ rowTail write rest

lemma rowText_eq_empty_iff (hwrite : ∀ c, write c ≠ "") (row : List (Join × Occurrence)) :
    rowText write row = "" ↔ row = [] := by
  cases row with
  | nil => simp [rowText]
  | cons head rest => simp [rowText, hwrite]

lemma rowText_map_within (i : Nat) (row : List (Join × Occurrence)) :
    rowText write (row.map (Prod.map id (·.within i))) = rowText write row := by
  cases row with
  | nil => rfl
  | cons first row => simp [rowText, rowTail, Occurrence.within, Function.comp_def]

lemma Outline.rowText_row_congr (lead lead' : Join) (outline : Outline) :
    rowText write (outline.row lead) = rowText write (outline.row lead') := by
  rw [row_eq_zip, row_eq_zip]
  cases outline.leaves <;> rfl

lemma Join.interpose_cons_empty (word : Join) (texts : List String) :
    word.interpose ("" :: texts) = word.interpose texts := by
  simp [interpose]

lemma Join.interpose_cons (word : Join) {text : String} (htext : text ≠ "")
    (texts : List String) :
    word.interpose (text :: texts) =
      if word.interpose texts = "" then text
      else text ++ " " ++ word.sql ++ " " ++ word.interpose texts := by
  have hkept : (text :: texts).filter (fun t => !t.isEmpty) =
      text :: texts.filter fun t => !t.isEmpty := by
    simp [htext]
  have hmem : ∀ t ∈ texts.filter fun t => !t.isEmpty, t ≠ "" := fun t ht => by
    simpa using (List.mem_filter.mp ht).2
  rw [interpose, interpose, hkept]
  generalize (texts.filter fun t => !t.isEmpty) = kept at hmem
  cases kept with
  | nil => simp
  | cons next rest =>
      have hnext : (" " ++ word.sql ++ " ").intercalate (next :: rest) ≠ "" := by
        cases rest <;> simp [hmem next]
      rw [String.intercalate_cons_cons, if_neg hnext]
      simp only [String.append_assoc]

/-- The texts of rows that start with the word between them join to the text of the rows, one
after the other. -/
lemma interpose_map_rowText (hwrite : ∀ c, write c ≠ "") {word : Join}
    {rows : List (List (Join × Occurrence))} (hrows : ∀ row ∈ rows, HeadedBy word row) :
    word.interpose (rows.map (rowText write)) = rowText write rows.flatten := by
  induction rows with
  | nil => simp [Join.interpose, rowText]
  | cons row rows ih =>
      have hrest := ih fun row hrow => hrows row (List.mem_cons_of_mem _ hrow)
      cases row with
      | nil => simpa [rowText, Join.interpose_cons_empty] using hrest
      | cons first row =>
          obtain ⟨lead, occurrence⟩ := first
          rw [List.map_cons, Join.interpose_cons word (by simp [rowText, hwrite]), hrest,
            List.flatten_cons, List.cons_append]
          -- What follows the first row starts with `word`, if anything follows.
          have hhead := HeadedBy.flatten fun row hrow => hrows row (List.mem_cons_of_mem _ hrow)
          rcases hflat : rows.flatten with _ | ⟨⟨lead', next⟩, rest⟩
          · simp [rowText]
          · obtain rfl : lead' = word := hhead ⟨lead', next⟩ (by simp [hflat])
            rw [if_neg (by simp [rowText, hwrite])]
            simp [rowText, rowTail, String.append_assoc]

namespace Outline

/-- **The text of an outline** is that of its row. -/
theorem text_eq_rowText (hwrite : ∀ c, write c ≠ "") (outline : Outline) (lead : Join) :
    outline.text write = rowText write (outline.row lead) := by
  induction outline generalizing lead with
  | leaf comparison => simp [text, rowText, rowTail]
  | node word parts ih =>
      have hparts : parts.map (text write) = (partRows word parts).map (rowText write) := by
        refine List.ext_getElem (by simp [partRows]) fun i hi _ => ?_
        have hmem : i < parts.length := by simpa using hi
        simp only [partRows, List.getElem_map, List.getElem_mapIdx, rowText_map_within,
          ih _ (List.getElem_mem hmem) word]
      rw [rowText_row_congr lead word, row_node, text, hparts]
      exact interpose_map_rowText hwrite headedBy_of_mem_partRows

lemma text_eq_empty_iff (hwrite : ∀ c, write c ≠ "") (outline : Outline) :
    outline.text write = "" ↔ outline.comparisons = [] := by
  rw [text_eq_rowText hwrite outline .and, rowText_eq_empty_iff hwrite, row_eq_nil_iff]

end Outline

end RowText

end FilterQuery
