import Mathlib.Data.List.Basic
import Mathlib.Data.List.Induction
import FilterQuery.Fragment

/-!
# Joining fragments

`Fragment.join` leaves out fragments without text, so it is a fold: each fragment is glued to the
join of those behind it, and gluing has a fragment without text give way to its neighbour
(`Fragment.join_cons`).  Gluing is associative for all fragments, whether or not they come from a
filter, and whatever values a fragment without text may carry.

* `Fragment.join_append` and `Fragment.join_map_join`: fragments can be joined in groups first, as
  long as the word is the same.
* `Fragment.join_append_cons_of_isEmpty`: a fragment without text can be left out or put in
  anywhere.
* `Fragment.join_eq_foldl`: a join can also be made from front to back, the word being written
  whenever there is some text already.
-/

namespace FilterQuery

namespace Fragment

/-- Two fragments with the word between them, or one of them if the other has no text. -/
def glue (word : Join) (a b : Fragment) : Fragment :=
  if a.isEmpty then b
  else if b.isEmpty then a
  else ⟨a.sql ++ (" " ++ word.sql ++ " ") ++ b.sql, a.params ++ b.params⟩

variable (word : Join)

lemma glue_of_isEmpty_left {a : Fragment} (h : a.isEmpty = true) (b : Fragment) :
    glue word a b = b := by
  rw [glue, if_pos h]

lemma glue_of_isEmpty_right {a b : Fragment} (ha : ¬a.isEmpty = true) (hb : b.isEmpty = true) :
    glue word a b = a := by
  rw [glue, if_neg ha, if_pos hb]

lemma glue_of_not_isEmpty {a b : Fragment} (ha : ¬a.isEmpty = true) (hb : ¬b.isEmpty = true) :
    glue word a b = ⟨a.sql ++ (" " ++ word.sql ++ " ") ++ b.sql, a.params ++ b.params⟩ := by
  rw [glue, if_neg ha, if_neg hb]

lemma isEmpty_glue_iff (a b : Fragment) :
    (glue word a b).isEmpty = true ↔ a.isEmpty = true ∧ b.isEmpty = true := by
  by_cases ha : a.isEmpty = true
  · simp [glue_of_isEmpty_left word ha, ha]
  · by_cases hb : b.isEmpty = true
    · simp [glue_of_isEmpty_right word ha hb, ha]
    · rw [glue_of_not_isEmpty word ha hb]
      simp_all [isEmpty]

theorem glue_assoc (a b c : Fragment) :
    glue word (glue word a b) c = glue word a (glue word b c) := by
  by_cases ha : a.isEmpty = true
  · rw [glue_of_isEmpty_left word ha, glue_of_isEmpty_left word ha]
  have hab : ¬(glue word a b).isEmpty = true := by simp [isEmpty_glue_iff, ha]
  by_cases hb : b.isEmpty = true
  · rw [glue_of_isEmpty_right word ha hb, glue_of_isEmpty_left word hb]
  have hbc : ¬(glue word b c).isEmpty = true := by simp [isEmpty_glue_iff, hb]
  by_cases hc : c.isEmpty = true
  · rw [glue_of_isEmpty_right word hab hc, glue_of_isEmpty_right word hb hc]
  · rw [glue_of_not_isEmpty word hab hc, glue_of_not_isEmpty word ha hbc,
      glue_of_not_isEmpty word ha hb, glue_of_not_isEmpty word hb hc]
    simp only [String.append_assoc, List.append_assoc]

@[simp] lemma join_nil : join word [] = empty := rfl

lemma join_cons (fragment : Fragment) (fragments : List Fragment) :
    join word (fragment :: fragments) = glue word fragment (join word fragments) := by
  by_cases hfragment : fragment.isEmpty = true
  · rw [glue_of_isEmpty_left word hfragment]
    simp [join, hfragment]
  -- What is kept of the others decides whether the word comes next.
  have hkept : ∀ other ∈ fragments.filter (fun other => !other.isEmpty), other.sql ≠ "" := by
    intro other hother
    simpa [isEmpty] using (List.mem_filter.mp hother).2
  have hjoin : join word (fragment :: fragments) =
      ⟨(" " ++ word.sql ++ " ").intercalate
          (fragment.sql :: (fragments.filter fun other => !other.isEmpty).map sql),
        fragment.params ++ (fragments.filter fun other => !other.isEmpty).flatMap params⟩ := by
    simp [join, hfragment]
  rw [hjoin, join]
  generalize (fragments.filter fun other => !other.isEmpty) = kept at hkept
  cases kept with
  | nil =>
      rw [glue_of_isEmpty_right word hfragment rfl]
      simp
  | cons next kept =>
      have hrest : (" " ++ word.sql ++ " ").intercalate (next.sql :: kept.map sql) ≠ "" := by
        cases kept <;> simp [hkept next]
      rw [glue_of_not_isEmpty word hfragment (by simpa [isEmpty] using hrest)]
      simp only [List.map_cons, String.intercalate_cons_cons]

/-- Fragments in two groups can be joined group by group. -/
theorem join_append (front back : List Fragment) :
    join word (front ++ back) = glue word (join word front) (join word back) := by
  induction front with
  | nil => exact (glue_of_isEmpty_left word rfl _).symm
  | cons fragment front ih =>
      rw [List.cons_append, join_cons, ih, join_cons, glue_assoc]

/-- Fragments in groups can be joined group by group. -/
theorem join_map_join (groups : List (List Fragment)) :
    join word (groups.map (join word)) = join word groups.flatten := by
  induction groups with
  | nil => rfl
  | cons group groups ih =>
      rw [List.map_cons, join_cons, ih, List.flatten_cons, join_append]

/-- A join among fragments can be spliced into them. -/
lemma join_append_join_cons (front inner back : List Fragment) :
    join word (front ++ join word inner :: back) = join word (front ++ inner ++ back) := by
  rw [join_append, join_cons, join_append, join_append, glue_assoc]

/-- A fragment without text can be left out. -/
lemma join_append_cons_of_isEmpty (front back : List Fragment) {fragment : Fragment}
    (h : fragment.isEmpty = true) :
    join word (front ++ fragment :: back) = join word (front ++ back) := by
  rw [join_append, join_cons, glue_of_isEmpty_left word h, join_append]

/-- A single fragment is joined to itself, if it has no values without text. -/
lemma join_singleton {fragment : Fragment} (h : fragment.isEmpty = true → fragment = empty) :
    join word [fragment] = fragment := by
  rw [join_cons, join_nil]
  by_cases hempty : fragment.isEmpty = true
  · rw [glue_of_isEmpty_left word hempty, h hempty]
  · exact glue_of_isEmpty_right word hempty rfl

/-! ## Fragments that have text -/

/-- The fragments that have text. -/
def withText (fragments : List Fragment) : List Fragment :=
  fragments.filter fun fragment => !fragment.isEmpty

lemma join_withText (fragments : List Fragment) :
    join word (withText fragments) = join word fragments := by
  simp only [join, withText, List.filter_filter, Bool.and_self]

lemma params_join_eq_flatMap_withText (fragments : List Fragment) :
    (join word fragments).params = (withText fragments).flatMap params := rfl

/-- A join is made in one pass, which asks of the text that there is so far whether the word comes
next.  The pass must not see fragments without text: the values of one at the front would stay. -/
theorem join_eq_foldl (fragments : List Fragment) :
    join word fragments = (withText fragments).foldl (glue word) empty := by
  rw [← join_withText]
  have htext : ∀ fragment ∈ withText fragments, ¬fragment.isEmpty = true := by
    intro fragment hmem
    simpa using (List.mem_filter.mp hmem).2
  generalize withText fragments = kept at htext
  induction kept using List.reverseRecOn with
  | nil => rfl
  | append_singleton kept fragment ih =>
      rw [List.forall_mem_append, List.forall_mem_singleton] at htext
      rw [List.foldl_concat, ← ih htext.1, join_append,
        join_singleton word fun hempty => absurd hempty htext.2]

end Fragment

end FilterQuery
