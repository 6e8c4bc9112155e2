import Mathlib.Data.List.Induction
import FilterQuery.Proofs.Joining
import FilterQuery.Proofs.MarkCount

/-!
# Balanced fragments

A fragment is balanced if it has as many values as question marks.  Nothing makes a fragment that is
written by hand balanced, and a name may have question marks of its own.  But whoever starts from
balanced fragments, and from words and names without question marks, has balanced fragments ever
after.

* Joining adds up both sides of the account, over the same fragments: those that have text
  (`Fragment.params_join_eq_flatMap_withText`, `Fragment.markCount_join_eq_sum_withText`).  So a
  fragment that is left out takes its values along, and the account stays even.
* One step of a run makes a balanced fragment of balanced ones
  (`Fragment.Step.balanced_of_isFair`), and so every fragment of a run is balanced
  (`Fragment.balanced_of_mem_run`).
-/

namespace FilterQuery

namespace Fragment

/-- As many values as question marks. -/
def Balanced (fragment : Fragment) : Prop :=
  fragment.params.length = fragment.markCount

/-! ## What keeps the balance -/

lemma markCount_join (word : Join) (fragments : List Fragment) :
    (join word fragments).markCount = (fragments.map markCount).sum := by
  rw [markCount_eq, sql_join, Join.questionMarks_interpose, List.map_map]
  rfl

lemma markCount_join_eq_sum_withText (word : Join) (fragments : List Fragment) :
    (join word fragments).markCount = ((withText fragments).map markCount).sum := by
  rw [← join_withText, markCount_join]

lemma balanced_empty : Balanced empty := rfl

lemma balanced_join (word : Join) {fragments : List Fragment}
    (h : ∀ fragment ∈ fragments, fragment.Balanced) : (join word fragments).Balanced := by
  have hkept : ∀ fragment ∈ withText fragments, fragment.Balanced :=
    fun fragment hmem => h fragment (List.mem_filter.mp hmem).1
  rw [Balanced, params_join_eq_flatMap_withText, markCount_join_eq_sum_withText,
    List.length_flatMap]
  exact congrArg List.sum (List.map_congr_left hkept)

lemma balanced_prefixed {word : String} (hword : '?' ∉ word.toList) {fragment : Fragment}
    (h : fragment.Balanced) : (fragment.prefixed word).Balanced := by
  rw [prefixed]
  split
  · exact h
  · have hfront : questionMarks (word ++ " ") = 0 := by
      rw [questionMarks_append, questionMarks_eq_zero_iff.mpr hword]
      rfl
    rw [Balanced, markCount_eq, questionMarks_append, hfront, Nat.zero_add]
    exact h

end Fragment

/-- A comparison is balanced, unless the name of its field has question marks. -/
lemma Comparison.balanced_fragment {c : Comparison} (hfield : '?' ∉ c.field.toList) :
    c.fragment.Balanced := by
  rw [Fragment.Balanced, Fragment.markCount_eq, c.questionMarks_sql,
    questionMarks_eq_zero_iff.mpr hfield, Nat.add_zero]

lemma Conditions.balanced_compile {field : String} (hfield : '?' ∉ field.toList)
    (conditions : Conditions) : (conditions.compile field).value.Balanced := by
  refine Fragment.balanced_join .and (List.forall_mem_map.mpr fun c hc => ?_)
  obtain ⟨entry, -, rfl⟩ := List.mem_map.mp hc
  exact Comparison.balanced_fragment hfield

lemma Filter.balanced_whereClause {filter : Filter}
    (hfields : ∀ field ∈ filter.fields, '?' ∉ field.1.toList) :
    filter.whereClause.value.Balanced := by
  have hnone : filter.marksInFields = 0 :=
    filter.marksInFields_eq_zero_iff.mpr fun field hmem hmark => absurd hmark (hfields field hmem)
  rw [Fragment.Balanced, filter.markCount_whereClause, hnone, Nat.add_zero]

/-! ## Runs -/

namespace Fragment

/-- A step that makes a fragment.  It refers to a fragment made before it by its place, counted from
zero in the order in which they were made. -/
inductive Step where
  | new (sql : String) (params : List Value)
  | empty
  | join (word : Join) (places : List Nat)
  | prefixed (word : String) (place : Nat)
  | compiled (field : String) (conditions : Conditions)
  | clause (filter : Filter)

namespace Step

/-- The fragment that a step makes of those made before it.  Nothing stands at a place that has not
been reached yet: a join goes without it, and there is nothing to put a word in front of. -/
def fragment? (made : List Fragment) : Step → Option Fragment
  | new sql params => some ⟨sql, params⟩
  | empty => some Fragment.empty
  | join word places => some (Fragment.join word (places.filterMap fun place => made[place]?))
  | prefixed word place => made[place]?.map (Fragment.prefixed word)
  | compiled field conditions => some (conditions.compile field).value
  | clause filter => some filter.whereClause.value

/-- Whatever a step brings in is balanced: the fragment that it writes, the word that it puts in
front, the names of fields. -/
def IsFair : Step → Prop
  | new sql params => Balanced ⟨sql, params⟩
  | prefixed word _ => '?' ∉ word.toList
  | compiled field _ => '?' ∉ field.toList
  | clause filter => ∀ field ∈ filter.fields, '?' ∉ field.1.toList
  | empty | join _ _ => True

lemma balanced_of_isFair {made : List Fragment} (hmade : ∀ fragment ∈ made, fragment.Balanced)
    {step : Step} (hfair : step.IsFair) {fragment : Fragment}
    (h : step.fragment? made = some fragment) : fragment.Balanced := by
  cases step with
  | new sql params =>
      obtain rfl := Option.some.inj h
      exact hfair
  | empty =>
      obtain rfl := Option.some.inj h
      exact balanced_empty
  | join word places =>
      obtain rfl := Option.some.inj h
      refine balanced_join word fun part hpart => ?_
      obtain ⟨place, -, hplace⟩ := List.mem_filterMap.mp hpart
      exact hmade part (List.mem_of_getElem? hplace)
  | prefixed word place =>
      obtain ⟨part, hplace, rfl⟩ := Option.map_eq_some_iff.mp h
      exact balanced_prefixed hfair (hmade part (List.mem_of_getElem? hplace))
  | compiled field conditions =>
      obtain rfl := Option.some.inj h
      exact conditions.balanced_compile hfair
  | clause filter =>
      obtain rfl := Option.some.inj h
      exact Filter.balanced_whereClause hfair

end Step

/-- All fragments made by some steps, one step after the other. -/
def run (steps : List Step) : List Fragment :=
  steps.foldl (fun made step => made ++ (step.fragment? made).toList) []

lemma run_concat (steps : List Step) (step : Step) :
    run (steps ++ [step]) = run steps ++ (step.fragment? (run steps)).toList := by
  rw [run, List.foldl_concat, run]

/-- Nothing that a run makes is out of balance, if none of its steps brings an imbalance in. -/
theorem balanced_of_mem_run {steps : List Step} (hfair : ∀ step ∈ steps, step.IsFair) :
    ∀ fragment ∈ run steps, fragment.Balanced := by
  induction steps using List.reverseRecOn with
  | nil => simp [run]
  | append_singleton steps step ih =>
      rw [List.forall_mem_append, List.forall_mem_singleton] at hfair
      have hmade := ih hfair.1
      rw [run_concat, List.forall_mem_append]
      refine ⟨hmade, fun fragment hmem => ?_⟩
      exact step.balanced_of_isFair hmade hfair.2 (Option.mem_toList.mp hmem)

/-- **Joining keeps accounts.**  Any fragments can be joined group by group, with the same outcome
as all at once; those without text can be put in and left out anywhere; the values and the question
marks of a join are those of the fragments that have text.  So a run whose steps bring in as many
values as question marks, and words and names without question marks, never makes a fragment that
is out of balance. -/
theorem join_laws_and_balanced_run :
    (∀ (word : Join) (groups : List (List Fragment)),
      join word (groups.map (join word)) = join word groups.flatten) ∧
    (∀ (word : Join) (fragments others : List Fragment),
      withText fragments = withText others → join word fragments = join word others) ∧
    (∀ (word : Join) (fragments : List Fragment),
      (join word fragments).params = (withText fragments).flatMap params ∧
      (join word fragments).markCount = ((withText fragments).map markCount).sum) ∧
    ∀ steps : List Step, (∀ step ∈ steps, step.IsFair) →
      ∀ fragment ∈ run steps, fragment.params.length = fragment.markCount := by
  refine ⟨join_map_join, fun word fragments others h => ?_, fun word fragments => ?_,
    fun steps => balanced_of_mem_run⟩
  · rw [← join_withText, h, join_withText]
  · exact ⟨params_join_eq_flatMap_withText word fragments,
      markCount_join_eq_sum_withText word fragments⟩

/-- A run that uses its first fragment twice, leaves out one without text, and asks for one that
has not been made. -/
def sampleSteps : List Step :=
  [.new "a = ?" [.null],
    .empty,
    .compiled "b" ⟨[(.isIn, some (.list [.null, .bool true])), (.lt, none)], some .or⟩,
    .join .or [0, 1, 2, 0],
    .prefixed "NOT" 3,
    .clause (.sequence [.field "c" ⟨[(.equals, some .null)], none⟩, .sequence []]),
    .join .and [4, 5, 9]]

theorem join_laws_and_balanced_run_sampleSteps :
    (∀ step ∈ sampleSteps, step.IsFair) ∧
    (run sampleSteps).map (fun fragment => fragment.params.length) = [1, 0, 2, 4, 4, 1, 5] ∧
    join .or [⟨"", [.null]⟩, ⟨"a = ?", [.null]⟩] = join .or [⟨"a = ?", [.null]⟩, ⟨"", []⟩] := by
  obtain ⟨-, hpadded, -, hrun⟩ := join_laws_and_balanced_run
  have hfair : ∀ step ∈ sampleSteps, step.IsFair := by
    simp [sampleSteps, Step.IsFair, Balanced, markCount, Filter.fields, Filter.field, Group.field,
      Group.empty, Entries.put]
  have hcounts : (run sampleSteps).map markCount = [1, 0, 2, 4, 4, 1, 5] := by
    decide +kernel
  refine ⟨hfair, ?_, hpadded .or _ _ rfl⟩
  rw [← hcounts]
  exact List.map_congr_left (hrun sampleSteps hfair)

end Fragment

end FilterQuery
