import Mathlib.Logic.Relation
import FilterQuery.Proofs.Compilation
import FilterQuery.Proofs.Joining

/-!
# Simpler filters

A filter can say things that leave no trace in the text: entries without a value, fields without
comparisons, children that compile to nothing, sequences that only wrap something.
`Filter.Simplifies` lists what can be taken out of a filter, at any depth, with the conditions under
which that is allowed.  Most of the conditions are there because a part without text still takes
part in the joins: the last child of a sequence decides how all of its children are joined.

`Filter.value_compile_of_simplifies`: whatever is taken out in this way, the filter compiles to the
same fragment and reports the same join.

## The proof

What a sequence compiles to depends on nothing but what its children compile to
(`Filter.value_compile_sequence`).  So each rule for sequences becomes a fact about lists of
compiled filters (`Compiled.joined`), and a rule that applies to a child applies to the whole tree.
One invariant is needed: a compiled filter without text has no bind values either
(`Filter.compile_eq_empty`).
-/

namespace FilterQuery

/-! ## Compiled sequences -/

namespace Compiled

/-- What a sequence compiles to whose children compile to these. -/
def joined (compiled : List Compiled) : Compiled :=
  ⟨Fragment.join (lastJoin compiled) (compiled.map fragment), lastJoin compiled⟩

lemma joined_eq {compiled : List Compiled} {word : Join} (h : lastJoin compiled = word) :
    joined compiled = ⟨Fragment.join word (compiled.map fragment), word⟩ := by
  subst h
  rfl

lemma lastJoin_append (front : List Compiled) {back : List Compiled} (h : back ≠ []) :
    lastJoin (front ++ back) = lastJoin back := by
  rw [lastJoin, List.getLast?_append, Option.or_of_isSome (List.getLast?_isSome.mpr h), lastJoin]

lemma joined_singleton {compiled : Compiled}
    (h : compiled.fragment.isEmpty = true → compiled.fragment = Fragment.empty) :
    joined [compiled] = compiled := by
  have hjoin : lastJoin [compiled] = compiled.join := rfl
  rw [joined_eq hjoin, List.map_singleton, Fragment.join_singleton compiled.join h]

/-- A child without text can be left out, unless it is the last. -/
lemma joined_append_cons_of_isEmpty (front : List Compiled) {child : Compiled}
    {back : List Compiled} (hchild : child.fragment.isEmpty = true) (hback : back ≠ []) :
    joined (front ++ child :: back) = joined (front ++ back) := by
  have hjoin : lastJoin (front ++ child :: back) = lastJoin back := by
    rw [List.append_cons, lastJoin_append (front ++ [child]) hback]
  rw [joined_eq hjoin, joined_eq (lastJoin_append front hback), List.map_append, List.map_cons,
    List.map_append, Fragment.join_append_cons_of_isEmpty _ _ _ hchild]

/-- A sequence can be spliced into a sequence with the same join, unless it is the last child and
has no children. -/
lemma joined_append_joined_cons (front inner back : List Compiled)
    (hjoin : lastJoin (front ++ joined inner :: back) = lastJoin inner)
    (hlast : inner ≠ [] ∨ back ≠ []) :
    joined (front ++ joined inner :: back) = joined (front ++ inner ++ back) := by
  have hspliced : lastJoin (front ++ inner ++ back) = lastJoin inner := by
    by_cases hback : back = []
    · have hinner : inner ≠ [] := hlast.resolve_right (not_not.mpr hback)
      rw [hback, List.append_nil, lastJoin_append front hinner]
    · rw [← hjoin, List.append_cons, lastJoin_append (front ++ inner) hback,
        lastJoin_append (front ++ [joined inner]) hback]
  have hinner : (joined inner).fragment = Fragment.join (lastJoin inner) (inner.map fragment) :=
    rfl
  rw [joined_eq hjoin, joined_eq hspliced, List.map_append, List.map_cons, hinner,
    Fragment.join_append_join_cons, List.map_append, List.map_append]

end Compiled

/-! ## Compiling in context -/

namespace Filter

/-- **A compiled sequence** depends on nothing but what its children compile to. -/
lemma value_compile_sequence (children : List Filter) :
    (sequence children).compile.value =
      Compiled.joined (children.map fun child => child.compile.value) := by
  rw [compile]
  simp only [Logged.value_bind, Logged.value_pure, value_compileAll]
  rfl

/-- A compiled filter without text has no bind values. -/
lemma compile_eq_empty {filter : Filter} (h : filter.compile.value.fragment.isEmpty = true) :
    filter.compile.value.fragment = Fragment.empty := by
  rw [value_compile] at h ⊢
  have hsql : filter.outline.fragment.sql = "" := by
    simpa [Fragment.isEmpty] using h
  have hnone := (sql_outline_eq_empty_iff filter).mp hsql
  have hparams : filter.outline.fragment.params = [] := by
    simp [Outline.fragment, hnone]
  exact congrArg₂ Fragment.mk hsql hparams

/-- A compiled group depends on nothing but what its fields compile to and on its join. -/
lemma value_compile_group (fields : Entries String Conditions) :
    (group ⟨fields⟩).compile.value =
      ⟨Fragment.join (Group.join ⟨fields⟩) (fields.map fun (name, conditions) =>
        (conditions.compile name).value), Group.join ⟨fields⟩⟩ := by
  rw [compile]
  simp only [Group.compile, Logged.value_bind, Logged.value_pure, Logged.value_mapM]

/-! ## Simplification -/

/-- The second filter is the first with something taken out that leaves no trace. -/
inductive Simplifies : Filter → Filter → Prop
  /-- An entry without a value is taken out of the conditions of a field. -/
  | entry (before after : Entries String Conditions) (name : String)
      (front back : Entries Operator (Option Value)) (op : Operator) (join : Option Join) :
      Simplifies (.group ⟨before ++ (name, ⟨front ++ (op, none) :: back, join⟩) :: after⟩)
        (.group ⟨before ++ (name, ⟨front ++ back, join⟩) :: after⟩)
  /-- A field is taken out that makes no comparison and carries no join. -/
  | field (before after : Entries String Conditions) (name : String) {conditions : Conditions}
      (hempty : conditions.isEmpty = true) (hjoin : conditions.join = none) :
      Simplifies (.group ⟨before ++ (name, conditions) :: after⟩) (.group ⟨before ++ after⟩)
  /-- A child is taken out that compiles to no text and is not the last. -/
  | child (before after : List Filter) {child : Filter}
      (hempty : child.compile.value.fragment.isEmpty = true) (hlast : after ≠ []) :
      Simplifies (.sequence (before ++ child :: after)) (.sequence (before ++ after))
  /-- A sequence is taken away from around its only child. -/
  | only (child : Filter) : Simplifies (.sequence [child]) child
  /-- A sequence is taken away from around some children of a sequence that reports the same join.
  It has children, or it is not the last child. -/
  | splice (before inner after : List Filter)
      (hjoin : (sequence (before ++ .sequence inner :: after)).compile.value.join =
        (sequence inner).compile.value.join)
      (hlast : inner ≠ [] ∨ after ≠ []) :
      Simplifies (.sequence (before ++ .sequence inner :: after))
        (.sequence (before ++ inner ++ after))
  /-- Something is taken out of a child. -/
  | within (before after : List Filter) {a b : Filter} (h : Simplifies a b) :
      Simplifies (.sequence (before ++ a :: after)) (.sequence (before ++ b :: after))

/-- Taking out one thing changes nothing in what the filter compiles to. -/
theorem Simplifies.value_compile_eq {a b : Filter} (h : Simplifies a b) :
    a.compile.value = b.compile.value := by
  induction h with
  | entry before after name front back op join =>
      have hfield : Conditions.compile name ⟨front ++ (op, none) :: back, join⟩ =
          Conditions.compile name ⟨front ++ back, join⟩ := by
        simp [Conditions.compile, Conditions.comparisons, Conditions.defined]
      have hjoin : Group.join ⟨before ++ (name, ⟨front ++ (op, none) :: back, join⟩) :: after⟩ =
          Group.join ⟨before ++ (name, ⟨front ++ back, join⟩) :: after⟩ := by
        simp [Group.join, List.filterMap_cons]
      simp only [value_compile_group, hjoin, List.map_append, List.map_cons, hfield]
  | @field before after name conditions hempty hjoin =>
      have hfield : (conditions.compile name).value.isEmpty = true := by
        have hnone : conditions.comparisons name = [] := by
          simpa [Conditions.isEmpty, Conditions.comparisons] using hempty
        rw [Conditions.compile, hnone]
        rfl
      have hjoin : Group.join ⟨before ++ (name, conditions) :: after⟩ =
          Group.join ⟨before ++ after⟩ := by
        simp [Group.join, hjoin]
      rw [value_compile_group, value_compile_group, hjoin, List.map_append, List.map_cons,
        Fragment.join_append_cons_of_isEmpty _ _ _ hfield, List.map_append]
  | child before after hempty hlast =>
      have hrest : after.map (fun child => child.compile.value) ≠ [] := by simpa using hlast
      rw [value_compile_sequence, value_compile_sequence, List.map_append, List.map_cons,
        Compiled.joined_append_cons_of_isEmpty _ hempty hrest, List.map_append]
  | only child =>
      rw [value_compile_sequence, List.map_singleton, Compiled.joined_singleton compile_eq_empty]
  | splice before inner after hjoin hlast =>
      have hrest : inner.map (fun child => child.compile.value) ≠ [] ∨
          after.map (fun child => child.compile.value) ≠ [] := by simpa using hlast
      rw [value_compile_sequence, value_compile_sequence inner, List.map_append, List.map_cons,
        value_compile_sequence] at hjoin
      rw [value_compile_sequence, List.map_append, List.map_cons, value_compile_sequence,
        Compiled.joined_append_joined_cons _ _ _ hjoin hrest, value_compile_sequence,
        List.map_append, List.map_append]
  | within before after _ ih =>
      rw [value_compile_sequence, value_compile_sequence, List.map_append, List.map_cons, ih,
        List.map_append, List.map_cons]

/-- **Simpler filters compile to the same.**  Whatever is taken out of a filter, one thing after the
other and at any depth, its fragment and the join that it reports stay as they are. -/
theorem value_compile_of_simplifies {filter simpler : Filter}
    (h : Relation.ReflTransGen Simplifies filter simpler) :
    filter.compile.value = simpler.compile.value := by
  induction h with
  | refl => rfl
  | tail _ hstep ih => exact ih.trans hstep.value_compile_eq

/-- Two fields that are alternatives, wrapped up and among things that say nothing. -/
def wrapped : Filter :=
  .sequence [.sequence [.empty],
    .group ⟨[("rank", ⟨[(.lt, none), (.gte, some (.int 3))], some .or⟩),
      ("name", ⟨[(.contains, none)], none⟩)]⟩,
    .sequence [.sequence [.field "tag" ⟨[(.isIn, some (.list [.text "a", .null]))], some .or⟩]]]

/-- The two alternatives and nothing else. -/
def alternativeFields : List Filter :=
  [.group ⟨[("rank", ⟨[(.gte, some (.int 3))], some .or⟩)]⟩,
    .field "tag" ⟨[(.isIn, some (.list [.text "a", .null]))], some .or⟩]

theorem value_compile_of_simplifies_wrapped :
    Relation.ReflTransGen Simplifies wrapped (.sequence alternativeFields) ∧
      wrapped.compile.value = (sequence alternativeFields).compile.value ∧
      wrapped.compile.value.fragment.sql = "rank >= ? OR tag IN (?, ?)" := by
  let rank : Entries Operator (Option Value) := [(.gte, some (.int 3))]
  let fields : Entries String Conditions :=
    [("rank", ⟨(.lt, none) :: rank, some .or⟩), ("name", ⟨[(.contains, none)], none⟩)]
  let tag : Filter := .field "tag" ⟨[(.isIn, some (.list [.text "a", .null]))], some .or⟩
  -- Each rule is used once on the way.
  have hsteps : Relation.ReflTransGen Simplifies wrapped (.sequence alternativeFields) := by
    refine .head (.child [] [.group ⟨fields⟩, .sequence [.sequence [tag]]] rfl (by simp)) ?_
    refine .head (.within [.group ⟨fields⟩] [] (.only (.sequence [tag]))) ?_
    refine .head (.splice [.group ⟨fields⟩] [tag] [] ?_ (by simp)) ?_
    · simp [value_compile, join_sequence]
    refine .head (.within [] [tag] (.field [("rank", ⟨(.lt, none) :: rank, some .or⟩)] [] "name"
      rfl rfl)) ?_
    exact .single (.within [] [tag] (.entry [] [] "rank" [] rank .lt (some .or)))
  exact ⟨hsteps, value_compile_of_simplifies hsteps, by decide +kernel⟩

/-- The last child may not be taken out, even if it compiles to nothing: it decides the join. -/
example : (sequence alternativeFields).compile.value.fragment.sql = "rank >= ? OR tag IN (?, ?)" ∧
    (sequence (alternativeFields ++ [.empty])).compile.value.fragment.sql =
      "rank >= ? AND tag IN (?, ?)" := by
  decide +kernel

end Filter

end FilterQuery
