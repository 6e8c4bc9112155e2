import FilterQuery.Filter.Clause
import FilterQuery.Proofs.Outline

/-!
# What compiling gives

Every filter has an outline: its fields, groups and sequences become nodes, a field joined by
`AND`, a group by its own join, and a sequence by the join that is found along its last children
(`Filter.join`).  Compiling a filter puts the fragments of the outline together and reports that
join.  `Filter.value_compile` says so, and it is the one statement about `Filter.compile` that
other modules use.
-/

namespace FilterQuery

/-! ## Fragments of outlines -/

lemma Comparison.sql_ne_empty (c : Comparison) : c.fragment.sql ≠ "" := by
  simp [Comparison.fragment]

/-- The fragment of an outline: its text with placeholders, and the values that fill them. -/
def Outline.fragment (outline : Outline) : Fragment where
  sql := outline.text fun c => c.fragment.sql
  params := outline.comparisons.flatMap fun c => c.fragment.params

namespace Fragment

lemma sql_join (word : Join) (fragments : List Fragment) :
    (join word fragments).sql = word.interpose (fragments.map sql) := by
  simp only [join, Join.interpose, List.filter_map, Function.comp_def, isEmpty]

lemma params_join (word : Join) {fragments : List Fragment}
    (hempty : ∀ fragment ∈ fragments, fragment.isEmpty = true → fragment.params = []) :
    (join word fragments).params = fragments.flatMap params := by
  simp only [join]
  induction fragments with
  | nil => rfl
  | cons fragment fragments ih =>
      have htail := ih fun f hf => hempty f (List.mem_cons_of_mem _ hf)
      by_cases h : fragment.isEmpty = true
      · simpa [h, hempty fragment (by simp) h] using htail
      · simpa [h] using htail

/-- Joining the fragments of outlines is taking the fragment of the node that they make. -/
lemma join_map_fragment (word : Join) (parts : List Outline) :
    join word (parts.map Outline.fragment) = (Outline.node word parts).fragment := by
  have hempty : ∀ fragment ∈ parts.map Outline.fragment,
      fragment.isEmpty = true → fragment.params = [] := by
    intro fragment hmem h
    obtain ⟨part, -, rfl⟩ := List.mem_map.mp hmem
    have htext : part.text (fun c => c.fragment.sql) = "" := by
      simpa [isEmpty, Outline.fragment] using h
    have hnone := (Outline.text_eq_empty_iff Comparison.sql_ne_empty part).mp htext
    simp [Outline.fragment, hnone]
  have hsql : (join word (parts.map Outline.fragment)).sql =
      (Outline.node word parts).fragment.sql := by
    simp [sql_join, Outline.fragment, Outline.text, Function.comp_def]
  have hparams : (join word (parts.map Outline.fragment)).params =
      (Outline.node word parts).fragment.params := by
    simp [params_join word hempty, Outline.fragment, List.flatMap_map, List.flatMap_assoc]
  exact congrArg₂ Fragment.mk hsql hparams

end Fragment

/-! ## The outline of a filter -/

/-- The outline of a field: its comparisons, joined by `AND`. -/
def Conditions.outline (field : String) (conditions : Conditions) : Outline :=
  .node .and ((conditions.comparisons field).map .leaf)

namespace Group

/-- The outline of a group: its fields, joined by the join of the group. -/
def outline (group : Group) : Outline :=
  .node group.join (group.fields.map fun (name, conditions) => conditions.outline name)

/-- The comparisons of a group, field by field. -/
def comparisons (group : Group) : List Comparison :=
  group.fields.flatMap fun (name, conditions) => conditions.comparisons name

/-- The join carried by the last field that carries any. -/
def carriedJoin? (group : Group) : Option Join :=
  group.fields.reverse.findSome? fun (_, conditions) => conditions.join

lemma join_eq (group : Group) : group.join = group.carriedJoin?.getD .and := by
  rw [join, List.getLast?_filterMap]
  rfl

end Group

namespace Filter

@[elab_as_elim, induction_eliminator]
theorem induct {motive : Filter → Prop} (group : ∀ fields, motive (.group fields))
    (sequence : ∀ children, (∀ child ∈ children, motive child) → motive (.sequence children)) :
    ∀ filter, motive filter
  | .group fields => group fields
  | .sequence children => sequence children fun child _ => induct group sequence child

/-- The defined comparisons of the tree, depth first and in order. -/
def comparisons : Filter → List Comparison
  | group fields => fields.comparisons
  | sequence children => children.flatMap comparisons

/-- The group that is found by following last children, unless an empty sequence is found. -/
def lastGroup? : Filter → Option Group
  | group fields => some fields
  | sequence children => (children.map lastGroup?).getLast?.join

/-- The join of a filter: that carried by the group along its last children, `AND` if it carries
none or if there is no such group. -/
def join (filter : Filter) : Join :=
  (filter.lastGroup?.bind Group.carriedJoin?).getD .and

/-- The outline of a filter. -/
def outline : Filter → Outline
  | group fields => fields.outline
  | sequence children => .node (sequence children).join (children.map outline)

lemma join_group (fields : Group) : (group fields).join = fields.join := by
  simp [join, lastGroup?, Group.join_eq]

lemma join_sequence (children : List Filter) :
    (sequence children).join = (children.getLast?.map join).getD .and := by
  rw [join, lastGroup?, List.getLast?_map]
  cases children.getLast? <;> rfl

lemma join_outline (filter : Filter) : filter.outline.join = filter.join := by
  cases filter with
  | group fields => rw [outline, Group.outline, Outline.join, join_group]
  | sequence children => rw [outline, Outline.join]

@[simp] lemma comparisons_outline (filter : Filter) :
    filter.outline.comparisons = filter.comparisons := by
  induction filter with
  | group fields =>
      simp [outline, Group.outline, Conditions.outline, comparisons, Group.comparisons,
        List.flatMap_map]
  | sequence children ih =>
      rw [outline, Outline.comparisons_node, comparisons, List.flatMap_map]
      exact congrArg List.flatten (List.map_congr_left ih)

end Filter

/-! ## Compiling -/

lemma Logged.value_mapM {α β : Type} (f : α → Logged β) (xs : List α) :
    (xs.mapM f).value = xs.map fun x => (f x).value := by
  induction xs with
  | nil => rfl
  | cons x xs ih => simp [List.mapM_cons, ih]

lemma Conditions.value_compile (field : String) (conditions : Conditions) :
    (conditions.compile field).value = (conditions.outline field).fragment := by
  rw [Conditions.outline, ← Fragment.join_map_fragment, List.map_map]
  simp only [Conditions.compile, Logged.value_bind, Logged.value_pure]
  congr 1
  refine List.map_congr_left fun c _ => ?_
  simp [Outline.fragment, Outline.text]

lemma Group.value_compile (group : Group) : group.compile.value = group.outline.fragment := by
  rw [Group.outline, ← Fragment.join_map_fragment, List.map_map]
  simp only [Group.compile, Logged.value_bind, Logged.value_pure, Logged.value_mapM,
    Conditions.value_compile]
  rfl

namespace Filter

lemma value_compileAll (children : List Filter) :
    (compileAll children).value = children.map fun child => child.compile.value := by
  induction children with
  | nil => rfl
  | cons child rest ih => simp [compileAll, ih]

/-- **Compiling a filter** gives the fragment of its outline and the join found along its last
children. -/
theorem value_compile (filter : Filter) :
    filter.compile.value = ⟨filter.outline.fragment, filter.join⟩ := by
  induction filter with
  | group fields =>
      rw [compile]
      simp [Group.value_compile, outline, join_group]
  | sequence children ih =>
      have hcompiled : (compileAll children).value =
          children.map fun child => ⟨child.outline.fragment, child.join⟩ := by
        rw [value_compileAll]
        exact List.map_congr_left ih
      have hjoin : Compiled.lastJoin (compileAll children).value = (sequence children).join := by
        rw [Compiled.lastJoin, hcompiled, List.getLast?_map, Option.map_map, join_sequence]
        rfl
      rw [compile]
      simp only [Logged.value_bind, Logged.value_pure, hjoin]
      rw [hcompiled, List.map_map, outline, ← Fragment.join_map_fragment, List.map_map]
      rfl

lemma sql_outline_eq_empty_iff (filter : Filter) :
    filter.outline.fragment.sql = "" ↔ filter.comparisons = [] := by
  rw [← comparisons_outline]
  exact Outline.text_eq_empty_iff Comparison.sql_ne_empty filter.outline

/-- **The `WHERE` clause** has no text exactly if the filter makes no comparison. -/
lemma value_whereClause (filter : Filter) :
    filter.whereClause.value =
      ⟨if filter.comparisons = [] then "" else "WHERE " ++ filter.outline.fragment.sql,
        filter.outline.fragment.params⟩ := by
  have hsql := sql_outline_eq_empty_iff filter
  simp only [whereClause, Logged.value_bind, Logged.value_pure, value_compile, Fragment.prefixed,
    Fragment.isEmpty, String.isEmpty_iff]
  by_cases h : filter.comparisons = []
  · have hempty := hsql.mpr h
    simp only [hempty, h, if_true]
    rw [← hempty]
  · rw [if_neg (fun hempty => h (hsql.mp hempty)), if_neg h]
    rfl

/-- The bind values of a filter are those of its comparisons, one after the other. -/
lemma params_whereClause (filter : Filter) :
    filter.whereClause.value.params =
      filter.comparisons.flatMap fun c => c.operator.binds c.value := by
  rw [value_whereClause, ← comparisons_outline]
  rfl

end Filter

end FilterQuery
