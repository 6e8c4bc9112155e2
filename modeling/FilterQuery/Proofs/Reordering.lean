import Mathlib.Data.List.Perm.Basic
import FilterQuery.Proofs.FilterGrammar
import FilterQuery.Proofs.FlatForm

/-!
# Reordered filters

Two descriptions of filters are *reordered* if they differ in nothing but the order in which groups
give their fields and fields their operators (`Json.Reordered`).  The join of a group is that of its
last field that carries one, so the order of the fields could matter for it; it does not if all
joins that are present inside a group agree (`Json.JoinsAgree`).

Then the reordered description is accepted as well, and what it describes makes the same comparisons
in another order, with the same joins (`Filter.ofJson_reordered`).  The proof goes through three
levels with the same relation on each: descriptions, filters and outlines.  For outlines, where
fields, groups and sequences are all nodes, one induction shows that rearranging the parts of nodes
rearranges the comparisons and the words between them (`Outline.Rearranged.perm`).
-/

namespace FilterQuery

/-! ## Reordered descriptions -/

namespace Json

/-- Members of one field whose conditions have the same members in some order. -/
def ReorderedField (a b : String × Json) : Prop :=
  a.1 = b.1 ∧ ∃ entries others, a.2 = .object entries ∧ b.2 = .object others ∧ entries.Perm others

/-- Descriptions of filters that differ in the order of the members of groups and of conditions. -/
inductive Reordered : Json → Json → Prop
  | null : Reordered .null .null
  | array {items others : List Json} (h : List.Forall₂ Reordered items others) :
      Reordered (.array items) (.array others)
  | object {members middle others : List (String × Json)}
      (h : List.Forall₂ ReorderedField members middle) (hperm : middle.Perm others) :
      Reordered (.object members) (.object others)

/-- A field of the group gives the value as the join. -/
def GivesJoin (members : List (String × Json)) (value : Json) : Prop :=
  ∃ name entries, (name, .object entries) ∈ members ∧ (joinKey, value) ∈ entries

/-- Inside each group, all joins that are given agree. -/
inductive JoinsAgree : Json → Prop
  | null : JoinsAgree .null
  | array {items : List Json} (h : ∀ item ∈ items, JoinsAgree item) : JoinsAgree (.array items)
  | object {members : List (String × Json)}
      (h : ∀ value value', GivesJoin members value → GivesJoin members value' → value = value') :
      JoinsAgree (.object members)

lemma JoinsAgree.of_eq {members : List (String × Json)} (join : Json)
    (h : ∀ value, GivesJoin members value → value = join) : JoinsAgree (.object members) :=
  .object fun value value' hvalue hvalue' => (h value hvalue).trans (h value' hvalue').symm

end Json

/-! ## Reordered filters -/

/-- Conditions with the same entries in some order and the same join. -/
structure Conditions.Reordered (a b : Conditions) : Prop where
  entries : a.entries.Perm b.entries
  join : a.join = b.join

/-- Fields of one name whose conditions are reordered. -/
def Group.ReorderedField (a b : String × Conditions) : Prop :=
  a.1 = b.1 ∧ a.2.Reordered b.2

/-- Filters that differ in the order of fields and of entries, with the same joins. -/
inductive Filter.Reordered : Filter → Filter → Prop
  | sequence {children others : List Filter} (h : List.Forall₂ Reordered children others) :
      Reordered (.sequence children) (.sequence others)
  | group {fields middle others : Entries String Conditions}
      (h : List.Forall₂ Group.ReorderedField fields middle) (hperm : middle.Perm others)
      (hjoin : Group.join ⟨fields⟩ = Group.join ⟨others⟩) :
      Reordered (.group ⟨fields⟩) (.group ⟨others⟩)

/-! ## Rearranged outlines -/

namespace Outline

/-- Outlines that differ in the order of the parts of nodes. -/
inductive Rearranged : Outline → Outline → Prop
  | leaf (comparison : Comparison) : Rearranged (.leaf comparison) (.leaf comparison)
  | node (join : Join) {parts middle others : List Outline}
      (h : List.Forall₂ Rearranged parts middle) (hperm : middle.Perm others) :
      Rearranged (.node join parts) (.node join others)

lemma perm_flatMap {α β : Type} {f : α → List β} {xs middle ys : List α}
    (h : List.Forall₂ (fun x y => (f x).Perm (f y)) xs middle) (hperm : middle.Perm ys) :
    (xs.flatMap f).Perm (ys.flatMap f) := by
  refine .trans ?_ (hperm.flatMap_right f)
  clear hperm
  induction h with
  | nil => exact .refl _
  | cons hxy _ ih =>
      rw [List.flatMap_cons, List.flatMap_cons]
      exact hxy.append ih

lemma map_fst_row_node (word : Join) (parts : List Outline) :
    ((node word parts).row word).map Prod.fst =
      parts.flatMap fun part => (part.row word).map Prod.fst := by
  rw [row_node, List.map_flatten, List.flatMap]
  congr 1
  refine List.ext_getElem (by simp [partRows]) fun i _ _ => ?_
  simp [partRows, Function.comp_def]

/-- Where the comparisons are the same in some order, the words between them are exactly if the
words in front of them are. -/
lemma perm_map_fst_row_iff {a b : Outline} (h : a.comparisons.Perm b.comparisons) (lead : Join) :
    ((a.row lead).map Prod.fst).Perm ((b.row lead).map Prod.fst) ↔ a.words.Perm b.words := by
  rw [map_fst_row, map_fst_row]
  by_cases hnone : a.comparisons = []
  · have hnone' : b.comparisons = [] := by
      rw [hnone] at h
      exact h.nil_eq.symm
    have hleaves : a.leaves = [] := by simpa [comparisons] using hnone
    have hleaves' : b.leaves = [] := by simpa [comparisons] using hnone'
    simp [hnone, hnone', words, hleaves, hleaves']
  · have hnone' : b.comparisons ≠ [] := by
      intro hnone'
      rw [hnone'] at h
      exact hnone h.eq_nil
    rw [if_neg hnone, if_neg hnone', List.perm_cons]

/-- **Rearranging the parts of nodes** rearranges the comparisons and the words between them. -/
theorem Rearranged.perm {a b : Outline} (h : Rearranged a b) :
    a.comparisons.Perm b.comparisons ∧ a.words.Perm b.words := by
  induction a generalizing b with
  | leaf comparison =>
      cases h with
      | leaf => exact ⟨.refl _, .refl _⟩
  | node word parts ih =>
      cases h with
      | @node _ _ middle others hparts hperm =>
          have hpart := forall₂_imp_of_mem hparts fun part hmem _ hpart => ih part hmem hpart
          have hcomparisons : (Outline.node word parts).comparisons.Perm
              (Outline.node word others).comparisons := by
            rw [comparisons_node, comparisons_node]
            exact perm_flatMap (hpart.imp fun _ _ h => h.1) hperm
          refine ⟨hcomparisons, (perm_map_fst_row_iff hcomparisons word).mp ?_⟩
          rw [map_fst_row_node, map_fst_row_node]
          exact perm_flatMap (hpart.imp fun _ _ h => (perm_map_fst_row_iff h.1 word).mpr h.2) hperm

end Outline

/-! ## Outlines of reordered filters -/

lemma Conditions.Reordered.perm_comparisons {a b : Conditions} (h : a.Reordered b)
    (field : String) : (a.comparisons field).Perm (b.comparisons field) :=
  (h.entries.filterMap _).map _

lemma Conditions.Reordered.rearranged {a b : Conditions} (h : a.Reordered b) (field : String) :
    (a.outline field).Rearranged (b.outline field) := by
  refine .node .and (List.forall₂_same.mpr ?_) ((h.perm_comparisons field).map Outline.leaf)
  intro part hpart
  obtain ⟨comparison, -, rfl⟩ := List.mem_map.mp hpart
  exact .leaf comparison

namespace Filter

lemma Reordered.join_eq {filter other : Filter} (h : filter.Reordered other) :
    filter.join = other.join := by
  induction filter generalizing other with
  | group fields =>
      cases h with
      | group _ _ hjoin => rw [join_group, join_group, hjoin]
  | sequence children ih =>
      cases h with
      | @sequence _ others hchildren =>
          have hjoins : children.map join = others.map join :=
            map_eq_map_of_forall₂ (forall₂_imp_of_mem hchildren
              fun child hmem _ hchild => ih child hmem hchild)
          rw [join_sequence, join_sequence, ← List.getLast?_map, ← List.getLast?_map, hjoins]

lemma Reordered.rearranged {filter other : Filter} (h : filter.Reordered other) :
    filter.outline.Rearranged other.outline := by
  induction filter generalizing other with
  | group fields =>
      cases h with
      | @group fields middle others hfields hperm hjoin =>
          rw [outline, outline, Group.outline, Group.outline, hjoin]
          refine .node _ ?_ (hperm.map _)
          rw [List.forall₂_map_left_iff, List.forall₂_map_right_iff]
          refine hfields.imp ?_
          rintro ⟨name, a⟩ ⟨_, b⟩ ⟨rfl, hab⟩
          exact hab.rearranged name
  | sequence children ih =>
      have hjoin := h.join_eq
      cases h with
      | @sequence _ others hchildren =>
          rw [outline, outline, hjoin]
          refine .node _ ?_ (.refl _)
          rw [List.forall₂_map_left_iff, List.forall₂_map_right_iff]
          exact forall₂_imp_of_mem hchildren fun child hmem _ hchild => ih child hmem hchild

/-- The filter at a place in a tree of sequences, if there is one. -/
def at? : Filter → Place → Option Filter
  | filter, [] => some filter
  | group _, _ :: _ => none
  | sequence children, i :: place => children[i]?.bind fun child => child.at? place

lemma Reordered.join_at? {filter other : Filter} (h : filter.Reordered other) (place : Place) :
    (filter.at? place).map join = (other.at? place).map join := by
  induction place generalizing filter other with
  | nil => simp [at?, h.join_eq]
  | cons i place ih =>
      cases h with
      | group => simp [at?]
      | @sequence children others hchildren =>
          have hchild := forall₂_getElem? hchildren i
          simp only [at?]
          generalize children[i]? = child at hchild ⊢
          generalize others[i]? = child' at hchild ⊢
          cases hchild with
          | none => rfl
          | some hchild => exact ih hchild

end Filter

/-! ## What reordered descriptions describe -/

namespace Json

lemma Reordered.distinct {json other : Json} (h : json.Reordered other) (hjson : json.Distinct) :
    other.Distinct := by
  induction json generalizing other with
  | array items ih =>
      cases h with
      | array hitems =>
          rw [distinct_array_iff] at hjson ⊢
          intro other hother
          obtain ⟨item, hmem, hitem⟩ := exists_mem_of_forall₂ hitems.flip hother
          exact ih item hmem hitem (hjson item hmem)
  | object members _ =>
      cases h with
      | @object _ middle others hfields hperm =>
          rw [distinct_object_iff] at hjson ⊢
          have hkeys : Entries.keys members = Entries.keys middle :=
            map_eq_map_of_forall₂ (hfields.imp fun _ _ h => h.1)
          have hnodup : (Entries.keys middle).Nodup := hkeys ▸ hjson.1
          refine ⟨(hperm.map Prod.fst).nodup_iff.mp hnodup, fun other hother => ?_⟩
          obtain ⟨member, hmem, -, entries, entries', hentries, hentries', hsame⟩ :=
            exists_mem_of_forall₂ hfields.flip (hperm.mem_iff.mpr hother)
          have hmember := hjson.2 member hmem
          rw [hentries, distinct_object_iff] at hmember
          rw [hentries', distinct_object_iff]
          exact ⟨(hsame.map Prod.fst).nodup_iff.mp hmember.1,
            fun entry hentry => hmember.2 entry (hsame.mem_iff.mpr hentry)⟩
  | null =>
      cases h with
      | null => exact .null
  | _ => cases h

end Json

namespace Conditions.Mirrors

variable {members others : List (String × Json)} {conditions : Conditions}

/-- The join that conditions carry is given by their members. -/
lemma mem_of_join_eq (h : Mirrors members conditions) {join : Join}
    (hjoin : conditions.join = some join) : (joinKey, .string join.sql) ∈ members := by
  by_cases hkey : joinKey ∈ Entries.keys members
  · obtain ⟨⟨_, value⟩, hmem, rfl⟩ := List.mem_map.mp hkey
    obtain ⟨join', rfl, hjoin'⟩ := h.joined value hmem
    obtain rfl : join' = join := Option.some.inj (hjoin'.symm.trans hjoin)
    exact hmem
  · simp [h.unjoined hkey] at hjoin

lemma exists_reordered (h : Mirrors members conditions) (hperm : members.Perm others) :
    ∃ conditions', Mirrors others conditions' ∧ conditions.Reordered conditions' := by
  obtain ⟨entries, hentries, hsame⟩ := List.perm_comp_forall₂ (hperm.filter _).symm h.entries
  refine ⟨⟨entries, conditions.join⟩, ⟨hentries, fun value hvalue => ?_, fun hkey => ?_⟩,
    hsame.symm, rfl⟩
  · exact h.joined value (hperm.mem_iff.mpr hvalue)
  · exact h.unjoined fun hmem => hkey ((hperm.map Prod.fst).mem_iff.mp hmem)

end Conditions.Mirrors

namespace Group

/-- The joins that fields carry, in order. -/
def carried (fields : Entries String Conditions) : List Join :=
  fields.filterMap fun field => field.2.join

lemma mem_carried_iff {fields : Entries String Conditions} {join : Join} :
    join ∈ carried fields ↔ ∃ field ∈ fields, field.2.join = some join :=
  List.mem_filterMap

lemma join_mk (fields : Entries String Conditions) :
    join ⟨fields⟩ = ((carried fields).getLast?).getD default := rfl

lemma carried_eq_of_forall₂ {fields middle : Entries String Conditions}
    (h : List.Forall₂ ReorderedField fields middle) : carried fields = carried middle := by
  have hjoins : (fields.map fun field => field.2.join) = middle.map fun field => field.2.join :=
    map_eq_map_of_forall₂ (h.imp fun _ _ hfield => hfield.2.join)
  simpa [List.filterMap_map, Function.comp_def, carried] using congrArg (List.filterMap id) hjoins

/-- Fields in another order have the same join if all joins that they carry agree. -/
lemma join_eq_of_perm {fields middle others : Entries String Conditions}
    (h : List.Forall₂ ReorderedField fields middle) (hperm : middle.Perm others)
    (hagree : ∀ a ∈ carried fields, ∀ b ∈ carried fields, a = b) :
    join ⟨fields⟩ = join ⟨others⟩ := by
  have hcarried : (carried fields).Perm (carried others) :=
    carried_eq_of_forall₂ h ▸ hperm.filterMap _
  rw [join_mk, join_mk]
  cases hfields : carried fields with
  | nil =>
      rw [hfields] at hcarried
      rw [hcarried.nil_eq]
  | cons a rest =>
      have hsame : carried fields = List.replicate (carried fields).length a :=
        List.eq_replicate_iff.mpr ⟨rfl, fun b hb => hagree b hb a (by simp [hfields])⟩
      have hothers := List.perm_replicate.mp (hsame ▸ hcarried).symm
      rw [← hfields, hothers, ← hsame]

end Group

/-- A reordered description of a field describes the field reordered. -/
lemma Group.MirrorsField.exists_reordered {member other : String × Json}
    {field : String × Conditions} (h : MirrorsField member field)
    (hreordered : Json.ReorderedField member other) :
    ∃ field', MirrorsField other field' ∧ ReorderedField field field' := by
  obtain ⟨name, conditions⟩ := field
  obtain ⟨hname, entries, hentries, hconditions⟩ := h
  obtain ⟨hname', entries', others, hentries', hothers, hperm⟩ := hreordered
  obtain rfl : entries = entries' := Json.object.inj (hentries.symm.trans hentries')
  obtain ⟨conditions', hmirrors, hsame⟩ := hconditions.exists_reordered hperm
  exact ⟨(name, conditions'), ⟨hname'.symm.trans hname, others, hothers, hmirrors⟩, rfl, hsame⟩

/-- A reordered description of a group describes the fields reordered. -/
lemma Group.exists_reordered {members middle : List (String × Json)}
    {fields : Entries String Conditions}
    (hmembers : List.Forall₂ Json.ReorderedField members middle)
    (hfields : List.Forall₂ MirrorsField members fields) :
    ∃ fields', List.Forall₂ MirrorsField middle fields' ∧
      List.Forall₂ ReorderedField fields fields' := by
  obtain ⟨fields', hmirrors, hsame⟩ := exists_forall₂_of_forall₂ hmembers hfields
    (C := MirrorsField) (D := fun y x => ReorderedField x y)
    fun _ _ _ _ hother hfield => hfield.exists_reordered hother
  exact ⟨fields', hmirrors, hsame.flip⟩

/-- The joins that fields carry are given by the members that they mirror. -/
lemma Group.givesJoin_of_mem_carried {members : List (String × Json)}
    {fields : Entries String Conditions} (h : List.Forall₂ MirrorsField members fields)
    {join : Join} (hjoin : join ∈ carried fields) : Json.GivesJoin members (.string join.sql) := by
  obtain ⟨field, hfield, hcarried⟩ := mem_carried_iff.mp hjoin
  obtain ⟨⟨name, _⟩, hmem, -, entries, rfl, hconditions⟩ := exists_mem_of_forall₂ h.flip hfield
  exact ⟨name, entries, hmem, hconditions.mem_of_join_eq hcarried⟩

/-- A reordered description describes a reordered filter. -/
lemma Filter.Mirrors.exists_reordered {json other : Json} (hreordered : json.Reordered other)
    (hagree : json.JoinsAgree) {filter : Filter} (h : Mirrors json filter) :
    ∃ filter', Mirrors other filter' ∧ filter.Reordered filter' := by
  induction json generalizing other filter with
  | array items ih =>
      cases hreordered with
      | @array _ others hitems =>
          cases h with
          | @array _ children hchildren =>
              cases hagree with
              | array hagree =>
                  obtain ⟨children', hmirrors, hsame⟩ := exists_forall₂_of_forall₂ hitems hchildren
                    (C := Mirrors) (D := fun y x => x.Reordered y)
                    fun item hitem _ _ hother hchild =>
                      ih item hitem hother (hagree item hitem) hchild
                  exact ⟨.sequence children', .array hmirrors, .sequence hsame.flip⟩
  | object members _ =>
      cases hreordered with
      | @object _ middle others hmembers hperm =>
          cases h with
          | @object _ fields hfields =>
              cases hagree with
              | object hagree =>
                  obtain ⟨between, hbetween, hsame⟩ := Group.exists_reordered hmembers hfields
                  obtain ⟨fields', hfields', hperm'⟩ := List.perm_comp_forall₂ hperm.symm hbetween
                  have hjoins : ∀ a ∈ Group.carried fields, ∀ b ∈ Group.carried fields, a = b := by
                    intro a ha b hb
                    have hvalue := hagree _ _ (Group.givesJoin_of_mem_carried hfields ha)
                      (Group.givesJoin_of_mem_carried hfields hb)
                    exact Join.sql_inj (Json.string.inj hvalue)
                  exact ⟨.group ⟨fields'⟩, .object hfields', .group hsame hperm'.symm
                    (Group.join_eq_of_perm hsame hperm'.symm hjoins)⟩
  | null =>
      cases hreordered
      cases h
      exact ⟨.group ⟨[]⟩, .null, .group .nil (.refl _) rfl⟩
  | _ => cases hreordered

/-! ## Reordering -/

/-- **Reordering a description** of a filter, where inside each group all joins agree.  The
reordered description is accepted as well.  Each node of its filter reports the join of the
corresponding node, the comparisons are the same in another order with as many words of each kind
between them, and the bind values are those of the comparisons in their new order. -/
theorem Filter.ofJson_reordered {json other : Json} (hdistinct : json.Distinct)
    (hreordered : json.Reordered other) (hagree : json.JoinsAgree) {filter : Filter}
    (h : ofJson json = .ok filter) :
    ∃ filter', ofJson other = .ok filter' ∧
      (∀ place, (filter.at? place).map (fun node => node.compile.value.join) =
        (filter'.at? place).map fun node => node.compile.value.join) ∧
      filter.comparisons.Perm filter'.comparisons ∧
      filter.outline.words.Perm filter'.outline.words ∧
      filter.compile.value.fragment.sql =
        flatText (filter.comparisons.map fun c => c.fragment.sql) filter.outline.words ∧
      filter'.compile.value.fragment.sql =
        flatText (filter'.comparisons.map fun c => c.fragment.sql) filter'.outline.words ∧
      filter'.compile.value.fragment.params =
        filter'.comparisons.flatMap fun c => c.operator.binds c.value := by
  have hmirrors := (ofJson_eq_ok_iff hdistinct filter).mp h
  obtain ⟨filter', hmirrors', hsame⟩ := hmirrors.exists_reordered hreordered hagree
  have hrearranged := hsame.rearranged.perm
  rw [comparisons_outline, comparisons_outline] at hrearranged
  refine ⟨filter', (ofJson_eq_ok_iff (hreordered.distinct hdistinct) filter').mpr hmirrors',
    fun place => ?_, hrearranged.1, hrearranged.2, filter.sql_compile, filter'.sql_compile, ?_⟩
  · simpa only [value_compile] using hsame.join_at? place
  · rw [value_compile, ← comparisons_outline]
    rfl

/-- Two fields that are joined by `OR` because a field without comparisons says so. -/
def Json.sampleJoined : Json :=
  .array [.null, .object
    [("rank", .object [("gt", .number (.integer 1)), ("lt", .number (.integer 9))]),
      ("", .object [("operator", .string "OR")]),
      ("name", .object [("operator", .string "OR"), ("equals", .string "x")])]]

/-- The same with the fields and the operators in another order. -/
def Json.sampleRejoined : Json :=
  .array [.null, .object
    [("", .object [("operator", .string "OR")]),
      ("name", .object [("equals", .string "x"), ("operator", .string "OR")]),
      ("rank", .object [("lt", .number (.integer 9)), ("gt", .number (.integer 1))])]]

theorem Filter.ofJson_reordered_sampleJoined :
    Json.sampleJoined.Distinct ∧ Json.sampleJoined.Reordered Json.sampleRejoined ∧
      Json.sampleJoined.JoinsAgree ∧
      ∃ filter filter', ofJson Json.sampleJoined = .ok filter ∧
        ofJson Json.sampleRejoined = .ok filter' ∧
        filter.comparisons.Perm filter'.comparisons ∧
        filter.outline.words.Perm filter'.outline.words := by
  have hdistinct : Json.sampleJoined.Distinct := by
    simp [Json.sampleJoined, Entries.keys]
  have hreordered : Json.sampleJoined.Reordered Json.sampleRejoined := by
    have hrotate : ∀ a b c : String × Json, [a, b, c].Perm [b, c, a] := fun a b c =>
      .trans (.swap b a [c]) (.cons b (.swap c a []))
    refine .array (.cons .null (.cons (.object ?_ (hrotate _ _ _)) .nil))
    exact .cons ⟨rfl, _, _, rfl, rfl, .swap _ _ _⟩ (.cons ⟨rfl, _, _, rfl, rfl, .refl _⟩
      (.cons ⟨rfl, _, _, rfl, rfl, .swap _ _ _⟩ .nil))
  have hagree : Json.sampleJoined.JoinsAgree := by
    refine .array fun item hitem => ?_
    obtain rfl | rfl : item = .null ∨ item = _ := by simpa using hitem
    · exact .null
    · refine .of_eq (.string "OR") ?_
      rintro value ⟨name, entries, hmember, hentry⟩
      simp only [List.mem_cons, Prod.mk.injEq, List.not_mem_nil, or_false] at hmember
      obtain ⟨rfl, ⟨⟩⟩ | ⟨rfl, ⟨⟩⟩ | ⟨rfl, ⟨⟩⟩ := hmember
      · simp [joinKey] at hentry
      · simpa [joinKey] using hentry
      · simpa [joinKey] using hentry
  obtain ⟨filter', haccepted, -, hcomparisons, hwords, -⟩ :=
    Filter.ofJson_reordered hdistinct hreordered hagree rfl
  exact ⟨hdistinct, hreordered, hagree, _, filter', rfl, haccepted, hcomparisons, hwords⟩

end FilterQuery
