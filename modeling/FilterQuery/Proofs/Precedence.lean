import Mathlib.Data.List.Nodup
import FilterQuery.Proofs.Compilation
import FilterQuery.Proofs.Reading

/-!
# The meaning of a filter and of its text

The text of a filter has no parentheses, and a database lets `AND` bind more tightly than `OR`.  So
the text can mean something else than the tree: of two alternatives and a third comparison,
`a = ? OR b = ? AND c > ?`, the tree may ask for the third in any case while the text asks for it
only together with the second.  This module finds out exactly which trees are affected.

## The two meanings

* `Filter.meaning` evaluates the tree: each node joins the values of its non-empty parts.
* `Outline.reading` evaluates the flat list of comparisons and words from left to right.

Both take the values of the comparisons from an assignment to their places, so that a comparison
that occurs twice may have two values.

## The result

The two agree for all assignments exactly if no sequence joins two non-empty children or more by
`AND` while a child has an `OR` of its own.  A tree without such a sequence is read correctly part
by part (`Outline.Sound.meaning_eq`).  Otherwise there is an assignment that makes the tree false
and the text true (`Outline.exists_of_not_sound`): at the sequence itself, one child is made false
and everything beside it true, and the `OR` in the other child lets the text escape; further up,
the comparisons beside the affected part are made neutral, true under `AND` and false under `OR`.
-/

namespace FilterQuery

/-! ## Assignments -/

/-- A truth value for the comparison at each place. -/
abbrev Assignment := Place → Bool

namespace Assignment

/-- The assignment, seen from the part number `i` of a node. -/
def under (truth : Assignment) (i : Nat) : Assignment :=
  fun place => truth (i :: place)

/-- The assignment that agrees with `inner` in the part number `k`, and is `b` in all others. -/
def oneApart (k : Nat) (inner : Assignment) (b : Bool) : Assignment
  | [] => b
  | i :: place => if i = k then inner place else b

lemma under_apply (truth : Assignment) (i : Nat) (place : Place) :
    truth.under i place = truth (i :: place) := rfl

lemma under_const (b : Bool) (i : Nat) : under (fun _ => b) i = fun _ => b := rfl

lemma under_oneApart_self (k : Nat) (inner : Assignment) (b : Bool) :
    (oneApart k inner b).under k = inner := by
  funext place
  simp [under, oneApart]

lemma under_oneApart_of_ne {i k : Nat} (hik : i ≠ k) (inner : Assignment) (b : Bool) :
    (oneApart k inner b).under i = fun _ => b := by
  funext place
  simp [under, oneApart, hik]

end Assignment

namespace Outline

open Assignment

/-- No two comparisons of an outline stand at the same place, so an assignment gives each of them a
value of its own. -/
theorem nodup_places (outline : Outline) : (outline.leaves.map Occurrence.place).Nodup := by
  induction outline with
  | leaf comparison => simp [leaves]
  | node word parts ih =>
      rw [leaves, List.map_flatten, List.nodup_flatten, List.pairwise_iff_getElem]
      constructor
      · intro places hplaces
        obtain ⟨found, hfound, rfl⟩ := List.mem_map.mp hplaces
        obtain ⟨i, hi, rfl⟩ := List.mem_mapIdx.mp hfound
        rw [List.length_map] at hi
        have hpart := (ih _ (List.getElem_mem hi)).map (f := List.cons i)
          fun _ _ h => (List.cons.inj h).2
        simpa [Occurrence.within, Function.comp_def] using hpart
      · intro i k hi hk hik place hplace hplace'
        simp only [List.getElem_map, List.getElem_mapIdx, List.map_map, List.mem_map]
          at hplace hplace'
        obtain ⟨a, -, rfl⟩ := hplace
        obtain ⟨b, -, hb⟩ := hplace'
        have hki : k = i := (List.cons.inj hb).1
        exact Nat.ne_of_gt hik hki

/-! ## The two values of an outline -/

/-- The value of a tree whose comparisons have the values that `truth` gives to their places: a
node joins the values of its parts.  There is none if the tree makes no comparison. -/
def meaning : Outline → Assignment → Option Bool
  | leaf _ => fun truth => some (truth [])
  | node word parts => fun truth =>
    word.combine ((parts.map meaning).mapIdx fun i value => value (truth.under i))

/-- The value of the text, for the same values of the comparisons. -/
def reading (outline : Outline) (truth : Assignment) : Bool :=
  readRow ((.and :: outline.words).zip
    (outline.leaves.map fun occurrence => truth occurrence.place))

/-- Does the text read as the tree at every node?  It does not where `AND` joins two parts or more
and one of them has an `OR` between its own comparisons. -/
def Sound : Outline → Prop
  | leaf _ => True
  | node word parts =>
    (∀ part, part ∈ parts → Sound part) ∧
    ¬ (word = .and ∧ 2 ≤ parts.countP (fun part => !part.comparisons.isEmpty) ∧
      ∃ part ∈ parts, .or ∈ part.words)

lemma meaning_node (word : Join) (parts : List Outline) (truth : Assignment) :
    (node word parts).meaning truth =
      word.combine (parts.mapIdx fun i part => part.meaning (truth.under i)) := by
  have hvalues : ((parts.map meaning).mapIdx fun i value => value (truth.under i)) =
      parts.mapIdx fun i part => part.meaning (truth.under i) := by
    apply List.ext_getElem
    · simp
    · intro i _ _
      simp
  simp only [meaning, hvalues]

/-! ## Values of rows -/

/-- The row of an outline, with the value of each comparison in its place. -/
def bits (truth : Assignment) (lead : Join) (outline : Outline) : List (Join × Bool) :=
  (outline.row lead).map (Prod.map id fun occurrence => truth occurrence.place)

/-- The rows of values of the parts of a node. -/
def partBits (truth : Assignment) (word : Join) (parts : List Outline) :
    List (List (Join × Bool)) :=
  parts.mapIdx fun i part => part.bits (truth.under i) word

lemma bits_node (truth : Assignment) (word : Join) (parts : List Outline) :
    (node word parts).bits truth word = (partBits truth word parts).flatten := by
  rw [bits, row_node, List.map_flatten]
  congr 1
  apply List.ext_getElem
  · simp [partRows, partBits]
  · intro i _ _
    simp [partRows, partBits, bits, under_apply, Occurrence.within, Function.comp_def]

lemma readRow_bits (truth : Assignment) (lead : Join) (outline : Outline) :
    readRow (outline.bits truth lead) = outline.reading truth := by
  rw [reading, bits, row_eq_zip]
  cases outline.leaves with
  | nil => rfl
  | cons first rest => simp [readRow, List.zip_map_right]

lemma bits_eq_nil_iff (truth : Assignment) (lead : Join) (outline : Outline) :
    outline.bits truth lead = [] ↔ outline.comparisons = [] := by
  rw [bits, List.map_eq_nil_iff, row_eq_nil_iff]

lemma or_mem_words_iff (outline : Outline) :
    .or ∈ outline.words ↔ .or ∈ (outline.row .and).map Prod.fst := by
  rw [map_fst_row]
  split
  · rename_i hnone
    have hleaves : outline.leaves = [] := by simpa [comparisons] using hnone
    simp [words, hleaves]
  · simp

lemma headedBy_of_mem_partBits {truth : Assignment} {word : Join} {parts : List Outline} :
    ∀ row ∈ partBits truth word parts, HeadedBy word row := by
  intro row hrow
  obtain ⟨i, hi, rfl⟩ := List.mem_mapIdx.mp hrow
  exact (headedBy_linked _ word parts[i].leaves).map _

lemma countP_partBits (truth : Assignment) (word : Join) (parts : List Outline) :
    (partBits truth word parts).countP (fun row => !row.isEmpty) =
      parts.countP fun part => !part.comparisons.isEmpty := by
  have hempty : (partBits truth word parts).map List.isEmpty =
      parts.map fun part => part.comparisons.isEmpty := by
    apply List.ext_getElem
    · simp [partBits]
    · intro i _ _
      rw [Bool.eq_iff_iff]
      simp [partBits, bits_eq_nil_iff]
  have hcount := congrArg (List.countP fun b => !b) hempty
  simpa only [List.countP_map, Function.comp_def] using hcount

/-! ## Sound outlines -/

lemma eq_and_of_mem_bits {truth : Assignment} {outline : Outline}
    (hor : .or ∉ outline.words) : ∀ entry ∈ outline.bits truth .and, entry.1 = .and := by
  intro entry hentry
  obtain ⟨⟨word, occurrence⟩, hmem, rfl⟩ := List.mem_map.mp hentry
  cases word with
  | and => rfl
  | or => exact absurd ((or_mem_words_iff outline).mpr (List.mem_map_of_mem hmem)) hor

/-- A sound tree has the value of its text. -/
lemma Sound.meaning_eq {outline : Outline} (hsound : outline.Sound) (truth : Assignment)
    (lead : Join) : outline.meaning truth = readRow? (outline.bits truth lead) := by
  induction outline generalizing truth lead with
  | leaf comparison => simp [meaning, bits, readRow?, readRow, readFrom]
  | node word parts ih =>
      rw [Sound] at hsound
      obtain ⟨hparts, hnode⟩ := hsound
      -- The word in front of the first comparison is not read, so it may be that of the node.
      have hlead : readRow? ((node word parts).bits truth lead) =
          readRow? ((node word parts).bits truth word) := by
        simp only [readRow?, bits_eq_nil_iff, readRow_bits]
      have hvalues : (parts.mapIdx fun i part => part.meaning (truth.under i)) =
          (partBits truth word parts).map readRow? := by
        apply List.ext_getElem
        · simp [partBits]
        · intro i hi _
          rw [List.length_mapIdx] at hi
          have hmem : parts[i] ∈ parts := List.getElem_mem hi
          simpa [partBits] using ih _ hmem (hparts _ hmem) (truth.under i) word
      rw [hlead, meaning_node, bits_node, hvalues]
      refine Join.combine_map_readRow? headedBy_of_mem_partBits ?_
      rintro rfl hmany row hrow
      rw [countP_partBits] at hmany
      obtain ⟨i, hi, rfl⟩ := List.mem_mapIdx.mp hrow
      exact eq_and_of_mem_bits fun hor => hnode ⟨rfl, hmany, parts[i], List.getElem_mem hi, hor⟩

/-! ## Unsound outlines -/

/-- A tree whose comparisons all have the same value has that value. -/
lemma meaning_const (b : Bool) (outline : Outline) :
    outline.meaning (fun _ => b) = if outline.comparisons = [] then none else some b := by
  induction outline with
  | leaf comparison => simp [meaning]
  | node word parts ih =>
      have hvalues : (parts.mapIdx fun i part => part.meaning (under (fun _ => b) i)) =
          parts.map fun part => if part.comparisons = [] then none else some b := by
        apply List.ext_getElem
        · simp
        · intro i hi _
          rw [List.length_mapIdx] at hi
          simpa [under_const] using ih _ (List.getElem_mem hi)
      rw [meaning_node, hvalues, comparisons_node]
      split
      · rename_i hnone
        rw [List.flatMap_eq_nil_iff] at hnone
        have hvoid : ∀ part ∈ parts,
            (if part.comparisons = [] then none else some b) = (none : Option Bool) :=
          fun part hpart => if_pos (hnone part hpart)
        rw [List.map_congr_left hvoid, Join.combine, if_pos]
        simp
      · rename_i hsome
        obtain ⟨part, hpart, hne⟩ : ∃ part ∈ parts, part.comparisons ≠ [] := by
          simpa [List.flatMap_eq_nil_iff] using hsome
        have hmem : some b ∈ parts.map fun part => if part.comparisons = [] then none else some b :=
          List.mem_map.mpr ⟨part, hpart, if_neg hne⟩
        refine Join.combine_of_forall word hmem fun v hv => ?_
        obtain ⟨part, -, h⟩ := List.mem_map.mp hv
        split at h
        · simp at h
        · exact (Option.some.inj h).symm

/-- All values beside the part number `k` are `b`. -/
lemma eq_of_mem_partBits {k : Nat} {inner : Assignment} {b : Bool} {word : Join}
    {parts : List Outline} (i : Nat) (hi : i < (partBits (oneApart k inner b) word parts).length)
    (hik : i ≠ k) : ∀ entry ∈ (partBits (oneApart k inner b) word parts)[i], entry.2 = b := by
  intro entry hentry
  simp only [partBits, List.getElem_mapIdx, under_oneApart_of_ne hik] at hentry
  obtain ⟨_, -, rfl⟩ := List.mem_map.mp hentry
  rfl

section Nodes

variable {word : Join} {parts : List Outline}

/-- Values that tell a part from its text tell the node from its text, if the comparisons beside
that part are made neutral. -/
lemma exists_of_part {k : Nat} (hk : k < parts.length) {inner : Assignment}
    (hmeaning : parts[k].meaning inner = some false) (hreading : parts[k].reading inner = true) :
    ∃ truth, (node word parts).meaning truth = some false ∧
      (node word parts).reading truth = true := by
  have hlength : k < (partBits (oneApart k inner (decide (word = .and))) word parts).length := by
    simpa [partBits] using hk
  have hrow : readRow (partBits (oneApart k inner (decide (word = .and))) word parts)[k] =
      true := by
    simp only [partBits, List.getElem_mapIdx, under_oneApart_self, readRow_bits, hreading]
  have hvalue : some false ∈ parts.mapIdx fun i part =>
      part.meaning ((oneApart k inner (decide (word = .and))).under i) :=
    List.mem_mapIdx.mpr ⟨k, hk, by rw [under_oneApart_self, hmeaning]⟩
  refine ⟨oneApart k inner (decide (word = .and)), ?_, ?_⟩
  · rw [meaning_node]
    cases word with
    | and => exact Join.combine_and_of_mem_false hvalue
    | or =>
        refine Join.combine_of_forall .or hvalue fun v hv => ?_
        obtain ⟨i, hi, hpart⟩ := List.mem_mapIdx.mp hv
        by_cases hik : i = k
        · subst hik
          rw [under_oneApart_self, hmeaning] at hpart
          exact (Option.some.inj hpart).symm
        · rw [under_oneApart_of_ne hik, meaning_const] at hpart
          split at hpart
          · simp at hpart
          · exact (Option.some.inj hpart).symm
  · rw [← readRow_bits _ word, bits_node]
    cases word with
    | and => exact readRow_flatten_of_true headedBy_of_mem_partBits hlength hrow eq_of_mem_partBits
    | or =>
        rw [readRow_flatten_or headedBy_of_mem_partBits, List.any_eq_true]
        exact ⟨_, List.getElem_mem hlength, hrow⟩

/-- Where `AND` joins a part with an `OR` to another part, making only the other part false tells
the node from its text. -/
lemma exists_of_or {part : Outline} (hpart : part ∈ parts) (hor : .or ∈ part.words)
    (hmany : 2 ≤ parts.countP fun part => !part.comparisons.isEmpty) :
    ∃ truth, (node .and parts).meaning truth = some false ∧
      (node .and parts).reading truth = true := by
  obtain ⟨k, hk, rfl⟩ := List.getElem_of_mem hpart
  obtain ⟨m, hm, hmk, hsome⟩ := exists_ne_of_two_le_countP hmany k
  refine ⟨oneApart m (fun _ => false) true, ?_, ?_⟩
  · rw [meaning_node]
    refine Join.combine_and_of_mem_false (List.mem_mapIdx.mpr ⟨m, hm, ?_⟩)
    rw [under_oneApart_self, meaning_const, if_neg (by simpa using hsome)]
  · have hlength : k < (partBits (oneApart m (fun _ => false) true) .and parts).length := by
      simpa [partBits] using hk
    have hrow : .or ∈ (partBits (oneApart m (fun _ => false) true) .and parts)[k].map Prod.fst := by
      rw [or_mem_words_iff] at hor
      simpa [partBits, bits, Function.comp_def] using hor
    rw [← readRow_bits _ .and, bits_node]
    exact readRow_flatten_of_or headedBy_of_mem_partBits hlength hrow hmk eq_of_mem_partBits

end Nodes

/-- A tree that is not sound is false for some values of its comparisons for which its text is
true. -/
lemma exists_of_not_sound {outline : Outline} (hsound : ¬ outline.Sound) :
    ∃ truth, outline.meaning truth = some false ∧ outline.reading truth = true := by
  induction outline with
  | leaf comparison => simp [Sound] at hsound
  | node word parts ih =>
      by_cases hparts : ∀ part ∈ parts, part.Sound
      · rw [Sound] at hsound
        obtain ⟨rfl, hmany, part, hpart, hor⟩ := not_not.mp fun h => hsound ⟨hparts, h⟩
        exact exists_of_or hpart hor hmany
      · simp only [not_forall] at hparts
        obtain ⟨part, hpart, hunsound⟩ := hparts
        obtain ⟨inner, hmeaning, hreading⟩ := ih part hpart hunsound
        obtain ⟨k, hk, rfl⟩ := List.getElem_of_mem hpart
        exact exists_of_part hk hmeaning hreading

/-- **A tree has the meaning of its text**, whatever its comparisons are, exactly if it is sound. -/
theorem sound_iff {outline : Outline} (hne : outline.comparisons ≠ []) :
    outline.Sound ↔ ∀ truth, outline.meaning truth = some (outline.reading truth) := by
  constructor
  · intro hsound truth
    rw [hsound.meaning_eq truth .and, readRow?, if_neg (by rwa [bits_eq_nil_iff]), readRow_bits]
  · intro hagree
    by_contra hsound
    obtain ⟨truth, hmeaning, hreading⟩ := exists_of_not_sound hsound
    simp [hagree truth, hreading] at hmeaning

end Outline

/-! ## Filters -/

lemma Conditions.row_outline (field : String) (conditions : Conditions) :
    ∀ word ∈ ((conditions.outline field).row .and).map Prod.fst, word = .and := by
  intro word hword
  rw [outline, Outline.row_node, List.map_flatten] at hword
  obtain ⟨_, hrow, hmem⟩ := List.mem_flatten.mp hword
  obtain ⟨row, hpart, rfl⟩ := List.mem_map.mp hrow
  obtain ⟨i, hi, rfl⟩ := List.mem_mapIdx.mp hpart
  simpa using hmem

namespace Filter

/-- Is a filter found somewhere in another one, or is it that one? -/
inductive Contains : Filter → Filter → Prop
  | self (filter : Filter) : Contains filter filter
  | child {children : List Filter} {child inner : Filter} (hmem : child ∈ children)
      (hinner : Contains child inner) : Contains (sequence children) inner

lemma sound_outline_group (fields : Group) : (group fields).outline.Sound := by
  rw [outline, Group.outline, Outline.Sound]
  constructor
  · intro part hpart
    obtain ⟨⟨name, conditions⟩, -, rfl⟩ := List.mem_map.mp hpart
    simp only [Conditions.outline, Outline.Sound]
    constructor
    · intro leaf hleaf
      obtain ⟨c, -, rfl⟩ := List.mem_map.mp hleaf
      simp [Outline.Sound]
    · rintro ⟨-, -, leaf, hleaf, hor⟩
      obtain ⟨c, -, rfl⟩ := List.mem_map.mp hleaf
      simp [Outline.or_mem_words_iff] at hor
  · rintro ⟨-, -, part, hpart, hor⟩
    obtain ⟨⟨name, conditions⟩, -, rfl⟩ := List.mem_map.mp hpart
    rw [Outline.or_mem_words_iff] at hor
    exact absurd (Conditions.row_outline name conditions .or hor) (by decide)

/-- Does a sequence join two children or more by `AND` although a child has an `OR` of its own? -/
def Mixes (children : List Filter) : Prop :=
  (sequence children).compile.value.join = .and ∧
    2 ≤ children.countP (fun child => !child.compile.value.fragment.isEmpty) ∧
    ∃ child ∈ children, .or ∈ child.outline.words

lemma isEmpty_compile (filter : Filter) :
    filter.compile.value.fragment.isEmpty = filter.outline.comparisons.isEmpty := by
  rw [value_compile, Bool.eq_iff_iff, Fragment.isEmpty, String.isEmpty_iff,
    sql_outline_eq_empty_iff, comparisons_outline, List.isEmpty_iff]

lemma sound_outline_sequence (children : List Filter) :
    (sequence children).outline.Sound ↔
      (∀ child ∈ children, child.outline.Sound) ∧ ¬ Mixes children := by
  have hcount : (children.map outline).countP (fun part => !part.comparisons.isEmpty) =
      children.countP fun child => !child.compile.value.fragment.isEmpty := by
    simp only [List.countP_map, Function.comp_def, isEmpty_compile]
  have hor : (∃ part ∈ children.map outline, .or ∈ part.words) ↔
      ∃ child ∈ children, .or ∈ child.outline.words := by
    simp
  have hjoin : (sequence children).join = (sequence children).compile.value.join := by
    rw [value_compile]
  rw [outline, Outline.Sound, List.forall_mem_map, hcount, hor, hjoin, Mixes]

lemma sound_outline_iff (filter : Filter) :
    filter.outline.Sound ↔ ∀ children, filter.Contains (sequence children) → ¬ Mixes children := by
  induction filter with
  | group fields =>
      refine iff_of_true (sound_outline_group fields) fun children hchildren => ?_
      nomatch hchildren
  | sequence children ih =>
      rw [sound_outline_sequence]
      constructor
      · rintro ⟨hsound, hnode⟩ inner hinner
        cases hinner with
        | self => exact hnode
        | child hmem hinner => exact (ih _ hmem).mp (hsound _ hmem) inner hinner
      · intro h
        refine ⟨fun child hchild => ?_, h children (.self _)⟩
        exact (ih child hchild).mpr fun inner hinner => h inner (.child hchild hinner)

/-- The value of a filter whose comparisons have the values that `truth` gives to their places.
The defined comparisons of a field are joined by `AND`, the fields of a group by the join of the
group, and the children of a sequence by the join that compiling the sequence reports. -/
def meaning : Filter → Assignment → Option Bool
  | group fields => fun truth =>
    fields.join.combine (fields.fields.mapIdx fun i (name, conditions) =>
      Join.and.combine ((conditions.comparisons name).mapIdx fun k _ => some (truth [i, k])))
  | sequence children => fun truth =>
    (sequence children).compile.value.join.combine
      ((children.map meaning).mapIdx fun i value => value (truth.under i))

lemma meaning_outline (filter : Filter) (truth : Assignment) :
    filter.outline.meaning truth = filter.meaning truth := by
  induction filter generalizing truth with
  | group fields =>
      rw [outline, Group.outline, Outline.meaning_node, meaning]
      congr 1
      apply List.ext_getElem
      · simp
      · intro i _ _
        simp only [List.getElem_mapIdx, List.getElem_map, Conditions.outline, Outline.meaning_node]
        congr 1
        apply List.ext_getElem
        · simp
        · intro k _ _
          simp [Outline.meaning, Assignment.under_apply]
  | sequence children ih =>
      have hjoin : (sequence children).join = (sequence children).compile.value.join := by
        rw [value_compile]
      rw [outline, Outline.meaning_node, meaning, hjoin]
      congr 1
      apply List.ext_getElem
      · simp
      · intro i hi _
        rw [List.length_mapIdx, List.length_map] at hi
        simpa using ih _ (List.getElem_mem hi) _

/-- **Precedence.**  For a filter that makes a comparison, tree and text have the same value for
all values of the comparisons exactly if no sequence in it mixes: none joins two non-empty children
or more by `AND` and has a child with an `OR` between its own comparisons. -/
theorem meaning_eq_reading_iff (filter : Filter) (hne : filter.comparisons ≠ []) :
    (∀ truth, filter.meaning truth = some (filter.outline.reading truth)) ↔
      ∀ children, filter.Contains (sequence children) → ¬ Mixes children := by
  rw [← sound_outline_iff]
  simp only [← meaning_outline]
  exact (Outline.sound_iff (by rwa [comparisons_outline])).symm

/-- Two alternatives, and a third comparison that is to hold in any case. -/
def alternatives : List Filter :=
  [.group ⟨[("a", ⟨[(.equals, some (.int 1))], some .or⟩),
      ("b", ⟨[(.equals, some (.int 2))], none⟩)]⟩,
    .group ⟨[("c", ⟨[(.gt, some (.int 3))], none⟩)]⟩]

theorem meaning_ne_reading_alternatives :
    (sequence alternatives).whereClause.value.sql = "WHERE a = ? OR b = ? AND c > ?" ∧
      ¬ ∀ truth, (sequence alternatives).meaning truth =
        some ((sequence alternatives).outline.reading truth) := by
  have hne : (sequence alternatives).comparisons ≠ [] := by
    simp [alternatives, comparisons, Group.comparisons, Conditions.comparisons,
      Conditions.defined]
  have hor : ∃ child ∈ alternatives, .or ∈ child.outline.words := by
    refine ⟨_, List.mem_cons_self, ?_⟩
    simp [outline, Group.outline, Group.join, Conditions.outline, Conditions.comparisons,
      Conditions.defined, Outline.words, Outline.leaves, Outline.wordBetween, Occurrence.within,
      Place.meet, Outline.at?, Outline.join]
  have hjoin : (sequence alternatives).compile.value.join = .and := by
    rw [value_compile]
    simp [alternatives, join, lastGroup?, Group.carriedJoin?]
  have hmany : 2 ≤ alternatives.countP fun child => !child.compile.value.fragment.isEmpty := by
    simp [alternatives, isEmpty_compile, comparisons, Group.comparisons, Conditions.comparisons,
      Conditions.defined]
  have hsql : (sequence alternatives).whereClause.value.sql = "WHERE a = ? OR b = ? AND c > ?" := by
    rw [value_whereClause, if_neg hne]
    simp [alternatives, outline, Group.outline, Conditions.outline, Conditions.comparisons,
      Conditions.defined, Outline.fragment, Outline.text, Join.interpose, Comparison.fragment,
      Operator.marks, Operator.spread?, Operator.spreadsLists, Operator.sql, Join.sql, placeholder,
      Group.join, join, lastGroup?, Group.carriedJoin?]
  refine ⟨hsql, fun hagree => ?_⟩
  exact (meaning_eq_reading_iff (sequence alternatives) hne).mp hagree alternatives (.self _)
    ⟨hjoin, hmany, hor⟩

end Filter

end FilterQuery
