import FilterQuery.Proofs.Calls
import FilterQuery.Proofs.Denotation

/-!
# Texts and calls

The text of a document is read by merging its objects first, so that a repeated key keeps its first
place and takes its last value, and by reading the merged objects then.  What is read is what the
document builds by one call after the other (`parse_eq_of_builtFrom`).

The two are compared after each member: one more member puts a value into the merged object, one
more change puts what that value describes into what was built, and both keep the place of a key
that is there already.
-/

namespace FilterQuery

/-! ## One more member -/

namespace Conditions

/-- Members and entries correspond one to one by their keys. -/
lemma MirrorsEntry.keys_iff {x x' : String × Json} {y y' : Operator × Option Value}
    (h : MirrorsEntry x y) (h' : MirrorsEntry x' y') : x.1 = x'.1 ↔ y.1 = y'.1 := by
  rw [h.1, h'.1]
  exact ⟨Operator.name_inj, congrArg Operator.name⟩

namespace Mirrors

variable {members : List (String × Json)} {conditions : Conditions}

lemma put_comparison (h : Mirrors members conditions) (hkeys : (Entries.keys members).Nodup)
    (op : Operator) {value : Json} {bound : Value} (hvalue : value.Denotes bound) :
    Mirrors (Entries.put op.name value members) (conditions.set op (some bound)) where
  entries := by
    rw [Entries.filter_put_of_pos (p := fun key => key ≠ joinKey)
      (by simpa using op.name_ne_joinKey)]
    exact Entries.forall₂_put (fun _ _ _ _ => MirrorsEntry.keys_iff) h.entries
      (x := (op.name, value)) (y := (op, some bound)) ⟨rfl, bound, rfl, hvalue⟩
  joined held hheld := by
    obtain ⟨hkey, -⟩ | ⟨-, hheld⟩ := (Entries.mem_put_iff hkeys).mp hheld
    · exact absurd hkey.symm op.name_ne_joinKey
    · exact h.joined held hheld
  unjoined hkey := h.unjoined fun hmem => hkey (Entries.mem_keys_put_iff.mpr (.inr hmem))

lemma put_join (h : Mirrors members conditions) (hkeys : (Entries.keys members).Nodup)
    (join : Join) :
    Mirrors (Entries.put joinKey (.string join.sql) members) (conditions.joinedBy join) where
  entries := by
    rw [Entries.filter_put_of_neg (p := fun key => key ≠ joinKey) (by simp)]
    exact h.entries
  joined held hheld := by
    obtain ⟨-, rfl⟩ | ⟨hkey, -⟩ := (Entries.mem_put_iff hkeys).mp hheld
    · exact ⟨join, rfl, rfl⟩
    · exact absurd rfl hkey
  unjoined hkey := absurd (Entries.mem_keys_put_iff.mpr (.inl rfl)) hkey

end Mirrors

end Conditions

/-! ## What is built is what is read -/

/-- Items have values that fit what is written if each item has one. -/
lemma Draft.exists_denoted {α : Type} {depth : Nat} {Writes : Draft → α → Prop}
    {Fits : Json → α → Prop} {items : List Draft} {results : List α}
    (h : List.Forall₂ Writes items results)
    (hstep : ∀ item ∈ items, ∀ {result}, Writes item result →
      ∃ json, item.denote depth = some json ∧ Fits json result) :
    ∃ values, List.Forall₂ (fun item json => item.denote depth = some json) items values ∧
      List.Forall₂ Fits values results := by
  refine exists_forall₂_of_forall₂ (A := Eq) (List.forall₂_same.mpr fun _ _ => rfl) h ?_
  rintro item hitem _ result rfl hresult
  exact hstep item hitem hresult

/-- What a draft writes is denoted by its value. -/
lemma Draft.Binds.exists_denotes {depth : Nat} {d : Draft} (hdepth : d.NestedWithin depth)
    {value : Value} (h : d.Binds value) :
    ∃ json, d.denote depth = some json ∧ json.Denotes value := by
  induction hdepth generalizing value with
  | null =>
      cases h with
      | null => exact ⟨.null, by simp [denote], .null⟩
  | bool b =>
      cases h with
      | bool => exact ⟨.bool b, by simp [denote], .bool b⟩
  | string s =>
      cases h with
      | string => exact ⟨.string s, by simp [denote], .string s⟩
  | numeral literal =>
      cases h with
      | integer hnumber => exact ⟨_, by simp [denote, hnumber], .integer _⟩
      | @decimal _ x finite hnumber =>
          exact ⟨.number (.decimal x finite), by simp [denote, hnumber], .decimal x finite⟩
  | array _ ih =>
      cases h with
      | array hitems =>
          obtain ⟨values, hvalues, hdenotes⟩ := exists_denoted hitems ih
          exact ⟨.array values, denote_array_eq_some_iff.mpr ⟨_, values, rfl, rfl, hvalues⟩,
            .array hdenotes⟩
  | object => cases h

lemma Draft.Counts.exists_describes {d : Draft} {count? : Option UInt64}
    (h : d.Counts count?) (depth : Nat) :
    ∃ json, d.denote depth = some json ∧ json.DescribesCount count? := by
  cases h with
  | unset => exact ⟨.null, by simp [Draft.denote], .unset⟩
  | @count _ n hnumber =>
      exact ⟨.number (.integer n.toNat), by simp [Draft.denote, hnumber], .count n⟩

/-- The members of a document have an object of merged members, of which `P` holds. -/
def Draft.MergesTo (depth : Nat) (members : List (String × Draft))
    (P : List (String × Json) → Prop) : Prop :=
  ∃ merged, (Draft.object members).denote (depth + 1) = some (.object merged) ∧ P merged

/-- One more member puts its value into the merged members. -/
lemma Draft.MergesTo.append {depth : Nat} {members : List (String × Draft)}
    {P Q : List (String × Json) → Prop} (h : MergesTo depth members P) {name : String} {d : Draft}
    {json : Json} (hd : d.denote depth = some json)
    (hput : ∀ merged, (Entries.keys merged).Nodup → P merged → Q (Entries.put name json merged)) :
    MergesTo depth (members ++ [(name, d)]) Q := by
  obtain ⟨merged, hmerged, hP⟩ := h
  have hkeys := (Json.distinct_object_iff.mp (distinct_of_denote hmerged)).1
  rw [denote, Option.map_eq_some_iff] at hmerged
  obtain ⟨values, hvalues, hobject⟩ := hmerged
  refine ⟨Entries.put name json merged, ?_, hput merged hkeys hP⟩
  rw [denote, Option.map_eq_some_iff]
  refine ⟨values ++ [(name, json)], by simp [List.mapM_append, hvalues, hd], ?_⟩
  rw [Json.ofMembers, Json.object.injEq] at hobject
  rw [Json.ofMembers, List.foldl_append, hobject]
  rfl

lemma Conditions.BuiltFrom.mergesTo {depth : Nat} {members : List (String × Draft)}
    {conditions : Conditions} (h : conditions.BuiltFrom members)
    (hdepth : ∀ member ∈ members, member.2.NestedWithin depth) :
    Draft.MergesTo depth members fun merged => Mirrors merged conditions := by
  induction h with
  | start => exact ⟨[], rfl, .nil⟩
  | comparison _ op hvalue ih =>
      rw [List.forall_mem_append, List.forall_mem_singleton] at hdepth
      obtain ⟨json, hjson, hdenotes⟩ := hvalue.exists_denotes hdepth.2
      exact (ih hdepth.1).append hjson fun _ hkeys hmirrors =>
        hmirrors.put_comparison hkeys op hdenotes
  | join _ join ih =>
      rw [List.forall_mem_append] at hdepth
      have hword : (Draft.string join.sql).denote depth = some (.string join.sql) := by
        simp [Draft.denote]
      exact (ih hdepth.1).append hword fun _ hkeys hmirrors => hmirrors.put_join hkeys join

lemma Group.BuiltFrom.mergesTo {depth : Nat} {members : List (String × Draft)}
    {group : Group} (h : group.BuiltFrom members)
    (hdepth : ∀ member ∈ members, member.2.NestedWithin depth) :
    Draft.MergesTo depth members fun merged => List.Forall₂ MirrorsField merged group.fields := by
  induction h with
  | start => exact ⟨[], rfl, .nil⟩
  | @field members entries group conditions _ name hentries ih =>
      rw [List.forall_mem_append, List.forall_mem_singleton] at hdepth
      obtain ⟨hwithin, hobject⟩ := hdepth
      cases hobject with
      | object hentry =>
          obtain ⟨merged, hmerged, hmirrors⟩ := hentries.mergesTo hentry
          exact (ih hwithin).append hmerged fun _ _ hfields =>
            Entries.forall₂_put (x := (name, .object merged)) (y := (name, conditions))
              (fun _ _ _ _ h h' => by rw [h.1, h'.1]) hfields ⟨rfl, merged, rfl, hmirrors⟩

lemma Filter.BuiltFrom.exists_mirrors {depth : Nat} {d : Draft} (hdepth : d.NestedWithin depth)
    {filter : Filter} (h : filter.BuiltFrom d) :
    ∃ json, d.denote depth = some json ∧ Mirrors json filter := by
  induction hdepth generalizing filter with
  | null =>
      cases h with
      | null => exact ⟨.null, by simp [Draft.denote], .null⟩
  | array _ ih =>
      cases h with
      | sequence hitems =>
          obtain ⟨values, hvalues, hmirrors⟩ := Draft.exists_denoted hitems ih
          exact ⟨.array values, Draft.denote_array_eq_some_iff.mpr ⟨_, values, rfl, rfl, hvalues⟩,
            .array hmirrors⟩
  | object hmembers _ =>
      cases h with
      | group hfields =>
          obtain ⟨merged, hmerged, hmirrors⟩ := hfields.mergesTo hmembers
          exact ⟨.object merged, hmerged, .object hmirrors⟩
  | _ => cases h

namespace Selection

/-- Adding columns to an ordering one by one puts them into it. -/
lemma foldl_orderBy (columns order : List (String × Direction)) (selection : Selection) :
    columns.foldl (fun selection (column, direction) =>
        selection.apply (.orderBy column direction)) (selection.apply (.order order)) =
      selection.apply (.order (columns.foldl
        (fun order (column, direction) => Entries.put column direction order) order)) := by
  induction columns generalizing order with
  | nil => rfl
  | cons column columns ih => exact ih (Entries.put column.1 column.2 order)

lemma exists_describesOrder (columns : List (String × Direction)) (depth : Nat) :
    ∃ json, (Draft.object (columns.map fun (column, direction) =>
        (column, .string direction.sql))).denote (depth + 1) = some json ∧
      json.DescribesOrder (columns.foldl
        (fun order (column, direction) => Entries.put column direction order) []) := by
  refine ⟨Json.ofMembers (columns.map fun (column, direction) =>
    (column, .string direction.sql)), ?_, ?_⟩
  · rw [Draft.denote, Option.map_eq_some_iff]
    refine ⟨_, mapM_eq_some_iff.mpr ?_, rfl⟩
    rw [List.forall₂_map_left_iff, List.forall₂_map_right_iff, List.forall₂_same]
    simp [Draft.denote]
  · exact congrArg Json.object
      (Entries.foldl_put_map (fun direction : Direction => Json.string direction.sql) columns [])

lemma exists_describesColumns (names : List String) (depth : Nat) :
    ∃ json, (Draft.array (names.map .string)).denote (depth + 1) = some json ∧
      json.DescribesColumns names := by
  refine ⟨.array (names.map .string), Draft.denote_array_eq_some_iff.mpr
    ⟨depth, _, rfl, rfl, ?_⟩, rfl⟩
  rw [List.forall₂_map_left_iff, List.forall₂_map_right_iff, List.forall₂_same]
  simp [Draft.denote]

lemma BuiltFromMembers.mergesTo {depth : Nat} {members : List (String × Draft)}
    {selection : Selection} (h : selection.BuiltFromMembers members)
    (hdepth : ∀ member ∈ members, member.2.NestedWithin depth) :
    Draft.MergesTo depth members fun merged => MirrorsMembers merged selection := by
  induction h with
  | start => exact ⟨[], rfl, .nil⟩
  | columns _ names ih =>
      rw [List.forall_mem_append, List.forall_mem_singleton] at hdepth
      obtain ⟨hwithin, harray⟩ := hdepth
      cases harray with
      | @array inner =>
          obtain ⟨json, hjson, hcolumns⟩ := exists_describesColumns names inner
          exact (ih hwithin).append hjson fun _ hkeys hselection =>
            hselection.put hkeys (.columns hcolumns)
  | filter _ hfilter ih =>
      rw [List.forall_mem_append, List.forall_mem_singleton] at hdepth
      obtain ⟨json, hjson, hmirrors⟩ := hfilter.exists_mirrors hdepth.2
      have hread := (Filter.ofJson_eq_ok_iff (Draft.distinct_of_denote hjson) _).mpr hmirrors
      exact (ih hdepth.1).append hjson fun _ hkeys hselection =>
        hselection.put hkeys (.filter hread)
  | order _ columns ih =>
      rw [List.forall_mem_append, List.forall_mem_singleton] at hdepth
      obtain ⟨hwithin, hobject⟩ := hdepth
      cases hobject with
      | @object inner =>
          obtain ⟨json, hjson, horder⟩ := exists_describesOrder columns inner
          rw [foldl_orderBy]
          exact (ih hwithin).append hjson fun _ hkeys hselection =>
            hselection.put hkeys (.order horder)
  | page _ hpage ih =>
      rw [List.forall_mem_append] at hdepth
      obtain ⟨json, hjson, hcount⟩ := hpage.exists_describes depth
      exact (ih hdepth.1).append hjson fun _ hkeys hselection =>
        hselection.put hkeys (.page hcount)
  | limit _ hlimit ih =>
      rw [List.forall_mem_append] at hdepth
      obtain ⟨json, hjson, hcount⟩ := hlimit.exists_describes depth
      exact (ih hdepth.1).append hjson fun _ hkeys hselection =>
        hselection.put hkeys (.limit hcount)

lemma BuiltFrom.exists_mirrors {depth : Nat} {d : Draft} (hdepth : d.NestedWithin depth)
    {selection : Selection} (h : selection.BuiltFrom d) :
    ∃ json, d.denote depth = some json ∧ Mirrors json selection := by
  cases h with
  | null => exact ⟨.null, by simp [Draft.denote], .null⟩
  | object hbuilt =>
      cases hdepth with
      | object hmembers =>
          obtain ⟨merged, hmerged, hmirrors⟩ := hbuilt.mergesTo hmembers
          exact ⟨.object merged, hmerged, .object hmirrors⟩

end Selection

/-- **Texts and calls.**  Exactly the documents of valid members build a filter, or a selection, by
one call for each member as it is written; and their texts are read as what is built. -/
theorem parse_eq_of_builtFrom {d : Draft} {text : String} (htext : d.Spelled text)
    (hdepth : d.NestedWithin Json.depthLimit) :
    ((∃ filter, Filter.BuiltFrom d filter) ↔ d.ValidFilter) ∧
    (∀ filter, Filter.BuiltFrom d filter → Filter.parse text = .ok filter) ∧
    ((∃ selection, Selection.BuiltFrom d selection) ↔ d.ValidSelection) ∧
    ∀ selection, Selection.BuiltFrom d selection → Selection.parse text = .ok selection := by
  refine ⟨Filter.exists_builtFrom_iff, fun filter hfilter => ?_, Selection.exists_builtFrom_iff,
    fun selection hselection => ?_⟩
  · obtain ⟨json, hjson, hmirrors⟩ := hfilter.exists_mirrors hdepth
    exact (Filter.parse_eq_ok_iff htext filter).mpr ⟨json, hjson, hmirrors⟩
  · obtain ⟨json, hjson, hmirrors⟩ := hselection.exists_mirrors hdepth
    exact (Selection.parse_eq_ok_iff htext selection).mpr ⟨json, hjson, hmirrors⟩

/-! ### Documents with repeated keys -/

/-- A filter that mentions a field, an operator and a join twice. -/
def repeatedFilter : Draft :=
  .object
    [("a", .object []),
      ("b", .object [("lt", .null), ("operator", .string "OR"), ("in", .array [.bool true]),
        ("lt", .string "x"), ("operator", .string "AND")]),
      ("a", .object [("gt", .null)])]

/-- The text
`{"a":{},"b":{"lt":null,"operator":"OR","in":[true],"lt":"x","operator":"AND"},"a":{"gt":null}}`. -/
def repeatedFilterText : String :=
  Json.inBraces ("\"a\":" ++ Json.emptyObjectText
    ++ ",\"b\":" ++ Json.inBraces ("\"lt\":null,\"operator\":\"OR\",\"in\":[true],"
      ++ "\"lt\":\"x\",\"operator\":\"AND\"")
    ++ ",\"a\":" ++ Json.inBraces "\"gt\":null")

/-- What the filter says in the end. -/
def mergedFilter : Filter :=
  .group ⟨[("a", ⟨[(.gt, some .null)], none⟩),
    ("b", ⟨[(.lt, some (.text "x")), (.isIn, some (.list [.bool true]))], some .and⟩)]⟩

/-- The literal of the number five. -/
def five : Literal :=
  .ofDigits ['5'] ⟨by simp, List.forall_mem_singleton.mpr rfl⟩ (by simp)

/-- A selection that mentions the limit twice, and the column of the standard ordering twice. -/
def repeatedSelection : Draft :=
  .object
    [("limit", .null), ("order", .object [("id", .string "ASC"), ("id", .string "DESC")]),
      ("columns", .array [.string "a"]), ("limit", .numeral five)]

/-- The text `{"limit":null,"order":{"id":"ASC","id":"DESC"},"columns":["a"],"limit":5}`. -/
def repeatedSelectionText : String :=
  Json.inBraces ("\"limit\":null,\"order\":" ++ Json.inBraces "\"id\":\"ASC\",\"id\":\"DESC\""
    ++ ",\"columns\":[\"a\"],\"limit\":5")

/-- What the selection says in the end.  The ordering is chosen, though it is the standard one. -/
def mergedSelection : Selection :=
  { Selection.standard with
    columns := ["a"]
    order? := some [("id", .desc)]
    limit? := some 5 }

lemma spelled_repeatedFilter : repeatedFilter.Spelled repeatedFilterText := by
  refine Draft.Spells.spelled (.object (.refl _)
    (.cons (.plain ['a'] (by simp) (.object (.refl _) (.nil (.refl _))))
    (.cons (.refl _) (.plain ['b'] (by simp) (.object (.refl _)
      (.cons (.plain ['l', 't'] (by simp) (.null (.refl _)))
      (.cons (.refl _) (.plain "operator".toList (by simp) (.plain ['O', 'R'] (by simp)))
      (.cons (.refl _) (.plain ['i', 'n'] (by simp)
        (.array (.refl _) (.cons (.true (.refl _)) (.nil (.refl _)))))
      (.cons (.refl _) (.plain ['l', 't'] (by simp) (.plain ['x'] (by simp)))
      (.cons (.refl _) (.plain "operator".toList (by simp) (.plain ['A', 'N', 'D'] (by simp)))
      (.nil (.refl _)))))))))
    (.cons (.refl _) (.plain ['a'] (by simp) (.object (.refl _)
      (.cons (.plain ['g', 't'] (by simp) (.null (.refl _))) (.nil (.refl _)))))
    (.nil (.refl _)))))) ?_
  decide +kernel

lemma spelled_repeatedSelection : repeatedSelection.Spelled repeatedSelectionText := by
  refine Draft.Spells.spelled (.object (.refl _)
    (.cons (.plain "limit".toList (by simp) (.null (.refl _)))
    (.cons (.refl _) (.plain "order".toList (by simp) (.object (.refl _)
      (.cons (.plain ['i', 'd'] (by simp) (.plain "ASC".toList (by simp)))
      (.cons (.refl _) (.plain ['i', 'd'] (by simp) (.plain "DESC".toList (by simp)))
      (.nil (.refl _))))))
    (.cons (.refl _) (.plain "columns".toList (by simp)
      (.array (.refl _) (.cons (.plain ['a'] (by simp)) (.nil (.refl _)))))
    (.cons (.refl _) (.plain "limit".toList (by simp) (.numeral five (.refl _)))
    (.nil (.refl _))))))) ?_
  decide +kernel

lemma builtFrom_repeatedFilter : Filter.BuiltFrom repeatedFilter mergedFilter := by
  have hfirst : Conditions.BuiltFrom [("gt", .null)] ⟨[(.gt, some .null)], none⟩ :=
    Conditions.BuiltFrom.start.comparison .gt .null
  have hsecond : Conditions.BuiltFrom _ _ :=
    ((((Conditions.BuiltFrom.start.comparison .lt .null).join .or).comparison .isIn
      (.array (.cons (.bool true) .nil))).comparison .lt (.string "x")).join .and
  exact .group (((Group.BuiltFrom.start.field "a" .start).field "b" hsecond).field "a" hfirst)

lemma builtFrom_repeatedSelection :
    Selection.BuiltFrom repeatedSelection mergedSelection := by
  have hinteger : five.IsInteger := rfl
  have hfive : five.number? = some (.integer (5 : UInt64).toNat) :=
    (Literal.number?_eq_integer_iff hinteger _).mpr
      ⟨by decide, by decide, by decide, fun hzero => absurd hzero.1 (by decide)⟩
  exact .object ((((Selection.BuiltFromMembers.start.limit .unset).order
    [("id", .asc), ("id", .desc)]).columns ["a"]).limit (.count hfive))

theorem parse_eq_of_builtFrom_repeated :
    repeatedFilter.Spelled repeatedFilterText ∧ repeatedFilter.NestedWithin Json.depthLimit ∧
      repeatedFilter.ValidFilter ∧ Filter.BuiltFrom repeatedFilter mergedFilter ∧
      Filter.parse repeatedFilterText = .ok mergedFilter ∧
      repeatedSelection.Spelled repeatedSelectionText ∧
      repeatedSelection.NestedWithin Json.depthLimit ∧
      repeatedSelection.ValidSelection ∧ Selection.BuiltFrom repeatedSelection mergedSelection ∧
      Selection.parse repeatedSelectionText = .ok mergedSelection := by
  have hfilter : repeatedFilter.NestedWithin Json.depthLimit := by
    simp [repeatedFilter, Json.depthLimit]
  have hselection : repeatedSelection.NestedWithin Json.depthLimit := by
    simp [repeatedSelection, Json.depthLimit]
  obtain ⟨hvalid, hparse, -, -⟩ := parse_eq_of_builtFrom spelled_repeatedFilter hfilter
  obtain ⟨-, -, hvalid', hparse'⟩ := parse_eq_of_builtFrom spelled_repeatedSelection hselection
  exact ⟨spelled_repeatedFilter, hfilter, hvalid.mp ⟨_, builtFrom_repeatedFilter⟩,
    builtFrom_repeatedFilter, hparse _ builtFrom_repeatedFilter, spelled_repeatedSelection,
    hselection, hvalid'.mp ⟨_, builtFrom_repeatedSelection⟩, builtFrom_repeatedSelection,
    hparse' _ builtFrom_repeatedSelection⟩

end FilterQuery
