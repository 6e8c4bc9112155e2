import FilterQuery.Document.Filter
import FilterQuery.Proofs.BoundValues

/-!
# The grammar of filter descriptions

Which JSON values describe a filter, and which filter they describe, said without the reader.

* `Json.DescribesFilter` is the grammar: `null`, an array of descriptions, or an object whose
  members give fields an object of operators.  The key `operator` holds a join there; as a key of a
  group it is a field like any other.
* `Filter.Mirrors` relates a description to its filter, level by level and in the order of the
  document.  Every value is defined in the filter, `null` as the value `null`.

The reader accepts exactly the grammar and gives exactly the filter that mirrors the description
(`Filter.ofJson_accepts_and_mirrors`).  The members of an object are put into the filter one by one,
and since the keys are distinct, each of them comes behind those before it.
-/

namespace FilterQuery

/-! ## The grammar -/

namespace Json

/-- A member of the conditions of a field: a join, or a value for an operator. -/
inductive DescribesCondition : String × Json → Prop
  | join (join : Join) : DescribesCondition (joinKey, .string join.sql)
  | comparison (op : Operator) {value : Json} (h : value.Bindable) :
      DescribesCondition (op.name, value)

/-- A member of a group: a field and an object of conditions. -/
def DescribesField (member : String × Json) : Prop :=
  ∃ conditions, member.2 = .object conditions ∧ ∀ entry ∈ conditions, DescribesCondition entry

/-- A description of a filter. -/
inductive DescribesFilter : Json → Prop
  | null : DescribesFilter .null
  | array {items : List Json} (h : ∀ item ∈ items, DescribesFilter item) :
      DescribesFilter (.array items)
  | object {members : List (String × Json)} (h : ∀ member ∈ members, DescribesField member) :
      DescribesFilter (.object members)

/-- No object has two members of one key, at any depth. -/
inductive Distinct : Json → Prop
  | null : Distinct .null
  | bool (b : Bool) : Distinct (.bool b)
  | number (n : Number) : Distinct (.number n)
  | string (s : String) : Distinct (.string s)
  | array {items : List Json} (h : ∀ item ∈ items, Distinct item) : Distinct (.array items)
  | object {members : List (String × Json)} (hkeys : (Entries.keys members).Nodup)
      (h : ∀ member ∈ members, Distinct member.2) : Distinct (.object members)

attribute [simp] Distinct.null Distinct.bool Distinct.number Distinct.string

@[simp] lemma distinct_array_iff {items : List Json} :
    Distinct (.array items) ↔ ∀ item ∈ items, item.Distinct :=
  ⟨by rintro ⟨⟩; assumption, .array⟩

@[simp] lemma distinct_object_iff {members : List (String × Json)} :
    Distinct (.object members) ↔
      (Entries.keys members).Nodup ∧ ∀ member ∈ members, member.2.Distinct :=
  ⟨by rintro ⟨⟩; constructor <;> assumption, fun h => .object h.1 h.2⟩

end Json

/-! ## What is described -/

/-- An entry for the operator of a member, with the value of the member. -/
def Conditions.MirrorsEntry (member : String × Json) (entry : Operator × Option Value) : Prop :=
  member.1 = entry.1.name ∧ ∃ value, entry.2 = some value ∧ member.2.Denotes value

/-- The conditions that the members of an object describe: an entry for each member but the join, in
order, and the join that the member `operator` holds, if there is one. -/
structure Conditions.Mirrors (members : List (String × Json)) (conditions : Conditions) : Prop where
  entries : List.Forall₂ MirrorsEntry (members.filter fun member => member.1 ≠ joinKey)
    conditions.entries
  joined : ∀ value, (joinKey, value) ∈ members →
    ∃ join, value = .string join.sql ∧ conditions.join = some join
  unjoined : joinKey ∉ Entries.keys members → conditions.join = none

/-- A field of the name of a member, with the conditions that the member describes. -/
def Group.MirrorsField (member : String × Json) (field : String × Conditions) : Prop :=
  member.1 = field.1 ∧
    ∃ conditions, member.2 = .object conditions ∧ field.2.Mirrors conditions

/-- The filter that a JSON value describes. -/
inductive Filter.Mirrors : Json → Filter → Prop
  | null : Mirrors .null (.group ⟨[]⟩)
  | array {items : List Json} {children : List Filter} (h : List.Forall₂ Mirrors items children) :
      Mirrors (.array items) (.sequence children)
  | object {members : List (String × Json)} {fields : Entries String Conditions}
      (h : List.Forall₂ Group.MirrorsField members fields) :
      Mirrors (.object members) (.group ⟨fields⟩)

/-! ## Keywords -/

/-- A search by name that finds each thing under its own name finds nothing else. -/
lemma find?_eq_some_iff_of_self {α : Type} {name : α → String} {xs : List α}
    (hself : ∀ a, (xs.find? fun x => name x == name a) = some a) {word : String} {a : α} :
    (xs.find? fun x => name x == word) = some a ↔ word = name a := by
  constructor
  · intro h
    have hname : name a = word := by simpa using List.find?_some h
    exact hname.symm
  · rintro rfl
    exact hself a

lemma Operator.ofName_eq_ok_iff {name : String} {op : Operator} :
    ofName name = .ok op ↔ name = op.name := by
  have hfind : ofName? name = some op ↔ name = op.name := find?_eq_some_iff_of_self ofName?_name
  rw [ofName, ← hfind]
  cases ofName? name <;> simp

lemma Join.ofWord_eq_ok_iff {word : String} {join : Join} :
    ofWord word = .ok join ↔ word = join.sql := by
  have hfind : ofWord? word = some join ↔ word = join.sql := find?_eq_some_iff_of_self ofWord?_sql
  rw [ofWord, ← hfind]
  cases ofWord? word <;> simp

lemma Operator.name_ne_joinKey (op : Operator) : op.name ≠ joinKey := by
  cases op <;> decide

lemma Operator.name_inj {op op' : Operator} (h : op.name = op'.name) : op = op' := by
  have hname := ofName?_name op
  rw [h, ofName?_name] at hname
  exact (Option.some.inj hname).symm

/-! ## Reading conditions -/

namespace Conditions

/-- What reading one member does: it carries the join, or sets the value of an operator. -/
lemma readMember_eq_ok_iff {conditions result : Conditions} {key : String} {value : Json} :
    conditions.readMember (key, value) = .ok result ↔
      (key = joinKey ∧ ∃ join, value = .string join.sql ∧ conditions.joinedBy join = result) ∨
      ∃ op bound, key = op.name ∧ value.Denotes bound ∧
        conditions.set op (some bound) = result := by
  rw [readMember]
  by_cases hkey : key = joinKey
  · have hop : ∀ op : Operator, joinKey ≠ op.name := fun op => op.name_ne_joinKey.symm
    subst hkey
    cases value <;>
      simp [Json.string?, bind_eq_ok_iff, Join.ofWord_eq_ok_iff, hop]
  · simp [hkey, bind_eq_ok_iff, Operator.ofName_eq_ok_iff, Value.ofJson_eq_ok_iff]

/-- Whether a member is accepted does not depend on the members before it. -/
lemma exists_readMember_eq_ok_iff (conditions : Conditions) (member : String × Json) :
    (∃ result, conditions.readMember member = .ok result) ↔ Json.DescribesCondition member := by
  obtain ⟨key, value⟩ := member
  simp only [readMember_eq_ok_iff]
  constructor
  · rintro ⟨_, ⟨rfl, join, rfl, -⟩ | ⟨op, bound, rfl, hvalue, -⟩⟩
    · exact .join join
    · exact .comparison op (Json.bindable_iff.mpr ⟨bound, hvalue⟩)
  · intro h
    cases h with
    | join join => exact ⟨_, .inl ⟨rfl, join, rfl, rfl⟩⟩
    | comparison op hvalue =>
        obtain ⟨bound, hbound⟩ := Json.bindable_iff.mp hvalue
        exact ⟨_, .inr ⟨op, bound, rfl, hbound, rfl⟩⟩

namespace Mirrors

variable {members : List (String × Json)} {conditions other : Conditions}

lemma nil : Mirrors [] empty :=
  ⟨.nil, by simp, fun _ => rfl⟩

lemma cons_join (h : Mirrors members conditions) (hkey : joinKey ∉ Entries.keys members)
    (join : Join) :
    Mirrors ((joinKey, .string join.sql) :: members) (conditions.joinedBy join) where
  entries := by simpa [joinedBy, setJoin] using h.entries
  joined := by
    intro value hvalue
    obtain hvalue | hvalue := List.mem_cons.mp hvalue
    · exact ⟨join, congrArg Prod.snd hvalue, rfl⟩
    · exact absurd (List.mem_map_of_mem hvalue) hkey
  unjoined hkey := absurd (by simp [Entries.keys]) hkey

lemma cons_comparison (h : Mirrors members conditions) (op : Operator) {value : Json}
    {bound : Value} (hvalue : value.Denotes bound) :
    Mirrors ((op.name, value) :: members)
      { conditions with entries := (op, some bound) :: conditions.entries } where
  entries := by
    have hkept : ((op.name, value) :: members).filter (fun member => member.1 ≠ joinKey) =
        (op.name, value) :: members.filter fun member => member.1 ≠ joinKey :=
      List.filter_cons_of_pos (by simpa using op.name_ne_joinKey)
    rw [hkept]
    exact .cons ⟨rfl, bound, rfl, hvalue⟩ h.entries
  joined := by
    intro held hheld
    obtain hheld | hheld := List.mem_cons.mp hheld
    · exact absurd (congrArg Prod.fst hheld).symm op.name_ne_joinKey
    · exact h.joined held hheld
  unjoined hkey := h.unjoined fun hmem => hkey (List.mem_cons_of_mem _ hmem)

lemma describes (h : Mirrors members conditions) :
    ∀ member ∈ members, Json.DescribesCondition member := by
  rintro ⟨key, value⟩ hmem
  by_cases hkey : key = joinKey
  · subst hkey
    obtain ⟨join, rfl, -⟩ := h.joined value hmem
    exact .join join
  · obtain ⟨⟨op, _⟩, rfl, bound, -, hbound⟩ := exists_forall₂_iff.mp ⟨_, h.entries⟩ (key, value)
      (by simp [hmem, hkey])
    exact .comparison op (Json.bindable_iff.mpr ⟨bound, hbound⟩)

/-- Members describe one set of conditions only. -/
lemma unique (h : Mirrors members conditions) (h' : Mirrors members other) :
    conditions = other := by
  have hentry : Relator.RightUnique MirrorsEntry := by
    rintro ⟨key, value⟩ ⟨op, _⟩ ⟨op', _⟩ ⟨hop, bound, rfl, hbound⟩ ⟨hop', bound', rfl, hbound'⟩
    obtain rfl : op = op' := Operator.name_inj (hop.symm.trans hop')
    rw [hbound.unique hbound']
  have hentries : conditions.entries = other.entries := hentry.forall₂ h.entries h'.entries
  have hjoin : conditions.join = other.join := by
    by_cases hkey : joinKey ∈ Entries.keys members
    · obtain ⟨⟨_, value⟩, hmem, rfl⟩ := List.mem_map.mp hkey
      obtain ⟨join, rfl, hjoin⟩ := h.joined value hmem
      obtain ⟨join', hsql, hjoin'⟩ := h'.joined _ hmem
      rw [hjoin, hjoin', Join.sql_inj (Json.string.inj hsql)]
    · rw [h.unjoined hkey, h'.unjoined hkey]
  exact congrArg₂ Conditions.mk hentries hjoin

end Mirrors

/-- Members with new keys extend the conditions by what they describe. -/
lemma mirrors_of_foldlM_eq_ok {members : List (String × Json)} {conditions result : Conditions}
    (hkeys : (Entries.keys members).Nodup)
    (hnew : ∀ op ∈ Entries.keys conditions.entries, op.name ∉ Entries.keys members)
    (h : members.foldlM readMember conditions = .ok result) :
    ∃ described, Mirrors members described ∧
      result = ⟨conditions.entries ++ described.entries, described.join.or conditions.join⟩ := by
  induction members generalizing conditions with
  | nil =>
      obtain rfl : conditions = result := by simpa using h
      exact ⟨empty, .nil, by simp [empty]⟩
  | cons member members ih =>
      obtain ⟨key, value⟩ := member
      obtain ⟨hkey, htail⟩ := List.nodup_cons.mp hkeys
      simp only [Entries.keys, List.map_cons, List.mem_cons, not_or] at hnew
      obtain ⟨next, hnext, hrest⟩ := bind_eq_ok_iff.mp h
      obtain ⟨rfl, join, rfl, rfl⟩ | ⟨op, bound, rfl, hbound, rfl⟩ :=
        readMember_eq_ok_iff.mp hnext
      · have hnew' : ∀ op ∈ Entries.keys (conditions.joinedBy join).entries,
            op.name ∉ Entries.keys members := fun op hop => (hnew op hop).2
        obtain ⟨described, hdescribed, rfl⟩ := ih htail hnew' hrest
        refine ⟨described.joinedBy join, hdescribed.cons_join hkey join, ?_⟩
        simp [joinedBy, setJoin, hdescribed.unjoined hkey]
      · have hop : op ∉ Entries.keys conditions.entries := fun hmem => (hnew op hmem).1 rfl
        have hset : conditions.set op (some bound) =
            { conditions with entries := conditions.entries ++ [(op, some bound)] } := by
          rw [set, Entries.put_of_notMem hop]
        rw [hset] at hrest
        have hnew' : ∀ op' ∈ Entries.keys (conditions.entries ++ [(op, some bound)]),
            op'.name ∉ Entries.keys members := by
          intro op' hop'
          rw [Entries.keys, List.map_append, List.mem_append] at hop'
          obtain hop' | hop' := hop'
          · exact (hnew op' hop').2
          · obtain rfl : op' = op := by simpa using hop'
            exact hkey
        obtain ⟨described, hdescribed, rfl⟩ := ih htail hnew' hrest
        exact ⟨_, hdescribed.cons_comparison op hbound, by simp⟩

/-- **Reading conditions** from members with distinct keys gives what the members describe. -/
lemma ofMembers_eq_ok_iff {members : List (String × Json)} {conditions : Conditions}
    (hkeys : (Entries.keys members).Nodup) :
    ofMembers members = .ok conditions ↔ Mirrors members conditions := by
  have hsound : ∀ {result}, ofMembers members = .ok result → Mirrors members result := by
    intro result h
    obtain ⟨described, hdescribed, rfl⟩ :=
      mirrors_of_foldlM_eq_ok hkeys (by simp [empty, Entries.keys]) h
    simpa [empty] using hdescribed
  refine ⟨hsound, fun h => ?_⟩
  obtain ⟨result, hresult⟩ :=
    (exists_foldlM_eq_ok_iff exists_readMember_eq_ok_iff members empty).mpr h.describes
  rw [h.unique (hsound hresult)]
  exact hresult

end Conditions

/-! ## Reading groups -/

namespace Group

/-- What reading one member does: it puts conditions on a field. -/
lemma readMember_eq_ok_iff {group result : Group} {name : String} {value : Json} :
    group.readMember (name, value) = .ok result ↔
      ∃ members conditions, value = .object members ∧
        Conditions.ofMembers members = .ok conditions ∧ group.field name conditions = result := by
  rw [readMember]
  cases value with
  | string s => by_cases hname : name = joinKey <;> simp [Json.string?, Json.members?, hname]
  | _ => simp [Json.string?, Json.members?, bind_eq_ok_iff]

lemma exists_readMember_eq_ok_iff (group : Group) (member : String × Json) :
    (∃ result, group.readMember member = .ok result) ↔ Json.DescribesField member := by
  obtain ⟨name, value⟩ := member
  have hread := exists_foldlM_eq_ok_iff Conditions.exists_readMember_eq_ok_iff
  simp only [readMember_eq_ok_iff, Json.DescribesField, ← hread _ Conditions.empty]
  constructor
  · rintro ⟨_, members, conditions, hvalue, hconditions, -⟩
    exact ⟨members, hvalue, conditions, hconditions⟩
  · rintro ⟨members, hvalue, conditions, hconditions⟩
    exact ⟨_, members, conditions, hvalue, hconditions, rfl⟩

/-- Members with new keys extend a group by the fields that they describe. -/
lemma foldlM_readMember_eq_ok_iff {members : List (String × Json)} {group result : Group}
    (hkeys : (Entries.keys members).Nodup)
    (hvalues : ∀ member ∈ members, member.2.Distinct)
    (hnew : ∀ name ∈ Entries.keys group.fields, name ∉ Entries.keys members) :
    members.foldlM readMember group = .ok result ↔
      ∃ fields, List.Forall₂ MirrorsField members fields ∧ ⟨group.fields ++ fields⟩ = result := by
  induction members generalizing group with
  | nil => simp
  | cons member members ih =>
      obtain ⟨name, value⟩ := member
      obtain ⟨hname, htail⟩ := List.nodup_cons.mp hkeys
      obtain ⟨hvalue, hothers⟩ := List.forall_mem_cons.mp hvalues
      simp only [Entries.keys, List.map_cons, List.mem_cons, not_or] at hnew
      have hput : ∀ conditions, group.field name conditions =
          ⟨group.fields ++ [(name, conditions)]⟩ := fun conditions => by
        rw [field, Entries.put_of_notMem fun hmem => (hnew name hmem).1 rfl]
      have hrest : ∀ conditions,
          members.foldlM readMember (group.field name conditions) = .ok result ↔
            ∃ fields, List.Forall₂ MirrorsField members fields ∧
              ⟨group.fields ++ (name, conditions) :: fields⟩ = result := by
        intro conditions
        have hnew' : ∀ other ∈ Entries.keys (group.fields ++ [(name, conditions)]),
            other ∉ Entries.keys members := by
          intro other hother
          rw [Entries.keys, List.map_append, List.mem_append] at hother
          obtain hother | hother := hother
          · exact (hnew other hother).2
          · obtain rfl : other = name := by simpa using hother
            exact hname
        rw [hput, ih htail hothers hnew']
        simp
      rw [List.foldlM_cons, bind_eq_ok_iff]
      constructor
      · rintro ⟨next, hnext, hresult⟩
        obtain ⟨entries, conditions, rfl, hconditions, rfl⟩ := readMember_eq_ok_iff.mp hnext
        obtain ⟨fields, hfields, rfl⟩ := (hrest conditions).mp hresult
        obtain ⟨hentries, -⟩ := Json.distinct_object_iff.mp hvalue
        have hmirrors := (Conditions.ofMembers_eq_ok_iff hentries).mp hconditions
        exact ⟨_, .cons ⟨rfl, entries, rfl, hmirrors⟩ hfields, rfl⟩
      · rintro ⟨_, hall, rfl⟩
        obtain ⟨⟨_, conditions⟩, fields, ⟨rfl, entries, rfl, hmirrors⟩, hfields, rfl⟩ :=
          List.forall₂_cons_left_iff.mp hall
        obtain ⟨hentries, -⟩ := Json.distinct_object_iff.mp hvalue
        have hconditions := (Conditions.ofMembers_eq_ok_iff hentries).mpr hmirrors
        exact ⟨_, readMember_eq_ok_iff.mpr ⟨entries, conditions, rfl, hconditions, rfl⟩,
          (hrest conditions).mpr ⟨fields, hfields, rfl⟩⟩

end Group

/-! ## Reading filters -/

namespace Filter

lemma listOfJson_eq_mapM (items : List Json) : listOfJson items = items.mapM ofJson := by
  induction items with
  | nil => rfl
  | cons item items ih => rw [listOfJson, List.mapM_cons, ih]

/-- The reader accepts the grammar and nothing else. -/
lemma exists_ofJson_eq_ok_iff (json : Json) :
    (∃ filter, ofJson json = .ok filter) ↔ json.DescribesFilter := by
  induction json with
  | null => exact ⟨fun _ => .null, fun _ => ⟨_, rfl⟩⟩
  | bool b => exact ⟨by rintro ⟨_, ⟨⟩⟩, by rintro ⟨⟩⟩
  | number n => exact ⟨by rintro ⟨_, ⟨⟩⟩, by rintro ⟨⟩⟩
  | string s => exact ⟨by rintro ⟨_, ⟨⟩⟩, by rintro ⟨⟩⟩
  | array items ih =>
      have hitems : (∃ children, listOfJson items = .ok children) ↔
          ∀ item ∈ items, item.DescribesFilter := by
        simp only [listOfJson_eq_mapM, mapM_eq_ok_iff fun _ _ _ => Iff.rfl, exists_forall₂_iff]
        exact forall₂_congr ih
      calc (∃ filter, ofJson (.array items) = .ok filter)
          ↔ ∃ children, listOfJson items = .ok children := by simp [ofJson, bind_eq_ok_iff]
        _ ↔ ∀ item ∈ items, item.DescribesFilter := hitems
        _ ↔ (Json.array items).DescribesFilter := ⟨.array, by rintro ⟨⟩; assumption⟩
  | object members _ =>
      calc (∃ filter, ofJson (.object members) = .ok filter)
          ↔ ∃ fields, Group.ofMembers members = .ok fields := by simp [ofJson, bind_eq_ok_iff]
        _ ↔ ∀ member ∈ members, Json.DescribesField member :=
            exists_foldlM_eq_ok_iff Group.exists_readMember_eq_ok_iff members .empty
        _ ↔ (Json.object members).DescribesFilter := ⟨.object, by rintro ⟨⟩; assumption⟩

/-- Reading gives the filter that mirrors the description. -/
lemma ofJson_eq_ok_iff {json : Json} (hjson : json.Distinct) (filter : Filter) :
    ofJson json = .ok filter ↔ Mirrors json filter := by
  induction json generalizing filter with
  | null => exact ⟨by rintro ⟨⟩; exact .null, by rintro ⟨⟩; rfl⟩
  | bool b => exact ⟨by rintro ⟨⟩, by rintro ⟨⟩⟩
  | number n => exact ⟨by rintro ⟨⟩, by rintro ⟨⟩⟩
  | string s => exact ⟨by rintro ⟨⟩, by rintro ⟨⟩⟩
  | array items ih =>
      have hdistinct := Json.distinct_array_iff.mp hjson
      have hitems := mapM_eq_ok_iff fun item hitem => ih item hitem (hdistinct item hitem)
      rw [ofJson, bind_eq_ok_iff, listOfJson_eq_mapM]
      constructor
      · rintro ⟨children, hchildren, ⟨⟩⟩
        exact .array ((hitems children).mp hchildren)
      · intro h
        cases h with
        | @array _ children hchildren => exact ⟨children, (hitems children).mpr hchildren, rfl⟩
  | object members _ =>
      obtain ⟨hkeys, hvalues⟩ := Json.distinct_object_iff.mp hjson
      have hfields : ∀ {fields}, Group.ofMembers members = .ok ⟨fields⟩ ↔
          List.Forall₂ Group.MirrorsField members fields := by
        intro fields
        rw [Group.ofMembers, Group.foldlM_readMember_eq_ok_iff hkeys hvalues
          (by simp [Group.empty, Entries.keys])]
        simp [Group.empty]
      rw [ofJson, bind_eq_ok_iff]
      constructor
      · rintro ⟨⟨fields⟩, hgroup, ⟨⟩⟩
        exact .object (hfields.mp hgroup)
      · intro h
        cases h with
        | @object _ fields hmembers => exact ⟨⟨fields⟩, hfields.mpr hmembers, rfl⟩

/-- **The reader of filters.**  A JSON value is accepted exactly if it is a description of a filter,
and what is read is exactly the filter that mirrors it: the fields, the operators and the elements
of sequences in the order of the document, each value as it stands there, and each join. -/
theorem ofJson_accepts_and_mirrors (json : Json) (hjson : json.Distinct) :
    ((∃ filter, ofJson json = .ok filter) ↔ json.DescribesFilter) ∧
    ∀ filter, ofJson json = .ok filter ↔ Mirrors json filter :=
  ⟨exists_ofJson_eq_ok_iff json, ofJson_eq_ok_iff hjson⟩

/-- A description with an empty group, a field of the name `operator`, and a `null` value. -/
def sampleDescription : Json :=
  .array [.null, .object
    [("operator", .object
      [("in", .array [.null, .number (.integer (-1))]), ("operator", .string "OR"),
        ("lt", .null)]),
      ("rank", .object [])]]

theorem ofJson_accepts_and_mirrors_sampleDescription :
    sampleDescription.Distinct ∧ sampleDescription.DescribesFilter ∧
      Mirrors sampleDescription
        (.sequence [.group ⟨[]⟩, .group ⟨[("operator",
          ⟨[(.isIn, some (.list [.null, .int (-1)])), (.lt, some .null)], some .or⟩),
          ("rank", ⟨[], none⟩)]⟩]) := by
  have hdistinct : sampleDescription.Distinct := by
    simp [sampleDescription, Entries.keys]
  obtain ⟨haccepted, hmirrored⟩ := ofJson_accepts_and_mirrors sampleDescription hdistinct
  exact ⟨hdistinct, haccepted.mp ⟨_, rfl⟩, (hmirrored _).mp rfl⟩

end Filter

end FilterQuery
