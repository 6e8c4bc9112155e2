import FilterQuery.Proofs.FlatForm
import FilterQuery.Proofs.InsertionOrder

/-!
# What is mentioned, and in which order

Conditions and groups are built by calls, one after the other.  What counts in the end is which keys
the calls mention, in which order they do so first, and what they say last
(`Entries.Gathers`).  The keys are operators in conditions and names of fields in a group.

* A call on conditions either mentions an operator or sets the join (`Conditions.Call.mention?`,
  `Conditions.Call.join?`), so entries and join are built independently of each other
  (`Conditions.built_eq`).
* A call on a group mentions a field (`Group.fields_built`).

So the comparisons that a field makes stand in the order in which their operators were first
mentioned, whatever was said of them in between (`Conditions.comparisons_built`), and a group makes
no comparison twice (`Group.nodup_subjects_built`).
-/

namespace FilterQuery

/-! ## Entries after any mentions -/

namespace Entries

variable {κ α : Type} [DecidableEq κ]

/-- The entries are what the mentions of keys leave behind: no key occurs twice, the keys stand in
the order in which they were first mentioned, and each has the value that was given last. -/
structure Gathers (mentions entries : Entries κ α) : Prop where
  nodup_keys : (keys entries).Nodup
  keys_eq : keys entries = (keys mentions).eraseDups
  last?_eq : ∀ entry ∈ entries, last? entry.1 mentions = some entry.2

lemma exists_last?_of_mem_keys {key : κ} {mentions : Entries κ α} (h : key ∈ keys mentions) :
    ∃ value, last? key mentions = some value := by
  induction mentions with
  | nil => simp [keys] at h
  | cons mention mentions ih =>
      obtain ⟨k, v⟩ := mention
      rw [last?]
      cases hlater : last? key mentions with
      | some value => exact ⟨value, rfl⟩
      | none =>
          have hk : k = key := by
            obtain hfirst | hrest := List.mem_cons.mp h
            · exact hfirst.symm
            · obtain ⟨value, hvalue⟩ := ih hrest
              rw [hlater] at hvalue
              contradiction
          exact ⟨v, by rw [if_pos hk, Option.none_or]⟩

lemma mem_of_last?_eq {key : κ} {value : α} {mentions : Entries κ α}
    (h : last? key mentions = some value) : (key, value) ∈ mentions := by
  induction mentions with
  | nil => simp [last?] at h
  | cons mention mentions ih =>
      obtain ⟨k, v⟩ := mention
      rw [last?, Option.or_eq_some_iff] at h
      obtain hlater | ⟨-, hfirst⟩ := h
      · exact List.mem_cons_of_mem _ (ih hlater)
      · obtain ⟨rfl, rfl⟩ : k = key ∧ v = value := by simpa using hfirst
        exact List.mem_cons_self

lemma keys_merged (mentions : Entries κ α) :
    keys (merged mentions) = (keys mentions).eraseDups := by
  rw [keys, merged, List.map_filterMap]
  refine (List.filterMap_congr fun key hkey => ?_).trans List.filterMap_some
  obtain ⟨value, hvalue⟩ := exists_last?_of_mem_keys (List.mem_eraseDups.mp hkey)
  rw [hvalue, Option.map_some, Option.map_some]

lemma gathers_merged (mentions : Entries κ α) : Gathers mentions (merged mentions) := by
  have hempty : (keys ([] : Entries κ α)).Nodup := by simp [keys]
  refine ⟨?_, keys_merged mentions, fun entry hentry => ?_⟩
  · rw [← foldl_put_nil]
    exact nodup_keys_foldl_put hempty
  · rw [← foldl_put_nil, mem_foldl_put_iff hempty] at hentry
    simpa using hentry

/-- Values that are put at two keys go to the same places in either order, if one of the keys is
there already. -/
lemma put_comm {key key' : κ} (hne : key ≠ key') {entries : Entries κ α} (h : key ∈ keys entries)
    (value value' : α) :
    put key' value' (put key value entries) = put key value (put key' value' entries) := by
  induction entries with
  | nil => simp [keys] at h
  | cons entry entries ih =>
      obtain ⟨k, v⟩ := entry
      by_cases hkey : k = key
      · subst hkey
        simp [put, hne]
      · have hrest : key ∈ keys entries := by
          simpa [keys, Ne.symm hkey] using h
        by_cases hkey' : k = key'
        · simp [put, hkey', Ne.symm hne]
        · simp [put, hkey, hkey', ih hrest]

end Entries

/-! ## Conditions -/

namespace Conditions

/-- A call that changes conditions. -/
inductive Call : Type 1 where
  | set (op : Operator) (value? : Option Value)
  | undefined (op : Operator)
  | setJoin (join? : Option Join)
  | joinedBy (join : Join)
  | equals {α : Type} [ToValue α] (value : α)
  | notEquals {α : Type} [ToValue α] (value : α)
  | lt {α : Type} [ToValue α] (value : α)
  | lte {α : Type} [ToValue α] (value : α)
  | gt {α : Type} [ToValue α] (value : α)
  | gte {α : Type} [ToValue α] (value : α)
  | contains {α : Type} [ToValue α] (pattern : α)
  | isIn {α : Type} [ToValue α] (values : List α)
  | notIn {α : Type} [ToValue α] (values : List α)

namespace Call

/-- Makes the call. -/
def make (conditions : Conditions) : Call → Conditions
  | set op value? => conditions.set op value?
  | undefined op => conditions.undefined op
  | setJoin join? => conditions.setJoin join?
  | joinedBy join => conditions.joinedBy join
  | equals value => conditions.equals value
  | notEquals value => conditions.notEquals value
  | lt value => conditions.lt value
  | lte value => conditions.lte value
  | gt value => conditions.gt value
  | gte value => conditions.gte value
  | contains pattern => conditions.contains pattern
  | isIn values => conditions.isIn values
  | notIn values => conditions.notIn values

/-- The operator that a call mentions, with the value that it gives, if it gives one. -/
def mention? : Call → Option (Operator × Option Value)
  | set op value? => some (op, value?)
  | undefined op => some (op, none)
  | setJoin _ | joinedBy _ => none
  | equals value => some (.equals, some (toValue value))
  | notEquals value => some (.notEquals, some (toValue value))
  | lt value => some (.lt, some (toValue value))
  | lte value => some (.lte, some (toValue value))
  | gt value => some (.gt, some (toValue value))
  | gte value => some (.gte, some (toValue value))
  | contains pattern => some (.contains, some (toValue pattern))
  | isIn values => some (.isIn, some (toValue values))
  | notIn values => some (.notIn, some (toValue values))

/-- What a call sets the join to, if it does: to a join, or to none. -/
def join? : Call → Option (Option Join)
  | setJoin join? => some join?
  | joinedBy join => some (some join)
  | _ => none

/-- A call puts what it mentions, and sets the join, or leaves it as it is. -/
lemma make_eq (conditions : Conditions) (call : Call) :
    make conditions call =
      { entries := call.mention?.toList.foldl
          (fun entries (op, value?) => Entries.put op value? entries) conditions.entries
        join := call.join?.getD conditions.join } := by
  cases call <;> rfl

end Call

/-- What some calls mention, one after the other. -/
def mentions (calls : List Call) : Entries Operator (Option Value) :=
  calls.filterMap Call.mention?

/-- The conditions that some calls build from nothing. -/
def built (calls : List Call) : Conditions :=
  calls.foldl Call.make .empty

/-- A run of calls puts all that it mentions, and leaves the join that was set last. -/
lemma foldl_make (calls : List Call) (conditions : Conditions) :
    calls.foldl Call.make conditions =
      { entries := (mentions calls).foldl
          (fun entries (op, value?) => Entries.put op value? entries) conditions.entries
        join := (calls.filterMap Call.join?).getLast?.getD conditions.join } := by
  induction calls generalizing conditions with
  | nil => rfl
  | cons call calls ih =>
      rw [List.foldl_cons, ih, Call.make_eq, mentions, mentions, List.filterMap_cons,
        List.filterMap_cons]
      cases call.mention? <;> cases call.join? <;> simp [List.getLast?_cons]

/-- **What calls build.**  Entries and join are independent of each other. -/
lemma built_eq (calls : List Call) :
    built calls =
      { entries := Entries.merged (mentions calls)
        join := (calls.filterMap Call.join?).getLast?.join } := by
  rw [built, foldl_make, ← Entries.foldl_put_nil]
  cases (calls.filterMap Call.join?).getLast? <;> rfl

/-- The comparisons stand in the order in which their operators were first mentioned, and have the
values that were given last. -/
lemma comparisons_built (field : String) (calls : List Call) :
    (built calls).comparisons field =
      (Entries.keys (mentions calls)).eraseDups.filterMap fun op =>
        (Entries.last? op (mentions calls)).join.map fun value => ⟨field, op, value⟩ := by
  rw [comparisons, defined, built_eq, Entries.merged, List.filterMap_filterMap, List.map_filterMap]
  refine List.filterMap_congr fun op _ => ?_
  obtain _ | _ | value := Entries.last? op (mentions calls) <;> rfl

lemma field_of_mem_comparisons {field : String} {conditions : Conditions} {c : Comparison}
    (h : c ∈ conditions.comparisons field) : c.field = field := by
  obtain ⟨entry, -, rfl⟩ := List.mem_map.mp h
  rfl

/-- Where no operator occurs twice, none is compared by twice. -/
lemma pairwise_defined {conditions : Conditions} (h : (Entries.keys conditions.entries).Nodup) :
    conditions.defined.Pairwise fun a b => a.1 ≠ b.1 := by
  have hentries := (List.pairwise_map.mp h).filter fun (_, value?) => value?.isSome
  rw [← map_some_defined, List.pairwise_map] at hentries
  exact hentries

end Conditions

/-! ## Groups -/

/-- What a comparison is about: a field, and how it is compared. -/
def Comparison.subject (c : Comparison) : String × Operator :=
  (c.field, c.operator)

namespace Group

/-- The group that is built from nothing by putting conditions on fields, one after the other. -/
def built (calls : List (String × Conditions)) : Group :=
  calls.foldl (fun group (name, conditions) => group.field name conditions) .empty

lemma foldl_field (calls : List (String × Conditions)) (group : Group) :
    (calls.foldl (fun group (name, conditions) => group.field name conditions) group).fields =
      calls.foldl (fun fields (name, conditions) => Entries.put name conditions fields)
        group.fields := by
  induction calls generalizing group with
  | nil => rfl
  | cons call calls ih => exact ih _

lemma fields_built (calls : List (String × Conditions)) :
    (built calls).fields = Entries.merged calls := by
  rw [built, foldl_field, ← Entries.foldl_put_nil]
  rfl

lemma nodup_subjects {group : Group} (hfields : (Entries.keys group.fields).Nodup)
    (hentries : ∀ field ∈ group.fields, (Entries.keys field.2.entries).Nodup) :
    (group.comparisons.map Comparison.subject).Nodup := by
  rw [List.Nodup, List.pairwise_map, comparisons, List.pairwise_flatMap]
  constructor
  · rintro ⟨name, conditions⟩ hfield
    refine List.pairwise_map.mpr ?_
    refine (Conditions.pairwise_defined (hentries _ hfield)).imp fun hne heq => ?_
    exact hne (congrArg Prod.snd heq)
  · refine (List.pairwise_map.mp hfields).imp fun hne c hc c' hc' heq => ?_
    have hnames := congrArg Prod.fst heq
    rw [Comparison.subject, Comparison.subject, Conditions.field_of_mem_comparisons hc,
      Conditions.field_of_mem_comparisons hc'] at hnames
    exact hne hnames

/-- A group whose fields get their conditions by calls makes no comparison twice. -/
lemma nodup_subjects_built (runs : List (String × List Conditions.Call)) :
    ((built (runs.map fun (name, calls) => (name, .built calls))).comparisons.map
      Comparison.subject).Nodup := by
  have hgathers := Entries.gathers_merged
    (runs.map fun (name, calls) => (name, Conditions.built calls))
  rw [← fields_built] at hgathers
  refine nodup_subjects hgathers.nodup_keys fun field hfield => ?_
  obtain ⟨⟨name, calls⟩, -, hcalls⟩ :=
    List.mem_map.mp (Entries.mem_of_last?_eq (hgathers.last?_eq field hfield))
  have hconditions : field.2 = Conditions.built calls := (congrArg Prod.snd hcalls).symm
  rw [hconditions, Conditions.built_eq]
  exact (Entries.gathers_merged _).nodup_keys

end Group

/-! ## Insertion order -/

/-- **Conditions and groups are maps in the order of insertion.**  After any calls, the entries of
conditions and the fields of a group are what the calls mention: each key once, in the order of
their first mention, and with what was said last.  The join of conditions is the one that was set or
cleared last, and does not depend on the entries.

So the comparisons of a field stand in the order in which the operators were first mentioned, also
those that were undefined in between, and no comparison is made twice in a group.  Two changes at
different keys that are present can be made in either order. -/
theorem insertion_ordered_built :
    (∀ calls : List Conditions.Call,
      Entries.Gathers (Conditions.mentions calls) (Conditions.built calls).entries ∧
      (Conditions.built calls).join =
        (calls.filterMap Conditions.Call.join?).getLast?.join ∧
      ∀ field : String,
        (Conditions.built calls).comparisons field =
          (Entries.keys (Conditions.mentions calls)).eraseDups.filterMap fun op =>
            (Entries.last? op (Conditions.mentions calls)).join.map fun value =>
              ⟨field, op, value⟩) ∧
    (∀ calls : List (String × Conditions), Entries.Gathers calls (Group.built calls).fields) ∧
    (∀ runs : List (String × List Conditions.Call),
      let group := Group.built (runs.map fun (name, calls) => (name, .built calls))
      (group.comparisons.map Comparison.subject).Nodup ∧
      group.compile.value.sql =
        flatText (group.comparisons.map fun c => c.fragment.sql)
          (Filter.group group).outline.words ∧
      group.compile.value.params = group.comparisons.flatMap fun c => c.fragment.params) ∧
    (∀ (conditions : Conditions) (op op' : Operator) (value? value?' : Option Value), op ≠ op' →
      op ∈ Entries.keys conditions.entries → op' ∈ Entries.keys conditions.entries →
        (conditions.set op value?).set op' value?' = (conditions.set op' value?').set op value?) ∧
    ∀ (group : Group) (name name' : String) (conditions conditions' : Conditions), name ≠ name' →
      name ∈ Entries.keys group.fields → name' ∈ Entries.keys group.fields →
        (group.field name conditions).field name' conditions' =
          (group.field name' conditions').field name conditions := by
  refine ⟨fun calls => ⟨?_, ?_, fun field => Conditions.comparisons_built field calls⟩,
    fun calls => ?_, fun runs => ?_, ?_, ?_⟩
  · rw [Conditions.built_eq]
    exact Entries.gathers_merged _
  · rw [Conditions.built_eq]
  · rw [Group.fields_built]
    exact Entries.gathers_merged calls
  · intro group
    have hvalue : group.compile.value = (Filter.group group).outline.fragment := by
      rw [Group.value_compile, Filter.outline]
    have hflat := (Filter.group group).sql_compile
    rw [Filter.value_compile, Filter.comparisons] at hflat
    refine ⟨Group.nodup_subjects_built runs, ?_, ?_⟩
    · rw [hvalue]
      exact hflat
    · rw [hvalue, Outline.fragment, Filter.comparisons_outline, Filter.comparisons]
  · intro conditions op op' value? value?' hne hop _
    rw [Conditions.set, Conditions.set, Conditions.set, Conditions.set, Entries.put_comm hne hop]
  · intro group name name' conditions conditions' hne hname _
    rw [Group.field, Group.field, Group.field, Group.field, Entries.put_comm hne hname]

/-- An operator that is undefined in between, and a join that is cleared. -/
example :
    let conditions := Conditions.built [.lt (1 : Int64), .joinedBy .or, .gt "x", .undefined .lt,
      .isIn [true, false], .setJoin none, .lt (2 : Int64)]
    (conditions.compile "a").value.sql = "a < ? AND a > ? AND a IN (?, ?)" ∧
      conditions.join = none := by
  decide +kernel

end FilterQuery
