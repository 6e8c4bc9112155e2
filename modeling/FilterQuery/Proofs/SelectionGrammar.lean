import Mathlib.Data.List.Induction
import FilterQuery.Document.Selection
import FilterQuery.Proofs.FilterGrammar
import FilterQuery.Proofs.Merging
import FilterQuery.Selection.Statement

/-!
# The grammar of selection descriptions

Which JSON values describe a selection, and which selection they describe, said without the reader.

* `Json.DescribesSetting` relates a member to the change that it asks for, and
  `Json.DescribesSelection` is the grammar: `null`, or an object of such members.
* `Selection.Mirrors` relates a description to its selection.  Each part of the selection is what
  stands at its own key, or its default where the key is absent (`Entries.AtKey`).  The order of the
  keys does not occur in this relation.

The reader changes the selection member by member, and a member whose key is new changes only what
stands at that key (`Selection.MirrorsMembers.put`).  So a run over members with distinct keys ends
in the selection that mirrors them (`Selection.ofMembers_eq_ok_iff`), and the order of the keys has
no influence (`Selection.ofJson_accepts_and_permutes`).
-/

namespace FilterQuery

/-! ## What stands at a key -/

namespace Entries

variable {κ α β : Type}

/-- What stands at the key denotes `b`, and `b` is the default where the key is absent. -/
def AtKey (key : κ) (Denotes : α → β → Prop) (default : β) (entries : Entries κ α) (b : β) :
    Prop :=
  (∀ a, (key, a) ∈ entries → Denotes a b) ∧ (key ∉ keys entries → b = default)

variable {Denotes : α → β → Prop} {default b c : β} {entries others : Entries κ α} {key k : κ}

lemma atKey_nil : AtKey key Denotes default [] b ↔ b = default := by
  simp [AtKey, keys]

/-- Only one thing stands at a key if what values denote can be read off them. -/
lemma AtKey.unique {ε : Type} (read : α → Except ε β)
    (hread : ∀ a b, Denotes a b → read a = .ok b)
    (hb : AtKey key Denotes default entries b) (hc : AtKey key Denotes default entries c) :
    b = c := by
  by_cases hkey : key ∈ keys entries
  · obtain ⟨⟨_, a⟩, hmem, rfl⟩ := List.mem_map.mp hkey
    exact Except.ok.inj ((hread a b (hb.1 a hmem)).symm.trans (hread a c (hc.1 a hmem)))
  · rw [hb.2 hkey, hc.2 hkey]

lemma AtKey.perm (h : AtKey key Denotes default entries b) (hperm : entries.Perm others) :
    AtKey key Denotes default others b :=
  ⟨fun a ha => h.1 a (hperm.mem_iff.mpr ha),
    fun hkey => h.2 fun hmem => hkey ((hperm.map Prod.fst).mem_iff.mp hmem)⟩

variable [DecidableEq κ] {value : α}

/-- What is put at a key is what then stands there. -/
lemma AtKey.put_here (hkeys : (keys entries).Nodup) (h : Denotes value b) :
    AtKey key Denotes default (put key value entries) b := by
  simp [AtKey, mem_put_iff hkeys, mem_keys_put_iff, h]

/-- What stands at other keys stays. -/
lemma AtKey.put_elsewhere (h : AtKey k Denotes default entries b) (hkeys : (keys entries).Nodup)
    (hk : k ≠ key) : AtKey k Denotes default (put key value entries) b := by
  simpa [AtKey, mem_put_iff hkeys, mem_keys_put_iff, hk] using h

end Entries

/-! ## The grammar -/

namespace Json

/-- An array of strings, and the strings. -/
def DescribesColumns (json : Json) (names : List String) : Prop :=
  json = .array (names.map .string)

/-- An object of directions, and the columns with their directions, in order. -/
def DescribesOrder (json : Json) (order : Entries String Direction) : Prop :=
  json = .object (order.map fun (column, direction) => (column, .string direction.sql))

/-- A count of 64 bits written as an integer, or `null` for none. -/
inductive DescribesCount : Json → Option UInt64 → Prop
  | unset : DescribesCount .null none
  | count (n : UInt64) : DescribesCount (.number (.integer n.toNat)) (some n)

/-- A member of the description of a selection, and the change that it asks for. -/
inductive DescribesSetting : String × Json → Selection.Setting → Prop
  | columns {value : Json} {names : List String} (h : value.DescribesColumns names) :
      DescribesSetting ("columns", value) (.columns names)
  | filter {value : Json} {filter : Filter} (h : Filter.ofJson value = .ok filter) :
      DescribesSetting ("where", value) (.filter filter)
  | order {value : Json} {order : Entries String Direction} (h : value.DescribesOrder order) :
      DescribesSetting ("order", value) (.order order)
  | page {value : Json} {page? : Option UInt64} (h : value.DescribesCount page?) :
      DescribesSetting ("page", value) (.page page?)
  | limit {value : Json} {limit? : Option UInt64} (h : value.DescribesCount limit?) :
      DescribesSetting ("limit", value) (.limit limit?)

/-- A description of a selection. -/
inductive DescribesSelection : Json → Prop
  | null : DescribesSelection .null
  | object {members : List (String × Json)}
      (h : ∀ member ∈ members, ∃ setting, DescribesSetting member setting) :
      DescribesSelection (.object members)

end Json

/-! ## What is described -/

namespace Selection

/-- The keys that a description may have. -/
def knownKeys : List String :=
  ["columns", "where", "order", "page", "limit"]

/-- The selection that the members of an object describe: each part is what stands at its key, and
an ordering is chosen if the key `order` is present. -/
structure MirrorsMembers (members : List (String × Json)) (selection : Selection) : Prop where
  known : ∀ key ∈ Entries.keys members, key ∈ knownKeys
  columns : Entries.AtKey "columns" Json.DescribesColumns ["*"] members selection.columns
  filter : Entries.AtKey "where" (fun value filter => Filter.ofJson value = .ok filter) .empty
    members selection.filter
  ordering : Entries.AtKey "order" Json.DescribesOrder standardOrder members selection.ordering
  chosen : selection.order? = none ↔ "order" ∉ Entries.keys members
  page : Entries.AtKey "page" Json.DescribesCount none members selection.page?
  limit : Entries.AtKey "limit" Json.DescribesCount none members selection.limit?

/-- The selection that a JSON value describes. -/
inductive Mirrors : Json → Selection → Prop
  | null : Mirrors .null standard
  | object {members : List (String × Json)} {selection : Selection}
      (h : MirrorsMembers members selection) : Mirrors (.object members) selection

end Selection

/-! ## Reading members -/

lemma Direction.ofWord_eq_ok_iff {word : String} {direction : Direction} :
    ofWord word = .ok direction ↔ word = direction.sql := by
  have hfind : ofWord? word = some direction ↔ word = direction.sql :=
    find?_eq_some_iff_of_self ofWord?_sql
  rw [ofWord, ← hfind]
  cases ofWord? word <;> simp

lemma Json.string?_eq_some_iff {json : Json} {s : String} :
    json.string? = some s ↔ json = .string s := by
  cases json <;> simp [Json.string?]

namespace Selection

lemma columnsOfJson_eq_ok_iff {json : Json} {names : List String} :
    columnsOfJson json = .ok names ↔ json.DescribesColumns names := by
  have hitems : ∀ items : List Json,
      items.mapM Json.string? = some names ↔ items = names.map .string := by
    intro items
    simp only [mapM_eq_some_iff, Json.string?_eq_some_iff]
    rw [← List.forall₂_map_right_iff (R := Eq), List.forall₂_eq_eq_eq]
  rw [columnsOfJson, Json.DescribesColumns]
  cases json with
  | array items =>
      simp only [Json.items?, Option.bind_some, Json.array.injEq, ← hitems]
      cases items.mapM Json.string? <;> simp
  | _ => simp [Json.items?]

lemma directionOfMember_eq_ok_iff {member : String × Json} {column : String × Direction} :
    directionOfMember member = .ok column ↔ member = (column.1, .string column.2.sql) := by
  obtain ⟨name, value⟩ := member
  obtain ⟨name', direction⟩ := column
  rw [directionOfMember]
  cases value with
  | string word => simp [Json.string?, bind_eq_ok_iff, Direction.ofWord_eq_ok_iff, and_comm]
  | _ => simp [Json.string?]

lemma orderOfJson_eq_ok_iff {json : Json} {order : Entries String Direction} :
    orderOfJson json = .ok order ↔ json.DescribesOrder order := by
  rw [orderOfJson, Json.DescribesOrder]
  cases json with
  | object members =>
      have hmembers : members.mapM directionOfMember = .ok order ↔
          List.Forall₂ (fun member column => member = (column.1, .string column.2.sql))
            members order :=
        mapM_eq_ok_iff (fun _ _ _ => directionOfMember_eq_ok_iff) order
      simp only [Json.members?, Json.object.injEq, hmembers]
      rw [← List.forall₂_map_right_iff (R := Eq), List.forall₂_eq_eq_eq]
  | _ => simp [Json.members?]

lemma count?_eq_some_iff {json : Json} {n : UInt64} :
    count? json = some n ↔ json = .number (.integer n.toNat) := by
  constructor
  · intro h
    cases json with
    | number number =>
        cases number with
        | integer m =>
            rw [count?] at h
            split at h
            · rename_i hrange
              obtain rfl : UInt64.ofNat m.toNat = n := Option.some.inj h
              rw [UInt64.toNat_ofNat_of_lt' hrange.2, Int.toNat_of_nonneg hrange.1]
            · simp at h
        | decimal x finite => simp [count?] at h
    | _ => simp [count?] at h
  · rintro rfl
    simp [count?, n.toNat_lt]

lemma countOfJson_eq_ok_iff {key : String} {json : Json} {count? : Option UInt64} :
    countOfJson key json = .ok count? ↔ json.DescribesCount count? := by
  constructor
  · intro h
    cases hcount : Selection.count? json with
    | some n =>
        obtain rfl := count?_eq_some_iff.mp hcount
        obtain rfl : some n = count? := by simpa [countOfJson, hcount] using h
        exact .count n
    | none =>
        cases json with
        | null =>
            obtain rfl : none = count? := by simpa [countOfJson] using h
            exact .unset
        | _ => simp [countOfJson, hcount] at h
  · rintro (_ | n)
    · rfl
    · simp [countOfJson, count?_eq_some_iff.mpr rfl]

/-- The change that a member asks for is read if there is one. -/
lemma settingOfMember_eq_ok_iff {member : String × Json} {setting : Setting} :
    settingOfMember member = .ok setting ↔ Json.DescribesSetting member setting := by
  obtain ⟨key, value⟩ := member
  constructor
  · intro h
    rw [settingOfMember.eq_def] at h
    dsimp only at h
    split at h
    · obtain ⟨names, hnames, rfl⟩ := map_eq_ok_iff.mp h
      exact .columns (columnsOfJson_eq_ok_iff.mp hnames)
    · obtain ⟨filter, hfilter, rfl⟩ := map_eq_ok_iff.mp h
      exact .filter hfilter
    · obtain ⟨order, horder, rfl⟩ := map_eq_ok_iff.mp h
      exact .order (orderOfJson_eq_ok_iff.mp horder)
    · obtain ⟨page?, hpage, rfl⟩ := map_eq_ok_iff.mp h
      exact .page (countOfJson_eq_ok_iff.mp hpage)
    · obtain ⟨limit?, hlimit, rfl⟩ := map_eq_ok_iff.mp h
      exact .limit (countOfJson_eq_ok_iff.mp hlimit)
    · simp at h
  · intro h
    cases h with
    | columns h => exact map_eq_ok_iff.mpr ⟨_, columnsOfJson_eq_ok_iff.mpr h, rfl⟩
    | filter h => exact map_eq_ok_iff.mpr ⟨_, h, rfl⟩
    | order h => exact map_eq_ok_iff.mpr ⟨_, orderOfJson_eq_ok_iff.mpr h, rfl⟩
    | page h => exact map_eq_ok_iff.mpr ⟨_, countOfJson_eq_ok_iff.mpr h, rfl⟩
    | limit h => exact map_eq_ok_iff.mpr ⟨_, countOfJson_eq_ok_iff.mpr h, rfl⟩

namespace MirrorsMembers

variable {members others : List (String × Json)} {selection other : Selection}

lemma nil : MirrorsMembers [] standard where
  known := by simp [Entries.keys]
  columns := Entries.atKey_nil.mpr rfl
  filter := Entries.atKey_nil.mpr rfl
  ordering := Entries.atKey_nil.mpr rfl
  chosen := by simp [standard, Entries.keys]
  page := Entries.atKey_nil.mpr rfl
  limit := Entries.atKey_nil.mpr rfl

/-- A member changes what stands at its key and leaves the rest of the selection as it is. -/
lemma put (h : MirrorsMembers members selection) (hkeys : (Entries.keys members).Nodup)
    {key : String} {value : Json} {setting : Setting}
    (hsetting : Json.DescribesSetting (key, value) setting) :
    MirrorsMembers (Entries.put key value members) (selection.apply setting) := by
  have hknown : ∀ k ∈ Entries.keys (Entries.put key value members), k ∈ knownKeys := by
    have hkey : key ∈ knownKeys := by cases hsetting <;> decide
    simpa [Entries.mem_keys_put_iff, hkey] using h.known
  have hchosen : "order" ≠ key →
      (selection.order? = none ↔ "order" ∉ Entries.keys (Entries.put key value members)) := by
    intro hkey
    rw [h.chosen, Entries.mem_keys_put_iff, or_iff_right hkey]
  obtain ⟨-, hcolumns, hfilter, hordering, -, hpage, hlimit⟩ := h
  cases hsetting with
  | columns hvalue =>
      exact ⟨hknown, .put_here hkeys hvalue, hfilter.put_elsewhere hkeys (by decide),
        hordering.put_elsewhere hkeys (by decide), hchosen (by decide),
        hpage.put_elsewhere hkeys (by decide), hlimit.put_elsewhere hkeys (by decide)⟩
  | filter hvalue =>
      exact ⟨hknown, hcolumns.put_elsewhere hkeys (by decide), .put_here hkeys hvalue,
        hordering.put_elsewhere hkeys (by decide), hchosen (by decide),
        hpage.put_elsewhere hkeys (by decide), hlimit.put_elsewhere hkeys (by decide)⟩
  | order hvalue =>
      exact ⟨hknown, hcolumns.put_elsewhere hkeys (by decide),
        hfilter.put_elsewhere hkeys (by decide), .put_here hkeys hvalue,
        by simp [apply, Entries.mem_keys_put_iff], hpage.put_elsewhere hkeys (by decide),
        hlimit.put_elsewhere hkeys (by decide)⟩
  | page hvalue =>
      exact ⟨hknown, hcolumns.put_elsewhere hkeys (by decide),
        hfilter.put_elsewhere hkeys (by decide), hordering.put_elsewhere hkeys (by decide),
        hchosen (by decide), .put_here hkeys hvalue, hlimit.put_elsewhere hkeys (by decide)⟩
  | limit hvalue =>
      exact ⟨hknown, hcolumns.put_elsewhere hkeys (by decide),
        hfilter.put_elsewhere hkeys (by decide), hordering.put_elsewhere hkeys (by decide),
        hchosen (by decide), hpage.put_elsewhere hkeys (by decide), .put_here hkeys hvalue⟩

lemma describes (h : MirrorsMembers members selection) :
    ∀ member ∈ members, ∃ setting, Json.DescribesSetting member setting := by
  rintro ⟨key, value⟩ hmem
  have hkey : key ∈ knownKeys := h.known key (List.mem_map_of_mem hmem)
  simp only [knownKeys, List.mem_cons, List.not_mem_nil, or_false] at hkey
  obtain rfl | rfl | rfl | rfl | rfl := hkey
  · exact ⟨_, .columns (h.columns.1 value hmem)⟩
  · exact ⟨_, .filter (h.filter.1 value hmem)⟩
  · exact ⟨_, .order (h.ordering.1 value hmem)⟩
  · exact ⟨_, .page (h.page.1 value hmem)⟩
  · exact ⟨_, .limit (h.limit.1 value hmem)⟩

/-- Members describe one selection only. -/
lemma unique (h : MirrorsMembers members selection) (h' : MirrorsMembers members other) :
    selection = other := by
  have hcolumns :=
    h.columns.unique columnsOfJson (fun _ _ => columnsOfJson_eq_ok_iff.mpr) h'.columns
  have hfilter := h.filter.unique Filter.ofJson (fun _ _ => id) h'.filter
  have hordering := h.ordering.unique orderOfJson (fun _ _ => orderOfJson_eq_ok_iff.mpr) h'.ordering
  have hpage := h.page.unique (countOfJson "page") (fun _ _ => countOfJson_eq_ok_iff.mpr) h'.page
  have hlimit :=
    h.limit.unique (countOfJson "limit") (fun _ _ => countOfJson_eq_ok_iff.mpr) h'.limit
  have hchosen : selection.order? = none ↔ other.order? = none := h.chosen.trans h'.chosen.symm
  obtain ⟨columns, filter, order?, page?, limit?⟩ := selection
  obtain ⟨columns', filter', order?', page?', limit?'⟩ := other
  have horder : order? = order?' := by
    cases order? <;> cases order?' <;> simp_all [Selection.ordering]
  simp_all

lemma perm (h : MirrorsMembers members selection) (hperm : members.Perm others) :
    MirrorsMembers others selection := by
  have hkeys : ∀ key, key ∈ Entries.keys others ↔ key ∈ Entries.keys members := fun key =>
    (hperm.map Prod.fst).symm.mem_iff
  exact {
    known := fun key hkey => h.known key ((hkeys key).mp hkey)
    columns := h.columns.perm hperm
    filter := h.filter.perm hperm
    ordering := h.ordering.perm hperm
    chosen := by rw [hkeys, h.chosen]
    page := h.page.perm hperm
    limit := h.limit.perm hperm }

end MirrorsMembers

/-- A run over members with distinct keys ends in a selection that mirrors them. -/
lemma mirrorsMembers_of_ofMembers_eq_ok {members : List (String × Json)} {selection : Selection}
    (hkeys : (Entries.keys members).Nodup) (h : ofMembers members = .ok selection) :
    MirrorsMembers members selection := by
  induction members using List.reverseRecOn generalizing selection with
  | nil =>
      obtain rfl : standard = selection := by simpa [ofMembers] using h
      exact .nil
  | append_singleton members member ih =>
      obtain ⟨key, value⟩ := member
      rw [Entries.keys, List.map_append, List.nodup_append] at hkeys
      rw [ofMembers, List.foldlM_append] at h
      obtain ⟨before, hbefore, hlast⟩ := bind_eq_ok_iff.mp h
      simp only [List.foldlM_cons, List.foldlM_nil, bind_pure, readMember] at hlast
      obtain ⟨setting, hsetting, ⟨⟩⟩ := bind_eq_ok_iff.mp hlast
      have hnew : key ∉ Entries.keys members := fun hmem =>
        hkeys.2.2 key hmem key (by simp) rfl
      rw [← Entries.put_of_notMem hnew]
      exact (ih hkeys.1 hbefore).put hkeys.1 (settingOfMember_eq_ok_iff.mp hsetting)

lemma exists_readMember_eq_ok_iff (selection : Selection) (member : String × Json) :
    (∃ result, selection.readMember member = .ok result) ↔
      ∃ setting, Json.DescribesSetting member setting := by
  simp [readMember, bind_eq_ok_iff, settingOfMember_eq_ok_iff]

/-- **Reading members** with distinct keys gives the selection that mirrors them. -/
lemma ofMembers_eq_ok_iff {members : List (String × Json)} {selection : Selection}
    (hkeys : (Entries.keys members).Nodup) :
    ofMembers members = .ok selection ↔ MirrorsMembers members selection := by
  refine ⟨mirrorsMembers_of_ofMembers_eq_ok hkeys, fun h => ?_⟩
  obtain ⟨result, hresult⟩ :=
    (exists_foldlM_eq_ok_iff exists_readMember_eq_ok_iff members standard).mpr h.describes
  rw [h.unique (mirrorsMembers_of_ofMembers_eq_ok hkeys hresult)]
  exact hresult

/-- The reader accepts the grammar and nothing else. -/
lemma exists_ofJson_eq_ok_iff (json : Json) :
    (∃ selection, ofJson json = .ok selection) ↔ json.DescribesSelection := by
  cases json with
  | null => exact ⟨fun _ => .null, fun _ => ⟨_, rfl⟩⟩
  | object members =>
      have hread := exists_foldlM_eq_ok_iff exists_readMember_eq_ok_iff members standard
      exact ⟨fun h => .object (hread.mp h), by rintro ⟨⟩; exact hread.mpr ‹_›⟩
  | _ => exact ⟨by rintro ⟨_, ⟨⟩⟩, by rintro ⟨⟩⟩

/-- Reading gives the selection that mirrors the description. -/
lemma ofJson_eq_ok_iff {json : Json} (hjson : json.Distinct) (selection : Selection) :
    ofJson json = .ok selection ↔ Mirrors json selection := by
  cases json with
  | null => exact ⟨by rintro ⟨⟩; exact .null, by rintro ⟨⟩; rfl⟩
  | object members =>
      have hread : ofMembers members = .ok selection ↔ MirrorsMembers members selection :=
        ofMembers_eq_ok_iff (Json.distinct_object_iff.mp hjson).1
      exact ⟨fun h => .object (hread.mp h), by rintro ⟨⟩; exact hread.mpr ‹_›⟩
  | _ => exact ⟨by rintro ⟨⟩, by rintro ⟨⟩⟩

/-- Members in another order are refused if the members are, and else describe the same. -/
lemma toOption_ofJson_of_perm {members others : List (String × Json)}
    (hkeys : (Entries.keys members).Nodup) (hperm : members.Perm others) :
    (ofJson (.object others)).toOption = (ofJson (.object members)).toOption := by
  have hkeys' : (Entries.keys others).Nodup := (hperm.map Prod.fst).nodup_iff.mp hkeys
  refine Option.ext fun selection => ?_
  rw [toOption_eq_some_iff, toOption_eq_some_iff]
  calc ofMembers others = .ok selection
      ↔ MirrorsMembers others selection := ofMembers_eq_ok_iff hkeys'
    _ ↔ MirrorsMembers members selection := ⟨fun h => h.perm hperm.symm, fun h => h.perm hperm⟩
    _ ↔ ofMembers members = .ok selection := (ofMembers_eq_ok_iff hkeys).symm

/-- **The reader of selections.**  A JSON value is accepted exactly if it is a description of a
selection, and what is read is exactly the selection that mirrors it: each part is what stands at
its own key, or the default.  In another order the members are either refused as well, or they
describe the same selection, whose statement is then the same. -/
theorem ofJson_accepts_and_permutes (json : Json) (hjson : json.Distinct) :
    ((∃ selection, ofJson json = .ok selection) ↔ json.DescribesSelection) ∧
    (∀ selection, ofJson json = .ok selection ↔ Mirrors json selection) ∧
    ∀ members others, json = .object members → members.Perm others →
      ((∃ refusal, ofJson json = .error refusal) ∧
        ∃ refusal, ofJson (.object others) = .error refusal) ∨
      ∃ selection selection', ofJson json = .ok selection ∧
        ofJson (.object others) = .ok selection' ∧ selection' = selection ∧
        ∀ table, selection'.select table = selection.select table := by
  refine ⟨exists_ofJson_eq_ok_iff json, ofJson_eq_ok_iff hjson, ?_⟩
  rintro members others rfl hperm
  have hsame := toOption_ofJson_of_perm (Json.distinct_object_iff.mp hjson).1 hperm
  cases hmembers : ofJson (.object members) with
  | error refusal =>
      rw [hmembers] at hsame
      cases hothers : ofJson (.object others) with
      | error refusal' => exact .inl ⟨⟨_, rfl⟩, _, rfl⟩
      | ok selection => simp [hothers] at hsame
  | ok selection =>
      rw [hmembers, toOption_ok, toOption_eq_some_iff] at hsame
      exact .inr ⟨selection, selection, rfl, hsame, rfl, fun _ => rfl⟩

/-- A description with all keys, in which the page is unset. -/
def sampleMembers : List (String × Json) :=
  [("limit", .number (.integer 20)),
    ("order", .object [("name", .string "ASC"), ("id", .string "DESC")]),
    ("page", .null),
    ("where", .object [("status", .object [("in", .array [.string "new", .null])])]),
    ("columns", .array [.string "id", .string "name"])]

/-- What the sample describes. -/
def sampleSelection : Selection where
  columns := ["id", "name"]
  filter := .group ⟨[("status", ⟨[(.isIn, some (.list [.text "new", .null]))], none⟩)]⟩
  order? := some [("name", .asc), ("id", .desc)]
  page? := none
  limit? := some 20

theorem ofJson_accepts_and_permutes_sampleMembers :
    (Json.object sampleMembers).Distinct ∧ sampleMembers.Perm sampleMembers.reverse ∧
      (Json.object sampleMembers).DescribesSelection ∧
      Mirrors (.object sampleMembers) sampleSelection ∧
      ofJson (.object sampleMembers.reverse) = .ok sampleSelection := by
  have hdistinct : (Json.object sampleMembers).Distinct := by
    simp [sampleMembers, Entries.keys]
  have hperm : sampleMembers.Perm sampleMembers.reverse := (List.reverse_perm _).symm
  have hread : ofJson (.object sampleMembers) = .ok sampleSelection := rfl
  obtain ⟨haccepted, hmirrored, hpermuted⟩ :=
    ofJson_accepts_and_permutes (.object sampleMembers) hdistinct
  obtain ⟨⟨_, hrefused⟩, -⟩ | ⟨_, _, hboth, hreverse, rfl, -⟩ := hpermuted _ _ rfl hperm
  · rw [hread] at hrefused
    cases hrefused
  · obtain rfl := Except.ok.inj (hread.symm.trans hboth)
    exact ⟨hdistinct, hperm, haccepted.mp ⟨_, hread⟩, (hmirrored _).mp hread, hreverse⟩

end Selection

end FilterQuery
