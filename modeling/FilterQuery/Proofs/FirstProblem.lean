import FilterQuery.Proofs.Problems
import FilterQuery.Proofs.SelectionGrammar

/-!
# The problem that is reported

A reader stops at the first thing that it does not accept.  Here this is shown to be the first
problem of the document (`ofJson_reports_first_problem`): the refusal of a bind, a fold or a map is
that of the first step that is refused, and so the readers can be followed level by level, from bind
values and conditions over groups to filters and selections.
-/

namespace FilterQuery

/-! ## Failed readings -/

/-- The refusal of a reading that fails. -/
def refusal? {α : Type} : Except Refusal α → Option Refusal
  | .ok _ => none
  | .error refusal => some refusal

section Failure

variable {α β : Type}

@[simp] lemma refusal?_ok (a : α) : refusal? (.ok a) = none := rfl

@[simp] lemma refusal?_error (refusal : Refusal) :
    refusal? (.error refusal : Except Refusal α) = some refusal := rfl

lemma refusal?_eq_some_iff {x : Except Refusal α} {refusal : Refusal} :
    refusal? x = some refusal ↔ x = .error refusal := by
  cases x <;> simp

lemma refusal?_eq_none_iff {x : Except Refusal α} : refusal? x = none ↔ ∃ a, x = .ok a := by
  cases x <;> simp

@[simp] lemma refusal?_map (f : α → β) (x : Except Refusal α) :
    refusal? (f <$> x) = refusal? x := by
  cases x <;> rfl

/-- The first of two steps that is refused decides. -/
lemma refusal?_bind {x : Except Refusal α} {f : α → Except Refusal β} {later? : Option Refusal}
    (h : ∀ a, x = .ok a → refusal? (f a) = later?) :
    refusal? (x >>= f) = (refusal? x).or later? := by
  cases x with
  | ok a => simpa using h a rfl
  | error refusal => rfl

/-- A last step that cannot be refused does not count. -/
lemma refusal?_bind_pure (x : Except Refusal α) (f : α → β) :
    refusal? (x >>= fun a => pure (f a)) = refusal? x := by
  have hlast : ∀ a, x = .ok a → refusal? (pure (f a)) = none := fun _ _ => rfl
  rw [refusal?_bind hlast, Option.or_none]

lemma refusal?_mapM {f : α → Except Refusal β} {flaw? : α → Option Refusal} {xs : List α}
    (h : ∀ x ∈ xs, refusal? (f x) = flaw? x) : refusal? (xs.mapM f) = xs.findSome? flaw? := by
  induction xs with
  | nil => rfl
  | cons x xs ih =>
      have hrest := ih fun y hy => h y (List.mem_cons_of_mem x hy)
      rw [List.mapM_cons, refusal?_bind fun y _ => refusal?_bind_pure _ (y :: ·), hrest,
        h x (by simp), findSome?_cons_eq_or]

lemma refusal?_foldlM {f : β → α → Except Refusal β} {flaw? : α → Option Refusal} {xs : List α}
    (h : ∀ s, ∀ x ∈ xs, refusal? (f s x) = flaw? x) (s : β) :
    refusal? (xs.foldlM f s) = xs.findSome? flaw? := by
  induction xs generalizing s with
  | nil => rfl
  | cons x xs ih =>
      have hrest := ih fun s y hy => h s y (List.mem_cons_of_mem x hy)
      rw [List.foldlM_cons, refusal?_bind fun t _ => hrest t, h s x (by simp),
        findSome?_cons_eq_or]

end Failure

/-! ## Keywords -/

/-- A reading that fails exactly where a search by name finds nothing fails for the words that are no
name. -/
lemma refusal?_of_find? {α β : Type} (name : α → String) (xs : List α) {word : String}
    {missing : Refusal} {x : Except Refusal β}
    (hfound : ∀ a, (xs.find? fun a => name a == word) = some a → refusal? x = none)
    (hmissing : (xs.find? fun a => name a == word) = none → refusal? x = some missing) :
    refusal? x = if word ∈ xs.map name then none else some missing := by
  cases hfind : xs.find? fun a => name a == word with
  | none =>
      have hword : word ∉ xs.map name := by simpa using hfind
      rw [if_neg hword, hmissing hfind]
  | some a =>
      have hname : name a = word := by simpa using List.find?_some hfind
      rw [if_pos (hname ▸ List.mem_map_of_mem (List.mem_of_find?_eq_some hfind)), hfound a hfind]

lemma refusal?_operatorOfName (name : String) :
    refusal? (Operator.ofName name) =
      if name ∈ Operator.all.map Operator.name then none else some (.unknownOperator name) :=
  refusal?_of_find? Operator.name Operator.all
    (fun _ h => by simp [Operator.ofName, Operator.ofName?, h])
    (fun h => by simp [Operator.ofName, Operator.ofName?, h])

lemma refusal?_joinOfWord (word : String) :
    refusal? (Join.ofWord word) =
      if word ∈ ["AND", "OR"] then none else some (.unknownJoin word) :=
  refusal?_of_find? Join.sql [.and, .or] (fun _ h => by simp [Join.ofWord, Join.ofWord?, h])
    (fun h => by simp [Join.ofWord, Join.ofWord?, h])

lemma refusal?_directionOfWord (word : String) :
    refusal? (Direction.ofWord word) =
      if word ∈ ["ASC", "DESC"] then none else some (.unknownDirection word) :=
  refusal?_of_find? Direction.sql [.asc, .desc]
    (fun _ h => by simp [Direction.ofWord, Direction.ofWord?, h])
    (fun h => by simp [Direction.ofWord, Direction.ofWord?, h])

open Expected

/-! ## Filters -/

lemma Value.refusal?_ofJson (json : Json) : refusal? (Value.ofJson json) = value.first? json := by
  induction json with
  | number n =>
      cases n with
      | decimal => rfl
      | integer n =>
          have hrange : leastInteger ≤ n ∧ n < integerLimit ↔ -2 ^ 63 ≤ n ∧ n < 2 ^ 63 := Iff.rfl
          rw [Value.ofJson, first?_number, flaw?]
          simp only [hrange]
          split <;> rfl
  | array items ih =>
      rw [Value.ofJson, refusal?_bind_pure, listOfJson_eq_mapM, refusal?_mapM ih]
      simp [flaw?, item]
  | object members _ => simp [Value.ofJson, flaw?]
  | _ => rfl

lemma Conditions.refusal?_readMember (field : String) (conditions : Conditions)
    (entry : String × Json) :
    refusal? (conditions.readMember entry) = ((Expected.field field).keyFlaw? entry.1).or
      (((Expected.field field).member entry.1).first? entry.2) := by
  obtain ⟨key, held⟩ := entry
  by_cases hkey : key = joinKey
  · subst hkey
    cases held with
    | string word =>
        have hread : conditions.readMember (joinKey, .string word) =
            Join.ofWord word >>= fun join => pure (conditions.joinedBy join) := rfl
        rw [hread, refusal?_bind_pure, refusal?_joinOfWord]
        simp [keyFlaw?, member, flaw?]
    | _ => simp [readMember, Json.string?, keyFlaw?, member, flaw?]
  · simp only [readMember, hkey, if_false, keyFlaw?, member, false_or]
    rw [refusal?_bind fun _ _ => refusal?_bind_pure _ _, refusal?_operatorOfName,
      Value.refusal?_ofJson]

lemma Conditions.refusal?_ofMembers (field : String) (members : List (String × Json)) :
    refusal? (Conditions.ofMembers members) = (Expected.field field).first? (.object members) := by
  rw [ofMembers, refusal?_foldlM fun conditions entry _ =>
    refusal?_readMember field conditions entry]
  simp [flaw?]

lemma Group.refusal?_readMember (group : Group) (entry : String × Json) :
    refusal? (group.readMember entry) = (filter.keyFlaw? entry.1).or
      ((filter.member entry.1).first? entry.2) := by
  obtain ⟨name, held⟩ := entry
  cases held with
  | object members =>
      have hread : group.readMember (name, .object members) =
          Conditions.ofMembers members >>= fun conditions =>
            pure (group.field name conditions) := by
        simp [readMember, Json.string?, Json.members?]
      rw [hread, refusal?_bind_pure, Conditions.refusal?_ofMembers name]
      rfl
  | string s =>
      by_cases hname : name = joinKey <;>
        simp [readMember, Json.string?, Json.members?, hname, keyFlaw?, member, flaw?]
  | _ => simp [readMember, Json.string?, Json.members?, keyFlaw?, member, flaw?]

lemma Filter.refusal?_ofJson (json : Json) :
    refusal? (Filter.ofJson json) = filter.first? json := by
  induction json with
  | array items ih =>
      rw [Filter.ofJson, refusal?_bind_pure, listOfJson_eq_mapM, refusal?_mapM ih]
      simp [flaw?, item]
  | object members _ =>
      rw [Filter.ofJson, refusal?_bind_pure, Group.ofMembers,
        refusal?_foldlM fun group entry _ => group.refusal?_readMember entry]
      simp [flaw?]
  | _ => rfl

/-! ## Selections -/

namespace Selection

lemma findSome?_first?_column (items : List Json) :
    items.findSome? column.first? =
      if (items.mapM Json.string?).isSome then none else some (.selection .columns) := by
  induction items with
  | nil => rfl
  | cons item rest ih =>
      rw [findSome?_cons_eq_or, ih, List.mapM_cons]
      cases item with
      | string s => cases rest.mapM Json.string? <;> simp [Json.string?, flaw?]
      | _ => simp [Json.string?, flaw?]

lemma refusal?_columnsOfJson (json : Json) :
    refusal? (columnsOfJson json) = Expected.columns.first? json := by
  cases json with
  | array items =>
      have hitems := findSome?_first?_column items
      simp only [columnsOfJson, Json.items?, Option.bind_some, first?_array, flaw?, item, hitems]
      cases items.mapM Json.string? <;> rfl
  | _ => rfl

lemma refusal?_directionOfMember (entry : String × Json) :
    refusal? (directionOfMember entry) = (order.keyFlaw? entry.1).or
      ((order.member entry.1).first? entry.2) := by
  obtain ⟨name, held⟩ := entry
  cases held with
  | string word =>
      have hread : directionOfMember (name, .string word) =
          Direction.ofWord word >>= fun direction => pure (name, direction) := rfl
      rw [hread, refusal?_bind_pure, refusal?_directionOfWord]
      simp [keyFlaw?, member, flaw?]
  | _ => simp [directionOfMember, Json.string?, keyFlaw?, member, flaw?]

lemma refusal?_orderOfJson (json : Json) : refusal? (orderOfJson json) = order.first? json := by
  cases json with
  | object members =>
      have hread : orderOfJson (.object members) = members.mapM directionOfMember := rfl
      rw [hread, refusal?_mapM fun entry _ => refusal?_directionOfMember entry]
      simp [flaw?]
  | _ => simp [orderOfJson, Json.members?, flaw?]

lemma refusal?_countOfJson (key : String) (json : Json) :
    refusal? (countOfJson key json) = (count key).first? json := by
  cases json with
  | number n =>
      cases n with
      | decimal => rfl
      | integer n =>
          have hrange : 0 ≤ n ∧ n.toNat < UInt64.size ↔ 0 ≤ n ∧ n < 2 ^ 64 := by
            rw [UInt64.size]
            omega
          simp only [countOfJson, count?, hrange, first?_number, flaw?]
          by_cases hn : 0 ≤ n ∧ n < 2 ^ 64
          · simp only [if_pos hn]
            rfl
          · simp only [if_neg hn]
            rfl
  | _ => simp [countOfJson, count?, flaw?]

lemma refusal?_settingOfMember (entry : String × Json) :
    refusal? (settingOfMember entry) = (selection.keyFlaw? entry.1).or
      ((selection.member entry.1).first? entry.2) := by
  obtain ⟨key, held⟩ := entry
  rw [settingOfMember.eq_def]
  dsimp only
  split
  · simp [keyFlaw?, member, refusal?_columnsOfJson]
  · simp [keyFlaw?, member, Filter.refusal?_ofJson]
  · simp [keyFlaw?, member, refusal?_orderOfJson]
  · simp [keyFlaw?, member, refusal?_countOfJson]
  · simp [keyFlaw?, member, refusal?_countOfJson]
  · have hkey : key ∉ ["columns", "where", "order", "page", "limit"] := by simp_all
    simp only [keyFlaw?, if_neg hkey]
    rfl

lemma refusal?_ofJson (json : Json) : refusal? (Selection.ofJson json) = selection.first? json := by
  cases json with
  | object members =>
      have hstep : ∀ standing : Selection, ∀ entry ∈ members,
          refusal? (standing.readMember entry) = (selection.keyFlaw? entry.1).or
            ((selection.member entry.1).first? entry.2) := fun standing entry _ => by
        rw [readMember, refusal?_bind_pure, refusal?_settingOfMember]
      rw [Selection.ofJson, ofMembers, refusal?_foldlM hstep]
      simp [flaw?]
  | _ => rfl

end Selection

/-! ## The reported problem -/

/-- A reader of what is expected refuses exactly the documents with problems, and each of them for
its first problem. -/
structure ReportsFirst {α : Type} (expected : Expected) (read : Json → Except Refusal α) :
    Prop where
  accepts : ∀ json, (∃ a, read json = .ok a) ↔ expected.problems json = []
  refuses : ∀ json refusal,
    read json = .error refusal ↔ (expected.problems json).head? = some refusal
  /-- What follows the token at which the first problem shows has no influence. -/
  reads_no_further : ∀ json other refusal, read json = .error refusal →
    untilFlaw (expected.judged json) <+: other.lexemes → read other = .error refusal

lemma reportsFirst_of_refusal?_eq {α : Type} {expected : Expected}
    {read : Json → Except Refusal α} (h : ∀ json, refusal? (read json) = expected.first? json) :
    ReportsFirst expected read := by
  have hrefuses : ∀ json refusal,
      read json = .error refusal ↔ (expected.problems json).head? = some refusal := by
    intro json refusal
    rw [← refusal?_eq_some_iff, h, first?]
  refine ⟨fun json => ?_, hrefuses, fun json other refusal hjson hread => ?_⟩
  · rw [← refusal?_eq_none_iff, h, first?, List.head?_eq_none_iff]
  · exact (hrefuses other refusal).mpr
      (head?_problems_of_read ((hrefuses json refusal).mp hjson) hread)

/-- **The first problem is the one reported.**  A document is refused as a filter, or as a
selection, exactly if it has a problem as one, and then for the first of its problems in the order
of the document; nothing behind the token at which that problem shows has any influence. -/
theorem ofJson_reports_first_problem :
    (∀ (expected : Expected) (json : Json),
      (expected.judged json).map Prod.fst = json.lexemes) ∧
    ReportsFirst .filter Filter.ofJson ∧ ReportsFirst .selection Selection.ofJson :=
  ⟨map_fst_judged, reportsFirst_of_refusal?_eq Filter.refusal?_ofJson,
    reportsFirst_of_refusal?_eq Selection.refusal?_ofJson⟩

/-- A description of a selection with six problems, the first of which is the key `between`. -/
def Json.sampleFaulty : Json :=
  .object [("page", .null),
    ("where", .array [.null, .object
      [("age", .object
        [("gte", .number (.integer 1)),
          ("between", .array [.object [], .number (.integer 9223372036854775808)]),
          ("operator", .string "XOR")]),
        ("name", .string "x")]]),
    ("size", .null)]

/-- A description that begins as `sampleFaulty` does, up to the key `between`. -/
def Json.sampleAbandoned : Json :=
  .object [("page", .null),
    ("where", .array [.null, .object
      [("age", .object [("gte", .number (.integer 1)), ("between", .bool true)])]])]

theorem ofJson_reports_first_problem_sampleFaulty :
    Expected.selection.problems Json.sampleFaulty =
      [.unknownOperator "between", .filter .objectAsValue,
        .filter (.integerOutOfRange 9223372036854775808), .unknownJoin "XOR",
        .filter (.fieldNotObject "name"), .selection (.unknownKey "size")] ∧
    Selection.ofJson Json.sampleFaulty = .error (.unknownOperator "between") ∧
    untilFlaw (Expected.selection.judged Json.sampleFaulty) <+: Json.sampleAbandoned.lexemes ∧
    Selection.ofJson Json.sampleAbandoned = .error (.unknownOperator "between") := by
  obtain ⟨-, -, hselection⟩ := ofJson_reports_first_problem
  have hproblems : Expected.selection.problems Json.sampleFaulty =
      [.unknownOperator "between", .filter .objectAsValue,
        .filter (.integerOutOfRange 9223372036854775808), .unknownJoin "XOR",
        .filter (.fieldNotObject "name"), .selection (.unknownKey "size")] := rfl
  have hfaulty := (hselection.refuses Json.sampleFaulty _).mpr (congrArg List.head? hproblems)
  have hprefix : untilFlaw (Expected.selection.judged Json.sampleFaulty) <+:
      Json.sampleAbandoned.lexemes := ⟨_, rfl⟩
  exact ⟨hproblems, hfaulty, hprefix, hselection.reads_no_further _ _ _ hfaulty hprefix⟩

end FilterQuery
