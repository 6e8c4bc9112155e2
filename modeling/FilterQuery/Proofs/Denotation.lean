import FilterQuery.Proofs.Merging
import FilterQuery.Proofs.ReadSpelling
import FilterQuery.Proofs.SelectionGrammar

/-!
# Values of documents

The value of a document, seen from its parts, and the description that a text is read as.

* `Draft.denote_array_eq_some_iff` and `Draft.denote_object_eq_some`: an array has the values of its
  items, and an object has each key once, with the value of the last thing that is written for it.
* `Filter.parse_eq_ok_iff` and `Selection.parse_eq_ok_iff`: a text describes what mirrors the value
  of the document that it spells.
-/

namespace FilterQuery

/-! ## Arrays and objects -/

namespace Draft

lemma denote_array_eq_some_iff {depth : Nat} {items : List Draft} {json : Json} :
    denote depth (.array items) = some json ↔
      ∃ inner values, depth = inner + 1 ∧ json = .array values ∧
        List.Forall₂ (fun item value => item.denote inner = some value) items values := by
  cases depth with
  | zero => simp [denote]
  | succ depth =>
      simp only [denote, Option.map_eq_some_iff, mapM_eq_some_iff]
      constructor
      · rintro ⟨values, hvalues, rfl⟩
        exact ⟨depth, values, rfl, rfl, hvalues⟩
      · rintro ⟨_, values, ⟨⟩, rfl, hvalues⟩
        exact ⟨values, hvalues, rfl⟩

/-- An object has each key once, with the value of the last thing that is written for it. -/
lemma denote_object_eq_some {depth : Nat} {members : List (String × Draft)} {json : Json}
    (h : denote depth (.object members) = some json) :
    ∃ inner merged, depth = inner + 1 ∧ json = .object merged ∧ (Entries.keys merged).Nodup ∧
      (∀ key d, Entries.last? key members = some d →
        ∃ value, d.denote inner = some value ∧ (key, value) ∈ merged) ∧
      ∀ member ∈ merged, ∃ d, denote inner d = some member.2 := by
  cases depth with
  | zero => simp [denote] at h
  | succ depth =>
      simp only [denote, Option.map_eq_some_iff, mapM_eq_some_iff] at h
      obtain ⟨values, hvalues, rfl⟩ := h
      obtain ⟨merged, hmerged, hkeys, hmem⟩ := Json.ofMembers_eq_object values
      have hpairs : List.Forall₂
          (fun x y : String × _ => x.1 = y.1 ∧ denote depth x.2 = some y.2) members values :=
        hvalues.imp fun member pair hpair => by
          obtain ⟨value, hvalue, rfl⟩ := hpair
          exact ⟨rfl, hvalue⟩
      refine ⟨depth, merged, rfl, hmerged, hkeys, fun key d hd => ?_, fun member hmember => ?_⟩
      · obtain ⟨value, hvalue, hdenote⟩ :=
          Entries.exists_last?_right (R := fun d value => denote depth d = some value) hpairs hd
        exact ⟨value, hdenote, (hmem key value).mpr hvalue⟩
      · have hlast := (hmem member.1 member.2).mp hmember
        obtain ⟨d, -, hdenote⟩ :=
          Entries.exists_last?_left (R := fun d value => denote depth d = some value) hpairs hlast
        exact ⟨d, hdenote⟩

/-- No object in the value of a document has two members of one key. -/
lemma distinct_of_denote {depth : Nat} {d : Draft} {json : Json} (h : d.denote depth = some json) :
    json.Distinct := by
  induction depth using Nat.strong_induction_on generalizing d json with
  | _ depth ih =>
      cases d with
      | null =>
          obtain rfl : Json.null = json := by simpa [denote] using h
          exact .null
      | bool b =>
          obtain rfl : Json.bool b = json := by simpa [denote] using h
          exact .bool b
      | string s =>
          obtain rfl : Json.string s = json := by simpa [denote] using h
          exact .string s
      | numeral literal =>
          rw [denote, Option.map_eq_some_iff] at h
          obtain ⟨number, -, rfl⟩ := h
          exact .number number
      | array items =>
          obtain ⟨inner, values, rfl, rfl, hvalues⟩ := denote_array_eq_some_iff.mp h
          refine .array fun value hvalue => ?_
          obtain ⟨item, -, hitem⟩ := exists_mem_of_forall₂ hvalues.flip hvalue
          exact ih inner (Nat.lt_add_one inner) hitem
      | object members =>
          obtain ⟨inner, merged, rfl, rfl, hkeys, -, hdenote⟩ := denote_object_eq_some h
          refine .object hkeys fun member hmember => ?_
          obtain ⟨d, hd⟩ := hdenote member hmember
          exact ih inner (Nat.lt_add_one inner) hd

end Draft

/-! ## Texts -/

/-- What a reader makes of a text is what it makes of the value of the document. -/
lemma Draft.Spelled.read_eq_ok_iff {α : Type} {d : Draft} {text : String} (h : d.Spelled text)
    (read : Json → Except Refusal α) (a : α) :
    (Json.parse text).mapError .malformed >>= read = .ok a ↔
      ∃ json, d.denote Json.depthLimit = some json ∧ read json = .ok a := by
  rw [← h.toOption_parse]
  cases Json.parse text with
  | error e => simp [Except.mapError, bind_eq_ok_iff]
  | ok json => simp [Except.mapError]

/-- A text describes the filter that mirrors the value of the document that it spells. -/
theorem Filter.parse_eq_ok_iff {d : Draft} {text : String} (h : d.Spelled text) (filter : Filter) :
    parse text = .ok filter ↔
      ∃ json, d.denote Json.depthLimit = some json ∧ Mirrors json filter := by
  rw [parse, h.read_eq_ok_iff]
  exact exists_congr fun json => and_congr_right fun hjson =>
    ofJson_eq_ok_iff (Draft.distinct_of_denote hjson) filter

/-- A text describes the selection that mirrors the value of the document that it spells. -/
theorem Selection.parse_eq_ok_iff {d : Draft} {text : String} (h : d.Spelled text)
    (selection : Selection) :
    parse text = .ok selection ↔
      ∃ json, d.denote Json.depthLimit = some json ∧ Mirrors json selection := by
  rw [parse, h.read_eq_ok_iff]
  exact exists_congr fun json => and_congr_right fun hjson =>
    ofJson_eq_ok_iff (Draft.distinct_of_denote hjson) selection

end FilterQuery
