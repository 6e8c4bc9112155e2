import FilterQuery.Proofs.BoundValues

/-!
# Bind values on their way through JSON

What is read from JSON is written back as it was: reading loses nothing
(`Json.Denotes.toJson_eq`).  The other way round, JSON has no form for bytes and none for a float
that is not finite, and a value loses these two, at any depth, the first time it is written
(`Value.throughJson`).  Everything else keeps its kind: integers of the whole range come back as
integers, and floats as floats, also where they are whole (`Value.denotes_toJson`).

So the values that come back as they are, are those that JSON can express
(`Value.throughJson_eq_self_iff`), and what comes back is always one of them
(`Value.expressible_throughJson`).
-/

namespace FilterQuery

namespace Value

@[elab_as_elim, induction_eliminator]
theorem induct {motive : Value → Prop} (null : motive .null) (bool : ∀ b, motive (.bool b))
    (int : ∀ n, motive (.int n)) (float : ∀ x, motive (.float x)) (text : ∀ s, motive (.text s))
    (blob : ∀ bytes, motive (.blob bytes))
    (list : ∀ items, (∀ item ∈ items, motive item) → motive (.list items)) :
    ∀ value, motive value
  | .null => null
  | .bool b => bool b
  | .int n => int n
  | .float x => float x
  | .text s => text s
  | .blob bytes => blob bytes
  | .list items => list items fun item _ => induct null bool int float text blob list item

/-- What is left of a value that is written as JSON and read again: bytes become integers in a list,
and floats that are not finite become `null`. -/
def throughJson : Value → Value
  | null => null
  | bool b => bool b
  | int n => int n
  | float x => if x.isFinite then float x else null
  | text s => text s
  | blob bytes => list (bytes.map fun byte => int (Int64.ofNat byte.toNat))
  | list items => list (items.map throughJson)

/-- The value has neither bytes nor a float that is not finite, at any depth. -/
inductive Expressible : Value → Prop
  | null : Expressible .null
  | bool (b : Bool) : Expressible (.bool b)
  | int (n : Int64) : Expressible (.int n)
  | float {x : Float} (finite : x.isFinite = true) : Expressible (.float x)
  | text (s : String) : Expressible (.text s)
  | list {items : List Value} (h : ∀ item ∈ items, Expressible item) : Expressible (.list items)

lemma listToJson_eq_map (items : List Value) : listToJson items = items.map toJson := by
  induction items with
  | nil => rfl
  | cons item items ih => rw [listToJson, ih, List.map_cons]

lemma toJson_float_of_isFinite {x : Float} (finite : x.isFinite = true) :
    (float x).toJson = .number (.decimal x finite) := by
  simp [toJson, Number.ofFloat?, finite]

lemma toJson_float_of_not_isFinite {x : Float} (h : ¬x.isFinite = true) :
    (float x).toJson = .null := by
  simp [toJson, Number.ofFloat?, h]

end Value

/-! ## From JSON to values and back -/

/-- **A value that JSON denotes** is written as what denotes it. -/
lemma Json.Denotes.toJson_eq {json : Json} {value : Value} (h : json.Denotes value) :
    value.toJson = json := by
  induction value generalizing json with
  | null => cases h; rfl
  | bool b => cases h; rfl
  | int n => cases h; rfl
  | text s => cases h; rfl
  | blob bytes => cases h
  | float x =>
      cases h with
      | decimal _ finite => exact Value.toJson_float_of_isFinite finite
  | list items ih =>
      cases h with
      | @array jsons _ hitems =>
          have hmap : items.map Value.toJson = jsons.map id :=
            map_eq_map_of_forall₂ (forall₂_imp_of_mem hitems.flip fun item hitem json hjson =>
              ih item hitem hjson)
          rw [Value.toJson, Value.listToJson_eq_map, hmap, List.map_id]

/-! ## From values to JSON and back -/

namespace Value

lemma denotes_byte (byte : UInt8) :
    (Json.number (.integer byte.toNat)).Denotes (.int (Int64.ofNat byte.toNat)) := by
  have hbyte := byte.toNat_lt
  refine Json.denotes_integer_iff.mpr ⟨⟨by omega, by omega⟩, rfl⟩

/-- **A value that is written** is read as what is left of it. -/
lemma denotes_toJson (value : Value) : value.toJson.Denotes value.throughJson := by
  induction value with
  | null => rw [throughJson]; exact .null
  | bool b => rw [throughJson]; exact .bool b
  | int n => rw [throughJson]; exact .integer n
  | text s => rw [throughJson]; exact .string s
  | float x =>
      rw [throughJson]
      split
      · rename_i finite
        rw [toJson_float_of_isFinite finite]
        exact .decimal x finite
      · rename_i hnot
        rw [toJson_float_of_not_isFinite hnot]
        exact .null
  | blob bytes =>
      rw [toJson, throughJson]
      refine .array ?_
      rw [List.forall₂_map_left_iff, List.forall₂_map_right_iff, List.forall₂_same]
      exact fun byte _ => denotes_byte byte
  | list items ih =>
      rw [toJson, throughJson, listToJson_eq_map]
      refine .array ?_
      rw [List.forall₂_map_left_iff, List.forall₂_map_right_iff, List.forall₂_same]
      exact ih

/-! ## What comes back as it is -/

lemma expressible_throughJson (value : Value) : value.throughJson.Expressible := by
  induction value with
  | null => rw [throughJson]; exact .null
  | bool b => rw [throughJson]; exact .bool b
  | int n => rw [throughJson]; exact .int n
  | text s => rw [throughJson]; exact .text s
  | float x =>
      rw [throughJson]
      split
      · rename_i finite
        exact .float finite
      · exact .null
  | blob bytes =>
      rw [throughJson]
      exact .list (List.forall_mem_map.mpr fun byte _ => .int _)
  | list items ih =>
      rw [throughJson]
      exact .list (List.forall_mem_map.mpr ih)

lemma Expressible.throughJson_eq {value : Value} (h : value.Expressible) :
    value.throughJson = value := by
  induction h with
  | null | bool | int | text => rw [throughJson]
  | float finite => rw [throughJson, if_pos finite]
  | @list items _ ih =>
      rw [throughJson, List.map_congr_left (g := id) ih, List.map_id]

/-- A value comes back as it is exactly if JSON can express it. -/
lemma throughJson_eq_self_iff {value : Value} :
    value.throughJson = value ↔ value.Expressible :=
  ⟨fun h => h ▸ value.expressible_throughJson, Expressible.throughJson_eq⟩

/-- **Bind values survive JSON.**  A JSON value that is accepted is written back as it was, to the
same text.  A value that is written is read back, with bytes as lists of integers and without floats
that are not finite; it is then the same value exactly if it had none of these, and going through
JSON once more changes nothing. -/
theorem json_roundTrip :
    (∀ (json : Json) (value : Value), ofJson json = .ok value →
      value.toJson = json ∧ value.jsonText = json.compact) ∧
    ∀ value : Value,
      ofJson value.toJson = .ok value.throughJson ∧
      (ofJson value.toJson = .ok value ↔ value.Expressible) ∧
      ofJson value.throughJson.toJson = .ok value.throughJson := by
  have hback : ∀ value : Value, ofJson value.toJson = .ok value.throughJson :=
    fun value => ofJson_eq_ok_iff.mpr value.denotes_toJson
  refine ⟨fun json value h => ?_, fun value => ⟨hback value, ?_, ?_⟩⟩
  · have hjson := (ofJson_eq_ok_iff.mp h).toJson_eq
    exact ⟨hjson, by rw [jsonText, hjson]⟩
  · rw [hback, Except.ok.injEq, throughJson_eq_self_iff]
  · rw [hback, value.expressible_throughJson.throughJson_eq]

end Value

end FilterQuery
