import Mathlib.Algebra.Ring.Int.Defs
import FilterQuery.Document.Value
import FilterQuery.Proofs.Success

/-!
# JSON values that can be bound

A JSON value can be bound unless it has an object or an integer beyond 64 bits in it, at any depth
(`Json.Bindable`).  What is bound is then the same value (`Json.Denotes`): the same kind, the same
number or text, and for an array the list of what its elements denote.  `Value.ofJson_eq_ok_iff` and
`Json.bindable_iff` say that reading a value is exactly this.
-/

namespace FilterQuery

namespace Json

@[elab_as_elim, induction_eliminator]
theorem induct {motive : Json → Prop} (null : motive .null) (bool : ∀ b, motive (.bool b))
    (number : ∀ n, motive (.number n)) (string : ∀ s, motive (.string s))
    (array : ∀ items, (∀ item ∈ items, motive item) → motive (.array items))
    (object : ∀ members, (∀ member ∈ members, motive member.2) → motive (.object members)) :
    ∀ json, motive json
  | .null => null
  | .bool b => bool b
  | .number n => number n
  | .string s => string s
  | .array items => array items fun item _ => induct null bool number string array object item
  | .object members => object members fun member hmem =>
      have hsmaller : sizeOf member.2 < 1 + sizeOf members := by
        have hmember := List.sizeOf_lt_of_mem hmem
        obtain ⟨key, value⟩ := member
        simp only [Prod.mk.sizeOf_spec] at hmember ⊢
        omega
      induct null bool number string array object member.2

/-- No object and no integer beyond 64 bits occurs in the value, at any depth. -/
inductive Bindable : Json → Prop
  | null : Bindable .null
  | bool (b : Bool) : Bindable (.bool b)
  | integer {n : Int} (h : -2 ^ 63 ≤ n ∧ n < 2 ^ 63) : Bindable (.number (.integer n))
  | decimal (x : Float) (finite : x.isFinite = true) : Bindable (.number (.decimal x finite))
  | string (s : String) : Bindable (.string s)
  | array {items : List Json} (h : ∀ item ∈ items, Bindable item) : Bindable (.array items)

/-- The bind value is the JSON value: of the same kind, and with the same content. -/
inductive Denotes : Json → Value → Prop
  | null : Denotes .null .null
  | bool (b : Bool) : Denotes (.bool b) (.bool b)
  | integer (n : Int64) : Denotes (.number (.integer n.toInt)) (.int n)
  | decimal (x : Float) (finite : x.isFinite = true) :
      Denotes (.number (.decimal x finite)) (.float x)
  | string (s : String) : Denotes (.string s) (.text s)
  | array {items : List Json} {values : List Value} (h : List.Forall₂ Denotes items values) :
      Denotes (.array items) (.list values)

/-- A value is denoted by an integer exactly if that is in range, and it is then the integer. -/
lemma denotes_integer_iff {n : Int} {value : Value} :
    Denotes (.number (.integer n)) value ↔
      (-2 ^ 63 ≤ n ∧ n < 2 ^ 63) ∧ value = .int (Int64.ofInt n) := by
  constructor
  · intro h
    cases h with
    | integer m => exact ⟨⟨m.le_toInt, m.toInt_lt⟩, by rw [Int64.ofInt_toInt]⟩
  · rintro ⟨⟨hge, hlt⟩, rfl⟩
    have hn : (Int64.ofInt n).toInt = n := Int64.toInt_ofInt_of_le hge hlt
    simpa only [hn] using Denotes.integer (Int64.ofInt n)

/-- A value can be bound exactly if it denotes one. -/
lemma bindable_iff {json : Json} : json.Bindable ↔ ∃ value, json.Denotes value := by
  induction json with
  | null => exact ⟨fun _ => ⟨_, .null⟩, fun _ => .null⟩
  | bool b => exact ⟨fun _ => ⟨_, .bool b⟩, fun _ => .bool b⟩
  | string s => exact ⟨fun _ => ⟨_, .string s⟩, fun _ => .string s⟩
  | object members _ => exact ⟨by rintro ⟨⟩, by rintro ⟨_, ⟨⟩⟩⟩
  | number n =>
      cases n with
      | decimal x finite => exact ⟨fun _ => ⟨_, .decimal x finite⟩, fun _ => .decimal x finite⟩
      | integer n =>
          simp only [denotes_integer_iff, exists_and_left, exists_eq, and_true]
          refine ⟨fun h => ?_, .integer⟩
          cases h with
          | integer hn => exact hn
  | array items ih =>
      constructor
      · intro h
        cases h with
        | array hitems =>
            obtain ⟨values, hvalues⟩ := exists_forall₂_iff.mpr fun item hitem =>
              (ih item hitem).mp (hitems item hitem)
            exact ⟨_, .array hvalues⟩
      · rintro ⟨_, h⟩
        cases h with
        | @array _ values hvalues =>
            have hall := exists_forall₂_iff.mp ⟨values, hvalues⟩
            exact .array fun item hitem => (ih item hitem).mpr (hall item hitem)

end Json

namespace Value

lemma listOfJson_eq_mapM (items : List Json) : listOfJson items = items.mapM ofJson := by
  induction items with
  | nil => rfl
  | cons item items ih => rw [listOfJson, List.mapM_cons, ih]

/-- **Reading a bind value** gives the value that is denoted, if there is one. -/
theorem ofJson_eq_ok_iff {json : Json} {value : Value} :
    ofJson json = .ok value ↔ json.Denotes value := by
  induction json generalizing value with
  | null => exact ⟨by rintro ⟨⟩; exact .null, by rintro ⟨⟩; rfl⟩
  | bool b => exact ⟨by rintro ⟨⟩; exact .bool b, by rintro ⟨⟩; rfl⟩
  | string s => exact ⟨by rintro ⟨⟩; exact .string s, by rintro ⟨⟩; rfl⟩
  | object members _ => exact ⟨by rintro ⟨⟩, by rintro ⟨⟩⟩
  | number n =>
      cases n with
      | decimal x finite => exact ⟨by rintro ⟨⟩; exact .decimal x finite, by rintro ⟨⟩; rfl⟩
      | integer n =>
          have hrange : (-2 ^ 63 ≤ n ∧ n < 2 ^ 63) ↔ leastInteger ≤ n ∧ n < integerLimit :=
            Iff.rfl
          rw [Json.denotes_integer_iff, hrange, ofJson]
          split
          · rename_i hn
            simp [hn, eq_comm]
          · rename_i hn
            simp [hn]
  | array items ih =>
      have hitems := mapM_eq_ok_iff fun item hitem value =>
        (ih item hitem : ofJson item = .ok value ↔ item.Denotes value)
      rw [ofJson, bind_eq_ok_iff, listOfJson_eq_mapM]
      constructor
      · rintro ⟨values, hvalues, ⟨⟩⟩
        exact .array ((hitems values).mp hvalues)
      · intro h
        cases h with
        | @array _ values hvalues => exact ⟨values, (hitems values).mpr hvalues, rfl⟩

end Value

/-- A JSON value denotes one value only. -/
lemma Json.Denotes.unique {json : Json} {v w : Value} (hv : json.Denotes v) (hw : json.Denotes w) :
    v = w := by
  rw [← Value.ofJson_eq_ok_iff] at hv hw
  exact Except.ok.inj (hv.symm.trans hw)

end FilterQuery
