import FilterQuery.Proofs.Compilation
import FilterQuery.Proofs.Denotation

/-!
# Integer literals in filter descriptions

What becomes of an integer literal, a numeral without fraction and exponent, that stands in a
comparison value of a filter description, directly or in arrays.

* `Draft.Compares` and `Draft.Mentions` say where in a document such a literal stands.
* `Filter.parse_integer_literal`: a literal of the signed range is bound as its value.  One that
  is too large for that but still an unsigned integer of 64 bits makes the reader refuse the text.
  Any other is read as a float before the filter sees it, and that float is bound.
-/

namespace FilterQuery

/-! ## Where literals stand -/

namespace Draft

/-- The description compares a field with a value: the value is the last one of an operator, in the
last object of the field. -/
inductive Compares : Draft → String → String → Draft → Prop
  | array {items : List Draft} {item value : Draft} {field name : String} (hitem : item ∈ items)
      (h : Compares item field name value) : Compares (.array items) field name value
  | object {members conditions : List (String × Draft)} {field name : String} {value : Draft}
      (hfield : Entries.last? field members = some (.object conditions))
      (hname : name ≠ joinKey) (hvalue : Entries.last? name conditions = some value) :
      Compares (.object members) field name value

/-- The literal is the value or stands in it, in arrays of any depth. -/
inductive Mentions : Draft → Literal → Prop
  | numeral (literal : Literal) : Mentions (.numeral literal) literal
  | array {items : List Draft} {item : Draft} {literal : Literal} (hitem : item ∈ items)
      (h : Mentions item literal) : Mentions (.array items) literal

end Draft

/-- The second value is the first or stands in it, in lists of any depth. -/
inductive Value.Holds : Value → Value → Prop
  | self (value : Value) : Holds value value
  | list {items : List Value} {item value : Value} (hitem : item ∈ items) (h : Holds item value) :
      Holds (.list items) value

lemma Filter.mem_comparisons {fields : Entries String Conditions} {name : String}
    {conditions : Conditions} {op : Operator} {value : Value} (hfield : (name, conditions) ∈ fields)
    (hentry : (op, some value) ∈ conditions.entries) :
    ⟨name, op, value⟩ ∈ (Filter.group ⟨fields⟩).comparisons := by
  rw [comparisons, Group.comparisons]
  refine List.mem_flatMap.mpr ⟨(name, conditions), hfield, ?_⟩
  exact List.mem_map.mpr ⟨(op, value), List.mem_filterMap.mpr ⟨_, hentry, rfl⟩, rfl⟩

namespace Draft

lemma Compares.exists_comparison {d value : Draft} {field name : String}
    (h : d.Compares field name value) {depth : Nat} {json : Json} {filter : Filter}
    (hjson : d.denote depth = some json) (hfilter : Filter.Mirrors json filter) :
    ∃ c ∈ filter.comparisons, c.field = field ∧ c.operator.name = name ∧
      ∃ inner valueJson, value.denote inner = some valueJson ∧ valueJson.Denotes c.value := by
  induction h generalizing depth json filter with
  | @array items item _ _ _ hitem _ ih =>
      obtain ⟨inner, values, rfl, rfl, hvalues⟩ := denote_array_eq_some_iff.mp hjson
      cases hfilter with
      | @array _ children hchildren =>
          obtain ⟨itemJson, hmem, hdenote⟩ := exists_mem_of_forall₂ hvalues hitem
          obtain ⟨child, hchild, hmirrors⟩ := exists_mem_of_forall₂ hchildren hmem
          obtain ⟨c, hc, hrest⟩ := ih hdenote hmirrors
          refine ⟨c, ?_, hrest⟩
          rw [Filter.comparisons]
          exact List.mem_flatMap.mpr ⟨child, hchild, hc⟩
  | @object members entries field name value hfield hname hvalue =>
      obtain ⟨inner, merged, rfl, rfl, -, hlast, -⟩ := denote_object_eq_some hjson
      obtain ⟨fieldJson, hfieldJson, hmem⟩ := hlast field _ hfield
      obtain ⟨inner, merged', rfl, rfl, -, hlast', -⟩ := denote_object_eq_some hfieldJson
      obtain ⟨valueJson, hvalueJson, hmem'⟩ := hlast' name value hvalue
      cases hfilter with
      | @object _ fields hfields =>
          obtain ⟨⟨_, conditions⟩, hconditions, rfl, _, ⟨⟩, hmirrors⟩ :=
            exists_mem_of_forall₂ hfields hmem
          obtain ⟨⟨op, _⟩, hentry, rfl, bound, rfl, hbound⟩ :=
            exists_mem_of_forall₂ hmirrors.entries (x := (name, valueJson))
              (List.mem_filter.mpr ⟨hmem', by simpa using hname⟩)
          exact ⟨_, Filter.mem_comparisons hconditions hentry, rfl, rfl, _, _, hvalueJson, hbound⟩

lemma Mentions.exists_holds {d : Draft} {literal : Literal} (h : d.Mentions literal) {depth : Nat}
    {json : Json} {value : Value} (hjson : d.denote depth = some json)
    (hvalue : json.Denotes value) :
    ∃ number held, literal.number? = some number ∧ (Json.number number).Denotes held ∧
      value.Holds held := by
  induction h generalizing depth json value with
  | numeral literal =>
      rw [denote, Option.map_eq_some_iff] at hjson
      obtain ⟨number, hnumber, rfl⟩ := hjson
      exact ⟨number, value, hnumber, hvalue, .self value⟩
  | array hitem _ ih =>
      obtain ⟨inner, values, rfl, rfl, hvalues⟩ := denote_array_eq_some_iff.mp hjson
      cases hvalue with
      | @array _ bound hbound =>
          obtain ⟨itemJson, hmem, hdenote⟩ := exists_mem_of_forall₂ hvalues hitem
          obtain ⟨v, hv, hdenotes⟩ := exists_mem_of_forall₂ hbound hmem
          obtain ⟨number, held, hnumber, hheld, hholds⟩ := ih hdenote hdenotes
          exact ⟨number, held, hnumber, hheld, .list hv hholds⟩

end Draft

namespace Filter

/-- A text is accepted if what it spells has a value, and the value is in the grammar. -/
lemma exists_parse_eq_ok_iff {d : Draft} {text : String} (h : d.Spelled text) :
    (∃ filter, parse text = .ok filter) ↔
      ∃ json, d.denote Json.depthLimit = some json ∧ json.DescribesFilter := by
  simp only [parse_eq_ok_iff h, ← exists_ofJson_eq_ok_iff]
  constructor
  · rintro ⟨filter, json, hjson, hmirrors⟩
    exact ⟨json, hjson, filter, (ofJson_eq_ok_iff (Draft.distinct_of_denote hjson) filter).mpr
      hmirrors⟩
  · rintro ⟨json, hjson, filter, hfilter⟩
    exact ⟨filter, json, hjson,
      (ofJson_eq_ok_iff (Draft.distinct_of_denote hjson) filter).mp hfilter⟩

end Filter

/-! ## Integer literals -/

/-- What an integer literal is bound as: its value if a signed word holds it, and a float if not
even an unsigned word does.  Minus zero is a float as well. -/
inductive Literal.BoundAs (literal : Literal) : Value → Prop
  | integer (hrange : -2 ^ 63 ≤ literal.value ∧ literal.value < 2 ^ 63)
      (hzero : ¬literal.IsMinusZero) : BoundAs literal (.int (Int64.ofInt literal.value))
  | decimal {x : Float} {finite : x.isFinite = true}
      (hrange : literal.value < -2 ^ 63 ∨ 2 ^ 64 ≤ literal.value ∨ literal.IsMinusZero)
      (hnumber : literal.number? = some (.decimal x finite)) : BoundAs literal (.float x)

lemma Literal.boundAs_of_denotes {literal : Literal} (hinteger : literal.IsInteger)
    {number : Number} {value : Value} (hnumber : literal.number? = some number)
    (hvalue : (Json.number number).Denotes value) : literal.BoundAs value := by
  cases number with
  | integer n =>
      obtain ⟨rfl, -, -, hzero⟩ := (number?_eq_integer_iff hinteger n).mp hnumber
      obtain ⟨hrange, rfl⟩ := Json.denotes_integer_iff.mp hvalue
      exact .integer hrange hzero
  | decimal x finite =>
      cases hvalue with
      | decimal =>
          refine .decimal ?_ hnumber
          by_contra hrange
          simp only [not_or, Int.not_lt, Int.not_le] at hrange
          have hread := (number?_eq_integer_iff hinteger literal.value).mpr ⟨rfl, hrange⟩
          simp [hread] at hnumber

namespace Filter

/-- **Integer literals in comparison values.**  A text is accepted if its document has a value in
the grammar.  The literal is then bound where it stands, as its value if that is a signed integer
of 64 bits.  If that is only an unsigned one, the text is refused.  If it is neither, what is bound
is a float. -/
theorem parse_integer_literal {d value : Draft} {text field name : String} {literal : Literal}
    (htext : d.Spelled text) (hvalue : d.Compares field name value)
    (hliteral : value.Mentions literal) (hinteger : literal.IsInteger) :
    ((∃ filter, parse text = .ok filter) ↔
      ∃ json, d.denote Json.depthLimit = some json ∧ json.DescribesFilter) ∧
    (2 ^ 63 ≤ literal.value ∧ literal.value < 2 ^ 64 → ∃ refusal, parse text = .error refusal) ∧
    ∀ filter, parse text = .ok filter →
      ∃ c ∈ filter.comparisons, c.field = field ∧ c.operator.name = name ∧
        ∃ held, c.value.Holds held ∧ literal.BoundAs held := by
  have hbound : ∀ filter, parse text = .ok filter →
      ∃ c ∈ filter.comparisons, c.field = field ∧ c.operator.name = name ∧
        ∃ held, c.value.Holds held ∧ literal.BoundAs held := by
    intro filter hfilter
    obtain ⟨json, hjson, hmirrors⟩ := (parse_eq_ok_iff htext filter).mp hfilter
    obtain ⟨c, hc, hfield, hname, inner, valueJson, hvalueJson, hdenotes⟩ :=
      hvalue.exists_comparison hjson hmirrors
    obtain ⟨number, held, hnumber, hheld, hholds⟩ := hliteral.exists_holds hvalueJson hdenotes
    exact ⟨c, hc, hfield, hname, held, hholds, Literal.boundAs_of_denotes hinteger hnumber hheld⟩
  refine ⟨exists_parse_eq_ok_iff htext, fun hrange => ?_, hbound⟩
  cases hparse : parse text with
  | error refusal => exact ⟨refusal, rfl⟩
  | ok filter =>
      obtain ⟨_, _, _, _, _, _, hheld⟩ := hbound filter hparse
      cases hheld with
      | integer hsigned _ => omega
      | decimal houtside _ =>
          obtain hlow | hhigh | ⟨hnegative, hzero⟩ := houtside
          · omega
          · omega
          · simp [Literal.value, hnegative, hzero] at hrange

end Filter

/-! ### Literals on both sides of the unsigned range -/

/-- The least integer beyond the signed range, `2 ^ 63`. -/
def firstUnsigned : Literal :=
  .ofDigits "9223372036854775808".toList ⟨by decide, by simp⟩ (by decide)

/-- The least integer beyond the unsigned range, `2 ^ 64`. -/
def firstBeyond : Literal :=
  .ofDigits "18446744073709551616".toList ⟨by decide, by simp⟩ (by decide)

/-- The description that compares the field `a` with a literal. -/
def describeLiteral (literal : Literal) : Draft :=
  .object [("a", .object [("equals", .numeral literal)])]

lemma compares_describeLiteral (literal : Literal) :
    (describeLiteral literal).Compares "a" "equals" (.numeral literal) :=
  .object rfl (by decide) rfl

/-- The text `{"a":{"equals":numeral}}`. -/
def describeNumeral (numeral : String) : String :=
  Json.inBraces ("\"a\":" ++ Json.inBraces ("\"equals\":" ++ numeral))

lemma spelled_describeLiteral {literal : Literal} {numeral : String}
    (h : numeral.toList = literal.text) :
    (describeLiteral literal).Spelled (describeNumeral numeral) := by
  have htext : (describeNumeral numeral).toList =
      '{' :: '\"' :: (['a'] ++ '\"' :: ':' :: '{' :: '\"' ::
        (['e', 'q', 'u', 'a', 'l', 's'] ++ '\"' :: ':' :: (literal.text ++ ['}', '}']))) := by
    simp [describeNumeral, h]
  refine ⟨[], ?_, .refl []⟩
  rw [htext]
  exact .object_singleton (by simp) (.object_singleton (by simp) (.numeral literal (.refl _)))

/-- The description of the first unsigned literal as text. -/
def firstUnsignedText : String :=
  describeNumeral "9223372036854775808"

theorem parse_integer_literal_firstUnsigned :
    (describeLiteral firstUnsigned).Spelled firstUnsignedText ∧ firstUnsigned.IsInteger ∧
      (2 ^ 63 ≤ firstUnsigned.value ∧ firstUnsigned.value < 2 ^ 64) ∧
      ∃ refusal, Filter.parse firstUnsignedText = .error refusal := by
  have hspelled : (describeLiteral firstUnsigned).Spelled firstUnsignedText :=
    spelled_describeLiteral (by decide)
  have hrange : 2 ^ 63 ≤ firstUnsigned.value ∧ firstUnsigned.value < 2 ^ 64 := by decide
  obtain ⟨-, hrefused, -⟩ := Filter.parse_integer_literal hspelled
    (compares_describeLiteral firstUnsigned) (.numeral firstUnsigned) rfl
  exact ⟨hspelled, rfl, hrange, hrefused hrange⟩

lemma denote_describeLiteral {literal : Literal} {number : Number}
    (h : literal.number? = some number) :
    (describeLiteral literal).denote Json.depthLimit =
      some (.object [("a", .object [("equals", .number number)])]) := by
  simp only [describeLiteral, Json.depthLimit, Draft.denote, List.mapM_cons, List.mapM_nil, h]
  rfl

/-- The description of the first literal beyond the unsigned range as text. -/
def firstBeyondText : String :=
  describeNumeral "18446744073709551616"

/-- An integer beyond the unsigned range is not refused, but bound as a float. -/
theorem parse_firstBeyond :
    (describeLiteral firstBeyond).Spelled firstBeyondText ∧ firstBeyond.IsInteger ∧
      2 ^ 64 ≤ firstBeyond.value ∧
      ∃ x, Filter.parse firstBeyondText =
        .ok (.group ⟨[("a", ⟨[(.equals, some (.float x))], none⟩)]⟩) := by
  have hspelled : (describeLiteral firstBeyond).Spelled firstBeyondText :=
    spelled_describeLiteral (by decide)
  have hinteger : firstBeyond.IsInteger := rfl
  have hrange : 2 ^ 64 ≤ firstBeyond.value := by decide
  have hread : firstBeyond.number?.isSome = true := by decide +kernel
  obtain ⟨number, hnumber⟩ := Option.isSome_iff_exists.mp hread
  cases number with
  | integer n =>
      obtain ⟨rfl, -, hlt, -⟩ := (Literal.number?_eq_integer_iff hinteger n).mp hnumber
      exact absurd hlt (Int.not_lt.mpr hrange)
  | decimal x finite =>
      have hmirrors : Filter.Mirrors
          (.object [("a", .object [("equals", .number (.decimal x finite))])])
          (.group ⟨[("a", ⟨[(.equals, some (.float x))], none⟩)]⟩) :=
        .object (.cons ⟨rfl, _, rfl, .cons_comparison .nil .equals (.decimal x finite)⟩ .nil)
      have hparse := (Filter.parse_eq_ok_iff hspelled _).mpr
        ⟨_, denote_describeLiteral hnumber, hmirrors⟩
      exact ⟨hspelled, hinteger, hrange, x, hparse⟩

end FilterQuery
