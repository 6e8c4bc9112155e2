import FilterQuery.Document.Selection
import FilterQuery.Proofs.BoundValues

/-!
# Problems of a document

What is wrong with a document, said without the readers.  A document is a row of tokens
(`Json.lexemes`), and each of them stands at a place where something is expected (`Expected`):

* where an object or an array may stand, the expectation also says what is expected of its keys,
  its members and its elements;
* inside anything that is wrong as a whole, nothing is expected any more;
* an unknown operator is a problem of its key, and a value is expected of it all the same.

A token that is not what is expected is a problem.  `Expected.judged` writes next to each token of
a document the problem that it is, if it is one, and `Expected.problems` lists the problems, which
makes them come in the order of the document.

A token is judged by what precedes it alone: documents that begin with the same tokens have the same
problems there (`Expected.alike_judged`).
-/

namespace FilterQuery

lemma findSome?_cons_eq_or {α β : Type} (f : α → Option β) (a : α) (rest : List α) :
    (a :: rest).findSome? f = (f a).or (rest.findSome? f) := by
  cases h : f a <;> simp [h]

/-! ## Tokens -/

/-- A token of a document. -/
inductive Lexeme where
  | null
  | bool (b : Bool)
  | number (n : Number)
  | string (s : String)
  | openArray
  | closeArray
  | openObject
  | key (name : String)
  | closeObject

namespace Json

mutual

/-- The tokens of a document, from the front to the back. -/
def lexemes : Json → List Lexeme
  | null => [.null]
  | bool b => [.bool b]
  | number n => [.number n]
  | string s => [.string s]
  | array items => .openArray :: lexemesOfItems items
  | object members => .openObject :: lexemesOfMembers members

/-- The tokens of the elements of an array and of its end. -/
def lexemesOfItems : List Json → List Lexeme
  | [] => [.closeArray]
  | item :: rest => item.lexemes ++ lexemesOfItems rest

/-- The tokens of the members of an object and of its end. -/
def lexemesOfMembers : List (String × Json) → List Lexeme
  | [] => [.closeObject]
  | (name, value) :: rest => .key name :: value.lexemes ++ lexemesOfMembers rest

end

end Json

/-! ## Expectations -/

/-- What is expected at a place of a document. -/
inductive Expected where
  | anything
  | filter
  /-- The conditions of a field. -/
  | field (name : String)
  | join
  | value
  | selection
  | columns
  /-- One of the columns.  Each of them that is no string makes the columns wrong. -/
  | column
  | order
  | direction (column : String)
  /-- A page or a limit. -/
  | count (key : String)

namespace Expected

/-- What is wrong with the first token of a value. -/
def flaw? : Expected → Lexeme → Option Refusal
  | anything, _ => none
  | filter, token =>
    match token with
    | .bool b => some (.filter (.notFilter (.bool b)))
    | .number n => some (.filter (.notFilter (.number n)))
    | .string s => some (.filter (.notFilter (.string s)))
    | _ => none
  | field name, token =>
    match token with
    | .openObject => none
    | .string s =>
      if name = joinKey then some (.filter (.joinOutsideField (.string s)))
      else some (.filter (.fieldNotObject name))
    | _ => some (.filter (.fieldNotObject name))
  | join, token =>
    match token with
    | .string word => if word ∈ ["AND", "OR"] then none else some (.unknownJoin word)
    | _ => some (.filter .joinNotString)
  | value, token =>
    match token with
    | .openObject => some (.filter .objectAsValue)
    | .number (.integer n) =>
      if -2 ^ 63 ≤ n ∧ n < 2 ^ 63 then none else some (.filter (.integerOutOfRange n))
    | _ => none
  | selection, token =>
    match token with
    | .null | .openObject => none
    | _ => some (.selection .notObject)
  | columns, token =>
    match token with
    | .openArray => none
    | _ => some (.selection .columns)
  | column, token =>
    match token with
    | .string _ => none
    | _ => some (.selection .columns)
  | order, token =>
    match token with
    | .openObject => none
    | _ => some (.selection .order)
  | direction name, token =>
    match token with
    | .string word => if word ∈ ["ASC", "DESC"] then none else some (.unknownDirection word)
    | _ => some (.selection (.directionNotString name))
  | count key, token =>
    match token with
    | .null => none
    | .number (.integer n) =>
      if 0 ≤ n ∧ n < 2 ^ 64 then none else some (.selection (.count key))
    | _ => some (.selection (.count key))

/-- What is wrong with a key. -/
def keyFlaw? : Expected → String → Option Refusal
  | field _, key =>
    if key = joinKey ∨ key ∈ Operator.all.map Operator.name then none
    else some (.unknownOperator key)
  | selection, key =>
    if key ∈ ["columns", "where", "order", "page", "limit"] then none
    else some (.selection (.unknownKey key))
  | _, _ => none

/-- What is expected of each element of an array. -/
def item : Expected → Expected
  | filter => filter
  | value => value
  | columns => column
  | _ => anything

/-- What is expected of the value of a key. -/
def member : Expected → String → Expected
  | filter, name => field name
  | field _, key => if key = joinKey then join else value
  | selection, key =>
    match key with
    | "columns" => columns
    | "where" => filter
    | "order" => order
    | "page" => count key
    | "limit" => count key
    | _ => anything
  | order, name => direction name
  | _, _ => anything

mutual

/-- The tokens of a document, each with what is wrong with it. -/
def judged (expected : Expected) : Json → List (Lexeme × Option Refusal)
  | .null => [(.null, expected.flaw? .null)]
  | .bool b => [(.bool b, expected.flaw? (.bool b))]
  | .number n => [(.number n, expected.flaw? (.number n))]
  | .string s => [(.string s, expected.flaw? (.string s))]
  | .array items => (.openArray, expected.flaw? .openArray) :: judgedItems expected.item items
  | .object members =>
    (.openObject, expected.flaw? .openObject) :: judgedMembers expected members

/-- The tokens of some elements, of each of which the same is expected, and the end of the array. -/
def judgedItems (expected : Expected) : List Json → List (Lexeme × Option Refusal)
  | [] => [(.closeArray, none)]
  | item :: rest => judged expected item ++ judgedItems expected rest

/-- The tokens of the members of an object of which something is expected, and its end. -/
def judgedMembers (expected : Expected) : List (String × Json) → List (Lexeme × Option Refusal)
  | [] => [(.closeObject, none)]
  | (key, held) :: rest =>
    (.key key, expected.keyFlaw? key) ::
      judged (expected.member key) held ++ judgedMembers expected rest

end

/-- The problems of a document, in the order of the document. -/
def problems (expected : Expected) (json : Json) : List Refusal :=
  (expected.judged json).filterMap Prod.snd

/-- What is judged are the tokens of the document. -/
lemma map_fst_judged (expected : Expected) (json : Json) :
    (expected.judged json).map Prod.fst = json.lexemes := by
  induction json generalizing expected with
  | array items ih =>
      suffices hitems : (judgedItems expected.item items).map Prod.fst =
          Json.lexemesOfItems items by
        rw [judged, Json.lexemes, List.map_cons, hitems]
      induction items with
      | nil => rfl
      | cons item rest ihrest =>
          rw [judgedItems, Json.lexemesOfItems, List.map_append, ih item (by simp),
            ihrest fun item hitem => ih item (List.mem_cons_of_mem _ hitem)]
  | object members ih =>
      suffices hmembers : (judgedMembers expected members).map Prod.fst =
          Json.lexemesOfMembers members by
        rw [judged, Json.lexemes, List.map_cons, hmembers]
      induction members with
      | nil => rfl
      | cons member rest ihrest =>
          obtain ⟨key, held⟩ := member
          rw [judgedMembers, Json.lexemesOfMembers, List.map_append, List.map_cons,
            ih (key, held) (by simp),
            ihrest fun member hmember => ih member (List.mem_cons_of_mem _ hmember)]
  | _ => rfl

/-! ## Judging by what precedes -/

/-- As long as two rows have the same tokens, they judge them alike. -/
def Alike : List (Lexeme × Option Refusal) → List (Lexeme × Option Refusal) → Prop
  | a :: rest, b :: others => a.1 = b.1 → a.2 = b.2 ∧ Alike rest others
  | _, _ => True

@[simp] lemma alike_cons_iff {a b : Lexeme × Option Refusal}
    {rest others : List (Lexeme × Option Refusal)} :
    Alike (a :: rest) (b :: others) ↔ (a.1 = b.1 → a.2 = b.2 ∧ Alike rest others) := Iff.rfl

section Judging

variable {rest others : List (Lexeme × Option Refusal)}

lemma alike_judgedItems (expected : Expected) {items items' : List Json}
    (ih : ∀ item ∈ items, ∀ {rest others : List (Lexeme × Option Refusal)} (expected : Expected)
      (other : Json), (item = other → Alike rest others) →
      Alike (expected.judged item ++ rest) (expected.judged other ++ others))
    (h : items = items' → Alike rest others) :
    Alike (expected.judgedItems items ++ rest) (expected.judgedItems items' ++ others) := by
  induction items generalizing items' with
  | nil =>
      cases items' with
      | nil => simpa [judgedItems] using h
      | cons item' _ => cases item' <;> simp [judgedItems, judged]
  | cons item items ihitems =>
      cases items' with
      | nil => cases item <;> simp [judgedItems, judged]
      | cons item' items' =>
          rw [judgedItems, judgedItems, List.append_assoc, List.append_assoc]
          refine ih item (by simp) _ item' ?_
          rintro rfl
          refine ihitems (fun item hitem => ih item (List.mem_cons_of_mem _ hitem)) ?_
          rintro rfl
          exact h rfl

lemma alike_judgedMembers (expected : Expected) {members members' : List (String × Json)}
    (ih : ∀ member ∈ members, ∀ {rest others : List (Lexeme × Option Refusal)}
      (expected : Expected) (other : Json), (member.2 = other → Alike rest others) →
      Alike (expected.judged member.2 ++ rest) (expected.judged other ++ others))
    (h : members = members' → Alike rest others) :
    Alike (expected.judgedMembers members ++ rest) (expected.judgedMembers members' ++ others) := by
  induction members generalizing members' with
  | nil =>
      cases members' with
      | nil => simpa [judgedMembers] using h
      | cons => simp [judgedMembers]
  | cons member members ihmembers =>
      obtain ⟨key, held⟩ := member
      cases members' with
      | nil => simp [judgedMembers]
      | cons member' members' =>
          obtain ⟨key', held'⟩ := member'
          simp only [judgedMembers, List.cons_append, List.append_assoc, alike_cons_iff,
            Lexeme.key.injEq]
          rintro rfl
          refine ⟨rfl, ih (key, held) (by simp) _ held' ?_⟩
          rintro rfl
          refine ihmembers (fun member hmember => ih member (List.mem_cons_of_mem _ hmember)) ?_
          rintro rfl
          exact h rfl

/-- **Judging looks at what precedes.**  Two documents are judged alike as long as their tokens are
the same, and what follows them has to be alike only if the documents are the same. -/
theorem alike_judged (expected : Expected) (json other : Json)
    (h : json = other → Alike rest others) :
    Alike (expected.judged json ++ rest) (expected.judged other ++ others) := by
  induction json generalizing expected other rest others with
  | array items ih =>
      cases other with
      | array items' =>
          refine fun _ => ⟨rfl, alike_judgedItems expected.item ih ?_⟩
          rintro rfl
          exact h rfl
      | _ => simp [judged]
  | object members ih =>
      cases other with
      | object members' =>
          refine fun _ => ⟨rfl, alike_judgedMembers expected ih ?_⟩
          rintro rfl
          exact h rfl
      | _ => simp [judged]
  | _ => cases other <;> simp_all [judged]

end Judging

/-- The tokens of a row up to and including the first that is flawed. -/
def untilFlaw : List (Lexeme × Option Refusal) → List Lexeme
  | [] => []
  | (token, none) :: rest => token :: untilFlaw rest
  | (token, some _) :: _ => [token]

/-- The first problem of a row is also that of a row that is alike and begins with the tokens that
lead to the problem. -/
lemma Alike.head?_eq {row other : List (Lexeme × Option Refusal)} (h : Alike row other)
    {refusal : Refusal} (hfirst : (row.filterMap Prod.snd).head? = some refusal)
    (hread : untilFlaw row <+: other.map Prod.fst) :
    (other.filterMap Prod.snd).head? = some refusal := by
  induction row generalizing other with
  | nil => simp at hfirst
  | cons entry rest ih =>
      obtain ⟨token, flaw⟩ := entry
      cases other with
      | nil => cases flaw <;> simp [untilFlaw] at hread
      | cons entry' others =>
          obtain ⟨token', flaw'⟩ := entry'
          cases flaw with
          | none =>
              obtain ⟨htoken, hrest⟩ := List.cons_prefix_cons.mp hread
              obtain ⟨rfl, halike⟩ := h htoken
              rw [List.filterMap_cons_none rfl] at hfirst ⊢
              exact ih halike hfirst hrest
          | some flaw =>
              obtain ⟨htoken, -⟩ := List.cons_prefix_cons.mp hread
              obtain ⟨rfl, -⟩ := h htoken
              exact hfirst

/-- What follows the first problem of a document has no influence on it. -/
theorem head?_problems_of_read {expected : Expected} {json other : Json} {refusal : Refusal}
    (h : (expected.problems json).head? = some refusal)
    (hread : untilFlaw (expected.judged json) <+: other.lexemes) :
    (expected.problems other).head? = some refusal := by
  have halike : Alike (expected.judged json ++ []) (expected.judged other ++ []) :=
    expected.alike_judged json other fun _ => trivial
  rw [List.append_nil, List.append_nil] at halike
  rw [← expected.map_fst_judged other] at hread
  exact halike.head?_eq h hread

/-! ## The first problem -/

section First

variable (expected : Expected)

/-- The first problem of a document, if it has any. -/
def first? (json : Json) : Option Refusal :=
  (expected.problems json).head?

lemma first?_eq_findSome? (json : Json) :
    expected.first? json = (expected.judged json).findSome? Prod.snd :=
  List.head?_filterMap

lemma first?_of_judged_eq {json : Json} {token : Lexeme}
    (h : expected.judged json = [(token, expected.flaw? token)]) :
    expected.first? json = expected.flaw? token := by
  rw [first?_eq_findSome?, h, findSome?_cons_eq_or]
  simp

@[simp] lemma first?_null : expected.first? .null = expected.flaw? .null :=
  expected.first?_of_judged_eq rfl

@[simp] lemma first?_bool (b : Bool) : expected.first? (.bool b) = expected.flaw? (.bool b) :=
  expected.first?_of_judged_eq rfl

@[simp] lemma first?_number (n : Number) :
    expected.first? (.number n) = expected.flaw? (.number n) :=
  expected.first?_of_judged_eq rfl

@[simp] lemma first?_string (s : String) :
    expected.first? (.string s) = expected.flaw? (.string s) :=
  expected.first?_of_judged_eq rfl

/-- An array is judged by its first token and then by its elements. -/
@[simp] lemma first?_array (items : List Json) :
    expected.first? (.array items) =
      (expected.flaw? .openArray).or (items.findSome? expected.item.first?) := by
  have hitems : (judgedItems expected.item items).findSome? Prod.snd =
      items.findSome? expected.item.first? := by
    induction items with
    | nil => rfl
    | cons item rest ih =>
        rw [judgedItems, List.findSome?_append, ih, findSome?_cons_eq_or, first?_eq_findSome?]
  rw [first?_eq_findSome?, judged, findSome?_cons_eq_or, hitems]

/-- An object is judged by its first token and then by each member, the key before the value. -/
@[simp] lemma first?_object (members : List (String × Json)) :
    expected.first? (.object members) = (expected.flaw? .openObject).or
      (members.findSome? fun entry =>
        (expected.keyFlaw? entry.1).or ((expected.member entry.1).first? entry.2)) := by
  have hmembers : (judgedMembers expected members).findSome? Prod.snd =
      members.findSome? fun entry =>
        (expected.keyFlaw? entry.1).or ((expected.member entry.1).first? entry.2) := by
    induction members with
    | nil => rfl
    | cons entry rest ih =>
        rw [judgedMembers, List.findSome?_append, ih, findSome?_cons_eq_or, findSome?_cons_eq_or,
          first?_eq_findSome?]
  rw [first?_eq_findSome?, judged, findSome?_cons_eq_or, hmembers]

/-- Where anything may stand there are no problems. -/
@[simp] lemma first?_anything (json : Json) : anything.first? json = none := by
  induction json with
  | array items ih => simpa [flaw?, item] using ih
  | object members ih =>
      simp only [first?_object, flaw?, keyFlaw?, member, Option.none_or]
      simpa using fun key held hmem => ih (key, held) hmem
  | _ => simp [flaw?]

end First

end Expected

end FilterQuery
