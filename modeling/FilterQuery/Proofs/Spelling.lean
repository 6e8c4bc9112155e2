import Mathlib.Tactic.Common
import FilterQuery.Json.Reader

/-!
# How JSON is written

The grammar of JSON texts, said without the reader.  A *draft* is a document as it is written: its
numerals are not read yet, and a key may be given more than once.  `Draft.Spells` relates a draft to
the text that spells it, with blanks between any two parts and with escapes in strings, and to the
text that then follows.

`Draft.denote` is the JSON value of a draft.  A numeral that is too large for a float, and an array
or object that is nested too deeply, have none.
-/

namespace FilterQuery

/-- Some text, and blanks in front of it. -/
def Spaced (text rest : List Char) : Prop :=
  ∃ blanks, (∀ c ∈ blanks, Json.isBlank c = true) ∧ text = blanks ++ rest

lemma Spaced.refl (text : List Char) : Spaced text text :=
  ⟨[], by simp, rfl⟩

/-! ## Numerals -/

/-- Decimal digits, one at least. -/
def IsDigits (text : List Char) : Prop :=
  text ≠ [] ∧ ∀ c ∈ text, c.isDigit = true

/-- The exponent of a numeral, which may be missing. -/
inductive IsExponent : List Char → Prop
  | missing : IsExponent []
  | plain {mark : Char} {digits : List Char} (hmark : mark = 'e' ∨ mark = 'E')
      (hdigits : IsDigits digits) : IsExponent (mark :: digits)
  | signed {mark sign : Char} {digits : List Char} (hmark : mark = 'e' ∨ mark = 'E')
      (hsign : sign = '+' ∨ sign = '-') (hdigits : IsDigits digits) :
      IsExponent (mark :: sign :: digits)

/-- What follows the digits before the point of a numeral. -/
inductive IsTail : List Char → Prop
  | whole {text : List Char} (h : IsExponent text) : IsTail text
  | fraction {digits text : List Char} (hdigits : IsDigits digits) (h : IsExponent text) :
      IsTail ('.' :: (digits ++ text))

/-- A numeral as it is written.  A zero in front stands alone. -/
structure Literal where
  negative : Bool
  whole : List Char
  tail : List Char
  isDigits_whole : IsDigits whole
  alone_of_zero : whole.head? = some '0' → whole = ['0']
  isTail_tail : IsTail tail

namespace Literal

/-- The literal of some digits. -/
def ofDigits (digits : List Char) (h : IsDigits digits)
    (hzero : digits.head? = some '0' → digits = ['0']) : Literal where
  negative := false
  whole := digits
  tail := []
  isDigits_whole := h
  alone_of_zero := hzero
  isTail_tail := .whole .missing

/-- The numeral without its sign. -/
def unsigned (literal : Literal) : List Char :=
  literal.whole ++ literal.tail

/-- The text of the numeral. -/
def text (literal : Literal) : List Char :=
  if literal.negative then '-' :: literal.unsigned else literal.unsigned

/-- The number that the numeral is read as where it stands alone. -/
def number? (literal : Literal) : Option Number :=
  (Numeral.read literal.negative literal.unsigned).toOption.map Prod.fst

/-- Has the numeral neither a fraction nor an exponent? -/
def IsInteger (literal : Literal) : Prop :=
  literal.tail = []

/-- The number that the digits before the point write. -/
def magnitude (literal : Literal) : Nat :=
  literal.whole.foldl (fun n c => n * 10 + digitValue c) 0

/-- The exact value of a numeral without fraction and exponent. -/
def value (literal : Literal) : Int :=
  if literal.negative then -literal.magnitude else literal.magnitude

/-- Is the numeral a zero with a minus? -/
def IsMinusZero (literal : Literal) : Prop :=
  literal.negative = true ∧ literal.magnitude = 0

end Literal

/-! ## Strings -/

/-- The characters that have an escape of one letter, each with that letter. -/
def shortEscapes : List (Char × Char) :=
  [('\"', '\"'), ('\\', '\\'), ('/', '/'), ('\x08', 'b'), ('\x0c', 'f'), ('\n', 'n'), ('\r', 'r'),
    ('\t', 't')]

/-- The characters of a string, from behind its opening quote to behind the closing one. -/
inductive SpellsString : List Char → List Char → List Char → Prop
  | nil {rest : List Char} : SpellsString [] ('\"' :: rest) rest
  | plain {c : Char} {cs text rest : List Char} (hquote : c ≠ '\"') (hescape : c ≠ '\\')
      (hcontrol : 0x20 ≤ c.toNat) (h : SpellsString cs text rest) :
      SpellsString (c :: cs) (c :: text) rest
  | short {c letter : Char} {cs text rest : List Char} (hletter : (c, letter) ∈ shortEscapes)
      (h : SpellsString cs text rest) : SpellsString (c :: cs) ('\\' :: letter :: text) rest
  | code {unit : Nat} {digits cs text rest : List Char} (hlength : digits.length = 4)
      (hunit : Json.hexNumber? digits = some unit) (hpair : unit < 0xD800 ∨ 0xE000 ≤ unit)
      (h : SpellsString cs text rest) :
      SpellsString (Char.ofNat unit :: cs) ('\\' :: 'u' :: (digits ++ text)) rest
  | pair {high low : Nat} {digits digits' cs text rest : List Char} (hlength : digits.length = 4)
      (hhigh : Json.hexNumber? digits = some high) (hhigh' : 0xD800 ≤ high ∧ high < 0xDC00)
      (hlength' : digits'.length = 4) (hlow : Json.hexNumber? digits' = some low)
      (hlow' : 0xDC00 ≤ low ∧ low < 0xE000) (h : SpellsString cs text rest) :
      SpellsString (Char.ofNat (0x10000 + (high - 0xD800) * 0x400 + (low - 0xDC00)) :: cs)
        ('\\' :: 'u' :: (digits ++ '\\' :: 'u' :: (digits' ++ text))) rest

/-- Characters without quotes, backslashes and control characters spell themselves. -/
lemma SpellsString.of_plain {cs : List Char}
    (h : ∀ c ∈ cs, c ≠ '\"' ∧ c ≠ '\\' ∧ 0x20 ≤ c.toNat) (rest : List Char) :
    SpellsString cs (cs ++ '\"' :: rest) rest := by
  induction cs with
  | nil => exact .nil
  | cons c cs ih =>
      obtain ⟨hquote, hescape, hcontrol⟩ := h c List.mem_cons_self
      exact .plain hquote hescape hcontrol (ih fun d hd => h d (List.mem_cons_of_mem c hd))

/-! ## Lists -/

section Lists

variable {α : Type} (close : Char) (Spells : α → List Char → List Char → Prop)

/-- Things with a comma in front of each, and a bracket behind the last one. -/
inductive SpellsOthers : List α → List Char → List Char → Prop
  | nil {text rest : List Char} (hclose : Spaced text (close :: rest)) : SpellsOthers [] text rest
  | cons {x : α} {xs : List α} {text item others rest : List Char}
      (hcomma : Spaced text (',' :: item)) (hx : Spells x item others)
      (hxs : SpellsOthers xs others rest) : SpellsOthers (x :: xs) text rest

/-- Things with commas between them, and a bracket behind the last one. -/
inductive SpellsList : List α → List Char → List Char → Prop
  | nil {text rest : List Char} (hclose : Spaced text (close :: rest)) : SpellsList [] text rest
  | cons {x : α} {xs : List α} {text others rest : List Char} (hx : Spells x text others)
      (hxs : SpellsOthers close Spells xs others rest) : SpellsList (x :: xs) text rest

/-- A key, a colon and a thing. -/
inductive SpellsMember : String × α → List Char → List Char → Prop
  | mk {key : List Char} {x : α} {text letters colon thing rest : List Char}
      (hquote : Spaced text ('\"' :: letters)) (hkey : SpellsString key letters colon)
      (hcolon : Spaced colon (':' :: thing)) (hx : Spells x thing rest) :
      SpellsMember (String.ofList key, x) text rest

end Lists

/-- A member without blanks, whose key needs no escapes. -/
lemma SpellsMember.plain {α : Type} {Spells : α → List Char → List Char → Prop} (key : List Char)
    (hkey : ∀ c ∈ key, c ≠ '\"' ∧ c ≠ '\\' ∧ 0x20 ≤ c.toNat) {x : α} {thing rest : List Char}
    (h : Spells x thing rest) :
    SpellsMember Spells (String.ofList key, x) ('\"' :: (key ++ '\"' :: ':' :: thing)) rest :=
  .mk (.refl _) (.of_plain hkey _) (.refl _) h

/-! ## Documents -/

/-- A JSON document as it is written. -/
inductive Draft where
  | null
  | bool (b : Bool)
  | numeral (literal : Literal)
  | string (s : String)
  | array (items : List Draft)
  | object (members : List (String × Draft))

namespace Draft

/-- The draft is spelled by the front of a text, and `rest` is what then follows. -/
inductive Spells : Draft → List Char → List Char → Prop
  | null {text rest : List Char} (h : Spaced text ("null".toList ++ rest)) :
      Spells .null text rest
  | true {text rest : List Char} (h : Spaced text ("true".toList ++ rest)) :
      Spells (.bool true) text rest
  | false {text rest : List Char} (h : Spaced text ("false".toList ++ rest)) :
      Spells (.bool false) text rest
  | numeral (literal : Literal) {text rest : List Char} (h : Spaced text (literal.text ++ rest)) :
      Spells (.numeral literal) text rest
  | string {cs text letters rest : List Char} (hquote : Spaced text ('\"' :: letters))
      (h : SpellsString cs letters rest) : Spells (.string (String.ofList cs)) text rest
  | array {items : List Draft} {text inside rest : List Char}
      (hbracket : Spaced text ('[' :: inside)) (h : SpellsList ']' Spells items inside rest) :
      Spells (.array items) text rest
  | object {members : List (String × Draft)} {text inside rest : List Char}
      (hbrace : Spaced text ('{' :: inside))
      (h : SpellsList '}' (SpellsMember Spells) members inside rest) :
      Spells (.object members) text rest

/-- A string without escapes. -/
lemma Spells.plain (cs : List Char) (hcs : ∀ c ∈ cs, c ≠ '\"' ∧ c ≠ '\\' ∧ 0x20 ≤ c.toNat)
    {rest : List Char} :
    (Draft.string (String.ofList cs)).Spells ('\"' :: (cs ++ '\"' :: rest)) rest :=
  .string (.refl _) (.of_plain hcs rest)

lemma Spells.object_singleton {key : List Char}
    (hkey : ∀ c ∈ key, c ≠ '\"' ∧ c ≠ '\\' ∧ 0x20 ≤ c.toNat) {d : Draft} {thing rest : List Char}
    (h : d.Spells thing ('}' :: rest)) :
    (Draft.object [(String.ofList key, d)]).Spells
      ('{' :: '\"' :: (key ++ '\"' :: ':' :: thing)) rest :=
  .object (.refl _) (.cons (.plain key hkey h) (.nil (.refl _)))

/-- The draft is spelled by the whole text. -/
def Spelled (draft : Draft) (text : String) : Prop :=
  ∃ rest, draft.Spells text.toList rest ∧ Spaced rest []

lemma Spells.spelled {d : Draft} {characters : List Char} {text : String}
    (h : d.Spells characters []) (htext : text.toList = characters) : d.Spelled text :=
  ⟨[], htext ▸ h, .refl []⟩

/-- The JSON value of a draft in which arrays and objects are nested at most `depth` deep.  Of the
members of one key the last one counts, at the place of the first. -/
def denote : Nat → Draft → Option Json
  | _, null => some .null
  | _, bool b => some (.bool b)
  | _, numeral literal => literal.number?.map .number
  | _, string s => some (.string s)
  | 0, array _ => none
  | 0, object _ => none
  | depth + 1, array items => (items.mapM (denote depth)).map .array
  | depth + 1, object members =>
    (members.mapM fun member => (denote depth member.2).map (member.1, ·)).map Json.ofMembers

/-- The member of an object that a key and a draft denote. -/
def denoteMember (depth : Nat) (member : String × Draft) : Option (String × Json) :=
  (member.2.denote depth).map (member.1, ·)

end Draft

end FilterQuery
