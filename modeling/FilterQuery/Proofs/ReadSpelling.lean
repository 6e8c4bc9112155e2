import Mathlib.Data.List.DropRight
import FilterQuery.Proofs.ReadNumeral

/-!
# Reading what is written

The reader of JSON gives the value of the document that a text spells, and refuses the text if the
document has no value (`Draft.Spelled.toOption_parse`).

A value is read from the front of a text, so each lemma says what is then left.  What is read does
not depend on what is left, unless that could be more of a numeral (`Ends`).  The readers of lists
have a bound, which is never met because whatever is written takes a character
(`Draft.shrinks_spells`).
-/

namespace FilterQuery

open Json

/-! ## Blanks -/

lemma isBlank_eq_true_iff {c : Char} :
    isBlank c = true ↔ c = ' ' ∨ c = '\n' ∨ c = '\t' ∨ c = '\r' := by
  simp [isBlank, or_assoc]

namespace Spaced

variable {text rest : List Char} {c : Char}

lemma skipBlanks_eq (h : Spaced text (c :: rest)) (hc : isBlank c = false) :
    skipBlanks text = c :: rest := by
  obtain ⟨blanks, hblanks, rfl⟩ := h
  rw [skipBlanks, List.dropWhile_append_of_pos hblanks, List.dropWhile_cons_of_neg (by simp [hc])]

lemma skipBlanks_nil (h : Spaced text []) : skipBlanks text = [] := by
  obtain ⟨blanks, hblanks, rfl⟩ := h
  rw [skipBlanks, List.dropWhile_append_of_pos hblanks, List.dropWhile_nil]

lemma ends (h : Spaced text rest) (hrest : Ends rest) : Ends text := by
  obtain ⟨blanks, hblanks, rfl⟩ := h
  cases blanks with
  | nil => exact hrest
  | cons blank blanks =>
      obtain rfl | rfl | rfl | rfl := isBlank_eq_true_iff.mp (hblanks blank (by simp)) <;>
        simp [Ends]

lemma length_le (h : Spaced text rest) : rest.length ≤ text.length := by
  obtain ⟨blanks, -, rfl⟩ := h
  simp

lemma length_lt {word : List Char} (h : Spaced text (word ++ rest)) (hword : word ≠ []) :
    rest.length < text.length := by
  have hle := h.length_le
  have hpositive := List.length_pos_iff.mpr hword
  rw [List.length_append] at hle
  omega

end Spaced

lemma readValue_skipBlanks (depth : Nat) (text : List Char) :
    readValue depth (skipBlanks text) = readValue depth text := by
  have hblanks : skipBlanks (skipBlanks text) = skipBlanks text := List.dropWhile_idempotent _ _
  cases depth <;> simp only [readValue, readValueWith, hblanks]

lemma isBlank_of_isDigit {c : Char} (hc : c.isDigit = true) : isBlank c = false := by
  rw [← Bool.not_eq_true, isBlank_eq_true_iff]
  rintro (rfl | rfl | rfl | rfl) <;> simp at hc

/-! ## Strings -/

lemma length_le_byteLength (text : List Char) : text.length ≤ byteLength text := by
  induction text with
  | nil => simp
  | cons c text ih =>
      have hc := c.utf8Size_pos
      rw [byteLength, List.length_cons]
      omega

lemma readUnit_append {digits : List Char} {unit : Nat} (hlength : digits.length = 4)
    (hunit : hexNumber? digits = some unit) (text : List Char) :
    readUnit (digits ++ text) = .ok (unit, text) := by
  have hbytes := length_le_byteLength digits
  have htake : (digits ++ text).take 4 = digits := by simp [← hlength]
  have hdrop : (digits ++ text).drop 4 = text := by simp [← hlength]
  rw [readUnit, htake, hdrop, if_neg (by omega), hunit]

lemma readEscape_short {c letter : Char} (h : (c, letter) ∈ shortEscapes) (text : List Char) :
    readEscape (letter :: text) = .ok (c, text) := by
  simp only [shortEscapes, List.mem_cons, Prod.mk.injEq, List.not_mem_nil, or_false] at h
  obtain ⟨rfl, rfl⟩ | ⟨rfl, rfl⟩ | ⟨rfl, rfl⟩ | ⟨rfl, rfl⟩ | ⟨rfl, rfl⟩ | ⟨rfl, rfl⟩ | ⟨rfl, rfl⟩ |
    ⟨rfl, rfl⟩ := h <;> rfl

lemma readCode_single {digits : List Char} {unit : Nat} (hlength : digits.length = 4)
    (hunit : hexNumber? digits = some unit) (hpair : unit < 0xD800 ∨ 0xE000 ≤ unit)
    (text : List Char) : readCode (digits ++ text) = .ok (Char.ofNat unit, text) := by
  have hlow : ¬(0xDC00 ≤ unit ∧ unit ≤ 0xDFFF) := by omega
  have hhigh : ¬(0xD800 ≤ unit ∧ unit ≤ 0xDBFF) := by omega
  rw [readCode, readUnit_append hlength hunit]
  simp [bind, Except.bind, hlow, hhigh]

lemma readCode_pair {digits digits' : List Char} {high low : Nat} (hlength : digits.length = 4)
    (hhigh : hexNumber? digits = some high) (hhigh' : 0xD800 ≤ high ∧ high < 0xDC00)
    (hlength' : digits'.length = 4) (hlow : hexNumber? digits' = some low)
    (hlow' : 0xDC00 ≤ low ∧ low < 0xE000) (text : List Char) :
    readCode (digits ++ '\\' :: 'u' :: (digits' ++ text)) =
      .ok (Char.ofNat (0x10000 + (high - 0xD800) * 0x400 + (low - 0xDC00)), text) := by
  have hfirst : ¬(0xDC00 ≤ high ∧ high ≤ 0xDFFF) := by omega
  have hfirst' : 0xD800 ≤ high ∧ high ≤ 0xDBFF := by omega
  have hsecond : 0xDC00 ≤ low ∧ low ≤ 0xDFFF := by omega
  rw [readCode, readUnit_append hlength hhigh]
  simp only [bind, Except.bind, hfirst, hfirst', if_false, and_self, if_true]
  rw [readLowSurrogate, readUnit_append hlength' hlow]
  simp [bind, Except.bind, hsecond]

namespace SpellsString

variable {cs text rest : List Char}

/-- What reading one character does: it finds the closing quote, or the next character. -/
lemma readCharacter?_cases (h : SpellsString cs text rest) :
    (cs = [] ∧ readCharacter? text = .ok (none, rest)) ∨
    ∃ c tail others, cs = c :: tail ∧ readCharacter? text = .ok (some c, others) ∧
      SpellsString tail others rest := by
  cases h with
  | nil => exact .inl ⟨rfl, rfl⟩
  | plain hquote hescape hcontrol h =>
      refine .inr ⟨_, _, _, rfl, ?_, h⟩
      rw [readCharacter?, if_neg (by omega)]
      · simpa using hquote
      · simpa using hescape
  | short hletter h =>
      refine .inr ⟨_, _, _, rfl, ?_, h⟩
      rw [readCharacter?, readEscape_short hletter]
      rfl
  | code hlength hunit hpair h =>
      refine .inr ⟨_, _, _, rfl, ?_, h⟩
      rw [readCharacter?, readEscape, readCode_single hlength hunit hpair]
      rfl
  | pair hlength hhigh hhigh' hlength' hlow hlow' h =>
      refine .inr ⟨_, _, _, rfl, ?_, h⟩
      rw [readCharacter?, readEscape, readCode_pair hlength hhigh hhigh' hlength' hlow hlow']
      rfl

/-- One character is read for each one that is written, and the quote ends the string. -/
lemma repeatRead_eq (h : SpellsString cs text rest) {bound : Nat} (hbound : cs.length < bound) :
    repeatRead readCharacter? bound text = .ok (cs, rest) := by
  induction bound generalizing cs text with
  | zero => exact absurd hbound (Nat.not_lt_zero _)
  | succ bound ih =>
      obtain ⟨rfl, hread⟩ | ⟨c, tail, others, rfl, hread, htail⟩ := h.readCharacter?_cases
      · rw [repeatRead, hread]
        rfl
      · rw [repeatRead, hread, ok_bind]
        simp [ih htail (Nat.lt_of_succ_lt_succ hbound)]

lemma length_lt (h : SpellsString cs text rest) :
    cs.length + rest.length < text.length := by
  induction h with
  | nil => simp
  | plain _ _ _ _ ih =>
      simp only [List.length_cons]
      omega
  | short _ _ ih =>
      simp only [List.length_cons]
      omega
  | code _ _ _ _ ih =>
      simp only [List.length_cons, List.length_append]
      omega
  | pair _ _ _ _ _ _ _ ih =>
      simp only [List.length_cons, List.length_append]
      omega

lemma readString_eq (h : SpellsString cs text rest) :
    readString text = .ok (String.ofList cs, rest) := by
  have hlength := h.length_lt
  rw [readString, h.repeatRead_eq (by omega)]
  rfl

end SpellsString

/-! ## Lists -/

section Lists

variable {α β : Type} {close : Char} {Spells : β → List Char → List Char → Prop}

/-- In texts of fewer than `n` characters, each thing takes at least one of them. -/
def Shrinks (n : Nat) (Spells : β → List Char → List Char → Prop) : Prop :=
  ∀ ⦃x text rest⦄, text.length < n → Spells x text rest → rest.length < text.length

lemma SpellsOthers.length_lt {n : Nat} (hSpells : Shrinks n Spells) {xs : List β}
    {text rest : List Char} (hn : text.length < n) (h : SpellsOthers close Spells xs text rest) :
    xs.length + rest.length < text.length := by
  induction h with
  | nil hclose =>
      have hle := hclose.length_le
      simp only [List.length_cons, List.length_nil] at hle ⊢
      omega
  | cons hcomma hx _ ih =>
      have hle := hcomma.length_le
      simp only [List.length_cons] at hle ⊢
      have hitem := hSpells (by omega) hx
      have hothers := ih (by omega)
      omega

lemma SpellsList.length_lt {n : Nat} (hSpells : Shrinks n Spells) {xs : List β}
    {text rest : List Char} (hn : text.length < n) (h : SpellsList close Spells xs text rest) :
    rest.length < text.length := by
  cases h with
  | nil hclose => exact hclose.length_le
  | cons hx hxs =>
      have hitem := hSpells hn hx
      have hothers := hxs.length_lt hSpells (by omega)
      omega

lemma Shrinks.member {n : Nat} (hSpells : Shrinks n Spells) : Shrinks n (SpellsMember Spells) := by
  rintro _ text rest hn ⟨hquote, hkey, hcolon, hx⟩
  have hquote := hquote.length_le
  have hkey := hkey.length_lt
  have hcolon := hcolon.length_le
  simp only [List.length_cons] at hquote hcolon
  have hthing := hSpells (by omega) hx
  omega

lemma SpellsOthers.ends (hclose : ∀ rest, Ends (close :: rest)) {xs : List β}
    {text rest : List Char} (h : SpellsOthers close Spells xs text rest) : Ends text := by
  cases h with
  | nil hspaced => exact hspaced.ends (hclose rest)
  | cons hcomma _ _ => exact hcomma.ends (by simp [Ends])

/-- Reading what follows the first thing of a list gives what the things denote, if each of them
denotes something. -/
lemma SpellsOthers.toOption_repeatRead {next : Reader (Option α)} {denote : β → Option α}
    {xs : List β} {text rest : List Char} (h : SpellsOthers close Spells xs text rest)
    (hclose : ∀ rest, Ends (close :: rest))
    (hdone : ∀ text rest, Spaced text (close :: rest) → next text = .ok (none, rest))
    (hmore : ∀ x text item others, Spaced text (',' :: item) → Spells x item others →
      Ends others → (next text).toOption = (denote x).map (some ·, others))
    {bound : Nat} (hbound : xs.length < bound) :
    (repeatRead next bound text).toOption = (xs.mapM denote).map (·, rest) := by
  induction h generalizing bound with
  | nil hspaced =>
      obtain ⟨bound, rfl⟩ := Nat.exists_eq_add_one_of_ne_zero (by omega : bound ≠ 0)
      rw [repeatRead, hdone _ _ hspaced]
      rfl
  | @cons x xs _ _ _ _ hcomma hx hxs ih =>
      obtain ⟨bound, rfl⟩ := Nat.exists_eq_add_one_of_ne_zero (by omega : bound ≠ 0)
      have hrest := ih (by simpa using hbound)
      rw [repeatRead, toOption_bind, hmore _ _ _ _ hcomma hx (hxs.ends hclose), List.mapM_cons]
      cases denote x with
      | none => rfl
      | some y =>
          simp only [Option.map_some, Option.bind_some, toOption_bind, hrest]
          cases xs.mapM denote <;> rfl

end Lists

lemma ends_bracket (rest : List Char) : Ends (']' :: rest) := by
  simp [Ends]

lemma ends_brace (rest : List Char) : Ends ('}' :: rest) := by
  simp [Ends]

/-! ## Numerals -/

lemma ne_of_isDigit {c d : Char} (hc : c.isDigit = true) (hd : d.isDigit = false) : c ≠ d := by
  rintro rfl
  simp [hc] at hd

lemma Literal.exists_text_eq (literal : Literal) :
    ∃ c tail, literal.text = c :: tail ∧ (c = '-' ∨ c.isDigit = true) := by
  obtain ⟨hne, hall⟩ := literal.isDigits_whole
  obtain ⟨d, ds, hwhole⟩ := List.exists_cons_of_ne_nil hne
  have hd : d.isDigit = true := hall d (by simp [hwhole])
  rw [text, unsigned, hwhole]
  split
  · exact ⟨_, _, rfl, .inl rfl⟩
  · exact ⟨_, _, rfl, .inr hd⟩

/-! ## Documents -/

namespace Draft

/-- What is written takes at least one character. -/
lemma shrinks_spells (n : Nat) : Shrinks n Spells := by
  induction n with
  | zero => exact fun _ _ _ hn => absurd hn (Nat.not_lt_zero _)
  | succ n ih =>
      intro d text rest hn h
      cases h with
      | null h => exact h.length_lt (by decide)
      | true h => exact h.length_lt (by decide)
      | false h => exact h.length_lt (by decide)
      | numeral literal h =>
          obtain ⟨c, tail, htext, -⟩ := literal.exists_text_eq
          exact h.length_lt (htext ▸ List.cons_ne_nil c tail)
      | string hquote h =>
          have hle := hquote.length_le
          have hlt := h.length_lt
          rw [List.length_cons] at hle
          omega
      | array hbracket h =>
          have hle := hbracket.length_le
          rw [List.length_cons] at hle
          have hlt := h.length_lt ih (by omega)
          omega
      | object hbrace h =>
          have hle := hbrace.length_le
          rw [List.length_cons] at hle
          have hlt := h.length_lt ih.member (by omega)
          omega

/-- No closing bracket stands in front of what is written. -/
lemma Spells.exists_skipBlanks_eq {d : Draft} {text rest : List Char} (h : d.Spells text rest) :
    ∃ c tail, skipBlanks text = c :: tail ∧ c ≠ ']' := by
  cases h with
  | null h => exact ⟨_, _, h.skipBlanks_eq rfl, by decide⟩
  | true h => exact ⟨_, _, h.skipBlanks_eq rfl, by decide⟩
  | false h => exact ⟨_, _, h.skipBlanks_eq rfl, by decide⟩
  | string hquote _ => exact ⟨_, _, hquote.skipBlanks_eq rfl, by decide⟩
  | array hbracket _ => exact ⟨_, _, hbracket.skipBlanks_eq rfl, by decide⟩
  | object hbrace _ => exact ⟨_, _, hbrace.skipBlanks_eq rfl, by decide⟩
  | numeral literal h =>
      obtain ⟨c, tail, htext, hc⟩ := literal.exists_text_eq
      rw [htext, List.cons_append] at h
      obtain rfl | hc := hc
      · exact ⟨_, _, h.skipBlanks_eq rfl, by decide⟩
      · exact ⟨_, _, h.skipBlanks_eq (isBlank_of_isDigit hc), ne_of_isDigit hc rfl⟩

/-- The readers of arrays and objects give what the things in them denote. -/
def ReadsTo (depth : Nat) : Prop :=
  ∀ ⦃d : Draft⦄ ⦃text rest⦄, d.Spells text rest → Ends rest →
    (readValue depth text).toOption = (d.denote depth).map (·, rest)

section Containers

variable {depth : Nat} (hread : ReadsTo depth)

include hread

lemma toOption_readNextItem? {d : Draft} {text item others : List Char}
    (hcomma : Spaced text (',' :: item)) (h : d.Spells item others) (hothers : Ends others) :
    (readNextItem? (readValue depth) text).toOption = (d.denote depth).map (some ·, others) := by
  obtain ⟨c, tail, hitem, hc⟩ := h.exists_skipBlanks_eq
  have hvalue := hread h hothers
  rw [← readValue_skipBlanks, hitem] at hvalue
  simp only [readNextItem?, hcomma.skipBlanks_eq rfl, hitem]
  split
  · simp_all
  · rw [toOption_bind, hvalue]
    cases d.denote depth <;> rfl

lemma toOption_readArray {items : List Draft} {text rest : List Char}
    (h : SpellsList ']' Spells items text rest) :
    (readArray (readValue depth) text).toOption =
      ((items.mapM (denote depth)).map Json.array).map (·, rest) := by
  cases h with
  | nil hclose =>
      rw [readArray, hclose.skipBlanks_eq rfl]
      rfl
  | @cons d ds _ others _ h hothers =>
      obtain ⟨c, tail, htext, hc⟩ := h.exists_skipBlanks_eq
      have hvalue := hread h (hothers.ends ends_bracket)
      rw [← readValue_skipBlanks, htext] at hvalue
      have hlength := hothers.length_lt (shrinks_spells _) (Nat.lt_add_one _)
      have hbound : ds.length < others.length + 1 := by omega
      have hdone : ∀ text rest, Spaced text (']' :: rest) →
          readNextItem? (readValue depth) text = .ok (none, rest) := by
        intro text rest h
        rw [readNextItem?, h.skipBlanks_eq rfl]
        rfl
      have hrest := hothers.toOption_repeatRead ends_bracket hdone
        (fun _ _ _ _ => toOption_readNextItem? hread) hbound
      simp only [readArray, htext]
      split
      · simp_all
      · simp_all
      · rw [toOption_bind, hvalue, List.mapM_cons]
        cases denote depth d with
        | none => rfl
        | some json =>
            simp only [Option.map_some, Option.bind_some, toOption_bind, hrest]
            cases ds.mapM (denote depth) <;> rfl

lemma toOption_readMember {d : Draft} {key letters colon thing rest : List Char}
    (hkey : SpellsString key letters colon) (hcolon : Spaced colon (':' :: thing))
    (h : d.Spells thing rest) (hrest : Ends rest) :
    (readMember (readValue depth) letters).toOption =
      ((d.denote depth).map (String.ofList key, ·)).map (·, rest) := by
  rw [readMember, hkey.readString_eq, toOption_bind]
  simp only [toOption_ok, Option.bind_some, hcolon.skipBlanks_eq (by decide : isBlank ':' = false),
    toOption_bind, hread h hrest]
  cases d.denote depth <;> rfl

lemma toOption_readNextMember? {member : String × Draft} {text item others : List Char}
    (hcomma : Spaced text (',' :: item)) (h : SpellsMember Spells member item others)
    (hothers : Ends others) :
    (readNextMember? (readValue depth) text).toOption =
      (denoteMember depth member).map (some ·, others) := by
  obtain ⟨hquote, hkey, hcolon, h⟩ := h
  simp only [readNextMember?, hcomma.skipBlanks_eq (by decide : isBlank ',' = false),
    hquote.skipBlanks_eq (by decide : isBlank '"' = false), toOption_bind, denoteMember,
    toOption_readMember hread hkey hcolon h hothers]
  cases denote depth _ <;> rfl

lemma toOption_readObject {members : List (String × Draft)} {text rest : List Char}
    (h : SpellsList '}' (SpellsMember Spells) members text rest) :
    (readObject (readValue depth) text).toOption =
      ((members.mapM (denoteMember depth)).map Json.ofMembers).map (·, rest) := by
  cases h with
  | nil hclose =>
      rw [readObject, hclose.skipBlanks_eq rfl]
      rfl
  | @cons member members _ others _ h hothers =>
      obtain ⟨hquote, hkey, hcolon, h⟩ := h
      have hmember := toOption_readMember hread hkey hcolon h (hothers.ends ends_brace)
      have hlength := hothers.length_lt (shrinks_spells _).member (Nat.lt_add_one _)
      have hbound : members.length < others.length + 1 := by omega
      have hdone : ∀ text rest, Spaced text ('}' :: rest) →
          readNextMember? (readValue depth) text = .ok (none, rest) := by
        intro text rest h
        rw [readNextMember?, h.skipBlanks_eq rfl]
        rfl
      have hrest := hothers.toOption_repeatRead ends_brace hdone
        (fun _ _ _ _ => toOption_readNextMember? hread) hbound
      simp only [readObject, hquote.skipBlanks_eq (by decide : isBlank '"' = false), toOption_bind,
        hmember, List.mapM_cons, denoteMember]
      cases denote depth _ with
      | none => rfl
      | some json =>
          simp only [Option.map_some, Option.bind_some, hrest]
          cases members.mapM (denoteMember depth) <;> rfl

end Containers

lemma readValueWith_of_isDigit {readItems readMembers : Reader Json} {c : Char}
    (hc : c.isDigit = true) {text rest : List Char} (h : skipBlanks text = c :: rest) :
    readValueWith readItems readMembers text = do
      let (n, rest) ← Numeral.read false (c :: rest)
      return (number n, rest) := by
  rw [readValueWith, h]
  -- Every branch but the last is for a character that is no digit.
  split <;> simp_all

lemma toOption_readValueWith_numeral {readItems readMembers : Reader Json} (literal : Literal)
    {text rest : List Char} (h : Spaced text (literal.text ++ rest)) (hrest : Ends rest) :
    (readValueWith readItems readMembers text).toOption =
      (literal.number?.map number).map (·, rest) := by
  have hnumber := literal.reads_number? rest hrest
  rw [Literal.text] at h
  cases hnegative : literal.negative with
  | true =>
      rw [hnegative, if_pos rfl, List.cons_append] at h
      rw [hnegative] at hnumber
      rw [readValueWith, h.skipBlanks_eq rfl]
      simp only [toOption_bind, hnumber]
      cases literal.number? <;> rfl
  | false =>
      rw [hnegative, if_neg Bool.false_ne_true] at h
      rw [hnegative] at hnumber
      obtain ⟨c, tail, hwhole⟩ := List.exists_cons_of_ne_nil literal.isDigits_whole.1
      have hc : c.isDigit = true := literal.isDigits_whole.2 c (by simp [hwhole])
      rw [Literal.unsigned, hwhole, List.cons_append, List.cons_append] at h hnumber
      rw [readValueWith_of_isDigit hc (h.skipBlanks_eq (isBlank_of_isDigit hc))]
      simp only [toOption_bind, hnumber]
      cases literal.number? <;> rfl

lemma toOption_readValueWith {depth : Nat} {readItems readMembers : Reader Json}
    (hitems : ∀ ⦃items text rest⦄, SpellsList ']' Spells items text rest →
      (readItems text).toOption = (denote depth (.array items)).map (·, rest))
    (hmembers : ∀ ⦃members text rest⦄, SpellsList '}' (SpellsMember Spells) members text rest →
      (readMembers text).toOption = (denote depth (.object members)).map (·, rest))
    {d : Draft} {text rest : List Char} (h : d.Spells text rest) (hrest : Ends rest) :
    (readValueWith readItems readMembers text).toOption = (d.denote depth).map (·, rest) := by
  cases h with
  | null h =>
      have hword : Spaced text ('n' :: 'u' :: 'l' :: 'l' :: rest) := h
      rw [readValueWith, hword.skipBlanks_eq rfl]
      simp [readWord, denote]
  | true h =>
      have hword : Spaced text ('t' :: 'r' :: 'u' :: 'e' :: rest) := h
      rw [readValueWith, hword.skipBlanks_eq rfl]
      simp [readWord, denote]
  | false h =>
      have hword : Spaced text ('f' :: 'a' :: 'l' :: 's' :: 'e' :: rest) := h
      rw [readValueWith, hword.skipBlanks_eq rfl]
      simp [readWord, denote]
  | numeral literal h =>
      rw [toOption_readValueWith_numeral literal h hrest, denote]
  | string hquote h =>
      rw [readValueWith, hquote.skipBlanks_eq rfl]
      simp [h.readString_eq, denote]
  | array hbracket h =>
      rw [readValueWith, hbracket.skipBlanks_eq rfl]
      exact hitems h
  | object hbrace h =>
      rw [readValueWith, hbrace.skipBlanks_eq rfl]
      exact hmembers h

/-- The reader of values gives what is denoted, however deep. -/
lemma readsTo (depth : Nat) : ReadsTo depth := by
  induction depth with
  | zero =>
      intro d text rest h hrest
      exact toOption_readValueWith (fun _ _ _ _ => rfl) (fun _ _ _ _ => rfl) h hrest
  | succ depth ih =>
      intro d text rest h hrest
      exact toOption_readValueWith (fun _ _ _ h => toOption_readArray ih h)
        (fun _ _ _ h => toOption_readObject ih h) h hrest

/-- **Reading a text** gives the value of the document that it spells, and refuses the text if the
document has no value. -/
theorem Spelled.toOption_parse {d : Draft} {text : String} (h : d.Spelled text) :
    (Json.parse text).toOption = d.denote depthLimit := by
  obtain ⟨rest, htext, hrest⟩ := h
  have hvalue := readsTo depthLimit htext (hrest.ends (by simp [Ends]))
  rw [Json.parse, toOption_mapError, readText, toOption_bind, hvalue]
  cases d.denote depthLimit with
  | none => rfl
  | some json => simp [hrest.skipBlanks_nil]

end Draft

end FilterQuery
