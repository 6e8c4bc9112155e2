import Mathlib.Algebra.Group.Nat.Defs
import Mathlib.Algebra.Ring.Int.Defs
import Mathlib.Tactic.Common
import FilterQuery.Proofs.Spelling
import FilterQuery.Proofs.Success

/-!
# Reading numerals

What a numeral is read as does not depend on what follows it, as long as that cannot be more of the
numeral (`Literal.reads_number?`).  So each reader of a part of a numeral has one lemma here, in the
form of `Numeral.Reads`.

A numeral without fraction and exponent is read as the integer that it writes if a word of 64 bits
holds that, unsigned or with a minus signed, and as a float otherwise
(`Literal.number?_eq_integer_iff`).
-/

namespace FilterQuery

/-- No more of a numeral can stand here. -/
def Ends (rest : List Char) : Prop :=
  ∀ c ∈ rest.head?, c.isDigit = false ∧ c ≠ '.' ∧ c ≠ 'e' ∧ c ≠ 'E'

lemma span_isDigit {digits rest : List Char} (hdigits : ∀ c ∈ digits, c.isDigit = true)
    (hrest : ∀ c ∈ rest.head?, c.isDigit = false) :
    (digits ++ rest).takeWhile Char.isDigit = digits ∧
      (digits ++ rest).dropWhile Char.isDigit = rest := by
  rw [List.takeWhile_append_of_pos hdigits, List.dropWhile_append_of_pos hdigits]
  cases rest with
  | nil => simp
  | cons c rest =>
      have hc := hrest c (by simp)
      simp [hc]

lemma IsExponent.eq_nil_or {text : List Char} (h : IsExponent text) :
    text = [] ∨ ∃ mark tail, (mark = 'e' ∨ mark = 'E') ∧ text = mark :: tail := by
  cases h with
  | missing => exact .inl rfl
  | plain hmark _ => exact .inr ⟨_, _, hmark, rfl⟩
  | signed hmark _ _ => exact .inr ⟨_, _, hmark, rfl⟩

lemma IsExponent.head_append {text rest : List Char} (h : IsExponent text) (hrest : Ends rest) :
    ∀ c ∈ (text ++ rest).head?, c.isDigit = false := by
  obtain rfl | ⟨mark, tail, rfl | rfl, rfl⟩ := h.eq_nil_or
  · exact fun c hc => (hrest c hc).1
  · simp
  · simp

lemma IsTail.head_append {text rest : List Char} (h : IsTail text) (hrest : Ends rest) :
    ∀ c ∈ (text ++ rest).head?, c.isDigit = false := by
  cases h with
  | whole h => exact h.head_append hrest
  | fraction _ _ => simp

namespace Numeral

/-- The text is read as the number, or refused if there is none, whatever follows it. -/
def Reads (read : Reader Number) (text : List Char) (number? : Option Number) : Prop :=
  ∀ rest, Ends rest → (read (text ++ rest)).toOption = number?.map (·, rest)

lemma Reads.alone {read : Reader Number} {text : List Char} {number? : Option Number}
    (h : Reads read text number?) : (read text).toOption.map Prod.fst = number? := by
  have hread := h [] (by simp [Ends])
  rw [List.append_nil] at hread
  rw [hread]
  cases number? <;> rfl

/-! ### The end of a numeral -/

lemma toOption_readDecimal (numeral : Numeral) (rest : List Char) :
    (numeral.readDecimal rest).toOption = numeral.decimal?.map (·, rest) := by
  rw [readDecimal]
  cases numeral.decimal? <;> rfl

lemma toOption_readWhole (numeral : Numeral) (rest : List Char) :
    (numeral.readWhole rest).toOption =
      (numeral.integer?.or numeral.decimal?).map (·, rest) := by
  rw [readWhole]
  cases h : numeral.integer? with
  | none => simp [toOption_readDecimal]
  | some number => rfl

/-! ### Exponents -/

/-- An exponent without a sign is read as one with a plus. -/
lemma readExponent_unsigned (numeral : Numeral) {d : Char} (hd : d.isDigit = true)
    (text : List Char) :
    numeral.readExponent (d :: text) = numeral.readExponent ('+' :: d :: text) := by
  have hplus : d ≠ '+' := by rintro rfl; simp at hd
  have hminus : d ≠ '-' := by rintro rfl; simp at hd
  rw [readExponent, readExponent]
  · simpa using hplus
  · simpa using hminus

/-- The number of a numeral with an exponent of these digits. -/
def withExponent? (numeral : Numeral) (descending : Bool) (digits : List Char) : Option Number :=
  let (exponent, dropped) := gather exponentLimit 0 digits
  if dropped = 0 then
    let shift : Int := if descending then -exponent else exponent
    decimal? { numeral with exponent := numeral.exponent + shift }
  else if numeral.significand ≠ 0 ∧ !descending then none
  else decimal? { numeral with significand := 0, exponent := 0 }

lemma toOption_readExponent (numeral : Numeral) {sign : Char} (hsign : sign = '+' ∨ sign = '-')
    {digits rest : List Char} (hdigits : IsDigits digits) (hrest : Ends rest) :
    (numeral.readExponent (sign :: (digits ++ rest))).toOption =
      (numeral.withExponent? (sign = '-') digits).map (·, rest) := by
  obtain ⟨hne, hall⟩ := hdigits
  obtain ⟨htake, hdrop⟩ := span_isDigit hall fun c hc => (hrest c hc).1
  obtain ⟨d, ds, rfl⟩ := List.exists_cons_of_ne_nil hne
  have hd : d.isDigit = true := hall d (by simp)
  rw [List.cons_append] at htake hdrop ⊢
  by_cases hdropped : (gather exponentLimit 0 (d :: ds)).snd = 0
  · rcases hsign with rfl | rfl <;>
      simp [readExponent, withExponent?, hd, htake, hdrop, hdropped, toOption_readDecimal]
  · by_cases hzero : numeral.significand = 0 <;> rcases hsign with rfl | rfl <;>
      simp [readExponent, withExponent?, hd, htake, hdrop, hdropped, hzero, toOption_readDecimal]

lemma reads_readExponent (numeral : Numeral) {sign digits : List Char}
    (hsign : sign = [] ∨ sign = ['+'] ∨ sign = ['-']) (hdigits : IsDigits digits) :
    Reads numeral.readExponent (sign ++ digits) (numeral.withExponent? (sign = ['-']) digits) := by
  intro rest hrest
  rcases hsign with rfl | rfl | rfl
  · have hplus := numeral.toOption_readExponent (.inl rfl) hdigits hrest
    obtain ⟨d, ds, rfl⟩ := List.exists_cons_of_ne_nil hdigits.1
    have hd : d.isDigit = true := hdigits.2 d (by simp)
    simpa [readExponent_unsigned numeral hd] using hplus
  · simpa using numeral.toOption_readExponent (.inl rfl) hdigits hrest
  · simpa using numeral.toOption_readExponent (.inr rfl) hdigits hrest

lemma readEnd_of_ends (numeral : Numeral) {rest : List Char} (hrest : Ends rest) :
    numeral.readEnd rest = numeral.readDecimal rest := by
  cases rest with
  | nil => rfl
  | cons c rest =>
      obtain ⟨-, -, he, hE⟩ := hrest c (by simp)
      rw [readEnd]
      · simpa using he
      · simpa using hE

lemma reads_readEnd_mark (numeral : Numeral) {mark : Char} (hmark : mark = 'e' ∨ mark = 'E')
    {text : List Char} {number? : Option Number} (h : Reads numeral.readExponent text number?) :
    Reads numeral.readEnd (mark :: text) number? := by
  intro rest hrest
  rw [← h rest hrest]
  rcases hmark with rfl | rfl <;> rfl

lemma exists_reads_readEnd (numeral : Numeral) {text : List Char} (h : IsExponent text) :
    ∃ number?, Reads numeral.readEnd text number? := by
  cases h with
  | missing =>
      refine ⟨numeral.decimal?, fun rest hrest => ?_⟩
      rw [List.nil_append, readEnd_of_ends numeral hrest, toOption_readDecimal]
  | plain hmark hdigits =>
      exact ⟨_, reads_readEnd_mark numeral hmark (reads_readExponent numeral (.inl rfl) hdigits)⟩
  | @signed _ sign _ hmark hsign hdigits =>
      have hsign' : [sign] = [] ∨ [sign] = ['+'] ∨ [sign] = ['-'] := by simpa using hsign
      exact ⟨_, reads_readEnd_mark numeral hmark (reads_readExponent numeral hsign' hdigits)⟩

/-! ### Fractions -/

lemma exists_reads_readFraction (numeral : Numeral) {digits text : List Char}
    (hdigits : IsDigits digits) (h : IsExponent text) :
    ∃ number?, Reads numeral.readFraction (digits ++ text) number? := by
  obtain ⟨number?, hnumber⟩ := exists_reads_readEnd
    { numeral with
      significand := (gather UInt64.size numeral.significand digits).1
      exponent := numeral.exponent -
        (digits.length - (gather UInt64.size numeral.significand digits).2 : Nat) } h
  refine ⟨number?, fun rest hrest => ?_⟩
  obtain ⟨htake, hdrop⟩ := span_isDigit hdigits.2 (h.head_append hrest)
  rw [← hnumber rest hrest, readFraction, List.append_assoc, htake, hdrop]
  simp [hdigits.1]

/-! ### Whole numerals -/

/-- What the digits before the point give. -/
def ofDigits (negative : Bool) (digits : List Char) : Numeral :=
  let (significand, dropped) := gather UInt64.size 0 digits
  ⟨negative, significand, dropped⟩

/-- Reads what follows the digits before the point. -/
def readTail (numeral : Numeral) : Reader Number := fun text =>
  match text with
  | '.' :: fraction => numeral.readFraction fraction
  | 'e' :: _ | 'E' :: _ => numeral.readEnd text
  | _ => numeral.readWhole text

lemma read_append (negative : Bool) {whole text : List Char} (hdigits : IsDigits whole)
    (hzero : whole.head? = some '0' → whole = ['0'])
    (htext : ∀ c ∈ text.head?, c.isDigit = false) :
    read negative (whole ++ text) = (ofDigits negative whole).readTail text := by
  obtain ⟨htake, hdrop⟩ := span_isDigit hdigits.2 htext
  obtain ⟨c, ds, rfl⟩ := List.exists_cons_of_ne_nil hdigits.1
  have hc : c.isDigit = true := hdigits.2 c (by simp)
  rw [List.cons_append] at htake hdrop ⊢
  have hds : c = '0' → ds = [] := by
    rintro rfl
    simpa using hzero
  have hwhole : (if c = '0' then [c] else (c :: (ds ++ text)).takeWhile Char.isDigit) = c :: ds ∧
      (if c = '0' then ds ++ text else (c :: (ds ++ text)).dropWhile Char.isDigit) = text := by
    by_cases h : c = '0'
    · simp [h, hds h]
    · simp only [h, if_false, htake, hdrop, and_self]
  simp only [read, hc, hwhole, Bool.not_true, Bool.false_eq_true, if_false]
  -- The branches are those of `readTail`, but for the digit behind a zero, which `htext` excludes.
  split
  · rfl
  · rfl
  · rfl
  · rename_i next tail hpoint he hE
    have hnext : next.isDigit = false := htext next (by simp)
    rw [readTail, if_neg (by simp [hnext])]
    · rfl
    · simpa using hpoint
    · simpa using he
    · simpa using hE
  · rfl

lemma readTail_of_ends (numeral : Numeral) {rest : List Char} (hrest : Ends rest) :
    numeral.readTail rest = numeral.readWhole rest := by
  cases rest with
  | nil => rfl
  | cons c rest =>
      obtain ⟨-, hpoint, he, hE⟩ := hrest c (by simp)
      rw [readTail]
      · simpa using hpoint
      · simpa using he
      · simpa using hE

/-- A numeral without fraction and exponent is an integer if that fits, and else a float. -/
lemma reads_read_whole (negative : Bool) {whole : List Char} (hdigits : IsDigits whole)
    (hzero : whole.head? = some '0' → whole = ['0']) :
    Reads (read negative) whole
      ((ofDigits negative whole).integer?.or (ofDigits negative whole).decimal?) := by
  intro rest hrest
  rw [read_append negative hdigits hzero fun c hc => (hrest c hc).1, readTail_of_ends _ hrest,
    toOption_readWhole]

lemma exists_reads_readTail (numeral : Numeral) {text : List Char} (h : IsTail text) :
    ∃ number?, Reads numeral.readTail text number? := by
  cases h with
  | fraction hdigits h => exact numeral.exists_reads_readFraction hdigits h
  | whole h =>
      obtain rfl | ⟨mark, tail, hmark, rfl⟩ := h.eq_nil_or
      · refine ⟨numeral.integer?.or numeral.decimal?, fun rest hrest => ?_⟩
        rw [List.nil_append, readTail_of_ends numeral hrest, toOption_readWhole]
      · obtain ⟨number?, hnumber⟩ := numeral.exists_reads_readEnd h
        refine ⟨number?, fun rest hrest => ?_⟩
        rw [← hnumber rest hrest]
        rcases hmark with rfl | rfl <;> rfl

end Numeral

/-! ## Integers -/

lemma le_foldl_digits (digits : List Char) (n : Nat) :
    n ≤ digits.foldl (fun n c => n * 10 + digitValue c) n := by
  induction digits generalizing n with
  | nil => simp
  | cons c digits ih =>
      have hrest := ih (n * 10 + digitValue c)
      rw [List.foldl_cons]
      omega

/-- Digits are gathered completely exactly if their number stays below the limit. -/
lemma gather_eq_iff {limit : Nat} {digits : List Char} {n m : Nat} (hn : n < limit) :
    gather limit n digits = (m, 0) ↔
      m < limit ∧ digits.foldl (fun n c => n * 10 + digitValue c) n = m := by
  induction digits generalizing n with
  | nil =>
      simp only [gather, List.foldl_nil, Prod.mk.injEq, and_true]
      omega
  | cons c digits ih =>
      rw [gather, List.foldl_cons]
      by_cases hnext : n * 10 + digitValue c < limit
      · simpa only [hnext, if_true] using ih hnext
      · have hle := le_foldl_digits digits (n * 10 + digitValue c)
        simp only [hnext, if_false, Prod.mk.injEq, Nat.succ_ne_zero, and_false, false_iff]
        omega

/-- The integer of some digits: any of 64 bits without a sign, and any but zero that fits a signed
word with a minus. -/
lemma Numeral.integer?_ofDigits (negative : Bool) {digits : List Char} {n : Nat}
    (hdigits : digits.foldl (fun n c => n * 10 + digitValue c) 0 = n) :
    (ofDigits negative digits).integer? =
      if negative then if 0 < n ∧ n ≤ 2 ^ 63 then some (.integer (-n)) else none
      else if n < 2 ^ 64 then some (.integer n) else none := by
  have hpositive : 0 < UInt64.size := by decide
  by_cases hn : n < UInt64.size
  · have hgather : gather UInt64.size 0 digits = (n, 0) :=
      (gather_eq_iff hpositive).mpr ⟨hn, hdigits⟩
    have hn' : n < 2 ^ 64 := hn
    simp only [ofDigits, hgather, integer?, greatestNegative]
    cases negative <;> grind
  · cases hgather : gather UInt64.size 0 digits with
    | mk m dropped =>
        have hdropped : dropped ≠ 0 := by
          rintro rfl
          obtain ⟨hm, hvalue⟩ := (gather_eq_iff hpositive).mp hgather
          omega
        have hn' : ¬n < 2 ^ 64 := hn
        have hn'' : ¬n ≤ 2 ^ 63 := by omega
        simp only [ofDigits, hgather, integer?, greatestNegative]
        cases negative <;> grind

namespace Literal

/-- A numeral is read as the same number wherever it stands. -/
lemma reads_number? (literal : Literal) :
    Numeral.Reads (Numeral.read literal.negative) literal.unsigned literal.number? := by
  obtain ⟨number?, hnumber⟩ :=
    (Numeral.ofDigits literal.negative literal.whole).exists_reads_readTail literal.isTail_tail
  have hread : Numeral.Reads (Numeral.read literal.negative) literal.unsigned number? := by
    intro rest hrest
    rw [← hnumber rest hrest, unsigned, List.append_assoc,
      Numeral.read_append _ literal.isDigits_whole literal.alone_of_zero
        (literal.isTail_tail.head_append hrest)]
  rwa [Literal.number?, hread.alone]

/-- A numeral without fraction and exponent is read as its value, if that is an unsigned or else a
negative signed integer of 64 bits.  Minus zero is none. -/
lemma number?_eq_integer_iff {literal : Literal} (h : literal.IsInteger) (n : Int) :
    literal.number? = some (.integer n) ↔
      n = literal.value ∧ -2 ^ 63 ≤ n ∧ n < 2 ^ 64 ∧ ¬literal.IsMinusZero := by
  have hnumber := (Numeral.reads_read_whole literal.negative literal.isDigits_whole
    literal.alone_of_zero).alone
  have hdecimal : (Numeral.ofDigits literal.negative literal.whole).decimal? ≠
      some (.integer n) := by
    simp only [Numeral.decimal?, Number.ofFloat?]
    split <;> simp
  rw [number?, unsigned, h, List.append_nil, hnumber, Option.or_eq_some_iff,
    Numeral.integer?_ofDigits literal.negative (n := literal.magnitude) rfl]
  simp only [hdecimal, and_false, or_false, value, IsMinusZero]
  cases literal.negative with
  | false =>
      simp only [Bool.false_eq_true, if_false, false_and, not_false_eq_true, and_true]
      grind
  | true =>
      simp only [if_true, true_and]
      grind

end Literal

end FilterQuery
