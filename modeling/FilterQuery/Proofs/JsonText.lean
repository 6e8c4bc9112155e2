import FilterQuery.Proofs.BoundValues
import FilterQuery.Proofs.ReadSpelling
import FilterQuery.Proofs.Statement

/-!
# The texts of JSON values

A JSON value is written without spaces (`Json.compact`) or over several lines (`Json.pretty`).  The
second text is the first with blanks between its parts, so leaving out the blanks that stand outside
of strings gives the first one back (`Json.withoutBlanks_pretty`).  A compact text is one line,
whatever its strings hold (`Json.newline_notMem_compact`).

Leaving out blanks is done from left to right, and what is left out depends on whether the reader is
within a string.  `Moves` says what a reader makes of a piece of text, and as what it goes on, so
that statements about pieces can be put together.
-/

namespace FilterQuery

/-! ## Readers -/

/-- Of a text that begins with `t`, `f` makes one that begins with `t'`, and goes on as `g`. -/
def Moves (f g : List Char → List Char) (t t' : List Char) : Prop :=
  ∀ rest, f (t ++ rest) = t' ++ g rest

namespace Moves

variable {f g h : List Char → List Char} {a a' b b' : List Char}

lemma nil (f : List Char → List Char) : Moves f f [] [] :=
  fun _ => rfl

lemma append (ha : Moves f g a a') (hb : Moves g h b b') : Moves f h (a ++ b) (a' ++ b') := by
  intro rest
  rw [List.append_assoc, ha, hb, List.append_assoc]

/-- What is copied character by character is copied as a whole. -/
lemma of_forall (h : ∀ c ∈ a, Moves f f [c] [c]) : Moves f f a a := by
  induction a with
  | nil => exact .nil f
  | cons c cs ih =>
      rw [List.forall_mem_cons] at h
      exact h.1.append (ih h.2)

/-- What is left out character by character is left out as a whole. -/
lemma of_forall_nil (h : ∀ c ∈ a, Moves f f [c] []) : Moves f f a [] := by
  induction a with
  | nil => exact .nil f
  | cons c cs ih =>
      rw [List.forall_mem_cons] at h
      exact h.1.append (ih h.2)

lemma flatMap {α : Type} {xs : List α} {t t' : α → List Char}
    (h : ∀ x ∈ xs, Moves f f (t x) (t' x)) : Moves f f (xs.flatMap t) (xs.flatMap t') := by
  induction xs with
  | nil => exact .nil f
  | cons x xs ih =>
      rw [List.forall_mem_cons] at h
      exact h.1.append (ih h.2)

/-- Pieces with separators between them. -/
lemma intercalate {α : Type} {sep sep' : String} (hsep : Moves f f sep.toList sep'.toList)
    {xs : List α} {t t' : α → String} (h : ∀ x ∈ xs, Moves f f (t x).toList (t' x).toList) :
    Moves f f (sep.intercalate (xs.map t)).toList (sep'.intercalate (xs.map t')).toList := by
  induction xs with
  | nil => exact .nil f
  | cons x xs ih =>
      rw [List.forall_mem_cons] at h
      cases xs with
      | nil => simpa using h.1
      | cons y ys =>
          simp only [List.map_cons, String.intercalate_cons_cons, String.toList_append] at ih ⊢
          exact (h.1.append hsep).append (ih h.2)

end Moves

namespace Json

/-! ## Strings within a text -/

/-- Where a reader of a JSON text is: outside of strings, inside of one, or behind a backslash that
stands in one. -/
inductive Region where
  | outside
  | inside
  | escaped
  deriving DecidableEq

/-- Where the reader is after one more character. -/
def Region.next : Region → Char → Region
  | outside, c => if c = '\"' then inside else outside
  | inside, c => if c = '\"' then outside else if c = '\\' then escaped else inside
  | escaped, _ => inside

/-- A character in a string is written as a short escape, as its code, or as it is. -/
lemma escape_cases (c : Char) :
    (∃ letter, (c, letter) ∈ shortEscapes ∧ escape c = ['\\', letter]) ∨
    (c.toNat < 0x20 ∧ escape c =
      ['\\', 'u', '0', '0', Nat.digitChar (c.toNat / 16), Nat.digitChar (c.toNat % 16)]) ∨
    ((c ≠ '\"' ∧ c ≠ '\\') ∧ 0x20 ≤ c.toNat ∧ escape c = [c]) := by
  by_cases hshort : c ∈ ['\"', '\\', '\x08', '\x0c', '\n', '\r', '\t']
  · simp only [List.mem_cons, List.not_mem_nil, or_false] at hshort
    obtain rfl | rfl | rfl | rfl | rfl | rfl | rfl := hshort
    all_goals exact .inl ⟨_, by decide, rfl⟩
  · simp only [List.mem_cons, List.not_mem_nil, or_false, not_or] at hshort
    obtain ⟨hquote, hback, hbackspace, hfeed, hbreak, hreturn, htab⟩ := hshort
    rw [escape, if_neg hquote, if_neg hback, if_neg hbackspace, if_neg hfeed, if_neg hbreak,
      if_neg hreturn, if_neg htab]
    by_cases hcontrol : c.toNat < 0x20
    · rw [if_pos hcontrol]
      exact .inr (.inl ⟨hcontrol, rfl⟩)
    · rw [if_neg hcontrol]
      exact .inr (.inr ⟨⟨hquote, hback⟩, by omega, rfl⟩)

section Quoted

/-- Readers, one for each region, that copy strings. -/
def CopiesStrings (f : Region → List Char → List Char) : Prop :=
  ∀ region c, region ≠ .outside ∨ c = '\"' → Moves (f region) (f (region.next c)) [c] [c]

variable {f : Region → List Char → List Char} (hf : CopiesStrings f)

include hf

/-- What stands behind a backslash does not end the string. -/
lemma CopiesStrings.pair (c : Char) : Moves (f .inside) (f .inside) ['\\', c] ['\\', c] :=
  (hf .inside '\\' (.inl (by decide))).append (hf .escaped c (.inl (by decide)))

lemma CopiesStrings.plain {c : Char} (hquote : c ≠ '\"') (hescape : c ≠ '\\') :
    Moves (f .inside) (f .inside) [c] [c] := by
  have hmove := hf .inside c (.inl (by decide))
  rwa [Region.next, if_neg hquote, if_neg hescape] at hmove

lemma CopiesStrings.escape (c : Char) : Moves (f .inside) (f .inside) (escape c) (escape c) := by
  have hdigit : ∀ d < 16, Nat.digitChar d ≠ '\"' ∧ Nat.digitChar d ≠ '\\' := by decide
  obtain ⟨letter, -, hc⟩ | ⟨hcontrol, hc⟩ | ⟨⟨hquote, hback⟩, -, hc⟩ := escape_cases c
  · rw [hc]
    exact hf.pair letter
  · have hhigh := hdigit (c.toNat / 16) (by omega)
    have hlow := hdigit (c.toNat % 16) (by omega)
    have hzero := hf.plain (c := '0') (by decide) (by decide)
    rw [hc]
    exact (hf.pair 'u').append (hzero.append (hzero.append
      ((hf.plain hhigh.1 hhigh.2).append (hf.plain hlow.1 hlow.2))))
  · rw [hc]
    exact hf.plain hquote hback

/-- **Strings are copied**, whatever characters they hold. -/
lemma CopiesStrings.quote (s : String) :
    Moves (f .outside) (f .outside) (quote s).toList (quote s).toList := by
  rw [Json.quote, String.toList_ofList]
  have hopen := hf .outside '\"' (.inr rfl)
  have hclose := hf .inside '\"' (.inl (by decide))
  exact (hopen.append (.flatMap fun c _ => hf.escape c)).append hclose

end Quoted

/-! ## Words and numerals -/

/-- A character that words and numerals consist of. -/
def isWordChar (c : Char) : Bool :=
  c.isAlphanum || c = '-' || c = '+' || c = '.'

lemma isWordChar_of_mem_toDigits {n : Nat} : ∀ c ∈ Nat.toDigits 10 n, isWordChar c = true := by
  intro c hc
  have hdigit : c.isDigit = true := Nat.isDigit_of_mem_toDigits (by decide) (by decide) hc
  simp [isWordChar, Char.isAlphanum, hdigit]

lemma isWordChar_of_mem_shortest {x : Float} {decimal : Decimal}
    (h : Decimal.shortest? x = some decimal) : ∀ c ∈ decimal.digits, isWordChar c = true := by
  rw [Decimal.shortest?] at h
  split at h
  · contradiction
  · obtain ⟨point, -, rfl⟩ := Option.map_eq_some_iff.mp h
    intro c hc
    rw [Decimal.ofGridPoint, List.mem_reverse] at hc
    exact isWordChar_of_mem_toDigits c (List.mem_reverse.mp ((List.dropWhile_sublist _).mem hc))

lemma isWordChar_of_mem_write {decimal : Decimal}
    (hdigits : ∀ c ∈ decimal.digits, isWordChar c = true) :
    ∀ c ∈ decimal.write numberLayout, isWordChar c = true := by
  have hzeros : ∀ n, ∀ c ∈ List.replicate n '0', isWordChar c = true := by
    intro n c hc
    rw [List.eq_of_mem_replicate hc]
    decide
  rw [Decimal.write]
  split
  · rw [Decimal.positional]
    split
    · simp only [List.cons_append, List.forall_mem_cons, List.forall_mem_append]
      exact ⟨by decide, by decide, hzeros _, hdigits⟩
    · dsimp only
      split
      · simp only [List.forall_mem_append]
        exact ⟨⟨hdigits, hzeros _⟩, List.all_eq_true.mp (by decide)⟩
      · simp only [List.forall_mem_append, List.forall_mem_cons]
        exact ⟨fun c hc => hdigits c (List.mem_of_mem_take hc), by decide,
          fun c hc => hdigits c (List.mem_of_mem_drop hc)⟩
  · have hsign : ∀ c ∈ (if decimal.exponent < 0 then ['-'] else numberLayout.plus),
        isWordChar c = true := by
      split <;> exact List.all_eq_true.mp (by decide)
    rw [Decimal.scientific]
    simp only [List.forall_mem_append]
    refine ⟨⟨⟨?_, List.all_eq_true.mp (by decide)⟩, hsign⟩, isWordChar_of_mem_toDigits⟩
    split
    · rename_i lead next rest heq
      rw [heq, List.forall_mem_cons] at hdigits
      exact List.forall_mem_cons.mpr ⟨hdigits.1, List.forall_mem_cons.mpr ⟨by decide, hdigits.2⟩⟩
    · exact hdigits

lemma isWordChar_of_mem_numberText (n : Number) :
    ∀ c ∈ (numberText n).toList, isWordChar c = true := by
  cases n with
  | integer n =>
      have hnat : ∀ m : Nat, ∀ c ∈ m.repr.toList, isWordChar c = true := by
        intro m
        rw [Nat.repr, String.toList_ofList]
        exact isWordChar_of_mem_toDigits
      cases n with
      | ofNat m => exact hnat m
      | negSucc m =>
          show ∀ c ∈ ("-" ++ (m + 1).repr).toList, isWordChar c = true
          rw [String.toList_append, List.forall_mem_append]
          exact ⟨List.all_eq_true.mp (by decide), hnat (m + 1)⟩
  | decimal x finite =>
      have hdigits : ∀ c ∈ ((Decimal.shortest? x).getD ⟨['0'], 0⟩).digits,
          isWordChar c = true := by
        cases hshortest : Decimal.shortest? x with
        | none => exact List.all_eq_true.mp (by decide)
        | some decimal => exact isWordChar_of_mem_shortest hshortest
      rw [numberText, String.toList_ofList, Decimal.writeFloat, List.forall_mem_append]
      refine ⟨?_, isWordChar_of_mem_write hdigits⟩
      split <;> exact List.all_eq_true.mp (by decide)

lemma isWordChar_of_mem_bool (b : Bool) :
    ∀ c ∈ (if b then "true" else "false").toList, isWordChar c = true := by
  cases b <;> exact List.all_eq_true.mp (by decide)

/-! ## The parts of arrays and objects -/

/-- A member as compact text. -/
def memberText (member : String × Json) : String :=
  quote member.1 ++ ":" ++ member.2.compact

/-- A member as text over several lines. -/
def memberTextAt (depth : Nat) (member : String × Json) : String :=
  quote member.1 ++ ": " ++ member.2.prettyAt depth

lemma compactItems_eq_map (items : List Json) : compactItems items = items.map compact := by
  induction items with
  | nil => rfl
  | cons item items ih => rw [compactItems, ih, List.map_cons]

lemma compactMembers_eq_map (members : List (String × Json)) :
    compactMembers members = members.map memberText := by
  induction members with
  | nil => rfl
  | cons member members ih =>
      obtain ⟨key, value⟩ := member
      rw [compactMembers, ih, List.map_cons, memberText]

lemma prettyItems_eq_map (depth : Nat) (items : List Json) :
    prettyItems depth items = items.map (prettyAt depth) := by
  induction items with
  | nil => rfl
  | cons item items ih => rw [prettyItems, ih, List.map_cons]

lemma prettyMembers_eq_map (depth : Nat) (members : List (String × Json)) :
    prettyMembers depth members = members.map (memberTextAt depth) := by
  induction members with
  | nil => rfl
  | cons member members ih =>
      obtain ⟨key, value⟩ := member
      rw [prettyMembers, ih, List.map_cons, memberTextAt]

/-! ## Blanks between the parts -/

/-- The text without the blanks outside of strings, for a reader that is in some region. -/
def squeeze (region : Region) : List Char → List Char
  | [] => []
  | c :: rest =>
    if region = .outside ∧ isBlank c then squeeze region rest
    else c :: squeeze (region.next c) rest

/-- The text without the blanks that stand outside of strings. -/
def withoutBlanks (text : String) : String :=
  String.ofList (squeeze .outside text.toList)

lemma moves_squeeze {region : Region} {c : Char} (h : ¬(region = .outside ∧ isBlank c)) :
    Moves (squeeze region) (squeeze (region.next c)) [c] [c] := by
  intro rest
  simp [squeeze, h]

lemma copiesStrings_squeeze : CopiesStrings squeeze := by
  rintro region c (hregion | rfl)
  · exact moves_squeeze fun h => hregion h.1
  · exact moves_squeeze fun h => absurd h.2 (by decide)

lemma moves_squeeze_blank {c : Char} (h : isBlank c = true) :
    Moves (squeeze .outside) (squeeze .outside) [c] [] := by
  intro rest
  simp [squeeze, h]

/-- Outside of strings, all but blanks is kept. -/
lemma moves_squeeze_kept {c : Char} (hblank : isBlank c = false) (hquote : c ≠ '\"') :
    Moves (squeeze .outside) (squeeze .outside) [c] [c] := by
  have hmove : Moves (squeeze .outside) (squeeze (Region.outside.next c)) [c] [c] :=
    moves_squeeze (by simp [hblank])
  rwa [Region.next, if_neg hquote] at hmove

lemma moves_squeeze_word {t : List Char} (h : ∀ c ∈ t, isWordChar c = true) :
    Moves (squeeze .outside) (squeeze .outside) t t := by
  refine .of_forall fun c hc => moves_squeeze_kept ?_ ?_
  · rw [← Bool.not_eq_true, isBlank_eq_true_iff]
    rintro (rfl | rfl | rfl | rfl) <;> exact absurd (h _ hc) (by decide)
  · rintro rfl
    exact absurd (h _ hc) (by decide)

lemma moves_squeeze_lineStart (depth : Nat) :
    Moves (squeeze .outside) (squeeze .outside) (lineStart depth).toList [] := by
  refine .of_forall_nil fun c hc => moves_squeeze_blank ?_
  rw [lineStart, String.toList_append, List.mem_append] at hc
  obtain hbreak | hspace := hc
  · obtain rfl : c = '\n' := by simpa using hbreak
    decide
  · rw [String.toList_ofList] at hspace
    obtain rfl := List.eq_of_mem_replicate hspace
    decide

/-- A block of lines becomes the row of its parts. -/
lemma moves_squeeze_block {α : Type} {xs : List α} {t t' : α → String} {opening closing : String}
    (hopening : Moves (squeeze .outside) (squeeze .outside) opening.toList opening.toList)
    (hclosing : Moves (squeeze .outside) (squeeze .outside) closing.toList closing.toList)
    (h : ∀ x ∈ xs, Moves (squeeze .outside) (squeeze .outside) (t x).toList (t' x).toList)
    (depth : Nat) :
    Moves (squeeze .outside) (squeeze .outside)
      (block opening closing depth (xs.map t)).toList
      (opening ++ ",".intercalate (xs.map t') ++ closing).toList := by
  have hcomma : Moves (squeeze .outside) (squeeze .outside) ",".toList ",".toList :=
    moves_squeeze_kept (c := ',') (by decide) (by decide)
  have hseparator : Moves (squeeze .outside) (squeeze .outside)
      ("," ++ lineStart (depth + 1)).toList ",".toList := by
    rw [String.toList_append]
    exact hcomma.append (moves_squeeze_lineStart (depth + 1))
  have hrow := Moves.intercalate hseparator h
  cases xs with
  | nil =>
      rw [List.map_nil, block, List.map_nil, String.intercalate_nil, String.append_empty]
      simp only [String.toList_append]
      exact hopening.append hclosing
  | cons x xs =>
      rw [List.map_cons, block, ← List.map_cons]
      on_goal 2 => exact List.cons_ne_nil _ _
      simp only [String.toList_append]
      have hstart := hopening.append (moves_squeeze_lineStart (depth + 1))
      have hend := (moves_squeeze_lineStart depth).append hclosing
      simpa using (hstart.append hrow).append hend

/-- **A text over several lines** is the compact text with blanks between the parts. -/
theorem moves_squeeze_prettyAt (json : Json) (depth : Nat) :
    Moves (squeeze .outside) (squeeze .outside) (json.prettyAt depth).toList
      json.compact.toList := by
  induction json generalizing depth with
  | null => exact moves_squeeze_word (t := "null".toList) (List.all_eq_true.mp (by decide))
  | bool b => exact moves_squeeze_word (isWordChar_of_mem_bool b)
  | number n => exact moves_squeeze_word (isWordChar_of_mem_numberText n)
  | string s => exact copiesStrings_squeeze.quote s
  | array items ih =>
      rw [prettyAt, compact, prettyItems_eq_map, compactItems_eq_map]
      refine moves_squeeze_block ?_ ?_ (fun item hitem => ih item hitem _) depth
      · exact moves_squeeze_kept (c := '[') (by decide) (by decide)
      · exact moves_squeeze_kept (c := ']') (by decide) (by decide)
  | object members ih =>
      rw [prettyAt, compact, prettyMembers_eq_map, compactMembers_eq_map]
      have hcolon : Moves (squeeze .outside) (squeeze .outside) ": ".toList ":".toList :=
        (moves_squeeze_kept (c := ':') (by decide) (by decide)).append
          (moves_squeeze_blank (c := ' ') (by decide))
      refine moves_squeeze_block ?_ ?_ (fun member hmember => ?_) depth
      · exact moves_squeeze_kept (c := '{') (by decide) (by decide)
      · exact moves_squeeze_kept (c := '}') (by decide) (by decide)
      · simp only [memberTextAt, memberText, String.toList_append]
        exact ((copiesStrings_squeeze.quote member.1).append hcolon).append (ih member hmember _)

/-- **Without blanks** the text over several lines is the compact one. -/
theorem withoutBlanks_pretty (json : Json) : withoutBlanks json.pretty = json.compact := by
  have hmove := moves_squeeze_prettyAt json 0 []
  rw [withoutBlanks, pretty, ← String.toList_inj, String.toList_ofList]
  simpa [squeeze] using hmove

/-! ## Line breaks -/

lemma newline_notMem_quote (s : String) : '\n' ∉ (quote s).toList := by
  have hletter : ∀ entry ∈ shortEscapes, '\n' ≠ entry.2 := by decide
  have hdigit : ∀ d < 16, '\n' ≠ Nat.digitChar d := by decide
  have hescape : ∀ c, '\n' ∉ escape c := by
    intro c
    obtain ⟨letter, hmem, hc⟩ | ⟨hcontrol, hc⟩ | ⟨-, hcontrol, hc⟩ := escape_cases c
    · simp [hc, hletter _ hmem]
    · have hhigh := hdigit (c.toNat / 16) (by omega)
      have hlow := hdigit (c.toNat % 16) (by omega)
      simp [hc, hhigh, hlow]
    · rw [hc, List.mem_singleton]
      rintro rfl
      contradiction
  rw [quote, String.toList_ofList]
  simpa using fun c _ => hescape c

/-- **A compact text is one line**: the line breaks of its strings are escaped. -/
theorem newline_notMem_compact (json : Json) : '\n' ∉ json.compact.toList := by
  have hword : ∀ {t : List Char}, (∀ c ∈ t, isWordChar c = true) → '\n' ∉ t :=
    fun h hmem => absurd (h _ hmem) (by decide)
  induction json with
  | null => exact hword (t := "null".toList) (List.all_eq_true.mp (by decide))
  | bool b => exact hword (isWordChar_of_mem_bool b)
  | number n => exact hword (isWordChar_of_mem_numberText n)
  | string s => exact newline_notMem_quote s
  | array items ih =>
      have hitems : '\n' ∉ (",".intercalate (items.map compact)).toList :=
        notMem_intercalate (by decide) (List.forall_mem_map.mpr ih)
      rw [compact, compactItems_eq_map]
      simpa using hitems
  | object members ih =>
      have hmember : ∀ member ∈ members, '\n' ∉ (memberText member).toList := by
        intro member hmember
        simpa [memberText, newline_notMem_quote] using ih member hmember
      have hmembers : '\n' ∉ (",".intercalate (members.map memberText)).toList :=
        notMem_intercalate (by decide) (List.forall_mem_map.mpr hmember)
      rw [compact, compactMembers_eq_map]
      simpa using hmembers

end Json

end FilterQuery
