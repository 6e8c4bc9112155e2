import FilterQuery.Proofs.JsonText

/-!
# Reading off the items of an array

Where a compact text stands in front of a comma or a closing bracket, it shows where it ends
(`Json.compact_append_inj`): commas and brackets of its own are within its strings, or within
brackets that it opens and closes.  So the texts of the items can be read off the text of an array,
however the items are nested (`Json.intercalate_append_inj`).

A string in front of other text shows where it ends by its closing quote, and it can be read off as
well (`Json.quote_append_inj`).
-/

namespace FilterQuery

namespace Json

/-! ## The end of an item -/

/-- The characters that open a bracket. -/
def openings : List Char := ['[', '{']

/-- The characters that close a bracket. -/
def closings : List Char := [']', '}']

/-- The depth of nesting after one more character. -/
def depthAfter (region : Region) (depth : Nat) (c : Char) : Nat :=
  if region = .outside ∧ c ∈ openings then depth + 1
  else if region = .outside ∧ c ∈ closings then depth - 1
  else depth

/-- The text up to the first comma or closing bracket that stands outside of strings and outside of
brackets that the text opens, for a reader that is in some region and within `depth` of those. -/
def untilEnd (depth : Nat) (region : Region) : List Char → List Char
  | [] => []
  | c :: rest =>
    if region = .outside ∧ depth = 0 ∧ c ∈ ',' :: closings then []
    else c :: untilEnd (depthAfter region depth c) (region.next c) rest

lemma moves_untilEnd (depth : Nat) {region : Region} {c : Char}
    (h : ¬(region = .outside ∧ depth = 0 ∧ c ∈ ',' :: closings)) :
    Moves (untilEnd depth region) (untilEnd (depthAfter region depth c) (region.next c))
      [c] [c] := by
  intro rest
  rw [List.singleton_append, untilEnd, if_neg h, List.singleton_append]

lemma copiesStrings_untilEnd (depth : Nat) : CopiesStrings (untilEnd depth) := by
  intro region c hstring
  have hmark : ∀ marks : List Char, '\"' ∉ marks → ¬(region = .outside ∧ c ∈ marks) := by
    rintro marks hquote ⟨hregion, hmem⟩
    obtain hinside | rfl := hstring
    · exact hinside hregion
    · exact hquote hmem
  have hmove := moves_untilEnd depth fun h => hmark (',' :: closings) (by decide) ⟨h.1, h.2.2⟩
  rwa [depthAfter, if_neg (hmark openings (by decide)), if_neg (hmark closings (by decide))]
    at hmove

/-- Outside of strings, all but commas and brackets is copied. -/
lemma moves_untilEnd_kept {t : List Char}
    (h : ∀ c ∈ t, c ≠ '\"' ∧ c ∉ openings ∧ c ∉ ',' :: closings) (depth : Nat) :
    Moves (untilEnd depth .outside) (untilEnd depth .outside) t t := by
  refine .of_forall fun c hc => ?_
  obtain ⟨hquote, hopening, hend⟩ := h c hc
  have hclosing : c ∉ closings := fun hmem => hend (List.mem_cons_of_mem _ hmem)
  have hmove : Moves (untilEnd depth .outside) _ [c] [c] :=
    moves_untilEnd depth fun h => hend h.2.2
  rwa [depthAfter, if_neg fun h => hopening h.2, if_neg fun h => hclosing h.2, Region.next,
    if_neg hquote] at hmove

lemma moves_untilEnd_word {t : List Char} (h : ∀ c ∈ t, isWordChar c = true) (depth : Nat) :
    Moves (untilEnd depth .outside) (untilEnd depth .outside) t t := by
  have hmark : ∀ c ∈ ['\"'] ++ openings ++ ',' :: closings, ¬isWordChar c = true :=
    List.any_eq_false.mp (by decide)
  refine moves_untilEnd_kept (fun c hc => ?_) depth
  have hword : c ∉ ['\"'] ++ openings ++ ',' :: closings := fun hmem => hmark c hmem (h c hc)
  simpa only [List.mem_append, List.mem_singleton, not_or, and_assoc] using hword

/-- Brackets and what stands between them, if that is read one level deeper. -/
lemma moves_untilEnd_brackets {opening closing : Char} {t : List Char} {depth : Nat}
    (hopening : opening ∈ openings) (hclosing : closing ∈ closings)
    (h : Moves (untilEnd (depth + 1) .outside) (untilEnd (depth + 1) .outside) t t) :
    Moves (untilEnd depth .outside) (untilEnd depth .outside)
      (opening :: t ++ [closing]) (opening :: t ++ [closing]) := by
  have hquote : ∀ c ∈ openings ++ closings, c ≠ '\"' := by simp [openings, closings]
  have hapart : ∀ c ∈ openings, c ∉ ',' :: closings := by simp [openings, closings]
  have hapart' : ∀ c ∈ closings, c ∉ openings := by simp [openings, closings]
  have hopen : Moves (untilEnd depth .outside) _ [opening] [opening] :=
    moves_untilEnd depth fun h => hapart opening hopening h.2.2
  rw [depthAfter, if_pos ⟨rfl, hopening⟩, Region.next,
    if_neg (hquote opening (List.mem_append_left _ hopening))] at hopen
  have hclose : Moves (untilEnd (depth + 1) .outside) _ [closing] [closing] :=
    moves_untilEnd (depth + 1) fun h => Nat.succ_ne_zero depth h.2.1
  rw [depthAfter, if_neg fun h => hapart' closing hclosing h.2, if_pos ⟨rfl, hclosing⟩,
    Region.next, if_neg (hquote closing (List.mem_append_right _ hclosing))] at hclose
  exact (hopen.append h).append hclose

/-- **An item is read to its end**, at any depth. -/
theorem moves_untilEnd_compact (json : Json) (depth : Nat) :
    Moves (untilEnd depth .outside) (untilEnd depth .outside)
      json.compact.toList json.compact.toList := by
  have hcomma : ∀ d, Moves (untilEnd (d + 1) .outside) (untilEnd (d + 1) .outside)
      ",".toList ",".toList := fun d => moves_untilEnd (d + 1) (c := ',') (by simp)
  -- What stands in brackets is one level deeper, so the induction is for every depth.
  induction json generalizing depth with
  | null => exact moves_untilEnd_word (t := "null".toList) (List.all_eq_true.mp (by decide)) depth
  | bool b => exact moves_untilEnd_word (isWordChar_of_mem_bool b) depth
  | number n => exact moves_untilEnd_word (isWordChar_of_mem_numberText n) depth
  | string s => exact (copiesStrings_untilEnd depth).quote s
  | array items ih =>
      rw [compact, compactItems_eq_map]
      simp only [String.toList_append]
      exact moves_untilEnd_brackets (by decide) (by decide)
        (.intercalate (hcomma depth) fun item hitem => ih item hitem _)
  | object members ih =>
      rw [compact, compactMembers_eq_map, inBraces]
      simp only [String.toList_append]
      refine moves_untilEnd_brackets (by decide) (by decide)
        (.intercalate (hcomma depth) fun member hmember => ?_)
      have hcolon : Moves (untilEnd (depth + 1) .outside) (untilEnd (depth + 1) .outside)
          ":".toList ":".toList := moves_untilEnd_kept (by simp [openings, closings]) _
      have hkey := (copiesStrings_untilEnd (depth + 1)).quote member.1
      rw [memberText, String.toList_append, String.toList_append]
      exact (hkey.append hcolon).append (ih member hmember _)

lemma untilEnd_compact_append (json : Json) {rest : List Char}
    (hrest : untilEnd 0 .outside rest = []) :
    untilEnd 0 .outside (json.compact.toList ++ rest) = json.compact.toList := by
  rw [moves_untilEnd_compact json 0 rest, hrest, List.append_nil]

/-- **A compact text shows where it ends**, where a comma or a closing bracket stands behind it. -/
theorem compact_append_inj {json json' : Json} {rest rest' : List Char}
    (hrest : untilEnd 0 .outside rest = []) (hrest' : untilEnd 0 .outside rest' = [])
    (h : json.compact.toList ++ rest = json'.compact.toList ++ rest') :
    json.compact = json'.compact ∧ rest = rest' := by
  have htext : json.compact.toList = json'.compact.toList := by
    rw [← untilEnd_compact_append json hrest, h, untilEnd_compact_append json' hrest']
  rw [htext] at h
  exact ⟨String.toList_inj.mp htext, List.append_cancel_left h⟩

/-! ## Rows of items -/

lemma numberText_ne_nil (n : Number) : (numberText n).toList ≠ [] := by
  have hwrite : ∀ decimal : Decimal, decimal.write numberLayout ≠ [] := by
    intro decimal
    rw [Decimal.write]
    split
    · rw [Decimal.positional]
      split
      · simp
      · dsimp only
        split <;> simp [numberLayout]
    · simp [Decimal.scientific, numberLayout]
  cases n with
  | integer n =>
      cases n with
      | ofNat m =>
          show m.repr.toList ≠ []
          rw [Nat.repr, String.toList_ofList]
          exact Nat.toDigits_ne_nil
      | negSucc m =>
          show ("-" ++ (m + 1).repr).toList ≠ []
          simp
  | decimal x finite =>
      rw [numberText, String.toList_ofList, Decimal.writeFloat]
      exact List.append_ne_nil_of_right_ne_nil _ (hwrite _)

lemma compact_ne_nil (json : Json) : json.compact.toList ≠ [] := by
  cases json with
  | null => decide
  | bool b => cases b <;> decide
  | number n => exact numberText_ne_nil n
  | string s => simp [compact, quote]
  | array items => simp [compact]
  | object members => simp [compact]

/-- What follows an item of an array: the other items, the closing bracket, and then `rest`. -/
def afterItem (rest : List Char) : List Json → List Char
  | [] => ']' :: rest
  | item :: items => ',' :: (item.compact.toList ++ afterItem rest items)

lemma untilEnd_afterItem (rest : List Char) (items : List Json) :
    untilEnd 0 .outside (afterItem rest items) = [] := by
  cases items <;> rfl

lemma intercalate_append_eq (item : Json) (items : List Json) (rest : List Char) :
    (",".intercalate ((item :: items).map compact)).toList ++ ']' :: rest =
      item.compact.toList ++ afterItem rest items := by
  induction items generalizing item with
  | nil => simp [afterItem]
  | cons next items ih =>
      have hcomma : ",".toList = [','] := rfl
      rw [List.map_cons, List.map_cons, String.intercalate_cons_cons, ← List.map_cons, afterItem,
        ← ih next]
      simp [hcomma]

lemma afterItem_inj {items items' : List Json} {rest rest' : List Char}
    (h : afterItem rest items = afterItem rest' items') :
    items.map compact = items'.map compact ∧ rest = rest' := by
  induction items generalizing items' with
  | nil =>
      cases items' with
      | nil => exact ⟨rfl, List.tail_eq_of_cons_eq h⟩
      | cons item' items' => exact absurd (List.head_eq_of_cons_eq h) (by decide)
  | cons item items ih =>
      cases items' with
      | nil => exact absurd (List.head_eq_of_cons_eq h) (by decide)
      | cons item' items' =>
          obtain ⟨hitem, hafter⟩ := compact_append_inj (untilEnd_afterItem rest items)
            (untilEnd_afterItem rest' items') (List.tail_eq_of_cons_eq h)
          obtain ⟨hitems, hrest⟩ := ih hafter
          exact ⟨by rw [List.map_cons, List.map_cons, hitem, hitems], hrest⟩

/-- **The texts of the items** can be read off the text of an array. -/
theorem intercalate_append_inj {items items' : List Json} {rest rest' : List Char}
    (h : (",".intercalate (items.map compact)).toList ++ ']' :: rest =
      (",".intercalate (items'.map compact)).toList ++ ']' :: rest') :
    items.map compact = items'.map compact ∧ rest = rest' := by
  have hbracket : ∀ (item : Json) (items : List Json) (rest rest' : List Char),
      ']' :: rest ≠ item.compact.toList ++ afterItem rest' items := by
    intro item items rest rest' heq
    apply compact_ne_nil item
    rw [← untilEnd_compact_append item (untilEnd_afterItem rest' items), ← heq]
    rfl
  cases items with
  | nil =>
      cases items' with
      | nil => exact ⟨rfl, List.tail_eq_of_cons_eq h⟩
      | cons item' items' =>
          rw [intercalate_append_eq] at h
          exact absurd h (hbracket item' items' rest rest')
  | cons item items =>
      rw [intercalate_append_eq] at h
      cases items' with
      | nil => exact absurd h.symm (hbracket item items rest' rest)
      | cons item' items' =>
          rw [intercalate_append_eq] at h
          -- A comma in front turns both rows into what follows an item.
          exact afterItem_inj (congrArg (List.cons ',') h)

/-! ## Strings in front of a text -/

/-- A string in quotes spells itself. -/
lemma spellsString_flatMap_escape (cs rest : List Char) :
    SpellsString cs (cs.flatMap escape ++ '\"' :: rest) rest := by
  have hhex : ∀ n < 32,
      hexNumber? ['0', '0', Nat.digitChar (n / 16), Nat.digitChar (n % 16)] = some n := by decide
  induction cs with
  | nil => exact .nil
  | cons c cs ih =>
      rw [List.flatMap_cons, List.append_assoc]
      obtain ⟨letter, hletter, hc⟩ | ⟨hcontrol, hc⟩ | ⟨⟨hquote, hback⟩, hcontrol, hc⟩ :=
        escape_cases c
      · rw [hc]
        exact .short hletter ih
      · have hcode := SpellsString.code rfl (hhex c.toNat hcontrol) (.inl (by omega)) ih
        rwa [Char.ofNat_toNat, ← List.cons_append, ← List.cons_append, ← hc] at hcode
      · rw [hc]
        exact .plain hquote hback hcontrol ih

/-- **A string** can be read off its text, and so can what stands behind it. -/
theorem quote_append_inj {s s' : String} {rest rest' : List Char}
    (h : (quote s).toList ++ rest = (quote s').toList ++ rest') : s = s' ∧ rest = rest' := by
  have hread : ∀ (s : String) (rest : List Char),
      readString (s.toList.flatMap escape ++ '\"' :: rest) = .ok (s, rest) := by
    intro s rest
    rw [(spellsString_flatMap_escape s.toList rest).readString_eq, String.ofList_toList]
  simp only [quote, String.toList_ofList, List.cons_append, List.append_assoc,
    List.nil_append] at h
  have hresult := hread s rest
  rw [List.tail_eq_of_cons_eq h, hread s' rest'] at hresult
  have hpair := Except.ok.inj hresult
  exact ⟨(Prod.mk.inj hpair).1.symm, (Prod.mk.inj hpair).2.symm⟩

end Json

end FilterQuery
