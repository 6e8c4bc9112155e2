import FilterQuery.CommandLine.Run
import FilterQuery.Proofs.JsonItems
import FilterQuery.Proofs.RoundTrip

/-!
# The two formats of the output

A statement is printed as lines of text or as a JSON object.  The lines show each bind value by
itself, and the object holds all of them as one array, over several lines.  Still the two formats
show the same texts of the values, which are those of `Value.directText`
(`CommandLine.formats_carry_statement`).

Either format can be read back: whatever the values hold, two statements of the same output have the
same SQL and values of the same texts (`CommandLine.jsonOutput_inj`, `CommandLine.textOutput_inj`).
For the lines this takes an SQL text of one line.  A line break in a value does no harm, as no
JSON text has one.
-/

namespace FilterQuery

namespace Value

/-- The JSON text of a value, straight from the value. -/
def directText : Value → String
  | null => "null"
  | bool b => if b then "true" else "false"
  | int n => toString n.toInt
  | float x =>
    if x.isFinite then String.ofList (Decimal.writeFloat Json.numberLayout x) else "null"
  | text s => Json.quote s
  | blob bytes => "[" ++ ",".intercalate (bytes.map fun byte => toString byte.toNat) ++ "]"
  | list items => "[" ++ ",".intercalate (items.map directText) ++ "]"

/-- **The text by way of the JSON form** is the direct one. -/
lemma jsonText_eq_directText (value : Value) : value.jsonText = value.directText := by
  induction value with
  | null => rw [jsonText, toJson, Json.compact, directText]
  | bool b => rw [jsonText, toJson, Json.compact, directText]
  | int n => rw [jsonText, toJson, Json.compact, Json.numberText, directText]
  | text s => rw [jsonText, toJson, Json.compact, directText]
  | float x =>
      rw [jsonText, directText]
      by_cases hfinite : x.isFinite = true
      · rw [toJson_float_of_isFinite hfinite, Json.compact, Json.numberText, if_pos hfinite]
      · rw [toJson_float_of_not_isFinite hfinite, Json.compact, if_neg hfinite]
  | blob bytes =>
      rw [jsonText, toJson, Json.compact, Json.compactItems_eq_map, List.map_map, directText]
      rfl
  | list items ih =>
      have hitems : (items.map toJson).map Json.compact = items.map directText := by
        rw [List.map_map]
        exact List.map_congr_left ih
      rw [jsonText, toJson, Json.compact, Json.compactItems_eq_map, listToJson_eq_map, hitems,
        directText]

lemma newline_notMem_directText (value : Value) : '\n' ∉ value.directText.toList := by
  rw [← jsonText_eq_directText]
  exact Json.newline_notMem_compact value.toJson

end Value

/-- The texts of the values of a statement. -/
def Fragment.valueTexts (statement : Fragment) : List String :=
  statement.params.map Value.directText

lemma Fragment.valueTexts_eq (statement : Fragment) :
    statement.valueTexts = (statement.params.map Value.toJson).map Json.compact := by
  rw [valueTexts, List.map_map]
  exact List.map_congr_left fun value _ => (value.jsonText_eq_directText).symm

namespace CommandLine

/-! ## The object -/

/-- The text `{"sql":S,"params":[P1,...,Pn]}`: the object of a statement without blanks. -/
def objectText (statement : Fragment) : String :=
  Json.inBraces ("\"sql\":" ++ Json.quote statement.sql ++ ",\"params\":["
    ++ ",".intercalate statement.valueTexts ++ "]")

lemma withoutBlanks_jsonOutput (statement : Fragment) :
    Json.withoutBlanks (jsonOutput statement) = objectText statement := by
  have hsql : Json.quote "sql" = "\"sql\"" := by decide
  have hparams : Json.quote "params" = "\"params\"" := by decide
  have hvalues : (Value.list statement.params).toJson.compact =
      "[" ++ ",".intercalate statement.valueTexts ++ "]" := by
    rw [Value.toJson, Json.compact, Json.compactItems_eq_map, Value.listToJson_eq_map,
      statement.valueTexts_eq]
  rw [jsonOutput, Json.withoutBlanks_pretty, Json.compact, Json.compactMembers_eq_map,
    List.map_cons, List.map_singleton, Json.memberText, Json.memberText, hsql, hparams, hvalues,
    String.intercalate_cons_cons, String.intercalate_singleton, Json.compact, objectText]
  simp only [← String.toList_inj, Json.toList_inBraces, String.toList_append, List.append_assoc]
  rfl

/-- **The object shows the statement**: its SQL, and the texts of its values. -/
theorem jsonOutput_inj {statement other : Fragment} (h : jsonOutput statement = jsonOutput other) :
    statement.sql = other.sql ∧ statement.valueTexts = other.valueTexts := by
  have hobject : objectText statement = objectText other := by
    rw [← withoutBlanks_jsonOutput, h, withoutBlanks_jsonOutput]
  simp only [objectText, ← String.toList_inj, Json.toList_inBraces, String.toList_append,
    List.append_assoc, List.cons.injEq, true_and] at hobject
  obtain ⟨hsql, hrest⟩ := Json.quote_append_inj (List.append_cancel_left hobject)
  have hvalues := List.append_cancel_left hrest
  rw [statement.valueTexts_eq, other.valueTexts_eq] at hvalues ⊢
  exact ⟨hsql, (Json.intercalate_append_inj hvalues).1⟩

/-! ## The lines -/

/-- The lines of a text. -/
def lines (text : String) : List String :=
  (text.toList.splitOn '\n').map String.ofList

/-- Some texts, each under its number. -/
def numbered (texts : List String) : List String :=
  texts.mapIdx fun i text => "$" ++ toString (i + 1) ++ ": " ++ text

lemma lines_intercalate {texts : List String} (hne : texts ≠ [])
    (h : ∀ text ∈ texts, '\n' ∉ text.toList) : lines ("\n".intercalate texts) = texts := by
  have hsplit : (['\n'].intercalate (texts.map String.toList)).splitOn '\n' =
      texts.map String.toList :=
    List.splitOn_intercalate '\n' (List.forall_mem_map.mpr h) (by simpa using hne)
  have hbreak : "\n".toList = ['\n'] := rfl
  have hcopy : String.ofList ∘ String.toList = id := funext fun text => String.ofList_toList
  rw [lines, String.toList_intercalate, hbreak, hsplit, List.map_map, hcopy, List.map_id]

lemma newline_notMem_numbered {texts : List String} (h : ∀ text ∈ texts, '\n' ∉ text.toList) :
    ∀ line ∈ numbered texts, '\n' ∉ line.toList := by
  intro line hline
  obtain ⟨i, hi, rfl⟩ := List.mem_mapIdx.mp hline
  have hnumber : '\n' ∉ (toString (i + 1)).toList := notMem_toString (by decide) _
  have htext := h _ (List.getElem_mem hi)
  simp only [String.toList_append, List.mem_append, not_or]
  exact ⟨⟨⟨by decide, hnumber⟩, by decide⟩, htext⟩

lemma numbered_inj {texts texts' : List String} (h : numbered texts = numbered texts') :
    texts = texts' := by
  refine List.ext_getElem? fun i => ?_
  have hline := congrArg (fun lines => lines[i]?) h
  simp only [numbered, List.getElem?_mapIdx] at hline
  exact Option.map_injective (fun _ _ heq => (String.append_right_inj _).mp heq) hline

lemma textOutput_eq (statement : Fragment) :
    textOutput statement = "\n".intercalate (statement.sql :: numbered statement.valueTexts) := by
  have hlines : statement.params.mapIdx
      (fun i value => "$" ++ toString (i + 1) ++ ": " ++ value.jsonText) =
        numbered statement.valueTexts := by
    refine List.ext_getElem? fun i => ?_
    simp only [numbered, Fragment.valueTexts, List.getElem?_mapIdx, List.getElem?_map,
      Option.map_map, Value.jsonText_eq_directText]
    rfl
  rw [textOutput, hlines]

/-- **An SQL text of one line** is the first line, and each value has one line. -/
lemma lines_textOutput {statement : Fragment} (hsql : '\n' ∉ statement.sql.toList) :
    lines (textOutput statement) = statement.sql :: numbered statement.valueTexts := by
  have hvalues : ∀ text ∈ statement.valueTexts, '\n' ∉ text.toList :=
    List.forall_mem_map.mpr fun value _ => value.newline_notMem_directText
  rw [textOutput_eq]
  exact lines_intercalate (List.cons_ne_nil _ _)
    (List.forall_mem_cons.mpr ⟨hsql, newline_notMem_numbered hvalues⟩)

/-- **The lines show the statement**, if its SQL is of one line. -/
theorem textOutput_inj {statement other : Fragment} (hsql : '\n' ∉ statement.sql.toList)
    (hother : '\n' ∉ other.sql.toList) (h : textOutput statement = textOutput other) :
    statement.sql = other.sql ∧ statement.valueTexts = other.valueTexts := by
  have hlines : statement.sql :: numbered statement.valueTexts =
      other.sql :: numbered other.valueTexts := by
    rw [← lines_textOutput hsql, h, lines_textOutput hother]
  exact ⟨List.head_eq_of_cons_eq hlines, numbered_inj (List.tail_eq_of_cons_eq hlines)⟩

/-- With more lines than one, an SQL text can pass for a shorter one with a value. -/
example : textOutput ⟨"a = b\n$1: null", []⟩ = textOutput ⟨"a = b", [.null]⟩ := by decide +kernel

/-! ## Both formats -/

/-- **The two formats carry the same statement.**  Without its blanks the JSON output is the object
of the SQL and of the texts of the values, and the text output has those same texts, each behind its
number.  The JSON output determines the SQL and these texts, and so does the text output as long as
the SQL is of one line: it then has one line more than there are values, the SQL being the first. -/
theorem formats_carry_statement (statement : Fragment) :
    Json.withoutBlanks (Format.json.render statement) = objectText statement ∧
    Format.text.render statement =
      "\n".intercalate (statement.sql :: numbered statement.valueTexts) ∧
    (∀ other : Fragment, Format.json.render statement = Format.json.render other →
      statement.sql = other.sql ∧ statement.valueTexts = other.valueTexts) ∧
    ('\n' ∉ statement.sql.toList →
      lines (Format.text.render statement) = statement.sql :: numbered statement.valueTexts ∧
      (lines (Format.text.render statement)).length = statement.params.length + 1 ∧
      ∀ other : Fragment, '\n' ∉ other.sql.toList →
        Format.text.render statement = Format.text.render other →
        statement.sql = other.sql ∧ statement.valueTexts = other.valueTexts) := by
  refine ⟨withoutBlanks_jsonOutput statement, textOutput_eq statement,
    fun other h => jsonOutput_inj h, fun hsql => ?_⟩
  have hlines := lines_textOutput hsql
  have hlength : (statement.sql :: numbered statement.valueTexts).length =
      statement.params.length + 1 := by
    rw [List.length_cons, numbered, List.length_mapIdx, Fragment.valueTexts, List.length_map]
  refine ⟨hlines, ?_, fun other hother h => textOutput_inj hsql hother h⟩
  rw [Format.render, hlines, hlength]

end CommandLine

end FilterQuery
