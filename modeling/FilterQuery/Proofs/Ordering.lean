import Mathlib.Data.List.DropRight
import FilterQuery.Proofs.InsertionOrder
import FilterQuery.Selection.Basic

/-!
# The ordering after any settings

The ordering of a selection is the outcome of a history: an ordering that was chosen as a whole, and
columns that were added to it since.  `Selection.ordering_foldl_apply` reads the ordering off the
history alone.

* The history starts anew whenever an ordering is chosen (`Selection.chosen?`), and the columns
  added since then are what counts (`Selection.additions`).
* The standard ordering is never added to.  It holds as long as nothing was chosen and nothing
  added, and the first addition finds nothing in its place (`Selection.basis`).
* No other setting has a part in this.

The invariant is `Selection.order?_foldl_apply`: it says after each setting not only what the
ordering is, but also whether one has been chosen.
-/

namespace FilterQuery

namespace Selection

/-! ## Histories -/

/-- The ordering that a setting chooses. -/
def Setting.choice? : Setting → Option (Entries String Direction)
  | .order chosen => some chosen
  | _ => none

/-- The column that a setting adds to the ordering, and its direction. -/
def Setting.addition? : Setting → Option (String × Direction)
  | .orderBy column direction => some (column, direction)
  | _ => none

/-- The last ordering that some settings choose. -/
def chosen? (settings : List Setting) : Option (Entries String Direction) :=
  (settings.filterMap Setting.choice?).getLast?

/-- The columns that some settings add after the last choice of an ordering. -/
def additions (settings : List Setting) : Entries String Direction :=
  (settings.rtakeWhile fun setting => setting.choice?.isNone).filterMap Setting.addition?

/-- The ordering that columns are added to: the one chosen last, or nothing if none is chosen but
some column is added, or else the standard ordering. -/
def basis (settings : List Setting) : Entries String Direction :=
  (chosen? settings).getD
    (if settings.filterMap Setting.addition? = [] then standardOrder else [])

lemma chosen?_concat (settings : List Setting) (setting : Setting) :
    chosen? (settings ++ [setting]) = setting.choice?.or (chosen? settings) := by
  rw [chosen?, List.filterMap_append, List.getLast?_append, chosen?]
  cases h : setting.choice? <;> simp [h]

lemma additions_concat_of_choice {setting : Setting} (h : setting.choice? ≠ none)
    (settings : List Setting) : additions (settings ++ [setting]) = [] := by
  rw [additions, List.rtakeWhile_concat_neg _ _ _ (by simpa using h), List.filterMap_nil]

lemma additions_concat {setting : Setting} (h : setting.choice? = none) (settings : List Setting) :
    additions (settings ++ [setting]) = additions settings ++ setting.addition?.toList := by
  rw [additions, List.rtakeWhile_concat_pos _ _ _ (by simp [h]), List.filterMap_append, additions]
  cases h : setting.addition? <;> simp [h]

/-- Where no ordering is chosen, all added columns count. -/
lemma additions_of_chosen?_eq_none {settings : List Setting} (h : chosen? settings = none) :
    additions settings = settings.filterMap Setting.addition? := by
  have hnone : ∀ setting ∈ settings, setting.choice?.isNone = true := by
    simpa [chosen?] using h
  rw [additions, List.rtakeWhile_eq_self_iff.mpr hnone]

/-! ## The invariant -/

/-- Adds columns to an ordering, one after the other. -/
def extended (columns order : Entries String Direction) : Entries String Direction :=
  columns.foldl (fun order (column, direction) => Entries.put column direction order) order

/-- What was chosen and what was added since then, put together, unless nothing was. -/
def history? (settings : List Setting) : Option (Entries String Direction) :=
  if chosen? settings = none ∧ settings.filterMap Setting.addition? = [] then none
  else some (extended (additions settings) ((chosen? settings).getD []))

lemma getD_history? (settings : List Setting) :
    (history? settings).getD [] = extended (additions settings) ((chosen? settings).getD []) := by
  rw [history?]
  split
  · rename_i h
    rw [additions_of_chosen?_eq_none h.1, h.1, h.2]
    rfl
  · rfl

lemma history?_concat_order (settings : List Setting) (chosen : Entries String Direction) :
    history? (settings ++ [.order chosen]) = some chosen := by
  have hchoice : (Setting.order chosen).choice? = some chosen := rfl
  rw [history?, chosen?_concat, hchoice, additions_concat_of_choice (by simp [hchoice])]
  simp [extended]

lemma history?_concat_orderBy (settings : List Setting) (column : String) (direction : Direction) :
    history? (settings ++ [.orderBy column direction]) =
      some (Entries.put column direction ((history? settings).getD [])) := by
  have hchoice : (Setting.orderBy column direction).choice? = none := rfl
  have haddition : (Setting.orderBy column direction).addition? = some (column, direction) := rfl
  have hsome :
      (settings ++ [Setting.orderBy column direction]).filterMap Setting.addition? ≠ [] := by
    simp [haddition]
  rw [history?, if_neg (fun h => hsome h.2), getD_history?, chosen?_concat, hchoice, Option.none_or,
    additions_concat hchoice, haddition, Option.toList_some, extended, List.foldl_concat, extended]

/-- A setting that neither chooses an ordering nor adds to it has no part in the history. -/
lemma history?_concat_of_none {setting : Setting} (hchoice : setting.choice? = none)
    (haddition : setting.addition? = none) (settings : List Setting) :
    history? (settings ++ [setting]) = history? settings := by
  rw [history?, chosen?_concat, hchoice, Option.none_or, additions_concat hchoice, haddition,
    List.filterMap_append, List.filterMap_cons_none haddition, List.filterMap_nil,
    Option.toList_none, List.append_nil, List.append_nil, history?]

/-- Such a setting leaves the ordering as it is. -/
lemma order?_apply {setting : Setting} (hchoice : setting.choice? = none)
    (haddition : setting.addition? = none) (selection : Selection) :
    (selection.apply setting).order? = selection.order? := by
  cases setting with
  | order | orderBy => contradiction
  | _ => rfl

/-- **What a selection remembers** of any settings is their history. -/
theorem order?_foldl_apply (settings : List Setting) :
    (settings.foldl apply standard).order? = history? settings := by
  induction settings using List.reverseRecOn with
  | nil => rfl
  | append_singleton settings setting ih =>
      rw [List.foldl_concat]
      cases setting with
      | order chosen => rw [apply, history?_concat_order]
      | orderBy column direction => rw [apply, history?_concat_orderBy, ih]
      | _ =>
          rw [order?_apply rfl rfl, ih, history?_concat_of_none rfl rfl]

/-! ## The ordering -/

lemma history?_eq_none_iff (settings : List Setting) :
    history? settings = none ↔
      ∀ setting ∈ settings, setting.choice? = none ∧ setting.addition? = none := by
  have hchosen : chosen? settings = none ↔ ∀ setting ∈ settings, setting.choice? = none := by
    rw [chosen?, List.getLast?_eq_none_iff, List.filterMap_eq_nil_iff]
  rw [history?, ite_eq_left_iff, hchosen, List.filterMap_eq_nil_iff, ← forall₂_and]
  simp

lemma getD_history?_standardOrder (settings : List Setting) :
    (history? settings).getD standardOrder = extended (additions settings) (basis settings) := by
  rw [history?]
  split
  · rename_i h
    rw [basis, additions_of_chosen?_eq_none h.1, h.1, h.2]
    rfl
  · rename_i h
    rw [basis, Option.getD_some]
    cases hchosen : chosen? settings with
    | none => rw [if_neg fun hnone => h ⟨hchosen, hnone⟩]
    | some chosen => rfl

/-- **The ordering after any settings.**  It is the ordering chosen last, in which the first
occurrence of each column has the last direction that was given for it since, followed by the other
columns that were added since, each once, in the order of their first mention and with their last
directions.  While none is chosen, columns are added to nothing, and without columns the ordering is
the standard one.  A selection has no ordering of its own exactly as long as none was chosen and no
column added, and no other setting changes anything about the ordering. -/
theorem ordering_foldl_apply (settings : List Setting) :
    (settings.foldl apply standard).ordering =
      Entries.revalued (additions settings) (basis settings) ++
        (Entries.merged (additions settings)).filter
          (fun column => column.1 ∉ Entries.keys (basis settings)) ∧
    ((settings.foldl apply standard).order? = none ↔
      ∀ setting ∈ settings, setting.choice? = none ∧ setting.addition? = none) ∧
    ∀ (selection : Selection) (setting : Setting), setting.choice? = none →
      setting.addition? = none →
        (selection.apply setting).order? = selection.order? ∧
        (selection.apply setting).ordering = selection.ordering := by
  refine ⟨?_, ?_, fun selection setting hchoice haddition => ?_⟩
  · rw [← Entries.foldl_put_eq, ordering, order?_foldl_apply, getD_history?_standardOrder,
      extended]
  · rw [order?_foldl_apply, history?_eq_none_iff]
  · have horder := order?_apply hchoice haddition selection
    exact ⟨horder, by rw [ordering, horder, ordering]⟩

/-- A column that occurs twice in a chosen ordering, and one that is added twice to it. -/
example : ([.orderBy "x" .asc, .order [("a", .asc), ("b", .desc), ("a", .asc)], .orderBy "c" .asc,
    .limit (some 5), .orderBy "a" .desc, .orderBy "c" .desc].foldl apply standard).ordering =
      [("a", .desc), ("b", .desc), ("a", .asc), ("c", .desc)] := by
  decide

end Selection

end FilterQuery
