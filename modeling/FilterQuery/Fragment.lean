import FilterQuery.Keyword
import FilterQuery.Value

/-!
# Fragments

A fragment is a piece of SQL text together with the values of its placeholders, from left to right.
Fragments are put together by `join` and `prefixed`, and both leave out fragments without text: such
a fragment contributes neither text nor values, so no joining word is ever left without a neighbour.
-/

namespace FilterQuery

/-- The text of a placeholder. -/
def placeholder : String := "?"

/-- SQL text and the values for its placeholders, from left to right. -/
structure Fragment where
  sql : String
  params : List Value
  deriving BEq

namespace Fragment

/-- The fragment with neither text nor values. -/
def empty : Fragment := ⟨"", []⟩

/-- Has the fragment no text? -/
def isEmpty (fragment : Fragment) : Bool :=
  fragment.sql.isEmpty

/-- The fragments that have text, with the joining word between any two neighbours. -/
def join (word : Join) (fragments : List Fragment) : Fragment :=
  let kept := fragments.filter fun fragment => !fragment.isEmpty
  { sql := (" " ++ word.sql ++ " ").intercalate (kept.map Fragment.sql)
    params := kept.flatMap Fragment.params }

/-- Puts a word and a space in front of the text, if there is text. -/
def prefixed (word : String) (fragment : Fragment) : Fragment :=
  if fragment.isEmpty then fragment else { fragment with sql := word ++ " " ++ fragment.sql }

/-- The number of question marks in the text, wherever they come from. -/
def markCount (fragment : Fragment) : Nat :=
  fragment.sql.toList.count '?'

end Fragment

end FilterQuery
