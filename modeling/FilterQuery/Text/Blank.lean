import FilterQuery.Text.CodeRanges

/-!
# White space

The characters with the property `White_Space` of Unicode.
-/

namespace FilterQuery

/-- The ranges of white space. -/
def whiteSpaceRanges : CodeRanges :=
  [(0x0009, 0x000D), (0x0020, 0x0020), (0x0085, 0x0085), (0x00A0, 0x00A0), (0x1680, 0x1680),
   (0x2000, 0x200A), (0x2028, 0x2029), (0x202F, 0x202F), (0x205F, 0x205F), (0x3000, 0x3000)]

example : whiteSpaceRanges.isAscendingFrom 0 = true ∧ whiteSpaceRanges.size = 25 := by decide

/-- Is this character white space? -/
def isWhiteSpace (c : Char) : Bool :=
  whiteSpaceRanges.holds c

/-- Does a text consist of white space only? -/
def isBlankText (text : String) : Bool :=
  text.toList.all isWhiteSpace

end FilterQuery
