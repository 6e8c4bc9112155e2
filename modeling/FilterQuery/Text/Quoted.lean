import FilterQuery.Text.Invisible
import FilterQuery.Text.Unassigned

/-!
# Quoted text in a log

A text that comes from outside is written into a log between quotes and in such a way that it can
neither end its quotes nor its line: quotes and backslashes are escaped, and so is every character
that a reader could not see or that stands for nothing.
-/

namespace FilterQuery

/-- A character between quotes. -/
def logEscape (c : Char) : List Char :=
  if c = '\"' then ['\\', '\"']
  else if c = '\\' then ['\\', '\\']
  else if c = '\n' then ['\\', 'n']
  else if c = '\r' then ['\\', 'r']
  else if c = '\t' then ['\\', 't']
  else if c.toNat = 0 then ['\\', '0']
  else if isInvisible c || isUnassigned c then
    ['\\', 'u', '{'] ++ Nat.toDigits 16 c.toNat ++ ['}']
  else [c]

/-- A text in quotes, for a log. -/
def logQuote (text : String) : String :=
  String.ofList ('\"' :: text.toList.flatMap logEscape ++ ['\"'])

end FilterQuery
