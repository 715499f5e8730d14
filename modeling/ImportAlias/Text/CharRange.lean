import ImportAlias.Text.Basic

/-!
# Ranges of characters

Ranges are the members of bracketed sets.
-/
namespace ImportAlias

/-- A closed range of characters by code point; one character is a range of its own. -/
structure CharRange where
  first : Char
  last : Char
  deriving DecidableEq

def CharRange.holds (r : CharRange) (c : Char) : Bool := r.first ≤ c && c ≤ r.last

end ImportAlias
