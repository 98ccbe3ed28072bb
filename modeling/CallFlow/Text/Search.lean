/-!
# Searched texts

Catalog texts are ASCII. A query is found in one wherever it occurs in letters of either case.
-/

namespace CallFlow.Text

/-- A letter in lower case, where that form is an ASCII letter: the capital letters A to Z and the
Kelvin sign. The lower-case forms of all other letters lie outside ASCII. -/
def lowerChar (c : Char) : Char := if c = '\u212a' then 'k' else c.toLower

/-- A text in lower case. -/
def lower (s : String) : List Char := s.toList.map lowerChar

/-- Whether characters occur in a row somewhere in a text. -/
def occursIn (needle : List Char) : List Char → Bool
  | [] => needle.isEmpty
  | c :: cs => needle.isPrefixOf (c :: cs) || occursIn needle cs

end CallFlow.Text
