import CallFlow.Json
import CallFlow.Binary64.Text
import CallFlow.Text.Hex

/-!
# Written JSON

The canonical text of a value: names in increasing order at every level, no blanks, and in texts
only quotes, backslashes and control characters escaped. Equal values have one text.
-/

namespace CallFlow.Json

/-! ## Texts in quotes -/

/-- A character as it stands between quotes. -/
def escape (c : Char) : List Char :=
  if c = '"' then ['\\', '"']
  else if c = '\\' then ['\\', '\\']
  else if c = '\n' then ['\\', 'n']
  else if c = '\r' then ['\\', 'r']
  else if c = '\t' then ['\\', 't']
  else if c = '\x08' then ['\\', 'b']
  else if c = '\x0c' then ['\\', 'f']
  else if c < ' ' then '\\' :: 'u' :: Text.hexDigits 4 c.toNat
  else [c]

/-- A text in quotes, before what follows it. -/
def writeString (s : String) (rest : List Char) : List Char :=
  '"' :: (s.toList.flatMap escape ++ '"' :: rest)

/-! ## Values -/

/-- A whole number, before what follows it. -/
def writeInt (i : Int) (rest : List Char) : List Char :=
  let digits := Nat.toDigits 10 i.natAbs ++ rest
  if i < 0 then '-' :: digits else digits

mutual

/-- A value, members in the order they have, before what follows it. -/
def write : Json → List Char → List Char
  | .null, rest => "null".toList ++ rest
  | .bool b, rest => (if b then "true" else "false").toList ++ rest
  | .int i, rest => writeInt i rest
  | .float x, rest => x.chars Binary64.documentLayout ++ rest
  | .str s, rest => writeString s rest
  | .arr [], rest => '[' :: ']' :: rest
  | .arr (v :: vs), rest => '[' :: write v (writeItems vs rest)
  | .obj [], rest => '\x7b' :: '\x7d' :: rest
  | .obj ((name, v) :: ms), rest =>
    '\x7b' :: writeString name (':' :: write v (writeMembers ms rest))

/-- The items after the first one and the closing bracket. -/
def writeItems : List Json → List Char → List Char
  | [], rest => ']' :: rest
  | v :: vs, rest => ',' :: write v (writeItems vs rest)

/-- The members after the first one and the closing brace. -/
def writeMembers : List (String × Json) → List Char → List Char
  | [], rest => '\x7d' :: rest
  | (name, v) :: ms, rest =>
    ',' :: writeString name (':' :: write v (writeMembers ms rest))

end

/-- The canonical text of a value. -/
def canonical (v : Json) : String := String.ofList (write (sorted v) [])

end CallFlow.Json
