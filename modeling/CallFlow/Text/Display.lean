import CallFlow.Json
import CallFlow.Binary64.Text
import CallFlow.Text.Hex
import CallFlow.Text.Printable

/-!
# Values in messages

The text by which a message quotes a value that somebody supplied.
-/

namespace CallFlow.Text

/-- A character inside the given quotes. -/
def displayChar (quote c : Char) : List Char :=
  if c = quote ∨ c = '\\' then ['\\', c]
  else if c = '\n' then ['\\', 'n']
  else if c = '\r' then ['\\', 'r']
  else if c = '\t' then ['\\', 't']
  else if isPrintable c then [c]
  else if c.toNat < 0x100 then '\\' :: 'x' :: hexDigits 2 c.toNat
  else if c.toNat < 0x10000 then '\\' :: 'u' :: hexDigits 4 c.toNat
  else '\\' :: 'U' :: hexDigits 8 c.toNat

/-- Texts stand in single quotes, or in double quotes if they hold only single ones. -/
def displayString (s : String) : List Char :=
  let cs := s.toList
  let quote := if cs.contains '\'' && !cs.contains '"' then '"' else '\''
  quote :: (cs.flatMap (displayChar quote) ++ [quote])

/-- Messages write doubles as documents do, with shorter words for the values that are no
numbers. -/
def messageLayout : Binary64.Layout :=
  { Binary64.documentLayout with nan := "nan", infinity := "inf" }

mutual

/-- A value in a message. -/
def displayChars : Json → List Char
  | .null => "None".toList
  | .bool b => (if b then "True" else "False").toList
  | .int i => (toString i).toList
  | .float x => x.chars messageLayout
  | .str s => displayString s
  | .arr items => '[' :: (displayItems items ++ [']'])
  | .obj members => '\x7b' :: (displayMembers members ++ ['\x7d'])

/-- Items with commas between them. -/
def displayItems : List Json → List Char
  | [] => []
  | [v] => displayChars v
  | v :: w :: rest => displayChars v ++ ',' :: ' ' :: displayItems (w :: rest)

/-- Members with commas between them. -/
def displayMembers : List (String × Json) → List Char
  | [] => []
  | [(name, v)] => displayString name ++ ':' :: ' ' :: displayChars v
  | (name, v) :: m :: rest =>
    displayString name ++ ':' :: ' ' :: (displayChars v ++ ',' :: ' ' :: displayMembers (m :: rest))

end

/-- The text of a value in a message. -/
def display (v : Json) : String := String.ofList (displayChars v)

end CallFlow.Text
