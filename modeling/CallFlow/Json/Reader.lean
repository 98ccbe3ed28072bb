import CallFlow.Json
import CallFlow.Text.Hex
import CallFlow.Text.Numeral

/-!
# Read JSON

The value that a text spells. The grammar is strict JSON with blanks around every token, and three
words for doubles that have no numeral. A number with a point or an exponent is a double, any
other a whole number; of a repeated name the last value counts.

Documents come from outside, so how deep they may nest and how long their numbers may be is limited.
The limits are an argument: without them, every value can be read back from its text.

A scanner takes the characters still to be read and answers with what it read and the characters
after it, or with nothing where no such thing begins.
-/

namespace CallFlow.Json

/-! ## Limits -/

/-- What a reader puts up with; nothing is limited unless a number says so. -/
structure Limits where
  /-- How many lists and objects may stand inside each other, empty ones not counted. -/
  depth : Option Nat := none
  /-- How many digits the whole part of a number may have. -/
  digits : Option Nat := none
deriving DecidableEq, Repr

namespace Limits

/-- The limits of stored documents. -/
def document : Limits := ⟨some 200, some Text.maxDigits⟩

/-- The limits inside a list or an object, if there may be one. -/
def inside? (limits : Limits) : Option Limits :=
  match limits.depth with
  | none => some limits
  | some 0 => none
  | some (depth + 1) => some { limits with depth := some depth }

/-- Whether a whole part of so many digits may be read. -/
def admits (limits : Limits) (count : Nat) : Bool := limits.digits.all (count ≤ ·)

end Limits

/-- The blanks between tokens. -/
def isGap (c : Char) : Bool := c == ' ' || c == '\t' || c == '\n' || c == '\r'

def skipGap (cs : List Char) : List Char := cs.dropWhile isGap

/-- The characters after a word at the front. -/
def dropWord? : (word cs : List Char) → Option (List Char)
  | [], cs => some cs
  | _ :: _, [] => none
  | w :: ws, c :: cs => if w = c then dropWord? ws cs else none

/-! ## Words -/

/-- The values that are spelled by a word. -/
def words : List (List Char × Json) :=
  [("null".toList, .null), ("true".toList, .bool true), ("false".toList, .bool false),
   ("NaN".toList, .float .nan), ("Infinity".toList, .float (.infinite false)),
   ("-Infinity".toList, .float (.infinite true))]

def readWord (cs : List Char) : Option (Json × List Char) :=
  words.findSome? fun (word, v) ↦ (dropWord? word cs).map (v, ·)

/-! ## Numbers -/

/-- One or more digits. -/
def readDigits (cs : List Char) : Option (List Char × List Char) :=
  match cs.span Char.isDigit with
  | ([], _) => none
  | (digits, rest) => some (digits, rest)

/-- The digits of a whole part: a zero alone, or no zero in front. -/
def readWhole (limits : Limits) (cs : List Char) : Option (List Char × List Char) :=
  match readDigits cs with
  | some ('0' :: _ :: _, _) => none
  | some (digits, rest) => if limits.admits digits.length then some (digits, rest) else none
  | none => none

/-- The digits after a point, if a point comes next. -/
def readFraction : List Char → Option (Option (List Char) × List Char)
  | '.' :: cs => (readDigits cs).map fun (ds, rest) ↦ (some ds, rest)
  | cs => some (none, cs)

/-- The exponent after its mark and sign. -/
def readMagnitude (negative : Bool) (cs : List Char) : Option (Option Int × List Char) :=
  (readDigits cs).map fun (ds, rest) ↦ (some (Text.signed negative ds), rest)

/-- An exponent, if its mark comes next. -/
def readExponent : List Char → Option (Option Int × List Char)
  | [] => some (none, [])
  | c :: cs =>
    if c = 'e' ∨ c = 'E' then
      match cs with
      | '-' :: cs => readMagnitude true cs
      | '+' :: cs => readMagnitude false cs
      | cs => readMagnitude false cs
    else some (none, c :: cs)

/-- The number of a sign, whole digits, digits after a point and an exponent. -/
def numberOf (negative : Bool) (whole : List Char) :
    Option (List Char) → Option Int → Json
  | none, none => .int (Text.signed negative whole)
  | fraction, exponent =>
    let fraction := fraction.getD []
    .float (.ofDecimal ⟨negative, Nat.ofDigitChars 10 (whole ++ fraction) 0,
      exponent.getD 0 - fraction.length⟩)

/-- A number after its sign. -/
def readUnsigned (limits : Limits) (negative : Bool) (cs : List Char) :
    Option (Json × List Char) := do
  let (whole, cs) ← readWhole limits cs
  let (fraction, cs) ← readFraction cs
  let (exponent, cs) ← readExponent cs
  return (numberOf negative whole fraction exponent, cs)

def readNumber (limits : Limits) (cs : List Char) : Option (Json × List Char) :=
  let (negative, cs) := Text.splitMinus cs
  readUnsigned limits negative cs

/-! ## Texts -/

/-- The code unit of four hexadecimal digits. -/
def hexUnit? (a b c d : Char) : Option Nat := do
  let high := (← Text.hexValue? a) * 16 + (← Text.hexValue? b)
  return (high * 16 + (← Text.hexValue? c)) * 16 + (← Text.hexValue? d)

/-- The character of an escape of one letter. -/
def letterEscape? (c : Char) : Option Char :=
  if c = '"' ∨ c = '\\' ∨ c = '/' then some c
  else if c = 'b' then some '\x08'
  else if c = 'f' then some '\x0c'
  else if c = 'n' then some '\n'
  else if c = 'r' then some '\r'
  else if c = 't' then some '\t'
  else none

/-- The character of a pair of surrogate code units. -/
def surrogatePair? (high low : Nat) : Option Char :=
  if 0xDC00 ≤ low ∧ low < 0xE000 then
    some (Char.ofNat (0x10000 + (high - 0xD800) * 0x400 + (low - 0xDC00)))
  else none

/-- The characters up to the closing quote. Control characters must be escaped, and surrogate
code units must come in pairs. -/
def readChars : List Char → Option (List Char × List Char)
  | [] => none
  | '"' :: cs => some ([], cs)
  | '\\' :: 'u' :: a :: b :: c :: d :: cs =>
    match hexUnit? a b c d with
    | none => none
    | some high =>
      if 0xD800 ≤ high ∧ high < 0xDC00 then
        match cs with
        | '\\' :: 'u' :: a :: b :: c :: d :: cs =>
          match (hexUnit? a b c d).bind (surrogatePair? high) with
          | none => none
          | some ch => (readChars cs).map fun (s, rest) ↦ (ch :: s, rest)
        | _ => none
      else if 0xDC00 ≤ high ∧ high < 0xE000 then none
      else (readChars cs).map fun (s, rest) ↦ (Char.ofNat high :: s, rest)
  | '\\' :: e :: cs =>
    match letterEscape? e with
    | none => none
    | some ch => (readChars cs).map fun (s, rest) ↦ (ch :: s, rest)
  | c :: cs =>
    if c < ' ' ∨ c = '\\' then none
    else (readChars cs).map fun (s, rest) ↦ (c :: s, rest)

/-- A text after its opening quote. -/
def readString (cs : List Char) : Option (String × List Char) :=
  (readChars cs).map fun (s, rest) ↦ (String.ofList s, rest)

/-! ## Values -/

mutual

/-- A value at the front of the characters. The second argument bounds the steps; every step takes
a character, so the number of characters is enough. -/
def readValue (limits : Limits) : Nat → List Char → Option (Json × List Char)
  | 0, _ | _, [] => none
  | steps + 1, c :: cs =>
    if c = '"' then (readString cs).map fun (s, rest) ↦ (.str s, rest)
    else if c = '[' then
      match skipGap cs with
      | ']' :: rest => some (.arr [], rest)
      | cs => do
        let (vs, rest) ← readItems (← limits.inside?) steps cs
        return (.arr vs, rest)
    else if c = '\x7b' then
      match skipGap cs with
      | '\x7d' :: rest => some (.obj [], rest)
      | cs => do
        let (ms, rest) ← readMembers (← limits.inside?) steps cs
        return (.obj (Members.ofPairs ms), rest)
    else (readWord (c :: cs)).or (readNumber limits (c :: cs))

/-- One or more items up to the closing bracket. -/
def readItems (limits : Limits) : Nat → List Char → Option (List Json × List Char)
  | 0, _ => none
  | steps + 1, cs => do
    let (v, cs) ← readValue limits steps cs
    match skipGap cs with
    | ']' :: rest => return ([v], rest)
    | ',' :: cs =>
      let (vs, rest) ← readItems limits steps (skipGap cs)
      return (v :: vs, rest)
    | _ => none

/-- One or more members up to the closing brace. -/
def readMembers (limits : Limits) : Nat → List Char → Option (List (String × Json) × List Char)
  | 0, _ => none
  | steps + 1, cs =>
    match cs with
    | '"' :: cs => do
      let (name, cs) ← readString cs
      match skipGap cs with
      | ':' :: cs =>
        let (v, cs) ← readValue limits steps (skipGap cs)
        match skipGap cs with
        | '\x7d' :: rest => return ([(name, v)], rest)
        | ',' :: cs =>
          let (ms, rest) ← readMembers limits steps (skipGap cs)
          return ((name, v) :: ms, rest)
        | _ => none
      | _ => none
    | _ => none

end

/-- The value that a text spells, if it spells one within the limits. -/
def readWithin? (limits : Limits) (text : String) : Option Json :=
  let cs := text.toList
  match readValue limits (2 * cs.length + 2) (skipGap cs) with
  | some (v, rest) => if (skipGap rest).isEmpty then some v else none
  | none => none

/-- The value that a text spells. -/
def read? (text : String) : Option Json := readWithin? {} text

/-- The value of a stored document. -/
def readDocument? (text : String) : Option Json := readWithin? .document text

end CallFlow.Json
