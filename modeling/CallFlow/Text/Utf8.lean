/-!
# UTF-8

Bytes as text. Bytes that are no UTF-8 still give a text: a replacement character stands for every
byte that begins no character, and one for every character that breaks off.
-/

namespace CallFlow.Text.Utf8

/-- A character of which only the first bytes are known. -/
structure Begun where
  /-- How many bytes are still to come. -/
  missing : Nat
  /-- The least byte that may come next. -/
  least : Nat
  /-- The greatest byte that may come next. -/
  greatest : Nat
  /-- The number that the known bits form. -/
  bits : Nat
deriving DecidableEq, Repr

/-- The replacement character. -/
def replacement : Char := '\ufffd'

/-- A byte between characters: the characters that it completes, and the one that it begins. The
ranges of the second byte leave out overlong forms, surrogates and numbers beyond the last code
point. -/
def start (b : Nat) : List Char × Option Begun :=
  if b < 0x80 then ([Char.ofNat b], none)
  else if b < 0xC2 then ([replacement], none)
  else if b < 0xE0 then ([], some ⟨1, 0x80, 0xBF, b - 0xC0⟩)
  else if b < 0xF0 then
    ([], some ⟨2, if b = 0xE0 then 0xA0 else 0x80, if b = 0xED then 0x9F else 0xBF, b - 0xE0⟩)
  else if b < 0xF5 then
    ([], some ⟨3, if b = 0xF0 then 0x90 else 0x80, if b = 0xF4 then 0x8F else 0xBF, b - 0xF0⟩)
  else ([replacement], none)

/-- A further byte. One that does not go on with a character breaks it off. -/
def step : Option Begun → Nat → List Char × Option Begun
  | none, b => start b
  | some begun, b =>
    if begun.least ≤ b ∧ b ≤ begun.greatest then
      let bits := begun.bits * 0x40 + (b - 0x80)
      if begun.missing = 1 then ([Char.ofNat bits], none)
      else ([], some ⟨begun.missing - 1, 0x80, 0xBF, bits⟩)
    else
      let (cs, next) := start b
      (replacement :: cs, next)

/-- The characters that bytes add to what has begun. -/
def decodeFrom : Option Begun → List UInt8 → List Char
  | none, [] => []
  | some _, [] => [replacement]
  | begun, b :: bytes =>
    let (cs, next) := step begun b.toNat
    cs ++ decodeFrom next bytes

/-- The text of some bytes. -/
def decode (bytes : List UInt8) : String := String.ofList (decodeFrom none bytes)

end CallFlow.Text.Utf8
