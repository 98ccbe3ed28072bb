import CallFlow.Schema
import CallFlow.Text.Numeral

/-!
# Checked scalars

Texts are taken as they are. Where a truth value or a number is declared, other values that
plainly mean one are taken for it.
-/

namespace CallFlow.Schema

/-- A text. -/
def text : Json → Checked String
  | .str s => .sound s
  | _ => .fail .textType

/-- A text whose number of characters is bounded. -/
def boundedText (least : Nat) (most : Option Nat) (v : Json) : Checked String :=
  (text v).andThen fun s ↦
    if s.length < least then .fail .textTooShort
    else if most.any (· < s.length) then .fail .textTooLong
    else .sound s

/-- A text of at least one character. -/
def nonemptyText : Json → Checked String := boundedText 1 none

/-- One of finitely many words. -/
def choice {α : Type} (ofText? : String → Option α) : Json → Checked α
  | .str s => match ofText? s with
    | some a => .sound a
    | none => .fail .choice
  | _ => .fail .choice

/-! ## Truth values -/

/-- The words for a truth value, in letters of either case. -/
def truthWord? (s : String) : Option Bool :=
  let s := String.ofList (s.toList.map Char.toLower)
  if ["1", "on", "t", "true", "y", "yes"].contains s then some true
  else if ["0", "off", "f", "false", "n", "no"].contains s then some false
  else none

/-- Zero and one. -/
def truthNumber? (i : Int) : Option Bool :=
  if i = 0 then some false else if i = 1 then some true else none

def boolOr (rule : Rule) : Option Bool → Checked Bool
  | some b => .sound b
  | none => .fail rule

/-- Whole numbers of 64 bits with a sign. -/
def isWord64 (i : Int) : Bool := decide (-9223372036854775808 ≤ i ∧ i ≤ 9223372036854775807)

/-- The whole number that a double stands for. Whole doubles stand for themselves, but only inside
the range of 64 bits: at its ends a double is no longer told apart from its neighbours outside. -/
def wholeOfDouble (x : Binary64) : Except Rule Int :=
  match x.toInt? with
  | some i =>
    if -9223372036854775808 < i ∧ i < 9223372036854775808 then .ok i else .error .wholeSize
  | none => .error (if x.isFinite then .wholeFraction else .wholeInfinite)

/-- A truth value: itself, zero or one, or a word for it. -/
def bool : Json → Checked Bool
  | .bool b => .sound b
  | .str s => boolOr .boolText (truthWord? s)
  | .int i => if isWord64 i then boolOr .boolText (truthNumber? i) else .fail .boolType
  | .float x => match wholeOfDouble x with
    | .ok i => boolOr .boolText (truthNumber? i)
    | .error _ => .fail .boolType
  | _ => .fail .boolType

/-! ## Numbers -/

/-- Truth values count as one and zero. -/
def boolToInt (b : Bool) : Int := if b then 1 else 0

/-- The rule that a text breaks which is no whole number. -/
def ruleOf : Text.NumeralFault → Rule
  | .malformed => .wholeText
  | .tooLong => .wholeSize

/-- A result, with the rule that its absence breaks. -/
def ofRule {α : Type} : Except Rule α → Checked α
  | .ok a => .sound a
  | .error rule => .fail rule

/-- A whole number: itself, a truth value, a double without fraction, or a numeral. -/
def whole : Json → Checked Int
  | .int i => .sound i
  | .bool b => .sound (boolToInt b)
  | .float x => ofRule (wholeOfDouble x)
  | .str s => ofRule ((Text.wholeNumber s).mapError ruleOf)
  | _ => .fail .wholeType

/-- Two faults of one value, one for each kind that it might have been. -/
def neither {α : Type} (first : String) (rule : Rule) (second : String) (rule' : Rule) :
    Checked α :=
  .faulty [⟨rule, [.key first]⟩, ⟨rule', [.key second]⟩]

/-- A number: a whole number or a double kept as it is, a truth value, or a numeral. -/
def number : Json → Checked Json
  | .int i => .sound (.int i)
  | .float x => .sound (.float x)
  | .bool b => .sound (.int (boolToInt b))
  | .str s => match Text.wholeNumber s with
    | .ok i => .sound (.int i)
    | .error e => match Text.double? s with
      | some x => .sound (.float x)
      | none => neither "int" (ruleOf e) "float" .doubleText
  | _ => neither "int" .wholeType "float" .doubleType

/-- A name given by a text or by a whole number, as text. -/
def label : Json → Checked String
  | .str s => .sound s
  | v => match whole v with
    | .sound i => .sound (toString i)
    | .faulty es => .faulty (⟨.textType, [.key "str"]⟩ ::
        es.map fun e ↦ { e with path := .key "int" :: e.path })

end CallFlow.Schema
