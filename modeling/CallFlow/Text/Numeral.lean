import CallFlow.Binary64
import CallFlow.Text.Blank

/-!
# Numbers spelled in texts

Forms are lenient: a text may stand where a number is declared, if it spells one. A numeral is first
tried in its plain form, then without what readers put into numbers for their own sake: white space
around it, a plus sign, zeros in front, underscores between digits.
-/

namespace CallFlow.Text

/-- The most digits that a whole number may be written with. -/
def maxDigits : Nat := 4300

/-- A minus sign, if there is one, and what follows it. -/
def splitMinus : List Char → Bool × List Char
  | '-' :: cs => (true, cs)
  | cs => (false, cs)

/-- A sign, if there is one, and what follows it. -/
def splitSign : List Char → Bool × List Char
  | '+' :: cs => (false, cs)
  | cs => splitMinus cs

/-- The number of a sign and digits. -/
def signed (negative : Bool) (digits : List Char) : Int :=
  let n : Int := Nat.ofDigitChars 10 digits 0
  if negative then -n else n

/-- The characters without underscores, if every underscore stands between two others. -/
def withoutUnderscores? : List Char → Option (List Char)
  | [] => some []
  | '_' :: _ => none
  | [c] => some [c]
  | c :: '_' :: cs => if cs.isEmpty then none else (withoutUnderscores? cs).map (c :: ·)
  | c :: cs => (withoutUnderscores? cs).map (c :: ·)

/-! ## Whole numbers -/

/-- Why a text does not give a whole number. -/
inductive NumeralFault where
  /-- It spells none. -/
  | malformed
  /-- Its digits are too many. -/
  | tooLong
deriving DecidableEq, Repr

/-- The whole number of a numeral in plain form: a minus sign, if any, and digits of which the first
is no zero unless it is the only one. Too many digits are refused before what follows them is looked
at. -/
def plainWhole (cs : List Char) : Except NumeralFault Int :=
  let (negative, cs) := splitMinus cs
  match cs.span Char.isDigit with
  | ([], _) => .error .malformed
  | (first :: others, rest) =>
    if first = '0' ∧ !others.isEmpty then .error .malformed
    else if maxDigits < others.length + 1 then .error .tooLong
    else if rest.isEmpty then .ok (signed negative (first :: others))
    else .error .malformed

/-- What follows a zero in front, and the zero or underscore last passed by: more of them are passed
by, and before a point the last one is kept. -/
def afterZero? (last : Char) : List Char → Option (List Char)
  | [] => some [last]
  | c :: cs =>
    if c = '0' ∨ c = '_' then afterZero? c cs
    else if c = '.' then some (last :: c :: cs)
    else if c.isDigit ∨ c = '-' then some (c :: cs)
    else none

/-- A numeral without the zeros in front of it, and the underscores among them. A minus sign keeps
the zeros that follow it. -/
def withoutZeros? : List Char → Option (List Char)
  | [] => none
  | c :: cs =>
    if c = '0' then afterZero? c cs
    else if c.isDigit ∨ c = '-' then some (c :: cs)
    else none

/-- A numeral without a fraction of zeros. -/
def withoutFraction (cs : List Char) : List Char :=
  match cs.span (· != '.') with
  | (whole, _ :: zeros) => if !zeros.isEmpty && zeros.all (· == '0') then whole else cs
  | _ => cs

/-- The characters without a plus sign in front. -/
def withoutPlus : List Char → List Char
  | '+' :: cs => cs
  | cs => cs

/-- A numeral brought into plain form. -/
def tidied? (cs : List Char) : Option (List Char) :=
  (withoutZeros? (withoutPlus (trim cs))).map fun cs ↦
    let cs := withoutFraction cs
    (withoutUnderscores? cs).getD cs

/-- The whole number that a text spells. -/
def wholeNumber (text : String) : Except NumeralFault Int :=
  match plainWhole text.toList with
  | .error .malformed => match tidied? text.toList with
    | some cs => plainWhole cs
    | none => .error .malformed
  | result => result

/-! ## Doubles -/

/-- The exponent that a numeral ends in, zero if it has none. -/
def exponent? : List Char → Option Int
  | [] => some 0
  | mark :: cs =>
    let (negative, digits) := splitSign cs
    if (mark == 'e' || mark == 'E') && !digits.isEmpty && digits.all Char.isDigit then
      some (signed negative digits)
    else none

/-- The double of a numeral in plain form: digits on at least one side of an optional point, an
optional exponent, or one of three words in letters of either case. -/
def plainDouble? (cs : List Char) : Option Binary64 := do
  let (negative, cs) := splitSign cs
  match String.ofList (cs.map Char.toLower) with
  | "inf" | "infinity" => some (.infinite negative)
  | "nan" => some .nan
  | _ =>
    let (whole, cs) := cs.span Char.isDigit
    let (fraction, cs) := match cs with
      | '.' :: cs => cs.span Char.isDigit
      | cs => ([], cs)
    let exponent ← exponent? cs
    if whole.isEmpty && fraction.isEmpty then none
    else some (.ofDecimal ⟨negative, Nat.ofDigitChars 10 (whole ++ fraction) 0,
      exponent - fraction.length⟩)

/-- The double that a text spells, with white space around it and underscores anywhere between two
of its characters. -/
def double? (text : String) : Option Binary64 :=
  let cs := text.toList
  (plainDouble? (trim cs)).or ((withoutUnderscores? cs).bind fun cs ↦ plainDouble? (trim cs))

end CallFlow.Text
