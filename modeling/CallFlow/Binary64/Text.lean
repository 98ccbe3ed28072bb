import CallFlow.Binary64.Shortest

/-!
# Written doubles

The text of a double in a document: its shortest decimal, laid out by one record of decisions.
-/

namespace CallFlow.Binary64

/-- The decisions of a number format that do not follow from the value. -/
structure Layout where
  /-- The least place of a leading digit that is written positionally. -/
  leastPositional : Int
  /-- The least place of a leading digit that is written with an exponent again. -/
  leastScientific : Int
  exponentMark : Char
  /-- Exponents have at least this many digits. -/
  exponentWidth : Nat
  nan : String
  infinity : String

/-- Documents write places `-4` to `15` positionally and always with a point, a signed exponent
of two digits or more elsewhere, and words for the values that are no numbers. -/
def documentLayout : Layout where
  leastPositional := -4
  leastScientific := 16
  exponentMark := 'e'
  exponentWidth := 2
  nan := "NaN"
  infinity := "Infinity"

/-- The digits of a coefficient without trailing zeros, at least one digit. -/
def significant (coefficient : Nat) : List Char :=
  match (Nat.toDigits 10 coefficient).reverse.dropWhile (· == '0') with
  | [] => ['0']
  | ds => ds.reverse

/-- Digits whose first one stands at `place`, written around a point. -/
def positional (digits : List Char) : (place : Int) → List Char
  | .ofNat p =>
    let whole := digits.take (p + 1)
    let fraction := digits.drop (p + 1)
    whole ++ List.replicate (p + 1 - whole.length) '0' ++ '.' ::
      (if fraction.isEmpty then ['0'] else fraction)
  | .negSucc p => '0' :: '.' :: (List.replicate p '0' ++ digits)

/-- Digits whose first one stands at `place`, written with an exponent. -/
def scientific (layout : Layout) (digits : List Char) (place : Int) : List Char :=
  let exponent := Nat.toDigits 10 place.natAbs
  digits.take 1 ++ (if digits.length ≤ 1 then [] else '.' :: digits.drop 1) ++
    layout.exponentMark :: (if place < 0 then '-' else '+') ::
      (List.replicate (layout.exponentWidth - exponent.length) '0' ++ exponent)

/-- The layout of a decimal. A zero coefficient has its only digit at place zero. -/
def Decimal.layOut (layout : Layout) (d : Decimal) : List Char :=
  let digits := significant d.coefficient
  let place : Int :=
    if d.coefficient = 0 then 0 else (Nat.toDigits 10 d.coefficient).length - 1 + d.exponent
  let magnitude :=
    if layout.leastPositional ≤ place ∧ place < layout.leastScientific then
      positional digits place
    else scientific layout digits place
  if d.negative then '-' :: magnitude else magnitude

/-- The text of a double in a layout. -/
def chars (x : Binary64) (layout : Layout) : List Char :=
  match x with
  | .finite negative rank => (shortest negative rank).layOut layout
  | .infinite negative =>
    if negative then '-' :: layout.infinity.toList else layout.infinity.toList
  | .nan => layout.nan.toList

end CallFlow.Binary64
