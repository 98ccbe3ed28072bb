/-!
# Double-precision numbers

The numbers that a JSON document writes with a point or an exponent: the finite doubles, two
infinities and one not-a-number. A finite magnitude is held by its *rank*, its place in the
increasing list of all finite magnitudes, so that rounding is the choice of a rank and two doubles
are the same exactly when their terms are.

All arithmetic is exact arithmetic on natural numbers followed by one rounding. The unit of
measure is the *quantum* `2 ^ -1074`, the least positive double: every finite double is a whole
number of quanta.
-/

namespace CallFlow

/-- The powers of two. -/
abbrev twoTo (n : Nat) : Nat := Nat.pow 2 n

/-- The powers of ten. -/
abbrev tenTo (n : Nat) : Nat := Nat.pow 10 n

/-- How many finite magnitudes there are: 2047 binades of `2 ^ 52`. -/
def Binary64.finiteCount : Nat := 2047 * twoTo 52

/-- A double: a sign and the rank of a finite magnitude, an infinity, or not a number. -/
inductive Binary64 where
  | finite (negative : Bool) (rank : Fin Binary64.finiteCount)
  | infinite (negative : Bool)
  | nan
deriving DecidableEq, Repr

namespace Binary64

/-! ## Ranks and quanta -/

/-- A quantum is `2 ^ -quantumBits`. -/
def quantumBits : Nat := 1074

/-- The magnitude of a rank, in quanta: the first two binades are spaced by one quantum, and the
spacing doubles with every binade after them. -/
def quanta (rank : Nat) : Nat :=
  if rank < twoTo 52 then rank
  else (twoTo 52 + rank % twoTo 52) * twoTo (rank / twoTo 52 - 1)

/-- The natural number nearest to `n / d`; of two equally near ones, the even one. -/
def roundHalfEven (n d : Nat) : Nat :=
  let q := n / d
  let twice := 2 * (n % d)
  if twice < d then q else if d < twice then q + 1 else q + q % 2

/-- The rank nearest to `n / d` quanta, counted on without end above the finite ranks. The shift
keeps 53 significant bits; a carry into the next binade lands on its first rank. -/
def nearestRank (n d : Nat) : Nat :=
  let shift := (n / d).log2 - 52
  shift * twoTo 52 + roundHalfEven n (d * twoTo shift)

/-- The double nearest to `n / d` quanta with the given sign, an infinity past the last rank. -/
def ofQuanta (negative : Bool) (n d : Nat) : Binary64 :=
  let rank := nearestRank n d
  if h : rank < finiteCount then .finite negative ⟨rank, h⟩ else .infinite negative

/-- The zero of a sign. -/
def zero (negative : Bool) : Binary64 := .finite negative ⟨0, by decide⟩

/-! ## Whole numbers -/

/-- The double nearest to a whole number. -/
def ofInt (i : Int) : Binary64 :=
  ofQuanta (decide (i < 0)) (i.natAbs * twoTo quantumBits) 1

/-- The whole number that a double is, if it is one. -/
def toInt? : Binary64 → Option Int
  | .finite negative rank =>
    let q := quanta rank
    if q % twoTo quantumBits = 0 then
      let n : Int := q / twoTo quantumBits
      some (if negative then -n else n)
    else none
  | _ => none

/-- Neither infinite nor not-a-number. -/
def isFinite : Binary64 → Bool
  | .finite .. => true
  | _ => false

/-- Zero of either sign. -/
def isZero : Binary64 → Bool
  | .finite _ rank => rank.val == 0
  | _ => false

/-! ## Sum and product -/

/-- The signed number of quanta of a finite double. -/
def signedQuanta (negative : Bool) (rank : Nat) : Int :=
  if negative then -(quanta rank : Int) else quanta rank

/-- The rounded sum; a zero sum is negative only when both terms are. -/
def add : Binary64 → Binary64 → Binary64
  | .nan, _ | _, .nan => .nan
  | .infinite s, .infinite t => if s = t then .infinite s else .nan
  | .infinite s, .finite .. | .finite .., .infinite s => .infinite s
  | .finite s a, .finite t b =>
    let total := signedQuanta s a + signedQuanta t b
    if total = 0 then zero (s && t) else ofQuanta (decide (total < 0)) total.natAbs 1

/-- The rounded product, whose sign is the product of the signs. -/
def mul : Binary64 → Binary64 → Binary64
  | .nan, _ | _, .nan => .nan
  | .infinite s, .infinite t => .infinite (s != t)
  | .infinite s, .finite t a | .finite t a, .infinite s =>
    if a.val = 0 then .nan else .infinite (s != t)
  | .finite s a, .finite t b => ofQuanta (s != t) (quanta a * quanta b) (twoTo quantumBits)

instance : Add Binary64 := ⟨add⟩
instance : Mul Binary64 := ⟨mul⟩

/-! ## Decimals -/

/-- A decimal numeral `± coefficient · 10 ^ exponent`. -/
structure Decimal where
  negative : Bool
  coefficient : Nat
  exponent : Int
deriving DecidableEq, Repr

/-- The double nearest to a decimal. The first two cases are what rounding gives at magnitudes
that need not be written out: above every double and below half a quantum. -/
def ofDecimal (d : Decimal) : Binary64 :=
  if d.coefficient = 0 then zero d.negative
  else
    let digits : Int := (Nat.toDigits 10 d.coefficient).length
    if 309 < digits + d.exponent then .infinite d.negative
    else if digits + d.exponent < -323 then zero d.negative
    else match d.exponent with
      | .ofNat e => ofQuanta d.negative (d.coefficient * tenTo e * twoTo quantumBits) 1
      | .negSucc e => ofQuanta d.negative (d.coefficient * twoTo quantumBits) (tenTo (e + 1))

end Binary64

end CallFlow
