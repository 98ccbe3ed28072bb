import CallFlow.Binary64

/-!
# Shortest decimals

The decimal by which a double is written: the fewest significant digits that are read back as the
double, and of those the nearest to it. On each grid of so many significant digits only the two
neighbours of the double can be nearest, so only they are tried.
-/

namespace CallFlow.Binary64

/-- The place of the first significant digit of `q` quanta (`q` positive): `10 ^ place` is the
greatest power of ten not above it. Scaling by `10 ^ 324` makes even one quantum whole. -/
def leadingPlace (q : Nat) : Int :=
  (Nat.toDigits 10 (q * tenTo 324 / twoTo quantumBits)).length - 325

/-- `q` quanta as a fraction of the unit `10 ^ place`. -/
def inUnits (q : Nat) : (place : Int) → Nat × Nat
  | .ofNat p => (q, twoTo quantumBits * tenTo p)
  | .negSucc p => (q * tenTo (p + 1), twoTo quantumBits)

/-- The neighbours of `q` quanta on the grid of multiples of `10 ^ place`, the nearer one first;
of two equally near ones, the even one. -/
def neighbours (q : Nat) (place : Int) : List Nat :=
  let (n, d) := inUnits q place
  let below := n / d
  let twice := 2 * (n % d)
  if twice = 0 then [below]
  else if twice < d ∨ (twice = d ∧ below % 2 = 0) then [below, below + 1]
  else [below + 1, below]

/-- The decimal of the given number of significant digits that is read back as the double, the
nearer neighbour if both are. -/
def readBack? (negative : Bool) (rank : Fin finiteCount) (digits : Nat) : Option Decimal :=
  let q := quanta rank
  let place := leadingPlace q - (digits - 1 : Nat)
  (neighbours q place).map (⟨negative, ·, place⟩) |>.find?
    fun d => decide (ofDecimal d = .finite negative rank)

/-- The decimal that is the double itself: a quantum has 1074 decimal places. -/
def exactDecimal (negative : Bool) (rank : Fin finiteCount) : Decimal :=
  ⟨negative, quanta rank * Nat.pow 5 quantumBits, -quantumBits⟩

/-- The shortest decimal that is read back as the double. Some grid of at most 17 digits has one;
the exact decimal stands behind them so that there is an answer in any case. -/
def shortest (negative : Bool) (rank : Fin finiteCount) : Decimal :=
  if rank.val = 0 then ⟨negative, 0, 0⟩
  else ((List.range' 1 17).findSome? (readBack? negative rank)).getD (exactDecimal negative rank)

end CallFlow.Binary64
