import CallFlow.Binary64.Shortest
import CallFlow.Proofs.Binary64.Rounding
import CallFlow.Proofs.Text.Digits

/-!
# Decimals that are read back

The double of a decimal does not depend on the zeros at the end of its coefficient
(`ofDecimal_shift`), and the decimal by which a double is written is read back as the double
(`ofDecimal_shortest`).
-/

namespace CallFlow.Binary64

open Text

/-! ## Rounded decimals -/

theorem ofDecimal_zero (negative : Bool) (e : Int) : ofDecimal ⟨negative, 0, e⟩ = zero negative :=
  rfl

/-- The double of a decimal whose exponent is split in a power above the line and one below. -/
theorem ofDecimal_of_pos (negative : Bool) {n : Nat} (hn : 0 < n) (e : Int) :
    ofDecimal ⟨negative, n, e⟩ =
      if 309 < (digitCount n : Int) + e then .infinite negative
      else if (digitCount n : Int) + e < -323 then zero negative
      else ofQuanta negative (n * tenTo e.toNat * twoTo quantumBits) (tenTo (-e).toNat) := by
  simp only [ofDecimal, Nat.ne_of_gt hn, if_false, digitCount]
  cases e with
  | ofNat e => simp
  | negSucc e => simp

/-- Zeros at the end of a coefficient do not count. -/
theorem ofDecimal_shift (negative : Bool) (n j : Nat) (e : Int) :
    ofDecimal ⟨negative, n * tenTo j, e - j⟩ = ofDecimal ⟨negative, n, e⟩ := by
  rcases Nat.eq_zero_or_pos n with rfl | hn
  · rw [Nat.zero_mul, ofDecimal_zero, ofDecimal_zero]
  have places : (digitCount (n * tenTo j) : Int) + (e - j) = digitCount n + e := by
    rw [digitCount_mul_tenTo hn]
    omega
  have powers : tenTo j * tenTo (e - j).toNat * tenTo (-e).toNat =
      tenTo e.toNat * tenTo (-(e - j)).toNat := by
    rw [← tenTo_add, ← tenTo_add, ← tenTo_add]
    exact congrArg tenTo (by omega)
  have same : ofQuanta negative (n * tenTo j * tenTo (e - j).toNat * twoTo quantumBits)
        (tenTo (-(e - j)).toNat) =
      ofQuanta negative (n * tenTo e.toNat * twoTo quantumBits) (tenTo (-e).toNat) := by
    refine ofQuanta_congr negative (tenTo_pos _) (tenTo_pos _) ?_
    generalize twoTo quantumBits = unit
    calc n * tenTo j * tenTo (e - j).toNat * unit * tenTo (-e).toNat
      _ = n * unit * (tenTo j * tenTo (e - j).toNat * tenTo (-e).toNat) := by ac_rfl
      _ = n * unit * (tenTo e.toNat * tenTo (-(e - j)).toNat) := by rw [powers]
      _ = n * tenTo e.toNat * unit * tenTo (-(e - j)).toNat := by ac_rfl
  rw [ofDecimal_of_pos negative (Nat.mul_pos hn (tenTo_pos j)), ofDecimal_of_pos negative hn,
    places,
    same]

/-! ## The shortest decimal -/

theorem quanta_pos {rank : Nat} (h : rank ≠ 0) : 0 < quanta rank := by
  rcases Nat.lt_or_ge rank (twoTo 52) with small | large
  · rw [quanta_of_lt small]
    exact Nat.pos_of_ne_zero h
  · rw [quanta_of_le large]
    exact Nat.mul_pos (Nat.add_pos_left (twoTo_pos 52) _) (twoTo_pos _)

theorem quanta_lt (rank : Fin finiteCount) : quanta rank < twoTo (53 + 2045) := by
  rcases Nat.lt_or_ge rank (twoTo 52) with small | large
  · rw [quanta_of_lt small]
    exact Nat.lt_of_lt_of_le small (twoTo_le (by decide))
  · have binade : rank.val / twoTo 52 < 2047 :=
      Nat.div_lt_of_lt_mul (Nat.mul_comm _ _ ▸ rank.isLt)
    have low : rank.val % twoTo 52 < twoTo 52 := Nat.mod_lt _ (twoTo_pos 52)
    rw [quanta_of_le large]
    have double : twoTo 53 = twoTo 52 + twoTo 52 := by decide
    have significand : twoTo 52 + rank.val % twoTo 52 < twoTo 53 := by omega
    calc _ < twoTo 53 * twoTo (rank.val / twoTo 52 - 1) :=
          Nat.mul_lt_mul_of_pos_right significand (twoTo_pos _)
      _ ≤ twoTo 53 * twoTo 2045 := Nat.mul_le_mul_left _ (twoTo_le (by omega))
      _ = twoTo (53 + 2045) := (twoTo_add 53 2045).symm

/-- The exact decimal of a double has 751 to 1383 digits, so it is rounded, and rounded to the
double. -/
theorem ofDecimal_exactDecimal (negative : Bool) (rank : Fin finiteCount) (h : rank.val ≠ 0) :
    ofDecimal (exactDecimal negative rank) = .finite negative rank := by
  have hq := quanta_pos h
  have pos : 0 < quanta rank * Nat.pow 5 quantumBits := Nat.mul_pos hq (fiveTo_pos _)
  have most : digitCount (quanta rank * Nat.pow 5 quantumBits) ≤ 1383 := by
    rw [digitCount_le_iff (by decide)]
    calc _ < twoTo (53 + 2045) * Nat.pow 5 quantumBits :=
          Nat.mul_lt_mul_of_pos_right (quanta_lt rank) (fiveTo_pos _)
      _ ≤ tenTo 1383 := by decide +kernel
  have least : ¬digitCount (quanta rank * Nat.pow 5 quantumBits) ≤ 750 := by
    rw [digitCount_le_iff (by decide), Nat.not_lt]
    calc tenTo 750 ≤ Nat.pow 5 quantumBits := by decide +kernel
      _ ≤ _ := Nat.le_mul_of_pos_left _ hq
  have bits : quantumBits = 1074 := rfl
  have above : (-(quantumBits : Int)).toNat = 0 := by omega
  have below : (-(-(quantumBits : Int))).toNat = quantumBits := by omega
  rw [exactDecimal, ofDecimal_of_pos negative pos, if_neg (by omega), if_neg (by omega), above,
    below,
    ← ofQuanta_quanta negative rank (tenTo_pos quantumBits)]
  refine congrArg (ofQuanta negative · (tenTo quantumBits)) ?_
  rw [tenTo_eq_mul quantumBits]
  generalize twoTo quantumBits = unit
  rw [show tenTo 0 = 1 from rfl, Nat.mul_one, Nat.mul_assoc]

/-- The decimal by which a double is written is read back as the double. -/
theorem ofDecimal_shortest (negative : Bool) (rank : Fin finiteCount) :
    ofDecimal (shortest negative rank) = .finite negative rank := by
  rw [shortest]
  split
  · rename_i h
    rw [ofDecimal_zero, zero]
    exact congrArg (finite negative) (Fin.ext h.symm)
  · rename_i h
    cases found : (List.range' 1 17).findSome? (readBack? negative rank) with
    | none => exact ofDecimal_exactDecimal negative rank h
    | some d =>
      obtain ⟨digits, -, hd⟩ := List.exists_of_findSome?_eq_some found
      simpa using List.find?_some hd

end CallFlow.Binary64
