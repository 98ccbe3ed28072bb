import CallFlow.Binary64

/-!
# Rounding

The rank nearest to a quotient depends on its value only, and the rank nearest to the magnitude of a
rank is the rank itself. So a decimal is rounded alike however many zeros stand at its end, and a
decimal that is a double is rounded to it.
-/

namespace CallFlow.Binary64

/-! ## Powers -/

theorem twoTo_pos (n : Nat) : 0 < twoTo n := Nat.two_pow_pos n

theorem fiveTo_pos (n : Nat) : 0 < Nat.pow 5 n := Nat.pow_pos (by decide)

theorem tenTo_pos (n : Nat) : 0 < tenTo n := Nat.pow_pos (by decide)

theorem twoTo_le {m n : Nat} (h : m ≤ n) : twoTo m ≤ twoTo n := Nat.pow_le_pow_right (by decide) h

theorem twoTo_add (m n : Nat) : twoTo (m + n) = twoTo m * twoTo n := Nat.pow_add ..

theorem tenTo_add (m n : Nat) : tenTo (m + n) = tenTo m * tenTo n := Nat.pow_add ..

theorem tenTo_eq_mul (n : Nat) : tenTo n = Nat.pow 5 n * twoTo n := Nat.mul_pow 5 2 n

/-! ## Quotients -/

theorem roundHalfEven_mul_right (n d : Nat) {c : Nat} (hc : 0 < c) :
    roundHalfEven (n * c) (d * c) = roundHalfEven n d := by
  have scale : ∀ a b : Nat, a * c < b * c ↔ a < b := fun a b ↦ Nat.mul_lt_mul_right hc
  have twice : 2 * (n % d * c) = 2 * (n % d) * c := (Nat.mul_assoc ..).symm
  simp only [roundHalfEven, Nat.mul_div_mul_right n d hc, Nat.mul_mod_mul_right, twice, scale]

theorem roundHalfEven_of_mul (q : Nat) {d : Nat} (hd : 0 < d) : roundHalfEven (q * d) d = q := by
  simp [roundHalfEven, Nat.mul_div_left q hd, hd]

theorem nearestRank_mul_right (n d : Nat) {c : Nat} (hc : 0 < c) :
    nearestRank (n * c) (d * c) = nearestRank n d := by
  simp only [nearestRank, Nat.mul_div_mul_right n d hc]
  rw [Nat.mul_right_comm d c, roundHalfEven_mul_right _ _ hc]

/-- Equal quotients have one nearest rank. -/
theorem nearestRank_congr {n d n' d' : Nat} (hd : 0 < d) (hd' : 0 < d') (h : n * d' = n' * d) :
    nearestRank n d = nearestRank n' d' := by
  rw [← nearestRank_mul_right n d hd', ← nearestRank_mul_right n' d' hd, h, Nat.mul_comm d]

/-! ## Magnitudes -/

theorem quanta_of_lt {rank : Nat} (h : rank < twoTo 52) : quanta rank = rank := if_pos h

theorem quanta_of_le {rank : Nat} (h : twoTo 52 ≤ rank) :
    quanta rank = (twoTo 52 + rank % twoTo 52) * twoTo (rank / twoTo 52 - 1) :=
  if_neg (Nat.not_lt.2 h)

theorem log2_quanta {rank : Nat} (h : twoTo 52 ≤ rank) :
    (quanta rank).log2 = 52 + (rank / twoTo 52 - 1) := by
  have low : rank % twoTo 52 < twoTo 52 := Nat.mod_lt _ (by decide)
  rw [quanta_of_le h]
  generalize rank / twoTo 52 - 1 = k
  have pos := twoTo_pos k
  rw [Nat.log2_eq_iff (Nat.mul_ne_zero (by omega) (by omega))]
  constructor
  · calc 2 ^ (52 + k) = twoTo 52 * twoTo k := Nat.pow_add ..
      _ ≤ _ := Nat.mul_le_mul_right _ (Nat.le_add_right ..)
  · calc _ < (twoTo 52 + twoTo 52) * twoTo k := Nat.mul_lt_mul_of_pos_right (by omega) pos
      _ = twoTo 52 * twoTo k * 2 := by rw [← Nat.two_mul, Nat.mul_assoc, Nat.mul_comm]
      _ = twoTo (52 + k + 1) := by rw [twoTo_add (52 + k) 1, twoTo_add 52 k]

/-- The rank nearest to the magnitude of a rank is that rank. -/
theorem nearestRank_quanta (rank : Nat) {d : Nat} (hd : 0 < d) :
    nearestRank (quanta rank * d) d = rank := by
  rw [nearestRank, Nat.mul_div_left _ hd]
  rcases Nat.lt_or_ge rank (twoTo 52) with h | h
  · have short : rank.log2 - 52 = 0 := by
      rcases Nat.eq_zero_or_pos rank with rfl | pos
      · rfl
      · have := (Nat.log2_lt (Nat.ne_of_gt pos)).2 h
        omega
    simp [quanta_of_lt h, short, roundHalfEven_of_mul rank hd]
  · -- what the shift keeps is the part above the binade, which is where the rank stands in it
    have shift : (quanta rank).log2 - 52 = rank / twoTo 52 - 1 := by
      rw [log2_quanta h]
      omega
    have binade : 1 ≤ rank / twoTo 52 := (Nat.one_le_div_iff (by decide)).2 h
    simp only [shift]
    rw [quanta_of_le h, Nat.mul_assoc, Nat.mul_comm (twoTo _) d,
      roundHalfEven_of_mul _ (d := d * twoTo _) (Nat.mul_pos hd (twoTo_pos _))]
    have := Nat.div_add_mod rank (twoTo 52)
    calc _ = (rank / twoTo 52 - 1 + 1) * twoTo 52 + rank % twoTo 52 := by
          rw [Nat.add_mul, Nat.one_mul, Nat.add_assoc]
      _ = rank := by rw [Nat.sub_add_cancel binade, Nat.mul_comm, this]

theorem ofQuanta_congr (negative : Bool) {n d n' d' : Nat} (hd : 0 < d) (hd' : 0 < d')
    (h : n * d' = n' * d) : ofQuanta negative n d = ofQuanta negative n' d' := by
  simp only [ofQuanta, nearestRank_congr hd hd' h]

theorem ofQuanta_quanta (negative : Bool) (rank : Fin finiteCount) {d : Nat} (hd : 0 < d) :
    ofQuanta negative (quanta rank * d) d = .finite negative rank := by
  simp only [ofQuanta, nearestRank_quanta rank.val hd, rank.isLt, dif_pos]

end CallFlow.Binary64
