import CallFlow.Binary64.Text
import Mathlib.Data.List.Basic
import Mathlib.Data.List.TakeWhile

/-!
# Digits

The digits by which numbers are written, and the numbers that digits stand for.
-/

namespace CallFlow.Text

/-! ## Numbers in digits -/

/-- How many digits a number is written with. -/
def digitCount (n : Nat) : Nat := (Nat.toDigits 10 n).length

theorem digitCount_le_iff {n k : Nat} (hk : 0 < k) : digitCount n ≤ k ↔ n < tenTo k :=
  Nat.length_toDigits_le_iff (by decide) hk

theorem isDigit_of_mem_toDigits {n : Nat} {c : Char} (h : c ∈ Nat.toDigits 10 n) :
    c.isDigit = true := Nat.isDigit_of_mem_toDigits (by decide) (by decide) h

theorem isDigit_of_mem_replicate {n : Nat} : ∀ c ∈ List.replicate n '0', c.isDigit = true :=
  fun c hc ↦ by
    rw [(List.mem_replicate.1 hc).2]
    rfl

theorem toDigits_mul_ten {n : Nat} (hn : 0 < n) :
    Nat.toDigits 10 (n * 10) = Nat.toDigits 10 n ++ ['0'] := by
  have := Nat.toDigits_append_toDigits (b := 10) (d := 0) (by decide) hn (by decide)
  rw [Nat.mul_comm, ← Nat.add_zero (10 * n), ← this, Nat.toDigits_zero]

theorem toDigits_mul_tenTo {n : Nat} (hn : 0 < n) (j : Nat) :
    Nat.toDigits 10 (n * tenTo j) = Nat.toDigits 10 n ++ List.replicate j '0' := by
  induction j with
  | zero => simp
  | succ j ih =>
    have split : n * tenTo (j + 1) = n * tenTo j * 10 := (Nat.mul_assoc ..).symm
    have pos : 0 < n * tenTo j := Nat.mul_pos hn (Nat.pow_pos (by decide))
    rw [split, toDigits_mul_ten pos, ih, List.append_assoc,
      ← List.replicate_succ']

theorem digitCount_mul_tenTo {n : Nat} (hn : 0 < n) (j : Nat) :
    digitCount (n * tenTo j) = digitCount n + j := by
  rw [digitCount, toDigits_mul_tenTo hn, List.length_append, List.length_replicate]
  rfl

/-- No number but zero is written with a zero in front. -/
theorem head?_toDigits {n : Nat} (hn : 0 < n) : (Nat.toDigits 10 n).head? ≠ some '0' := by
  induction n using Nat.strongRecOn with
  | ind n ih =>
    rcases Nat.lt_or_ge n 10 with h | h
    · have small : ∀ d, d < 10 → 0 < d → d.digitChar ≠ '0' := by decide
      rw [Nat.toDigits_of_lt_base h, List.head?_cons]
      exact fun e ↦ small n h hn (Option.some.inj e)
    · rw [Nat.toDigits_of_base_le (by decide) h, List.head?_append_of_ne_nil _ Nat.toDigits_ne_nil]
      exact ih (n / 10) (Nat.div_lt_self hn (by decide)) (Nat.div_pos h (by decide))

/-! ## Digits as numbers -/

/-- The number that digits stand for. -/
def value (digits : List Char) : Nat := Nat.ofDigitChars 10 digits 0

theorem value_toDigits (n : Nat) : value (Nat.toDigits 10 n) = n := Nat.ofDigitChars_ten_toDigits

theorem value_append (digits more : List Char) :
    value (digits ++ more) = value digits * tenTo more.length + value more := by
  rw [value, Nat.ofDigitChars_append, Nat.ofDigitChars_eq_ofDigitChars_zero, Nat.mul_comm]
  rfl

theorem value_replicate_zero (j : Nat) : value (List.replicate j '0') = 0 := by simp [value]

theorem value_zeros_append (j : Nat) (digits : List Char) :
    value (List.replicate j '0' ++ digits) = value digits := by
  rw [value_append, value_replicate_zero, Nat.zero_mul, Nat.zero_add]

theorem value_append_zeros (digits : List Char) (j : Nat) :
    value (digits ++ List.replicate j '0') = value digits * tenTo j := by
  rw [value_append, value_replicate_zero, List.length_replicate, Nat.add_zero]

/-! ## Significant digits -/

open Binary64 (significant)

/-- The digits of a number are the significant ones and zeros. -/
theorem exists_zeros (n : Nat) :
    ∃ k, Nat.toDigits 10 n = significant n ++ List.replicate k '0' := by
  let zeros := (Nat.toDigits 10 n).reverse.takeWhile (· == '0')
  let others := (Nat.toDigits 10 n).reverse.dropWhile (· == '0')
  have hz : zeros = List.replicate zeros.length '0' :=
    List.eq_replicate_iff.2 ⟨rfl, fun c hc ↦ by simpa using List.mem_takeWhile_imp hc⟩
  have ends : Nat.toDigits 10 n = others.reverse ++ List.replicate zeros.length '0' := by
    calc Nat.toDigits 10 n = (zeros ++ others).reverse := by
          rw [List.takeWhile_append_dropWhile, List.reverse_reverse]
      _ = others.reverse ++ zeros.reverse := List.reverse_append
      _ = _ := by rw [hz, List.reverse_replicate, List.length_replicate]
  rw [significant]
  split
  · rename_i none
    have zero : n = 0 := by
      rw [← value_toDigits n, ends, show others = [] from none, List.reverse_nil, List.nil_append,
        value_replicate_zero]
    exact ⟨0, by rw [zero, Nat.toDigits_zero]; rfl⟩
  · exact ⟨zeros.length, ends⟩

theorem significant_ne_nil (n : Nat) : significant n ≠ [] := by
  rw [significant]
  split
  · simp
  · rename_i some
    simpa using some

theorem isDigit_of_mem_significant {n : Nat} {c : Char} (h : c ∈ significant n) :
    c.isDigit = true := by
  obtain ⟨k, hk⟩ := exists_zeros n
  exact isDigit_of_mem_toDigits (n := n) (hk ▸ List.mem_append_left _ h)

theorem head?_significant {n : Nat} (hn : 0 < n) : (significant n).head? ≠ some '0' := by
  obtain ⟨k, hk⟩ := exists_zeros n
  have := head?_toDigits hn
  rwa [hk, List.head?_append_of_ne_nil _ (significant_ne_nil n)] at this

theorem significant_zero : significant 0 = ['0'] := by decide

end CallFlow.Text
