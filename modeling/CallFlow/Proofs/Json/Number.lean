import CallFlow.Json.Reader
import CallFlow.Json.Writer
import CallFlow.Proofs.Binary64.Shortest
import Mathlib.Data.List.TakeDrop

/-!
# Numbers read back

Whole numbers and doubles are read from the digits by which they are written, whatever may follow a
value in a document. A double is written in one of three layouts; all of them spell its shortest
decimal, up to zeros at the end.
-/

namespace CallFlow.Json

open Text (value digitCount)
open Binary64 (significant positional scientific ofDecimal documentLayout)

/-! ## What follows -/

/-- Nothing follows, or something that ends a value. -/
def Ends (rest : List Char) : Prop := ∀ c ∈ rest.head?, c = ',' ∨ c = ']' ∨ c = '\x7d'

/-- No digit follows. -/
def NoDigit (rest : List Char) : Prop := ∀ c ∈ rest.head?, c.isDigit = false

theorem ends_nil : Ends [] := fun _ h ↦ by cases h

theorem ends_comma (rest : List Char) : Ends (',' :: rest) :=
  fun _ h ↦ .inl (Option.some.inj h).symm

theorem ends_bracket (rest : List Char) : Ends (']' :: rest) :=
  fun _ h ↦ .inr (.inl (Option.some.inj h).symm)

theorem ends_brace (rest : List Char) : Ends ('\x7d' :: rest) :=
  fun _ h ↦ .inr (.inr (Option.some.inj h).symm)

theorem Ends.noDigit {rest : List Char} (h : Ends rest) : NoDigit rest := fun c hc ↦ by
  rcases h c hc with rfl | rfl | rfl <;> rfl

theorem noDigit_cons {c : Char} (h : c.isDigit = false) (rest : List Char) : NoDigit (c :: rest) :=
  fun _ hd ↦ Option.some.inj hd ▸ h

/-! ## Scanners -/

section Scanners

variable {limits : Limits} {digits rest : List Char}

theorem readDigits_append (isDigit : ∀ c ∈ digits, c.isDigit = true) (some : digits ≠ [])
    (stop : NoDigit rest) : readDigits (digits ++ rest) = .some (digits, rest) := by
  have stops : rest.span Char.isDigit = ([], rest) := by
    cases rest with
    | nil => rfl
    | cons c cs => simp [List.span_eq_takeWhile_dropWhile, stop c rfl]
  have span : (digits ++ rest).span Char.isDigit = (digits, rest) := by
    rw [List.span_eq_takeWhile_dropWhile] at stops ⊢
    rw [List.takeWhile_append_of_pos isDigit, List.dropWhile_append_of_pos isDigit,
      (Prod.mk.inj stops).1, (Prod.mk.inj stops).2, List.append_nil]
  rw [readDigits, span]
  cases digits with
  | nil => exact absurd rfl some
  | cons => rfl

/-- Digits without a zero in front are read as a whole part, as many as may be read. -/
theorem readWhole_append (limits : Limits) (isDigit : ∀ c ∈ digits, c.isDigit = true)
    (some : digits ≠ [])
    (lead : digits = ['0'] ∨ digits.head? ≠ .some '0') (stop : NoDigit rest) :
    readWhole limits (digits ++ rest) =
      if limits.admits digits.length then .some (digits, rest) else none := by
  rw [readWhole, readDigits_append isDigit some stop]
  rcases lead with rfl | lead
  · rfl
  · cases digits with
    | nil => exact absurd rfl some
    | cons c cs =>
      split
      · simp_all
      · simp_all
      · simp_all

theorem readFraction_point (isDigit : ∀ c ∈ digits, c.isDigit = true) (some : digits ≠ [])
    (stop : NoDigit rest) :
    readFraction ('.' :: (digits ++ rest)) = .some (.some digits, rest) := by
  rw [readFraction, readDigits_append isDigit some stop]
  rfl

theorem readFraction_of_head? (h : rest.head? ≠ some '.') :
    readFraction rest = some (none, rest) := by
  rw [readFraction]
  rintro cs rfl
  exact h rfl

theorem readExponent_ends (h : Ends rest) : readExponent rest = some (none, rest) := by
  cases rest with
  | nil => rfl
  | cons c cs =>
    rcases h c rfl with rfl | rfl | rfl <;> rfl

theorem readExponent_mark (negative : Bool) (isDigit : ∀ c ∈ digits, c.isDigit = true)
    (some : digits ≠ []) (stop : NoDigit rest) :
    readExponent ('e' :: (if negative then '-' else '+') :: (digits ++ rest)) =
      .some (.some (Text.signed negative digits), rest) := by
  cases negative <;>
    simp [readExponent, readMagnitude, readDigits_append isDigit some stop]

theorem Limits.admits_of_le {m n : Nat} (h : limits.admits n = true) (le : m ≤ n) :
    limits.admits m = true := by
  rw [admits] at h ⊢
  cases hd : limits.digits with
  | none => rfl
  | some most =>
    rw [hd] at h
    exact decide_eq_true (Nat.le_trans le (of_decide_eq_true h))

end Scanners

/-! ## Whole numbers -/

section Numbers

variable {limits : Limits} {rest : List Char}

theorem signed_toDigits (i : Int) :
    Text.signed (decide (i < 0)) (Nat.toDigits 10 i.natAbs) = i := by
  simp only [Text.signed, Nat.ofDigitChars_ten_toDigits, decide_eq_true_eq]
  omega

/-- The parts of a number, one after another. -/
theorem readUnsigned_eq {cs₁ cs₂ cs₃ cs₄ whole : List Char} {fraction : Option (List Char)}
    {exponent : Option Int} (negative : Bool) (hw : readWhole limits cs₁ = some (whole, cs₂))
    (hf : readFraction cs₂ = some (fraction, cs₃)) (he : readExponent cs₃ = some (exponent, cs₄)) :
    readUnsigned limits negative cs₁ = some (numberOf negative whole fraction exponent, cs₄) := by
  simp [readUnsigned, hw, hf, he]

theorem readUnsigned_toDigits (negative : Bool) (n : Nat) (ends : Ends rest) :
    readUnsigned limits negative (Nat.toDigits 10 n ++ rest) =
      if limits.admits (digitCount n) then
        some (.int (Text.signed negative (Nat.toDigits 10 n)), rest)
      else none := by
  have lead : Nat.toDigits 10 n = ['0'] ∨ (Nat.toDigits 10 n).head? ≠ some '0' := by
    rcases Nat.eq_zero_or_pos n with rfl | hn
    · exact .inl (Nat.toDigits_zero 10)
    · exact .inr (Text.head?_toDigits hn)
  have noPoint : rest.head? ≠ some '.' := fun h ↦ by
    rcases ends '.' h with h | h | h <;> cases h
  have whole := readWhole_append limits (fun _ ↦ Text.isDigit_of_mem_toDigits)
    Nat.toDigits_ne_nil lead ends.noDigit
  by_cases fits : limits.admits (digitCount n) = true
  · rw [if_pos fits]
    exact readUnsigned_eq negative (whole.trans (if_pos fits)) (readFraction_of_head? noPoint)
      (readExponent_ends ends)
  · rw [if_neg fits, readUnsigned, whole.trans (if_neg fits)]
    rfl

/-- A numeral is a sign, if it is negative, and a magnitude that starts with a digit. -/
structure IsNumeral (text : List Char) (negative : Bool) (magnitude : List Char) : Prop where
  signed : text = if negative then '-' :: magnitude else magnitude
  lead : ∃ c, magnitude.head? = some c ∧ c.isDigit = true

theorem IsNumeral.readNumber {text magnitude : List Char} {negative : Bool}
    (h : IsNumeral text negative magnitude) :
    readNumber limits (text ++ rest) = readUnsigned limits negative (magnitude ++ rest) := by
  obtain ⟨c, lead, isDigit⟩ := h.lead
  rw [h.signed]
  cases magnitude with
  | nil => cases lead
  | cons d ds =>
    obtain rfl : d = c := Option.some.inj lead
    have noSign : d ≠ '-' := fun h ↦ by simp [h] at isDigit
    cases negative <;> simp [Json.readNumber, Text.splitMinus, noSign]

/-- The text of a whole number. -/
def intChars (i : Int) : List Char :=
  if i < 0 then '-' :: Nat.toDigits 10 i.natAbs else Nat.toDigits 10 i.natAbs

theorem writeInt_eq (i : Int) (rest : List Char) : writeInt i rest = intChars i ++ rest := by
  rw [writeInt, intChars]
  split <;> rfl

theorem isNumeral_intChars (i : Int) :
    IsNumeral (intChars i) (decide (i < 0)) (Nat.toDigits 10 i.natAbs) := by
  refine ⟨by simp [intChars], ?_⟩
  cases h : Nat.toDigits 10 i.natAbs with
  | nil => exact absurd h Nat.toDigits_ne_nil
  | cons c cs => exact ⟨c, rfl, Text.isDigit_of_mem_toDigits (h ▸ List.mem_cons_self)⟩

/-- A whole number is read back, if it has no more digits than may be read. -/
theorem readNumber_intChars (i : Int) (ends : Ends rest) :
    readNumber limits (intChars i ++ rest) =
      if limits.admits (digitCount i.natAbs) then some (.int i, rest) else none := by
  rw [(isNumeral_intChars i).readNumber, readUnsigned_toDigits _ _ ends, signed_toDigits]

/-! ## Doubles -/

/-- Digits around a point. -/
theorem readUnsigned_point (negative : Bool) {whole fraction : List Char}
    (wholeDigits : ∀ c ∈ whole, c.isDigit = true) (some : whole ≠ [])
    (lead : whole = ['0'] ∨ whole.head? ≠ .some '0') (fits : limits.admits whole.length = true)
    (fractionDigits : ∀ c ∈ fraction, c.isDigit = true) (more : fraction ≠ []) (ends : Ends rest) :
    readUnsigned limits negative (whole ++ '.' :: (fraction ++ rest)) =
      .some (.float (ofDecimal ⟨negative, value (whole ++ fraction), -fraction.length⟩), rest) := by
  have hw := readWhole_append limits wholeDigits some lead
    (noDigit_cons (c := '.') (by decide) (fraction ++ rest))
  rw [readUnsigned_eq negative (hw.trans (if_pos fits))
      (readFraction_point fractionDigits more ends.noDigit)
    (readExponent_ends ends)]
  simp [numberOf, value]

/-- A digit, others after a point if there are any, and an exponent. -/
theorem readUnsigned_exponent (negative below : Bool) {lead : Char} {fraction exponent : List Char}
    (leadDigit : lead.isDigit = true) (fits : limits.admits 1 = true)
    (fractionDigits : ∀ c ∈ fraction, c.isDigit = true)
    (exponentDigits : ∀ c ∈ exponent, c.isDigit = true) (some : exponent ≠ []) (ends : Ends rest) :
    readUnsigned limits negative (lead :: ((if fraction = [] then [] else '.' :: fraction) ++
        'e' :: (if below then '-' else '+') :: (exponent ++ rest))) =
      .some (.float (ofDecimal ⟨negative, value (lead :: fraction),
        Text.signed below exponent - fraction.length⟩), rest) := by
  have leads : [lead] = ['0'] ∨ [lead].head? ≠ .some '0' := by
    by_cases h : lead = '0' <;> simp [h]
  have whole {tail : List Char} (stop : NoDigit tail) :
      readWhole limits (lead :: tail) = .some ([lead], tail) :=
    (readWhole_append limits (by simpa using leadDigit) (by simp) leads stop).trans (if_pos fits)
  have mark := readExponent_mark below exponentDigits some ends.noDigit
  by_cases none : fraction = []
  · rw [if_pos none, List.nil_append, readUnsigned_eq negative
      (whole (noDigit_cons (by decide) _)) (readFraction_of_head? (by simp)) mark]
    simp [numberOf, value, none]
  · rw [if_neg none, List.cons_append, readUnsigned_eq negative
      (whole (noDigit_cons (by decide) _))
      (readFraction_point fractionDigits none (noDigit_cons (by decide) _)) mark]
    simp [numberOf, value]

/-- The decimal that digits spell whose first one stands at `place`. -/
def spelled (negative : Bool) (digits : List Char) (place : Int) : Binary64.Decimal :=
  ⟨negative, value digits, place + 1 - digits.length⟩

section Layouts

variable {digits : List Char} (isDigit : ∀ c ∈ digits, c.isDigit = true)
include isDigit

/-- The point stands among the digits. -/
theorem readUnsigned_among (negative : Bool) {p : Nat} (lead : digits.head? ≠ some '0')
    (fits : limits.admits (p + 1) = true) (long : p + 1 < digits.length) (ends : Ends rest) :
    readUnsigned limits negative (positional digits (.ofNat p) ++ rest) =
      some (.float (ofDecimal (spelled negative digits p)), rest) := by
  have length : (digits.take (p + 1)).length = p + 1 := List.length_take_of_le (by omega)
  have whole : digits.take (p + 1) ≠ [] := by
    rw [← List.length_pos_iff]
    omega
  have more : digits.drop (p + 1) ≠ [] := by simpa using long
  have text : positional digits (.ofNat p) ++ rest =
      digits.take (p + 1) ++ '.' :: (digits.drop (p + 1) ++ rest) := by
    simp [positional, length, more]
  have decimal : (⟨negative, value (digits.take (p + 1) ++ digits.drop (p + 1)),
      -(digits.drop (p + 1)).length⟩ : Binary64.Decimal) = spelled negative digits p := by
    rw [spelled, List.take_append_drop, List.length_drop]
    congr
    omega
  rw [text, readUnsigned_point negative (fun c hc ↦ isDigit c (List.mem_of_mem_take hc)) whole
    (.inr (by simpa [List.head?_take] using lead)) (by rwa [length])
    (fun c hc ↦ isDigit c (List.mem_of_mem_drop hc)) more ends, decimal]

/-- Zeros fill the places up to the point, and one stands after it. -/
theorem readUnsigned_filled (negative : Bool) {p : Nat} (some : digits ≠ [])
    (lead : digits = ['0'] ∧ p = 0 ∨ digits.head? ≠ .some '0') (fits : limits.admits (p + 1) = true)
    (short : digits.length ≤ p + 1) (ends : Ends rest) :
    readUnsigned limits negative (positional digits (.ofNat p) ++ rest) =
      .some (.float (ofDecimal (spelled negative digits p)), rest) := by
  have text : positional digits (.ofNat p) ++ rest =
      digits ++ List.replicate (p + 1 - digits.length) '0' ++ '.' :: (['0'] ++ rest) := by
    simp [positional, List.take_of_length_le short, List.drop_of_length_le short]
  generalize hk : p + 1 - digits.length = k at text
  have length : (digits ++ List.replicate k '0').length = p + 1 := by
    rw [List.length_append, List.length_replicate]
    omega
  have leads : digits ++ List.replicate k '0' = ['0'] ∨
      (digits ++ List.replicate k '0').head? ≠ .some '0' := by
    rcases lead with ⟨rfl, rfl⟩ | lead
    · obtain rfl : k = 0 := by simpa using hk.symm
      exact .inl rfl
    · exact .inr (by rwa [List.head?_append_of_ne_nil _ some])
  have decimal : ofDecimal ⟨negative, value (digits ++ List.replicate k '0' ++ ['0']), -1⟩ =
      ofDecimal (spelled negative digits p) := by
    rw [List.append_assoc, ← List.replicate_succ' (n := k) (a := '0'), Text.value_append_zeros,
      spelled, ← Binary64.ofDecimal_shift negative (value digits) (k + 1)]
    exact congrArg (fun e ↦ ofDecimal ⟨negative, _, e⟩) (by omega)
  have digit : ∀ c ∈ digits ++ List.replicate k '0', c.isDigit = true := fun c hc ↦
    (List.mem_append.1 hc).elim (isDigit c) (Text.isDigit_of_mem_replicate c)
  rw [text, readUnsigned_point negative digit (by simp [some]) leads (length ▸ fits)
    (List.forall_mem_singleton.2 rfl) (List.cons_ne_nil _ _) ends]
  exact congrArg (fun x ↦ Option.some (Json.float x, rest)) decimal

/-- Zeros stand between the point and the digits. -/
theorem readUnsigned_after (negative : Bool) {p : Nat} (some : digits ≠ [])
    (fits : limits.admits 1 = true) (ends : Ends rest) :
    readUnsigned limits negative (positional digits (.negSucc p) ++ rest) =
      .some (.float (ofDecimal (spelled negative digits (.negSucc p))), rest) := by
  have text : positional digits (.negSucc p) ++ rest =
      ['0'] ++ '.' :: (List.replicate p '0' ++ digits ++ rest) := by
    simp [positional]
  have decimal : (⟨negative, value (['0'] ++ (List.replicate p '0' ++ digits)),
      -(List.replicate p '0' ++ digits).length⟩ : Binary64.Decimal) =
        spelled negative digits (.negSucc p) := by
    have zero : ['0'] ++ List.replicate p '0' = List.replicate (p + 1) '0' := rfl
    rw [spelled, ← List.append_assoc, zero, Text.value_zeros_append, List.length_append,
      List.length_replicate]
    congr
    omega
  have digit : ∀ c ∈ List.replicate p '0' ++ digits, c.isDigit = true := fun c hc ↦
    (List.mem_append.1 hc).elim (Text.isDigit_of_mem_replicate c) (isDigit c)
  rw [text, readUnsigned_point negative (List.forall_mem_singleton.2 rfl) (List.cons_ne_nil _ _)
    (.inl rfl) fits digit (by simp [some]) ends, decimal]

theorem readUnsigned_scientific (negative : Bool) {place : Int} (some : digits ≠ [])
    (fits : limits.admits 1 = true) (ends : Ends rest) :
    readUnsigned limits negative (scientific documentLayout digits place ++ rest) =
      .some (.float (ofDecimal (spelled negative digits place)), rest) := by
  cases digits with
  | nil => exact absurd rfl some
  | cons lead fraction =>
  let exponent := List.replicate (2 - (Nat.toDigits 10 place.natAbs).length) '0' ++
    Nat.toDigits 10 place.natAbs
  have text : scientific documentLayout (lead :: fraction) place ++ rest =
      lead :: ((if fraction = [] then [] else '.' :: fraction) ++
        'e' :: (if decide (place < 0) then '-' else '+') :: (exponent ++ rest)) := by
    cases fraction <;> simp [scientific, documentLayout, exponent]
  have decimal : (⟨negative, value (lead :: fraction),
      Text.signed (decide (place < 0)) exponent - fraction.length⟩ : Binary64.Decimal) =
        spelled negative (lead :: fraction) place := by
    have magnitude : Nat.ofDigitChars 10 exponent 0 = place.natAbs :=
      (Text.value_zeros_append ..).trans (Text.value_toDigits _)
    have signed : Text.signed (decide (place < 0)) exponent = place := by
      simp only [Text.signed, magnitude, decide_eq_true_eq]
      split <;> omega
    rw [spelled, signed]
    refine congrArg (Binary64.Decimal.mk negative _) ?_
    rw [List.length_cons]
    omega
  have digit : ∀ c ∈ exponent, c.isDigit = true := fun c hc ↦
    (List.mem_append.1 hc).elim (Text.isDigit_of_mem_replicate c) Text.isDigit_of_mem_toDigits
  have length : exponent ≠ [] := by simp [exponent]
  rw [text, readUnsigned_exponent negative _ (isDigit lead List.mem_cons_self) fits
    (fun c hc ↦ isDigit c (List.mem_cons_of_mem lead hc)) digit length ends, decimal]

end Layouts

/-- A layout starts with a digit. -/
theorem exists_head?_positional {digits : List Char} (isDigit : ∀ c ∈ digits, c.isDigit = true)
    (some : digits ≠ []) (place : Int) :
    ∃ c, (positional digits place).head? = .some c ∧ c.isDigit = true := by
  cases digits with
  | nil => exact absurd rfl some
  | cons d ds =>
    cases place with
    | ofNat p => exact ⟨d, by simp [positional], isDigit d List.mem_cons_self⟩
    | negSucc p => exact ⟨'0', rfl, rfl⟩

theorem exists_head?_scientific {digits : List Char} (isDigit : ∀ c ∈ digits, c.isDigit = true)
    (some : digits ≠ []) (place : Int) :
    ∃ c, (scientific documentLayout digits place).head? = .some c ∧ c.isDigit = true := by
  cases digits with
  | nil => exact absurd rfl some
  | cons d ds => exact ⟨d, by simp [scientific], isDigit d List.mem_cons_self⟩

/-- The place of the first digit of a decimal. -/
def leadPlace (d : Binary64.Decimal) : Int :=
  if d.coefficient = 0 then 0 else (Nat.toDigits 10 d.coefficient).length - 1 + d.exponent

/-- The layout of a decimal after its sign. -/
def magnitude (d : Binary64.Decimal) : List Char :=
  if -4 ≤ leadPlace d ∧ leadPlace d < 16 then positional (significant d.coefficient) (leadPlace d)
  else scientific documentLayout (significant d.coefficient) (leadPlace d)

theorem isNumeral_layOut (d : Binary64.Decimal) :
    IsNumeral (d.layOut documentLayout) d.negative (magnitude d) := by
  have isDigit : ∀ c ∈ significant d.coefficient, c.isDigit = true :=
    fun _ ↦ Text.isDigit_of_mem_significant
  have some := Text.significant_ne_nil d.coefficient
  refine ⟨rfl, ?_⟩
  rw [magnitude]
  split
  · exact exists_head?_positional isDigit some _
  · exact exists_head?_scientific isDigit some _

/-- The significant digits of a decimal, from its first place on, spell its double. -/
theorem ofDecimal_spelled (d : Binary64.Decimal) :
    ofDecimal (spelled d.negative (significant d.coefficient) (leadPlace d)) = ofDecimal d := by
  obtain ⟨negative, n, e⟩ := d
  rcases Nat.eq_zero_or_pos n with rfl | hn
  · rw [spelled, Text.significant_zero]
    rfl
  · obtain ⟨k, hk⟩ := Text.exists_zeros n
    have whole : n = value (significant n) * tenTo k := by
      rw [← Text.value_append_zeros, ← hk, Text.value_toDigits]
    have length : (significant n).length + k = (Nat.toDigits 10 n).length := by
      rw [hk, List.length_append, List.length_replicate]
    have place : leadPlace ⟨negative, n, e⟩ + 1 - (significant n).length = e + k := by
      rw [leadPlace, if_neg (Nat.ne_of_gt hn)]
      change ((Nat.toDigits 10 n).length : Int) - 1 + e + 1 - _ = _
      omega
    have shift := Binary64.ofDecimal_shift negative (value (significant n)) k (e + k)
    rw [← whole, Int.add_sub_cancel] at shift
    rw [shift, spelled, place]

/-- The layout of a decimal is read back as the double of the decimal. -/
theorem readNumber_layOut (d : Binary64.Decimal) (fits : limits.admits 16 = true)
    (ends : Ends rest) :
    readNumber limits (d.layOut documentLayout ++ rest) = some (.float (ofDecimal d), rest) := by
  have isDigit : ∀ c ∈ significant d.coefficient, c.isDigit = true :=
    fun _ ↦ Text.isDigit_of_mem_significant
  have some := Text.significant_ne_nil d.coefficient
  have one : limits.admits 1 = true := Limits.admits_of_le fits (by decide)
  rw [← ofDecimal_spelled d, (isNumeral_layOut d).readNumber, magnitude]
  by_cases near : -4 ≤ leadPlace d ∧ leadPlace d < 16
  · rw [if_pos near]
    have zero : d.coefficient = 0 →
        significant d.coefficient = ['0'] ∧ leadPlace d = 0 := fun h ↦ by
      rw [h, leadPlace, if_pos h]
      exact ⟨Text.significant_zero, rfl⟩
    cases hp : leadPlace d with
    | negSucc p => exact readUnsigned_after isDigit d.negative some one ends
    | ofNat p =>
      have near : (p : Int) < 16 := hp.symm.trans_lt near.2
      have fits : limits.admits (p + 1) = true := Limits.admits_of_le fits (by omega)
      rcases Nat.lt_or_ge (p + 1) (significant d.coefficient).length with long | short
      · refine readUnsigned_among isDigit d.negative (Text.head?_significant ?_) fits long ends
        refine Nat.pos_of_ne_zero fun h ↦ ?_
        rw [(zero h).1] at long
        simp at long
      · refine readUnsigned_filled isDigit d.negative some ?_ fits short ends
        rcases Nat.eq_zero_or_pos d.coefficient with h | h
        · have origin : (p : Int) = 0 := hp.symm.trans (zero h).2
          exact .inl ⟨(zero h).1, by omega⟩
        · exact .inr (Text.head?_significant h)
  · rw [if_neg near]
    exact readUnsigned_scientific isDigit d.negative some one ends

end Numbers

end CallFlow.Json
