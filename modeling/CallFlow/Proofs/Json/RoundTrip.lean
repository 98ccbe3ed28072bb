import CallFlow.Proofs.Json.Number
import CallFlow.Proofs.Json.Quoted
import CallFlow.Proofs.Json.Sorted

/-!
# Values read back from their texts

The canonical text of a value with distinct names is read as that value with its names in order, if
the value keeps to the limits of the reader, and as nothing otherwise (`readWithin?_canonical`).
Doubles always do: before their point stand at most sixteen digits.

A reader that is given `steps` steps for a text of at most half that length does not run out of
them: every list or object takes two steps to get to what is in it, and one character for each.
-/

namespace CallFlow.Json

open Text (digitCount)
open Binary64 (documentLayout)

/-! ## Limits -/

mutual

/-- The value keeps to the limits of a reader. -/
def fits (limits : Limits) : Json → Bool
  | .int i => limits.admits (digitCount i.natAbs)
  | .arr [] => true
  | .arr (v :: vs) => match limits.inside? with
    | some inner => fits inner v && itemsFit inner vs
    | none => false
  | .obj [] => true
  | .obj ((_, v) :: ms) => match limits.inside? with
    | some inner => fits inner v && membersFit inner ms
    | none => false
  | _ => true

/-- All items keep to the limits. -/
def itemsFit (limits : Limits) : List Json → Bool
  | [] => true
  | v :: vs => fits limits v && itemsFit limits vs

/-- The values of all members keep to the limits. -/
def membersFit (limits : Limits) : List (String × Json) → Bool
  | [] => true
  | (_, v) :: ms => fits limits v && membersFit limits ms

end

theorem itemsFit_iff {limits : Limits} {items : List Json} :
    itemsFit limits items = true ↔ ∀ v ∈ items, fits limits v = true := by
  induction items with
  | nil => simp [itemsFit]
  | cons v rest ih => simp [itemsFit, ih]

theorem membersFit_iff {limits : Limits} {ms : Members} :
    membersFit limits ms = true ↔ ∀ m ∈ ms, fits limits m.2 = true := by
  induction ms with
  | nil => simp [membersFit]
  | cons m rest ih => simp [membersFit, ih]

theorem fits_arr {limits inner : Limits} (h : limits.inside? = some inner) (items : List Json) :
    fits limits (.arr items) = itemsFit inner items := by
  cases items <;> simp [fits, itemsFit, h]

theorem fits_obj {limits inner : Limits} (h : limits.inside? = some inner) (ms : Members) :
    fits limits (.obj ms) = membersFit inner ms := by
  cases ms <;> simp [fits, membersFit, h]

theorem fits_arr_iff {limits : Limits} {items : List Json} :
    fits limits (.arr items) = true ↔ items = [] ∨ ∃ inner, limits.inside? = some inner ∧
      ∀ v ∈ items, fits inner v = true := by
  cases items with
  | nil => simp [fits]
  | cons v rest =>
    simp only [fits, reduceCtorEq, false_or]
    cases limits.inside? with
    | none => simp
    | some inner => simp [itemsFit_iff]

theorem fits_obj_iff {limits : Limits} {ms : Members} :
    fits limits (.obj ms) = true ↔ ms = [] ∨ ∃ inner, limits.inside? = some inner ∧
      ∀ m ∈ ms, fits inner m.2 = true := by
  cases ms with
  | nil => simp [fits]
  | cons m rest =>
    simp only [fits, reduceCtorEq, false_or]
    cases limits.inside? with
    | none => simp
    | some inner => simp [membersFit_iff]

/-- Whether a value keeps to the limits does not depend on the order of its names. -/
theorem fits_sorted (v : Json) : ∀ limits, fits limits v.sorted = fits limits v := by
  induction v using inductionOn with
  | null | bool | int | float | str => exact fun _ ↦ rfl
  | arr items ih =>
    intro limits
    rw [sorted_arr, Bool.eq_iff_iff, fits_arr_iff, fits_arr_iff]
    simp only [List.map_eq_nil_iff, List.forall_mem_map]
    refine or_congr_right (exists_congr fun inner ↦ and_congr_right fun _ ↦ ?_)
    exact forall₂_congr fun v hv ↦ by rw [ih v hv]
  | obj ms ih =>
    intro limits
    have none : ms.sorted = [] ↔ ms = [] := by
      rw [← List.length_eq_zero_iff, ms.sorted_perm.length_eq, List.length_map,
        List.length_eq_zero_iff]
    rw [sorted_obj, Bool.eq_iff_iff, fits_obj_iff, fits_obj_iff, none]
    simp only [ms.sorted_perm.mem_iff, List.forall_mem_map]
    refine or_congr_right (exists_congr fun inner ↦ and_congr_right fun _ ↦ ?_)
    exact forall₂_congr fun m hm ↦ by rw [ih m hm]

theorem inside?_admits {limits inner : Limits} (h : limits.inside? = some inner) (n : Nat) :
    inner.admits n = limits.admits n := by
  rw [Limits.inside?] at h
  split at h <;> cases h <;> rfl

/-! ## The first character -/

theorem ne_of_isDigit {c d : Char} (hc : c.isDigit = true) (hd : d.isDigit = false) : d ≠ c := by
  rintro rfl
  simp [hc] at hd

/-- A character that may start a value: no blank, and none that closes a list. -/
def Starts (c : Char) : Prop := isGap c = false ∧ c ≠ ']'

instance (c : Char) : Decidable (Starts c) :=
  inferInstanceAs (Decidable (isGap c = false ∧ c ≠ ']'))

theorem starts_of_isDigit {c : Char} (h : c.isDigit = true) : Starts c := by
  refine ⟨?_, (ne_of_isDigit h rfl).symm⟩
  simp only [isGap, Bool.or_eq_false_iff, beq_eq_false_iff_ne]
  exact ⟨⟨⟨(ne_of_isDigit h rfl).symm, (ne_of_isDigit h rfl).symm⟩, (ne_of_isDigit h rfl).symm⟩,
    (ne_of_isDigit h rfl).symm⟩

theorem IsNumeral.starts {text magnitude : List Char} {negative : Bool}
    (h : IsNumeral text negative magnitude) (rest : List Char) :
    ∃ c cs, text ++ rest = c :: cs ∧ Starts c := by
  obtain ⟨c, lead, isDigit⟩ := h.lead
  rw [h.signed]
  cases magnitude with
  | nil => cases lead
  | cons d ds =>
    obtain rfl : d = c := Option.some.inj lead
    cases negative
    · exact ⟨d, ds ++ rest, rfl, starts_of_isDigit isDigit⟩
    · exact ⟨'-', d :: ds ++ rest, rfl, by decide⟩

theorem exists_starts_write (v : Json) (rest : List Char) :
    ∃ c cs, write v rest = c :: cs ∧ Starts c := by
  cases v with
  | null => exact ⟨'n', _, rfl, by decide⟩
  | bool b =>
    cases b with
    | false => exact ⟨'f', _, rfl, by decide⟩
    | true => exact ⟨'t', _, rfl, by decide⟩
  | int i =>
    rw [write, writeInt_eq]
    exact (isNumeral_intChars i).starts rest
  | float x =>
    rw [write]
    cases x with
    | finite negative rank => exact (isNumeral_layOut (Binary64.shortest negative rank)).starts rest
    | infinite negative =>
      cases negative with
      | false => exact ⟨'I', _, rfl, by decide⟩
      | true => exact ⟨'-', _, rfl, by decide⟩
    | nan => exact ⟨'N', _, rfl, by decide⟩
  | str s => exact ⟨'"', _, rfl, by decide⟩
  | arr items => cases items <;> exact ⟨'[', _, by rw [write], by decide⟩
  | obj ms => cases ms <;> exact ⟨'\x7b', _, by rw [write], by decide⟩

theorem skipGap_cons {c : Char} (h : isGap c = false) (cs : List Char) :
    skipGap (c :: cs) = c :: cs := by
  simp [skipGap, h]

theorem skipGap_write (v : Json) (rest : List Char) : skipGap (write v rest) = write v rest := by
  obtain ⟨c, cs, h, starts⟩ := exists_starts_write v rest
  rw [h, skipGap_cons starts.1]

/-! ## Words and numbers -/

/-- No word is a numeral, not even the one with a sign. -/
theorem IsNumeral.readWord {text magnitude : List Char} {negative : Bool}
    (h : IsNumeral text negative magnitude) (rest : List Char) :
    readWord (text ++ rest) = none := by
  obtain ⟨c, lead, isDigit⟩ := h.lead
  rw [h.signed]
  cases magnitude with
  | nil => cases lead
  | cons d ds =>
    obtain rfl : d = c := Option.some.inj lead
    have other {w : Char} (hw : w.isDigit = false) : ¬w = d := ne_of_isDigit isDigit hw
    cases negative
    · simp [Json.readWord, words, dropWord?, other]
    · simp [Json.readWord, words, dropWord?, other]

/-- What starts with none of the characters of a structure is a word or a number. -/
theorem readValue_scalar {limits : Limits} {steps : Nat} {c : Char} {cs : List Char}
    (quote : c ≠ '"') (bracket : c ≠ '[') (brace : c ≠ '\x7b') :
    readValue limits (steps + 1) (c :: cs) =
      (readWord (c :: cs)).or (readNumber limits (c :: cs)) := by
  simp [readValue, quote, bracket, brace]

theorem IsNumeral.readValue {text magnitude : List Char} {negative : Bool}
    (h : IsNumeral text negative magnitude) (limits : Limits) (steps : Nat) (rest : List Char) :
    Json.readValue limits (steps + 1) (text ++ rest) = Json.readNumber limits (text ++ rest) := by
  have word := h.readWord rest
  obtain ⟨c, lead, isDigit⟩ := h.lead
  rw [h.signed] at word ⊢
  cases magnitude with
  | nil => cases lead
  | cons d ds =>
    obtain rfl : d = c := Option.some.inj lead
    have other {w : Char} (hw : w.isDigit = false) : d ≠ w := (ne_of_isDigit isDigit hw).symm
    cases negative
    · simp only [Bool.false_eq_true, if_false, List.cons_append] at word ⊢
      rw [readValue_scalar (other rfl) (other rfl) (other rfl), word, Option.none_or]
    · simp only [if_true, List.cons_append] at word ⊢
      rw [readValue_scalar (by decide) (by decide) (by decide), word, Option.none_or]

/-! ## Lengths -/

theorem length_lt_append {text : List Char} (some : text ≠ []) (rest : List Char) :
    rest.length < (text ++ rest).length := by
  have := List.length_pos_iff.2 some
  rw [List.length_append]
  omega

theorem length_writeString (s : String) (rest : List Char) :
    rest.length < (writeString s rest).length := by
  simp only [writeString, List.length_cons, List.length_append]
  omega

theorem IsNumeral.length {text magnitude : List Char} {negative : Bool}
    (h : IsNumeral text negative magnitude) (rest : List Char) :
    rest.length < (text ++ rest).length := by
  obtain ⟨c, cs, e, -⟩ := h.starts []
  rw [List.append_nil] at e
  exact length_lt_append (by simp [e]) rest

theorem length_writeItems {vs : List Json}
    (each : ∀ v ∈ vs, ∀ rest, rest.length < (write v rest).length) (rest : List Char) :
    rest.length < (writeItems vs rest).length := by
  induction vs with
  | nil => simp [writeItems]
  | cons v vs ih =>
    have := ih fun w hw ↦ each w (List.mem_cons_of_mem v hw)
    have := each v List.mem_cons_self (writeItems vs rest)
    simp only [writeItems, List.length_cons]
    omega

theorem length_writeMembers {ms : Members}
    (each : ∀ m ∈ ms, ∀ rest, rest.length < (write m.2 rest).length) (rest : List Char) :
    rest.length < (writeMembers ms rest).length := by
  induction ms with
  | nil => simp [writeMembers]
  | cons m ms ih =>
    have := ih fun n hn ↦ each n (List.mem_cons_of_mem m hn)
    have := each m List.mem_cons_self (writeMembers ms rest)
    have := length_writeString m.1 (':' :: write m.2 (writeMembers ms rest))
    simp only [writeMembers, List.length_cons] at this ⊢
    omega

/-- Every value takes a character. -/
theorem length_write (v : Json) : ∀ rest, rest.length < (write v rest).length := by
  induction v using inductionOn with
  | null => exact length_lt_append (by decide)
  | bool b => cases b <;> exact length_lt_append (by decide)
  | int i =>
    intro rest
    rw [write, writeInt_eq]
    exact (isNumeral_intChars i).length rest
  | float x =>
    intro rest
    rw [write]
    cases x with
    | finite negative rank => exact (isNumeral_layOut (Binary64.shortest negative rank)).length rest
    | infinite negative => cases negative <;> exact length_lt_append (by decide) rest
    | nan => exact length_lt_append (by decide) rest
  | str s => exact length_writeString s
  | arr items ih =>
    intro rest
    cases items with
    | nil =>
      simp only [write, List.length_cons]
      omega
    | cons v vs =>
      have := length_writeItems (fun w hw ↦ ih w (List.mem_cons_of_mem v hw)) rest
      have := ih v List.mem_cons_self (writeItems vs rest)
      simp only [write, List.length_cons]
      omega
  | obj ms ih =>
    intro rest
    cases ms with
    | nil =>
      simp only [write, List.length_cons]
      omega
    | cons m ms =>
      have := length_writeMembers (fun n hn ↦ ih n (List.mem_cons_of_mem m hn)) rest
      have := ih m List.mem_cons_self (writeMembers ms rest)
      have := length_writeString m.1 (':' :: write m.2 (writeMembers ms rest))
      simp only [write, List.length_cons] at this ⊢
      omega

/-! ## Values -/

/-- The value is read back from its text wherever that stands, if there are steps enough. -/
def ReadsBack (v : Json) : Prop :=
  ∀ limits steps rest, limits.admits 16 = true → Ends rest →
    2 * (write v rest).length ≤ steps + 1 →
    readValue limits steps (write v rest) = if fits limits v then some (v, rest) else none

theorem exists_steps {v : Json} {rest : List Char} {steps : Nat}
    (enough : 2 * (write v rest).length ≤ steps + 1) : ∃ n, steps = n + 1 := by
  obtain ⟨c, cs, h, -⟩ := exists_starts_write v rest
  refine ⟨steps - 1, ?_⟩
  rw [h, List.length_cons] at enough
  omega

theorem readsBack_float (x : Binary64) : ReadsBack (.float x) := by
  intro limits steps rest sixteen ends enough
  obtain ⟨n, rfl⟩ := exists_steps enough
  rw [write, fits, if_pos rfl]
  · cases x with
    | finite negative rank =>
      change readValue limits (n + 1)
        ((Binary64.shortest negative rank).layOut documentLayout ++ rest)
        = _
      rw [(isNumeral_layOut _).readValue, readNumber_layOut _ sixteen ends,
        Binary64.ofDecimal_shortest]
    | infinite negative => cases negative <;> rfl
    | nan => rfl
  all_goals simp

theorem readsBack_int (i : Int) : ReadsBack (.int i) := by
  intro limits steps rest sixteen ends enough
  obtain ⟨n, rfl⟩ := exists_steps enough
  rw [write, writeInt_eq, (isNumeral_intChars i).readValue, readNumber_intChars i ends, fits]

theorem readsBack_str (s : String) : ReadsBack (.str s) := by
  intro limits steps rest sixteen ends enough
  obtain ⟨n, rfl⟩ := exists_steps enough
  obtain ⟨cs, text, back⟩ := readString_writeString s rest
  rw [write, text, readValue, if_pos rfl, back, fits, if_pos rfl]
  · rfl
  all_goals simp

/-! ## Lists -/

theorem ends_writeItems (vs : List Json) (rest : List Char) : Ends (writeItems vs rest) := by
  cases vs with
  | nil => exact ends_bracket rest
  | cons v vs => exact ends_comma _

theorem readItems_write {limits : Limits} (sixteen : limits.admits 16 = true) (v : Json)
    (vs : List Json) (each : ∀ w ∈ v :: vs, ReadsBack w) (steps : Nat) (rest : List Char)
    (enough : 2 * (write v (writeItems vs rest)).length ≤ steps) :
    readItems limits steps (write v (writeItems vs rest)) =
      if itemsFit limits (v :: vs) then some (v :: vs, rest) else none := by
  induction vs generalizing v steps with
  | nil =>
    have first : 2 * (write v (writeItems [] rest)).length ≤ steps + 1 := by omega
    obtain ⟨n, rfl⟩ := exists_steps first
    rw [readItems,
      each v List.mem_cons_self limits n _ sixteen (ends_writeItems [] rest) (by omega)]
    cases h : fits limits v <;> simp [itemsFit, h, writeItems, skipGap_cons, isGap]
  | cons w vs ih =>
    have first : 2 * (write v (writeItems (w :: vs) rest)).length ≤ steps + 1 := by omega
    obtain ⟨n, rfl⟩ := exists_steps first
    have shorter : 2 * (write w (writeItems vs rest)).length ≤ n := by
      have := length_write v (writeItems (w :: vs) rest)
      simp only [writeItems, List.length_cons] at this enough
      omega
    have later := ih w (fun u hu ↦ each u (List.mem_cons_of_mem v hu)) n shorter
    rw [readItems, each v List.mem_cons_self limits n _ sixteen (ends_writeItems _ rest) (by omega)]
    cases h : fits limits v with
    | false => simp [itemsFit, h]
    | true =>
      have all : itemsFit limits (v :: w :: vs) = itemsFit limits (w :: vs) := by
        rw [itemsFit, h, Bool.true_and]
      simp only [if_true, writeItems, Option.bind_eq_bind, Option.bind_some,
        skipGap_cons (c := ',') rfl, skipGap_write, later, all]
      cases itemsFit limits (w :: vs) <;> rfl

theorem readsBack_arr {items : List Json} (each : ∀ v ∈ items, ReadsBack v) :
    ReadsBack (.arr items) := by
  intro limits steps rest sixteen ends enough
  obtain ⟨n, rfl⟩ := exists_steps enough
  cases items with
  | nil => simp [write, readValue, fits, skipGap_cons, isGap]
  | cons v vs =>
    obtain ⟨c, cs, head, starts⟩ := exists_starts_write v (writeItems vs rest)
    have others : skipGap (c :: cs) = c :: cs := skipGap_cons starts.1 cs
    simp only [write, List.length_cons] at enough
    have back (inner : Limits) (h : limits.inside? = some inner) :=
      readItems_write ((inside?_admits h 16).trans sixteen) v vs each n rest (by omega)
    rw [head] at back
    rw [write, head, readValue, if_neg (by decide), if_pos rfl, others]
    split
    · rename_i tail h
      exact absurd (List.cons.inj h).1 starts.2
    · cases h : limits.inside? with
      | none => simp [fits, h]
      | some inner =>
        simp only [Option.bind_eq_bind, Option.bind_some, back inner h, fits_arr h]
        cases itemsFit inner (v :: vs) <;> rfl

/-! ## Objects -/

theorem ends_writeMembers (ms : Members) (rest : List Char) : Ends (writeMembers ms rest) := by
  cases ms with
  | nil => exact ends_brace rest
  | cons m ms => exact ends_comma _

/-- The first of the members is read back, and then what follows it decides. -/
theorem readMembers_member {limits : Limits} (sixteen : limits.admits 16 = true)
    {m : String × Json} (back : ReadsBack m.2) {after : List Char} (ends : Ends after) {n : Nat}
    (enough : 2 * (write m.2 after).length ≤ n + 1) :
    readMembers limits (n + 1) (writeString m.1 (':' :: write m.2 after)) =
      if fits limits m.2 then
        match skipGap after with
        | '\x7d' :: rest => some ([m], rest)
        | ',' :: cs => (readMembers limits n (skipGap cs)).bind fun (ms, rest) ↦ some (m :: ms, rest)
        | _ => none
      else none := by
  obtain ⟨cs, text, name⟩ := readString_writeString m.1 (':' :: write m.2 after)
  have value := back limits n after sixteen ends enough
  rw [text, readMembers, name]
  simp only [Option.bind_eq_bind, Option.bind_some, skipGap_cons (c := ':') rfl, skipGap_write,
    value]
  cases fits limits m.2 <;> rfl

theorem readMembers_write {limits : Limits} (sixteen : limits.admits 16 = true)
    (m : String × Json) (ms : Members) (each : ∀ n ∈ m :: ms, ReadsBack n.2) (steps : Nat)
    (rest : List Char)
    (enough : 2 * (writeString m.1 (':' :: write m.2 (writeMembers ms rest))).length ≤ steps) :
    readMembers limits steps (writeString m.1 (':' :: write m.2 (writeMembers ms rest))) =
      if membersFit limits (m :: ms) then some (m :: ms, rest) else none := by
  have length := length_writeString m.1 (':' :: write m.2 (writeMembers ms rest))
  simp only [List.length_cons] at length
  induction ms generalizing m steps with
  | nil =>
    obtain ⟨n, rfl⟩ : ∃ n, steps = n + 1 := ⟨steps - 1, by omega⟩
    rw [readMembers_member sixteen (each m List.mem_cons_self) (ends_writeMembers [] rest)
      (by omega)]
    cases h : fits limits m.2 <;> simp [membersFit, h, writeMembers, skipGap_cons, isGap]
  | cons k ms ih =>
    obtain ⟨n, rfl⟩ : ∃ n, steps = n + 1 := ⟨steps - 1, by omega⟩
    have longer := length_write m.2 (writeMembers (k :: ms) rest)
    have length' := length_writeString k.1 (':' :: write k.2 (writeMembers ms rest))
    simp only [writeMembers, List.length_cons] at longer length length'
    have later := ih k (fun l hl ↦ each l (List.mem_cons_of_mem m hl)) n
      (by simp only [writeMembers] at enough; omega) (by omega)
    rw [readMembers_member sixteen (each m List.mem_cons_self) (ends_writeMembers _ rest)
      (by simp only [writeMembers] at enough ⊢; omega)]
    cases h : fits limits m.2 with
    | false => simp [membersFit, h]
    | true =>
      have all : membersFit limits (m :: k :: ms) = membersFit limits (k :: ms) := by
        rw [membersFit, h, Bool.true_and]
      have quote : skipGap (writeString k.1 (':' :: write k.2 (writeMembers ms rest))) =
          writeString k.1 (':' :: write k.2 (writeMembers ms rest)) := skipGap_cons rfl _
      simp only [if_true, writeMembers, skipGap_cons (c := ',') rfl, quote, later, all]
      cases membersFit limits (k :: ms) <;> rfl

theorem readsBack_obj {ms : Members} (distinct : ms.names.Nodup)
    (each : ∀ m ∈ ms, ReadsBack m.2) : ReadsBack (.obj ms) := by
  intro limits steps rest sixteen ends enough
  obtain ⟨n, rfl⟩ := exists_steps enough
  cases ms with
  | nil => simp [write, readValue, fits, skipGap_cons, isGap]
  | cons m ms =>
    simp only [write, List.length_cons] at enough
    have back (inner : Limits) (h : limits.inside? = some inner) :=
      readMembers_write ((inside?_admits h 16).trans sixteen) m ms each n rest (by omega)
    obtain ⟨cs, text⟩ : ∃ cs, writeString m.1 (':' :: write m.2 (writeMembers ms rest)) =
        '"' :: cs := ⟨_, rfl⟩
    have others : skipGap ('"' :: cs) = '"' :: cs := skipGap_cons rfl cs
    rw [text] at back
    rw [write, text, readValue, if_neg (by decide), if_neg (by decide), if_pos rfl, others]
    split
    · rename_i tail h
      cases (List.cons.inj h).1
    · cases h : limits.inside? with
      | none => simp [fits, h]
      | some inner =>
        simp only [Option.bind_eq_bind, Option.bind_some, back inner h, fits_obj h]
        cases membersFit inner (m :: ms)
        · rfl
        · simp [Members.ofPairs_eq_self distinct]

/-! ## Documents -/

theorem readsBack {v : Json} (h : v.HasDistinctNames) : ReadsBack v := by
  induction h with
  | null =>
    intro limits steps rest sixteen ends enough
    obtain ⟨n, rfl⟩ := exists_steps enough
    rfl
  | bool b =>
    intro limits steps rest sixteen ends enough
    obtain ⟨n, rfl⟩ := exists_steps enough
    cases b <;> rfl
  | int i => exact readsBack_int i
  | float x => exact readsBack_float x
  | str s => exact readsBack_str s
  | arr each ih => exact readsBack_arr ih
  | obj distinct each ih => exact readsBack_obj distinct ih

/-- The canonical text of a value with distinct names is read as the value with its names in order,
exactly if the value keeps to the limits. -/
theorem readWithin?_canonical {limits : Limits} (sixteen : limits.admits 16 = true) {v : Json}
    (h : v.HasDistinctNames) :
    readWithin? limits (canonical v) = if fits limits v then some v.sorted else none := by
  have back := readsBack h.sorted limits (2 * (write v.sorted []).length + 2) [] sixteen ends_nil
    (by omega)
  rw [readWithin?, canonical, String.toList_ofList, skipGap_write, back, fits_sorted]
  cases fits limits v <;> rfl

/-- Where nothing is limited, everything fits. -/
theorem fits_unlimited (v : Json) : fits {} v = true := by
  induction v using inductionOn with
  | null | bool | int | float | str => rfl
  | arr items ih => exact fits_arr_iff.2 (.inr ⟨{}, rfl, ih⟩)
  | obj members ih => exact fits_obj_iff.2 (.inr ⟨{}, rfl, ih⟩)

/-- Values of one text are the same but for the order of names. -/
theorem sorted_eq_of_canonical_eq {v w : Json} (hv : v.HasDistinctNames) (hw : w.HasDistinctNames)
    (h : canonical v = canonical w) : v.sorted = w.sorted := by
  have read {u : Json} (hu : u.HasDistinctNames) :
      readWithin? {} (canonical u) = some u.sorted := by
    rw [readWithin?_canonical rfl hu, fits_unlimited, if_pos rfl]
  exact Option.some.inj ((read hv).symm.trans ((congrArg (readWithin? {}) h).trans (read hw)))

theorem canonical_ne_empty (v : Json) : canonical v ≠ "" := by
  intro empty
  have chars : write v.sorted [] = [] := by simpa [canonical] using congrArg String.toList empty
  have := length_write v.sorted []
  rw [chars] at this
  exact Nat.lt_irrefl _ this

section Document

variable {v : Json} (h : v.HasDistinctNames)
include h

/-- A document can be read if it keeps to the limits. -/
theorem isSome_readDocument?_canonical :
    (readDocument? (canonical v)).isSome = fits .document v := by
  rw [readDocument?, readWithin?_canonical (by decide) h]
  cases fits .document v <;> rfl

/-- A document is read back as what was written, if it is read at all. -/
theorem readDocument?_canonical {w : Json} (readable : readDocument? (canonical v) = some w) :
    w = v.sorted := by
  rw [readDocument?, readWithin?_canonical (by decide) h] at readable
  split at readable
  · exact (Option.some.inj readable).symm
  · cases readable

end Document

end CallFlow.Json
