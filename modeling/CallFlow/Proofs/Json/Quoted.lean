import CallFlow.Json.Reader
import CallFlow.Json.Writer

/-!
# Texts read back

A text is read from its quotes character by character. Control characters are written by their code
units, all of them below the surrogates.
-/

namespace CallFlow.Json

/-- The code unit that four digits spell. -/
def unitOf? : List Char → Option Nat
  | [a, b, c, d] => hexUnit? a b c d
  | _ => none

/-- The escape of a control character without a letter of its own. -/
theorem hexUnit?_hexDigits : ∀ n < 32, ∃ a b c d, Text.hexDigits 4 n = [a, b, c, d] ∧
    hexUnit? a b c d = some n := by
  intro n hn
  have units : ∀ n < 32, unitOf? (Text.hexDigits 4 n) = some n := by decide
  have unit := units n hn
  unfold unitOf? at unit
  split at unit
  · rename_i a b c d h
    exact ⟨a, b, c, d, h, unit⟩
  · cases unit

/-- A character is read back from the way it stands between quotes. -/
theorem readChars_escape (c : Char) (rest : List Char) :
    readChars (escape c ++ rest) = (readChars rest).map fun (s, rest) ↦ (c :: s, rest) := by
  rw [escape]
  split
  · subst_vars; rfl
  split
  · subst_vars; rfl
  split
  · subst_vars; rfl
  split
  · subst_vars; rfl
  split
  · subst_vars; rfl
  split
  · subst_vars; rfl
  split
  · subst_vars; rfl
  split
  · rename_i control
    have small : c.toNat < 32 := control
    obtain ⟨a, b, c', d, digits, unit⟩ := hexUnit?_hexDigits c.toNat small
    rw [digits]
    simp only [List.cons_append, List.nil_append]
    rw [readChars]
    simp only [unit]
    rw [if_neg (by omega), if_neg (by omega), Char.ofNat_toNat]
  · rename_i quote backslash _ _ _ _ _ printable
    simp only [List.singleton_append]
    rw [readChars]
    · simp [printable, backslash]
    all_goals simp_all

theorem readChars_escapes (cs rest : List Char) :
    readChars (cs.flatMap escape ++ '"' :: rest) = some (cs, rest) := by
  induction cs with
  | nil => rfl
  | cons c cs ih => rw [List.flatMap_cons, List.append_assoc, readChars_escape, ih]; rfl

/-- A text is read back. -/
theorem readString_writeString (s : String) (rest : List Char) :
    ∃ cs, writeString s rest = '"' :: cs ∧ readString cs = some (s, rest) := by
  refine ⟨_, rfl, ?_⟩
  simp only [readString, readChars_escapes, Option.map_some, String.ofList_toList]

end CallFlow.Json
