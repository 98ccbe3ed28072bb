import CallFlow.Proofs.Result
import Mathlib.Data.List.Nodup

/-!
# The first repeated key

Items are taken in one after another, each under its key, and a key that is in use is refused
(`TakesKeys`). All items are taken in exactly if their keys differ, and what is refused otherwise is
the first key that repeats an earlier one (`TakesKeys.foldlM_eq_error_iff`).
-/

namespace CallFlow

variable {κ : Type}

/-- The key repeats an earlier one, and no key before it does. -/
def IsFirstRepeat (keys : List κ) (key : κ) : Prop :=
  ∃ earlier later, keys = earlier ++ key :: later ∧ earlier.Nodup ∧ key ∈ earlier

/-- A key is there twice exactly if the keys do not differ. -/
theorem exists_two_le_count_iff [DecidableEq κ] {keys : List κ} :
    (∃ key, 2 ≤ keys.count key) ↔ ¬keys.Nodup := by
  rw [List.nodup_iff_count_le_one, not_forall]
  exact exists_congr fun _ ↦ Nat.not_le.symm

/-- Distinct keys do not go beyond the place of a repeated one. -/
theorem length_le_of_repeat {earlier later earlier' later' : List κ} {key key' : κ}
    (same : earlier ++ key :: later = earlier' ++ key' :: later') (repeated : key ∈ earlier)
    (distinct : earlier'.Nodup) : earlier'.length ≤ earlier.length := by
  by_contra longer
  have start : earlier ++ [key] <+: earlier ++ key :: later := ⟨later, (List.append_cons ..).symm⟩
  have inside : earlier ++ [key] <+: earlier' := by
    refine List.prefix_of_prefix_length_le start ⟨key' :: later', same.symm⟩ ?_
    rw [List.length_append, List.length_singleton]
    omega
  have distinct := distinct.sublist inside.sublist
  exact (List.nodup_append.1 distinct).2.2 key repeated key List.mem_cons_self rfl

namespace IsFirstRepeat

variable {keys : List κ} {key key' : κ}

theorem not_nodup (h : IsFirstRepeat keys key) : ¬keys.Nodup := by
  obtain ⟨earlier, later, rfl, -, repeated⟩ := h
  intro distinct
  exact (List.nodup_append.1 distinct).2.2 key repeated key List.mem_cons_self rfl

/-- There is one first repeated key. -/
theorem unique (h : IsFirstRepeat keys key) (h' : IsFirstRepeat keys key') : key = key' := by
  obtain ⟨earlier, later, rfl, distinct, repeated⟩ := h
  obtain ⟨earlier', later', same, distinct', repeated'⟩ := h'
  have length : earlier.length = earlier'.length :=
    Nat.le_antisymm (length_le_of_repeat same.symm repeated' distinct)
      (length_le_of_repeat same repeated distinct')
  exact (List.cons.inj (List.append_inj same length).2).1

end IsFirstRepeat

/-! ## Items under keys -/

/-- A step takes an item in under its key: it is refused if the key is in use, and otherwise the key
is in use from then on. -/
structure TakesKeys {ε σ α : Type} (step : σ → α → Except ε σ) (key : α → κ) (used : σ → List κ)
    (taken : κ → ε) : Prop where
  refuse : ∀ s a, key a ∈ used s → step s a = .error (taken (key a))
  accept : ∀ s a, key a ∉ used s → ∃ s', step s a = .ok s' ∧ used s' = used s ++ [key a]

namespace TakesKeys

variable {ε σ α : Type} {step : σ → α → Except ε σ} {key : α → κ} {used : σ → List κ}
  {taken : κ → ε} {s : σ} (takes : TakesKeys step key used taken) (distinct : (used s).Nodup)
include takes distinct

/-- Either all items are taken in, or the first repeated key is refused. -/
theorem foldlM_cases (items : List α) :
    (∃ s', items.foldlM step s = .ok s' ∧ used s' = used s ++ items.map key ∧
      (used s ++ items.map key).Nodup) ∨
    ∃ k, items.foldlM step s = .error (taken k) ∧ IsFirstRepeat (used s ++ items.map key) k := by
  induction items generalizing s with
  | nil => exact .inl ⟨s, rfl, (List.append_nil _).symm, (List.append_nil _).symm ▸ distinct⟩
  | cons a rest ih =>
    by_cases inUse : key a ∈ used s
    · refine .inr ⟨key a, ?_, used s, rest.map key, rfl, distinct, inUse⟩
      rw [List.foldlM_cons, takes.refuse s a inUse]
      rfl
    · obtain ⟨s', step_eq, grown⟩ := takes.accept s a inUse
      have distinct' : (used s').Nodup := by
        rw [grown, ← List.concat_eq_append]
        exact distinct.concat inUse
      have keys : used s' ++ rest.map key = used s ++ (a :: rest).map key := by
        rw [grown, List.append_assoc, List.singleton_append, List.map_cons]
      rw [List.foldlM_cons, step_eq, ← keys]
      exact ih distinct'

/-- All items are taken in exactly if their keys differ, from each other and from those in use. -/
theorem exists_foldlM_eq_ok_iff {items : List α} :
    (∃ s', items.foldlM step s = .ok s') ↔ (used s ++ items.map key).Nodup := by
  rcases takes.foldlM_cases distinct items with ⟨s', made, -, differ⟩ | ⟨k, refused, repeated⟩
  · exact iff_of_true ⟨s', made⟩ differ
  · refine iff_of_false ?_ repeated.not_nodup
    rintro ⟨s', made⟩
    cases refused.symm.trans made

/-- A key is refused exactly if the keys do not differ. -/
theorem exists_foldlM_eq_error_iff {items : List α} :
    (∃ k, items.foldlM step s = .error (taken k)) ↔ ¬(used s ++ items.map key).Nodup := by
  rcases takes.foldlM_cases distinct items with ⟨s', made, -, differ⟩ | ⟨k, refused, repeated⟩
  · refine iff_of_false ?_ (not_not_intro differ)
    rintro ⟨k, refused⟩
    cases refused.symm.trans made
  · exact iff_of_true ⟨k, refused⟩ repeated.not_nodup

/-- What is refused is the first repeated key. -/
theorem foldlM_eq_error_iff (injective : taken.Injective) {items : List α} {k : κ} :
    items.foldlM step s = .error (taken k) ↔ IsFirstRepeat (used s ++ items.map key) k := by
  rcases takes.foldlM_cases distinct items with ⟨s', made, -, differ⟩ | ⟨k', refused, repeated⟩
  · refine iff_of_false (fun refused ↦ ?_) fun repeated ↦ repeated.not_nodup differ
    cases refused.symm.trans made
  · rw [refused, Except.error.injEq, injective.eq_iff]
    constructor
    · rintro rfl
      exact repeated
    · exact repeated.unique

end TakesKeys

end CallFlow
