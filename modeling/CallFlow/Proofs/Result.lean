/-!
# Results that may be refused

When a result made of several others is there: exactly if all of them are.
-/

namespace CallFlow.Result

variable {ε ε' α β : Type}

theorem bind_eq_ok_iff {x : Except ε α} {f : α → Except ε β} {b : β} :
    x >>= f = .ok b ↔ ∃ a, x = .ok a ∧ f a = .ok b := by
  cases x with
  | error e => exact ⟨fun h ↦ (nomatch h), fun ⟨_, h, _⟩ ↦ (nomatch h)⟩
  | ok a => exact ⟨fun h ↦ ⟨a, rfl, h⟩, fun ⟨_, h, hf⟩ ↦ Except.ok.inj h ▸ hf⟩

theorem pure_eq_ok_iff {a b : α} : (pure a : Except ε α) = .ok b ↔ b = a :=
  ⟨fun h ↦ (Except.ok.inj h).symm, fun h ↦ h ▸ rfl⟩

/-- What is refused under a condition is there only where the condition fails. -/
theorem refuseIf_eq_ok_iff {c : Prop} [Decidable c] {e : ε} {f : Unit → Except ε β} {b : β} :
    (if c then (throw e : Except ε Unit) >>= f else f ()) = .ok b ↔ ¬c ∧ f () = .ok b := by
  by_cases h : c
  · rw [if_pos h]
    exact ⟨fun h' ↦ (nomatch h'), fun h' ↦ absurd h h'.1⟩
  · rw [if_neg h]
    exact ⟨fun h' ↦ ⟨h, h'⟩, fun h' ↦ h'.2⟩

theorem mapError_ok (a : α) (f : ε → ε') : (Except.ok a).mapError f = .ok a := rfl

theorem mapError_error (e : ε) (f : ε → ε') :
    (Except.error e : Except ε α).mapError f = .error (f e) := rfl

theorem mapError_eq_ok_iff {x : Except ε α} {f : ε → ε'} {a : α} :
    x.mapError f = .ok a ↔ x = .ok a := by
  cases x with
  | error e => exact ⟨fun h ↦ (nomatch h), fun h ↦ (nomatch h)⟩
  | ok b => exact ⟨fun h ↦ Except.ok.inj h ▸ rfl, fun h ↦ Except.ok.inj h ▸ rfl⟩

theorem mapError_eq_error_iff {x : Except ε α} {f : ε → ε'} {e' : ε'} :
    x.mapError f = .error e' ↔ ∃ e, x = .error e ∧ f e = e' := by
  cases x with
  | error e => simp [mapError_error]
  | ok a => simp [mapError_ok]

/-- A result is refused exactly if it is no value. -/
theorem exists_error_iff {x : Except ε α} : (∃ e, x = .error e) ↔ ¬∃ a, x = .ok a := by
  cases x with
  | error e => exact ⟨fun _ ⟨_, h⟩ ↦ (nomatch h), fun _ ↦ ⟨e, rfl⟩⟩
  | ok a => exact ⟨fun ⟨_, h⟩ ↦ (nomatch h), fun h ↦ absurd ⟨a, rfl⟩ h⟩

/-- The results of a list are there exactly if each of them is. If what they are does not depend on
what is refused, they are those of a total function. -/
theorem mapM_eq_ok_iff {f : α → Except ε β} {plain : α → β} {sound : α → Prop}
    (spec : ∀ a b, f a = .ok b ↔ sound a ∧ b = plain a) {items : List α} {results : List β} :
    items.mapM f = .ok results ↔ (∀ a ∈ items, sound a) ∧ results = items.map plain := by
  induction items generalizing results with
  | nil => simp [pure_eq_ok_iff]
  | cons a rest ih =>
    simp only [List.mapM_cons, bind_eq_ok_iff, spec, ih, pure_eq_ok_iff, List.forall_mem_cons,
      List.map_cons]
    constructor
    · rintro ⟨_, ⟨ha, rfl⟩, _, ⟨hr, rfl⟩, rfl⟩
      exact ⟨⟨ha, hr⟩, rfl⟩
    · rintro ⟨⟨ha, hr⟩, rfl⟩
      exact ⟨_, ⟨ha, rfl⟩, _, ⟨hr, rfl⟩, rfl⟩

/-- A fold goes through exactly if it goes through at every item. -/
theorem exists_foldlM_eq_ok_iff {f : β → α → Except ε β} {sound : α → Prop}
    (spec : ∀ b a, (∃ b', f b a = .ok b') ↔ sound a) {items : List α} {b : β} :
    (∃ b', items.foldlM f b = .ok b') ↔ ∀ a ∈ items, sound a := by
  induction items generalizing b with
  | nil => exact iff_of_true ⟨b, rfl⟩ (by simp)
  | cons a rest ih =>
    rw [List.foldlM_cons, List.forall_mem_cons, ← spec b a]
    constructor
    · rintro ⟨c, h⟩
      obtain ⟨b', hb, h⟩ := bind_eq_ok_iff.1 h
      exact ⟨⟨b', hb⟩, ih.1 ⟨c, h⟩⟩
    · rintro ⟨⟨b', hb⟩, h⟩
      obtain ⟨c, hc⟩ := (ih (b := b')).2 h
      exact ⟨c, bind_eq_ok_iff.2 ⟨b', hb, hc⟩⟩

end CallFlow.Result
