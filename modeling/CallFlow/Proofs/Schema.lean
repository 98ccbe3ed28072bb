import CallFlow.Schema.Scalar
import CallFlow.Proofs.Json.Sorted
import Mathlib.Data.List.Forall2

/-!
# Sound records

How a check goes on a value that is sound: it is computed field by field, each from what stands
under its name. As that does not depend on the order of the names, a record may be checked after its
names were put in order.
-/

namespace CallFlow.Schema

variable {α β : Type}

/-! ## Sound values -/

namespace Checked

theorem map_eq_sound_iff {f : α → β} {x : Checked α} {b : β} :
    f <$> x = .sound b ↔ ∃ a, x = .sound a ∧ b = f a := by
  cases x with
  | sound a =>
    constructor
    · exact fun h ↦ ⟨a, rfl, (sound.inj h).symm⟩
    · rintro ⟨_, ⟨⟩, rfl⟩
      rfl
  | faulty es => exact ⟨fun h ↦ (nomatch h), fun ⟨_, h, _⟩ ↦ (nomatch h)⟩

theorem seq_eq_sound_iff {f : Checked (α → β)} {x : Checked α} {b : β} :
    f <*> x = .sound b ↔ ∃ g a, f = .sound g ∧ x = .sound a ∧ b = g a := by
  cases f with
  | sound g =>
    cases x with
    | sound a =>
      exact ⟨fun h ↦ ⟨g, a, rfl, rfl, (sound.inj h).symm⟩, fun ⟨_, _, h, h', hb⟩ ↦ by
        cases h
        cases h'
        rw [hb]
        rfl⟩
    | faulty es => exact ⟨fun h ↦ (nomatch h), fun ⟨_, _, _, h, _⟩ ↦ (nomatch h)⟩
  | faulty es =>
    cases x <;> exact ⟨fun h ↦ (nomatch h), fun ⟨_, _, h, _⟩ ↦ (nomatch h)⟩

theorem under_eq_sound_iff {step : Step} {x : Checked α} {a : α} :
    x.under step = .sound a ↔ x = .sound a := by
  cases x with
  | sound b => exact Iff.rfl
  | faulty es => exact ⟨fun h ↦ (nomatch h), fun h ↦ (nomatch h)⟩

end Checked

section Fields

variable {ms : Members} {name : String}

theorem optional_eq_sound_iff {check : Json → Checked α} {default a : α} {v : Json}
    (found : Members.get? ms name = some v) :
    optional ms name default check = .sound a ↔ check v = .sound a := by
  rw [optional, found, Checked.under_eq_sound_iff]

theorem optional_of_some {check : Json → Checked α} {default a : α} {v : Json}
    (found : Members.get? ms name = some v) (sound : check v = .sound a) :
    optional ms name default check = .sound a := (optional_eq_sound_iff found).2 sound

theorem optional_of_none {check : Json → Checked α} {default : α}
    (missing : Members.get? ms name = none) :
    optional ms name default check = .sound default := by
  rw [optional, missing]

/-- What is found for a field is its default or was checked. -/
theorem optional_eq_sound {check : Json → Checked α} {default a : α}
    (h : optional ms name default check = .sound a) :
    a = default ∨ ∃ v, Members.get? ms name = some v ∧ check v = .sound a := by
  rw [optional] at h
  split at h
  · rename_i v found
    exact .inr ⟨v, found, Checked.under_eq_sound_iff.1 h⟩
  · cases h
    exact .inl rfl

theorem required_of_some {check : Json → Checked α} {a : α} {v : Json}
    (found : Members.get? ms name = some v) (sound : check v = .sound a) :
    required ms name check = .sound a := by
  rw [required, found]
  exact congrArg (Checked.under (.key name)) sound

/-- What is found for a field that must be there was checked. -/
theorem required_eq_sound {check : Json → Checked α} {a : α}
    (h : required ms name check = .sound a) :
    ∃ v, Members.get? ms name = some v ∧ check v = .sound a := by
  rw [required, Checked.under_eq_sound_iff] at h
  split at h
  · rename_i v found
    exact ⟨v, found, h⟩
  · cases h

theorem nameOf_eq_or (ms : Members) (first second : String) :
    nameOf ms first second = first ∨ nameOf ms first second = second := by
  rw [nameOf]
  split
  · exact .inl rfl
  · exact .inr rfl

/-- The first name is looked up where it is there. -/
theorem nameOf_of_some {first second : String} {v : Json}
    (found : Members.get? ms first = some v) : nameOf ms first second = first := by
  simp [nameOf, Members.has, found]

theorem nameOf_of_none {first second : String} (missing : Members.get? ms first = none) :
    nameOf ms first second = second := by
  simp [nameOf, Members.has, missing]

end Fields

/-! ## Lists -/

/-- What is on the right of related lists has a partner on the left. -/
theorem exists_left_of_forall₂ {R : α → β → Prop} {as : List α} {bs : List β}
    (h : List.Forall₂ R as bs) : ∀ b ∈ bs, ∃ a ∈ as, R a b := by
  induction h with
  | nil => exact fun _ hb ↦ (nomatch hb)
  | @cons a b as bs first _ ih =>
    refine List.forall_mem_cons.2 ⟨⟨a, List.mem_cons_self, first⟩, fun c hc ↦ ?_⟩
    obtain ⟨d, hd, related⟩ := ih c hc
    exact ⟨d, List.mem_cons_of_mem a hd, related⟩

theorem exists_right_of_forall₂ {R : α → β → Prop} {as : List α} {bs : List β}
    (h : List.Forall₂ R as bs) : ∀ a ∈ as, ∃ b ∈ bs, R a b := exists_left_of_forall₂ h.flip

/-- Items are sound exactly if each of them is. -/
theorem checkItems_eq_sound_iff {check : Json → Checked α} {i : Nat} {items : List Json}
    {as : List α} : checkItems check i items = .sound as ↔
      List.Forall₂ (fun v a ↦ check v = .sound a) items as := by
  induction items generalizing i as with
  | nil =>
    rw [List.forall₂_nil_left_iff]
    exact ⟨fun h ↦ (Checked.sound.inj h).symm, fun h ↦ h ▸ rfl⟩
  | cons v rest ih =>
    rw [List.forall₂_cons_left_iff]
    constructor
    · intro h
      obtain ⟨cons, others, hc, ho, rfl⟩ := Checked.seq_eq_sound_iff.1 h
      obtain ⟨first, hf, rfl⟩ := Checked.map_eq_sound_iff.1 hc
      exact ⟨first, others, Checked.under_eq_sound_iff.1 hf, ih.1 ho, rfl⟩
    · rintro ⟨first, others, hf, ho, rfl⟩
      rw [checkItems, hf, ih.2 ho]
      rfl

theorem list_eq_sound_iff {check : Json → Checked α} {v : Json} {as : List α} :
    list check v = .sound as ↔
      ∃ items, v = .arr items ∧ List.Forall₂ (fun w a ↦ check w = .sound a) items as := by
  cases v with
  | arr items =>
    exact checkItems_eq_sound_iff.trans ⟨fun h ↦ ⟨items, rfl, h⟩, fun ⟨_, same, h⟩ ↦ by
      cases same
      exact h⟩
  | null | bool | int | float | str | obj =>
    exact ⟨fun h ↦ (nomatch h), fun ⟨_, same, _⟩ ↦ (nomatch same)⟩

/-- A list of written values is checked as the values that are read of them. -/
theorem list_map {check : Json → Checked α} {write : β → Json} {read : β → α} {items : List β}
    (each : ∀ b ∈ items, check (write b) = .sound (read b)) :
    list check (.arr (items.map write)) = .sound (items.map read) := by
  refine list_eq_sound_iff.2 ⟨_, rfl, ?_⟩
  rw [List.forall₂_map_left_iff, List.forall₂_map_right_iff]
  exact List.forall₂_same.2 each

/-- Every item of a sound list was checked. -/
theorem list_eq_sound {check : Json → Checked α} {v : Json} {as : List α}
    (h : list check v = .sound as) :
    ∃ items, v = .arr items ∧ ∀ a ∈ as, ∃ w ∈ items, check w = .sound a := by
  obtain ⟨items, rfl, each⟩ := list_eq_sound_iff.1 h
  exact ⟨items, rfl, exists_left_of_forall₂ each⟩

/-- A sound record is an object. -/
theorem record_eq_sound {origin : Origin} {fields : Members → Checked α} {v : Json} {a : α}
    (h : record origin fields v = .sound a) : ∃ ms, v = .obj ms ∧ fields ms = .sound a := by
  cases v with
  | obj ms => exact ⟨ms, rfl, h⟩
  | null | bool | int | float | str | arr => cases h

/-! ## Scalars -/

theorem nullable_ofOption {check : Json → Checked String} (text : ∀ s, check (.str s) = .sound s)
    (o : Option String) : nullable check (Json.ofOption o) = .sound o := by
  cases o with
  | none => rfl
  | some s => exact congrArg (Checked.map some) (text s)

theorem nullable_eq_some {check : Json → Checked α} {v : Json} {a : α}
    (h : nullable check v = .sound (some a)) : check v = .sound a := by
  cases v with
  | null => cases h
  | bool | int | float | str | arr | obj =>
    obtain ⟨b, sound, same⟩ := Checked.map_eq_sound_iff.1 h
    cases same
    exact sound

theorem nullable_text_eq_sound {v : Json} {o : Option String} (h : nullable text v = .sound o) :
    v = .ofOption o := by
  cases v with
  | null | str =>
    cases h
    rfl
  | bool | int | float | arr | obj => cases h

theorem eq_str_of_nonemptyText {v : Json} {s : String} (h : nonemptyText v = .sound s) :
    v = .str s := by
  cases v with
  | str t =>
    change (if t.length < 1 then .fail .textTooShort else .sound t : Checked String) = _ at h
    split at h
    · cases h
    · cases h
      rfl
  | null | bool | int | float | arr | obj => cases h

theorem nonemptyText_eq_sound {v : Json} {s : String} (h : nonemptyText v = .sound s) : s ≠ "" := by
  cases v with
  | str t =>
    change (if t.length < 1 then .fail .textTooShort else .sound t : Checked String) = _ at h
    split at h
    · cases h
    · rename_i some
      cases h
      rintro rfl
      exact some (by decide)
  | null | bool | int | float | arr | obj => cases h

end CallFlow.Schema
