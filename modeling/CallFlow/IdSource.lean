/-!
# Sources of ids

New nodes, edges and policies are named by ids that are drawn one after another from a source. A
source may repeat itself, but it never runs out of ids that are not in use.
-/

namespace CallFlow

/-- An endless sequence of ids that always goes on to one outside any finite list. -/
structure IdSource where
  supply : Nat → String
  unused : ∀ (used : List String) (start : Nat), ∃ i, start ≤ i ∧ supply i ∉ used

namespace IdSource

/-! ## Search -/

/-- A place, from `start` on, at which the source has an id outside the list. -/
noncomputable def bound (s : IdSource) (used : List String) (start : Nat) : Nat :=
  Classical.choose (s.unused used start)

theorem start_le_bound (s : IdSource) (used : List String) (start : Nat) :
    start ≤ s.bound used start :=
  (Classical.choose_spec (s.unused used start)).1

theorem supply_bound (s : IdSource) (used : List String) (start : Nat) :
    s.supply (s.bound used start) ∉ used :=
  (Classical.choose_spec (s.unused used start)).2

/-- The first place from `i` on with an id outside the list. The search ends, for there is such a
place between `i` and the bound. -/
def seek (s : IdSource) (used : List String) (start i : Nat) (h : i ≤ s.bound used start) : Nat :=
  if taken : s.supply i ∈ used then
    have : i ≠ s.bound used start := fun e ↦ s.supply_bound used start (e ▸ taken)
    s.seek used start (i + 1) (by omega)
  else i
termination_by s.bound used start - i

end IdSource

/-- A source of ids and how many were drawn from it. -/
structure IdStream where
  source : IdSource
  drawn : Nat := 0

namespace IdStream

/-- Draws the next id. -/
def draw (ids : IdStream) : String × IdStream :=
  (ids.source.supply ids.drawn, { ids with drawn := ids.drawn + 1 })

/-- Draws ids until one is outside the list. -/
def drawOutside (ids : IdStream) (used : List String) : String × IdStream :=
  let i := ids.source.seek used ids.drawn ids.drawn (ids.source.start_le_bound ..)
  (ids.source.supply i, { ids with drawn := i + 1 })

end IdStream

/-! ## Numbered ids -/

namespace IdSource

/-- The numbered id of a place, counted from one. -/
def numberedId (i : Nat) : String := "id-" ++ toString (i + 1)

theorem numberedId_inj {i j : Nat} (h : numberedId i = numberedId j) : i = j := by
  have h : Nat.toDigits 10 (i + 1) = Nat.toDigits 10 (j + 1) := by
    have := congrArg String.toList h
    simpa [numberedId, Nat.repr, ToString.toString] using this
  have := congrArg (fun ds ↦ Nat.ofDigitChars 10 ds 0) h
  simpa [Nat.ofDigitChars_toDigits] using this

/-- An injective sequence leaves every finite list after every place. -/
theorem exists_unused {f : Nat → String} (inj : ∀ i j, f i = f j → i = j)
    (used : List String) (start : Nat) : ∃ i, start ≤ i ∧ f i ∉ used := by
  refine Classical.byContradiction fun exhausted ↦ ?_
  have all : ∀ i, start ≤ i → f i ∈ used := fun i hi ↦
    Classical.byContradiction fun h ↦ exhausted ⟨i, hi, h⟩
  have distinct : ((List.range (used.length + 1)).map fun i ↦ f (start + i)).Nodup := by
    refine List.Pairwise.map _ (fun a b h e ↦ h ?_) List.nodup_range
    have := inj _ _ e
    omega
  have subset : ((List.range (used.length + 1)).map fun i ↦ f (start + i)) ⊆ used := fun x hx ↦ by
    obtain ⟨i, _, rfl⟩ := List.mem_map.1 hx
    exact all _ (Nat.le_add_right ..)
  have short := distinct.length_le_of_subset subset
  simp only [List.length_map, List.length_range] at short
  omega

/-- The given ids in order, then numbered ones. -/
def listed (given : List String) : IdSource where
  supply i := (given[i]?).getD (numberedId (i - given.length))
  unused used start := by
    obtain ⟨i, _, h⟩ := exists_unused (f := numberedId) (fun _ _ ↦ numberedId_inj) used start
    refine ⟨given.length + i, by omega, ?_⟩
    rw [List.getElem?_eq_none (by omega)]
    simpa using h

end IdSource

end CallFlow
