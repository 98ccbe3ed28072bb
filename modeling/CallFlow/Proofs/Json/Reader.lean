import CallFlow.Json.Reader
import CallFlow.Proofs.Json.Members

/-!
# What is read has distinct names

Of members of one name the reader keeps one, so no object in a value that was read has two of them.
-/

namespace CallFlow.Json

variable {limits : Limits} {cs rest : List Char}

theorem hasDistinctNames_readWord {v : Json} (h : readWord cs = some (v, rest)) :
    v.HasDistinctNames := by
  obtain ⟨word, mem, hw⟩ := List.exists_of_findSome?_eq_some h
  obtain ⟨_, -, e⟩ := Option.map_eq_some_iff.1 hw
  obtain rfl : word.2 = v := congrArg Prod.fst e
  have each : ∀ word ∈ words, word.2.HasDistinctNames := by
    simp only [words, List.forall_mem_cons, List.not_mem_nil, false_implies, implies_true, and_true]
    exact ⟨.null, .bool true, .bool false, .float _, .float _, .float _⟩
  exact each word mem

theorem hasDistinctNames_readNumber {v : Json} (h : readNumber limits cs = some (v, rest)) :
    v.HasDistinctNames := by
  obtain ⟨whole, -, h⟩ := Option.bind_eq_some_iff.1 h
  obtain ⟨fraction, -, h⟩ := Option.bind_eq_some_iff.1 h
  obtain ⟨exponent, -, h⟩ := Option.bind_eq_some_iff.1 h
  cases h
  rw [numberOf.eq_def]
  split
  · exact .int _
  · exact .float _

section Steps

/-! What one step reads has distinct names if what the steps after it read has. -/

variable {steps : Nat}

theorem hasDistinctNames_readValue
    (items : ∀ limits cs vs rest, readItems limits steps cs = some (vs, rest) →
      ∀ v ∈ vs, v.HasDistinctNames)
    (members : ∀ limits cs ms rest, readMembers limits steps cs = some (ms, rest) →
      ∀ m ∈ ms, m.2.HasDistinctNames)
    {v : Json} (h : readValue limits (steps + 1) cs = some (v, rest)) : v.HasDistinctNames := by
  cases cs with
  | nil => cases h
  | cons c cs =>
    rw [readValue] at h
    split at h
    · obtain ⟨_, -, h⟩ := Option.map_eq_some_iff.1 h
      cases h
      exact .str _
    · split at h
      · split at h
        · cases h
          exact .arr fun _ hv ↦ (nomatch hv)
        · obtain ⟨inner, -, h⟩ := Option.bind_eq_some_iff.1 h
          obtain ⟨⟨vs, rest'⟩, hvs, h⟩ := Option.bind_eq_some_iff.1 h
          cases h
          exact .arr (items _ _ _ _ hvs)
      · split at h
        · split at h
          · cases h
            exact .obj List.nodup_nil fun _ hm ↦ (nomatch hm)
          · obtain ⟨inner, -, h⟩ := Option.bind_eq_some_iff.1 h
            obtain ⟨⟨ms, rest'⟩, hms, h⟩ := Option.bind_eq_some_iff.1 h
            cases h
            exact Members.haveDistinctNames_ofPairs (members _ _ _ _ hms)
        · rcases Option.or_eq_some_iff.1 h with h | ⟨-, h⟩
          · exact hasDistinctNames_readWord h
          · exact hasDistinctNames_readNumber h

variable (value : ∀ limits cs v rest, readValue limits steps cs = some (v, rest) →
  v.HasDistinctNames)
include value

theorem hasDistinctNames_readItems
    (items : ∀ limits cs vs rest, readItems limits steps cs = some (vs, rest) →
      ∀ v ∈ vs, v.HasDistinctNames)
    {vs : List Json} (h : readItems limits (steps + 1) cs = some (vs, rest)) :
    ∀ v ∈ vs, v.HasDistinctNames := by
  rw [readItems] at h
  obtain ⟨⟨v, cs'⟩, hv, h⟩ := Option.bind_eq_some_iff.1 h
  have first := value _ _ _ _ hv
  dsimp only at h
  split at h
  · cases h
    exact List.forall_mem_singleton.2 first
  · obtain ⟨⟨vs', rest'⟩, hvs, h⟩ := Option.bind_eq_some_iff.1 h
    cases h
    exact List.forall_mem_cons.2 ⟨first, items _ _ _ _ hvs⟩
  · cases h

theorem hasDistinctNames_readMembers
    (members : ∀ limits cs ms rest, readMembers limits steps cs = some (ms, rest) →
      ∀ m ∈ ms, m.2.HasDistinctNames)
    {ms : Members} (h : readMembers limits (steps + 1) cs = some (ms, rest)) :
    ∀ m ∈ ms, m.2.HasDistinctNames := by
  unfold readMembers at h
  split at h
  · obtain ⟨⟨name, cs'⟩, -, h⟩ := Option.bind_eq_some_iff.1 h
    dsimp only at h
    split at h
    · obtain ⟨⟨v, cs''⟩, hv, h⟩ := Option.bind_eq_some_iff.1 h
      have first := value _ _ _ _ hv
      dsimp only at h
      split at h
      · cases h
        exact List.forall_mem_singleton.2 first
      · obtain ⟨⟨ms', rest'⟩, hms, h⟩ := Option.bind_eq_some_iff.1 h
        cases h
        exact List.forall_mem_cons.2 ⟨first, members _ _ _ _ hms⟩
      · cases h
    · cases h
  · cases h

end Steps

/-- The reader keeps names distinct in values, in items and in members, however many steps it has.
-/
theorem hasDistinctNames_read (steps : Nat) :
    (∀ limits cs v rest, readValue limits steps cs = some (v, rest) → v.HasDistinctNames) ∧
    (∀ limits cs vs rest, readItems limits steps cs = some (vs, rest) →
      ∀ v ∈ vs, v.HasDistinctNames) ∧
    ∀ limits cs ms rest, readMembers limits steps cs = some (ms, rest) →
      ∀ m ∈ ms, m.2.HasDistinctNames := by
  induction steps with
  | zero =>
    exact ⟨fun _ _ _ _ h ↦ (nomatch h), fun _ _ _ _ h ↦ (nomatch h),
      fun _ _ _ _ h ↦ (nomatch h)⟩
  | succ steps ih =>
    obtain ⟨value, items, members⟩ := ih
    exact ⟨fun _ _ _ _ h ↦ hasDistinctNames_readValue items members h,
      fun _ _ _ _ h ↦ hasDistinctNames_readItems value items h,
      fun _ _ _ _ h ↦ hasDistinctNames_readMembers value members h⟩

/-- Whatever document is read, it has distinct names. -/
theorem hasDistinctNames_readDocument? {text : String} {v : Json}
    (h : readDocument? text = some v) : v.HasDistinctNames := by
  rw [readDocument?, readWithin?] at h
  split at h
  · rename_i hv
    split at h
    · cases h
      exact (hasDistinctNames_read _).1 _ _ _ _ hv
    · cases h
  · cases h

end CallFlow.Json
