import CallFlow.Proofs.Graph.Walk
import CallFlow.Validation

/-!
# What validation finds

A validation finds nothing fatal exactly in the valid graphs (`areHarmless_validate`): those with
one entry in which every node has its fields, every field its type, and every edge its two ends,
and no node more edges or edges without a label than its kind admits. A node is reported as
unreachable exactly if the first entry does not reach it (`unreachable_mem_validate_iff`).
-/

namespace CallFlow

namespace Graph

/-- Nothing is wrong with a graph that would keep it from being run. -/
structure IsValid (r : Registry) (g : Graph) : Prop where
  soleEntry : (g.entries r).length = 1
  filledIn : ∀ n ∈ g.nodes.rows, ∀ f ∈ r.requiredFields n.type,
    isUnset (Members.get? n.data f) = false
  typed : ∀ n ∈ g.nodes.rows, ∀ f ∈ r.declaredFields n.type,
    f.2.admits ((Members.get? n.data f.1).getD .null) = true
  withinLimit : ∀ n ∈ g.nodes.rows, ∀ limit, r.maxOutgoing n.type = some limit →
    (g.outgoing n.id).length ≤ limit
  endpoints : ∀ e ∈ g.edges.rows, g.hasNode e.source = true ∧ g.hasNode e.target = true
  labelled : ∀ e ∈ g.edges.rows, ∀ n, g.node? e.source = some n → r.isBranching n.type = true →
    isUnset (e.label.map .str) = false

end Graph

namespace Finding

/-! ## Harmless findings -/

theorem areHarmless_iff {fs : List Finding} :
    areHarmless fs = true ↔ ∀ f ∈ fs, f.isFatal = false := by
  simp [areHarmless, fatalOnes]

@[simp] theorem areHarmless_append (fs gs : List Finding) :
    areHarmless (fs ++ gs) = (areHarmless fs && areHarmless gs) := by
  rw [Bool.eq_iff_iff, Bool.and_eq_true]
  simp only [areHarmless_iff, List.mem_append]
  exact ⟨fun h ↦ ⟨fun f hf ↦ h f (.inl hf), fun f hf ↦ h f (.inr hf)⟩,
    fun h f hf ↦ hf.elim (h.1 f) (h.2 f)⟩

/-- Findings that are all fatal are harmless only if there are none. -/
theorem areHarmless_eq_isEmpty {fs : List Finding} (fatal : ∀ f ∈ fs, f.isFatal = true) :
    areHarmless fs = fs.isEmpty := by
  rw [areHarmless, fatalOnes, List.filter_eq_self.2 fatal]

end Finding

namespace Graph

open Finding

variable (r : Registry) (g : Graph)

/-! ## Check by check -/

theorem areHarmless_entryFindings :
    areHarmless (g.entryFindings r) = true ↔ (g.entries r).length = 1 := by
  rw [entryFindings]
  split
  next none => simp [none, areHarmless_iff, isFatal, severity]
  next first extra some =>
    rw [areHarmless_eq_isEmpty fun f hf ↦ by obtain ⟨n, _, rfl⟩ := List.mem_map.1 hf; rfl, some]
    simp

theorem areHarmless_requiredFindings :
    areHarmless (g.requiredFindings r) = true ↔ ∀ n ∈ g.nodes.rows,
      ∀ f ∈ r.requiredFields n.type, isUnset (Members.get? n.data f) = false := by
  simp only [areHarmless_iff, requiredFindings, List.mem_flatMap, List.mem_map, List.mem_filter]
  constructor
  · intro h n hn f hf
    by_contra unset
    have := h (.unsetField n.id f) ⟨n, hn, f, ⟨hf, by simpa using unset⟩, rfl⟩
    simp [isFatal, severity] at this
  · rintro h x ⟨n, hn, f, ⟨hf, unset⟩, rfl⟩
    simp [h n hn f hf] at unset

theorem areHarmless_typeFindings :
    areHarmless (g.typeFindings r) = true ↔ ∀ n ∈ g.nodes.rows, ∀ f ∈ r.declaredFields n.type,
      f.2.admits ((Members.get? n.data f.1).getD .null) = true := by
  simp only [areHarmless_iff, typeFindings, List.mem_flatMap, List.mem_filterMap]
  constructor
  · intro h n hn f hf
    by_contra hv
    have := h _ ⟨n, hn, f, hf, if_neg hv⟩
    simp [isFatal, severity] at this
  · rintro h x ⟨n, hn, f, hf, hx⟩
    simp [h n hn f hf] at hx

theorem areHarmless_reachabilityFindings : areHarmless (g.reachabilityFindings r) = true := by
  rw [reachabilityFindings]
  split
  · rfl
  · rw [areHarmless_iff]
    intro f hf
    obtain ⟨n, -, rfl⟩ := List.mem_map.1 hf
    rfl

theorem areHarmless_countFindings :
    areHarmless (g.countFindings r) = true ↔ ∀ n ∈ g.nodes.rows, ∀ limit,
      r.maxOutgoing n.type = some limit → (g.outgoing n.id).length ≤ limit := by
  simp only [areHarmless_iff, countFindings, List.mem_filterMap]
  constructor
  · intro h n hn limit hl
    by_contra excess
    have := h (.tooManyEdges n.id (g.outgoing n.id).length limit)
      ⟨n, hn, by simp [hl, Nat.lt_of_not_le excess]⟩
    simp [isFatal, severity] at this
  · rintro h x ⟨n, hn, hx⟩
    split at hx
    · simp at hx
    · rename_i limit hl
      simp [Nat.not_lt.2 (h n hn limit hl)] at hx

theorem areHarmless_endpointFindings :
    areHarmless g.endpointFindings = true ↔
      ∀ e ∈ g.edges.rows, g.hasNode e.source = true ∧ g.hasNode e.target = true := by
  rw [areHarmless_eq_isEmpty fun f hf ↦ by
    obtain ⟨e, -, h⟩ := List.mem_flatMap.1 hf
    obtain ⟨id, -, rfl⟩ := List.mem_map.1 h
    rfl]
  simp [endpointFindings]

theorem areHarmless_labelFindings :
    areHarmless (g.labelFindings r) = true ↔ ∀ e ∈ g.edges.rows, ∀ n,
      g.node? e.source = some n → r.isBranching n.type = true →
        isUnset (e.label.map .str) = false := by
  simp only [areHarmless_iff, labelFindings, List.mem_filterMap]
  constructor
  · intro h e he n hn branching
    by_contra unset
    have := h (.unlabelledBranch n.id e.id) ⟨e, he, by simp [hn, branching, unset]⟩
    simp [isFatal, severity] at this
  · rintro h x ⟨e, he, hx⟩
    split at hx
    · simp at hx
    · rename_i n hn
      split at hx
      next both =>
        rw [Bool.and_eq_true] at both
        simp [h e he n hn both.1] at both
      next => simp at hx

theorem areHarmless_kindFindings : areHarmless (g.kindFindings r) = true := by
  rw [areHarmless_iff]
  intro f hf
  obtain ⟨n, -, rfl⟩ := List.mem_map.1 hf
  rfl

/-- A validation finds nothing fatal in valid graphs, and only in them. -/
theorem areHarmless_validate : areHarmless (g.validate r) = true ↔ g.IsValid r := by
  simp only [validate, areHarmless_append, Bool.and_eq_true, areHarmless_entryFindings,
    areHarmless_requiredFindings, areHarmless_typeFindings, areHarmless_reachabilityFindings,
    areHarmless_countFindings, areHarmless_endpointFindings, areHarmless_labelFindings,
    areHarmless_kindFindings, and_true]
  constructor
  · rintro ⟨⟨⟨⟨⟨h₁, h₂⟩, h₃⟩, h₄⟩, h₅⟩, h₆⟩
    exact ⟨h₁, h₂, h₃, h₄, h₅, h₆⟩
  · rintro ⟨h₁, h₂, h₃, h₄, h₅, h₆⟩
    exact ⟨⟨⟨⟨⟨h₁, h₂⟩, h₃⟩, h₄⟩, h₅⟩, h₆⟩

/-! ## What the findings of a check are called -/

section Codes

variable {r} {g} {f : Finding}

theorem code_of_mem_entryFindings (h : f ∈ g.entryFindings r) :
    f.code = "MissingEntryNode" ∨ f.code = "MultipleEntryNodes" := by
  rw [entryFindings] at h
  split at h
  · rw [List.mem_singleton.1 h]
    exact .inl rfl
  · obtain ⟨n, -, rfl⟩ := List.mem_map.1 h
    exact .inr rfl

theorem code_of_mem_requiredFindings (h : f ∈ g.requiredFindings r) :
    f.code = "MissingRequiredField" := by
  obtain ⟨n, -, h⟩ := List.mem_flatMap.1 h
  obtain ⟨field, -, rfl⟩ := List.mem_map.1 h
  rfl

theorem code_of_mem_typeFindings (h : f ∈ g.typeFindings r) :
    f.code = "InvalidFieldType" := by
  obtain ⟨n, -, h⟩ := List.mem_flatMap.1 h
  obtain ⟨⟨field, type⟩, -, h⟩ := List.mem_filterMap.1 h
  dsimp only at h
  split at h
  · cases h
  · cases h
    rfl

theorem code_of_mem_reachabilityFindings (h : f ∈ g.reachabilityFindings r) :
    f.code = "UnreachableNode" := by
  rw [reachabilityFindings] at h
  split at h
  · cases h
  · obtain ⟨n, -, rfl⟩ := List.mem_map.1 h
    rfl

theorem code_of_mem_labelFindings (h : f ∈ g.labelFindings r) :
    f.code = "UnlabeledBranch" := by
  obtain ⟨e, -, h⟩ := List.mem_filterMap.1 h
  split at h
  · cases h
  · split at h
    · cases h
      rfl
    · cases h

theorem code_of_mem_countFindings (h : f ∈ g.countFindings r) :
    f.code = "TooManyOutgoingEdges" := by
  obtain ⟨n, -, h⟩ := List.mem_filterMap.1 h
  split at h
  · cases h
  · dsimp only at h
    split at h
    · cases h
      rfl
    · cases h

theorem code_of_mem_endpointFindings (h : f ∈ g.endpointFindings) : f.code = "NodeNotFound" := by
  obtain ⟨e, -, h⟩ := List.mem_flatMap.1 h
  obtain ⟨id, -, rfl⟩ := List.mem_map.1 h
  rfl

theorem code_of_mem_kindFindings (h : f ∈ g.kindFindings r) : f.code = "UnknownNodeKind" := by
  obtain ⟨n, -, rfl⟩ := List.mem_map.1 h
  rfl

/-- A validation does not miss what is there. -/
theorem code_of_mem_validate (entry : g.entries r ≠ [])
    (ends : ∀ e ∈ g.edges.rows, g.hasNode e.source = true ∧ g.hasNode e.target = true)
    (kinds : ∀ n ∈ g.nodes.rows, r.isKnown n.type = true) (h : f ∈ g.validate r) :
    f.code ∉ ["MissingEntryNode", "NodeNotFound", "UnknownNodeKind"] := by
  simp only [validate, List.mem_append] at h
  rcases h with ((((((h | h) | h) | h) | h) | h) | h) | h
  · rw [entryFindings] at h
    split at h
    · rename_i none
      exact absurd none entry
    · obtain ⟨n, -, rfl⟩ := List.mem_map.1 h
      simp [code]
  · simp [code_of_mem_requiredFindings h]
  · simp [code_of_mem_typeFindings h]
  · simp [code_of_mem_reachabilityFindings h]
  · simp [code_of_mem_countFindings h]
  · obtain ⟨e, he, h⟩ := List.mem_flatMap.1 h
    simp [ends e he] at h
  · simp [code_of_mem_labelFindings h]
  · obtain ⟨n, hn, -⟩ := List.mem_map.1 h
    simp [kinds n (List.mem_filter.1 hn).1] at hn

end Codes

/-! ## Unreachable nodes -/

/-- One check alone reports nodes as unreachable. -/
theorem count_unreachable (id : String) :
    (g.validate r).count (.unreachable id) = (g.reachabilityFindings r).count (.unreachable id) := by
  have none {fs : List Finding} (other : ∀ f ∈ fs, f.code ≠ "UnreachableNode") :
      fs.count (.unreachable id) = 0 := List.count_eq_zero.2 fun h ↦ other _ h rfl
  have entry : (g.entryFindings r).count (.unreachable id) = 0 :=
    none fun f hf ↦ by rcases code_of_mem_entryFindings hf with h | h <;> simp [h]
  have required : (g.requiredFindings r).count (.unreachable id) = 0 :=
    none fun f hf ↦ by simp [code_of_mem_requiredFindings hf]
  have type : (g.typeFindings r).count (.unreachable id) = 0 :=
    none fun f hf ↦ by simp [code_of_mem_typeFindings hf]
  have count : (g.countFindings r).count (.unreachable id) = 0 :=
    none fun f hf ↦ by simp [code_of_mem_countFindings hf]
  have endpoint : g.endpointFindings.count (.unreachable id) = 0 :=
    none fun f hf ↦ by simp [code_of_mem_endpointFindings hf]
  have label : (g.labelFindings r).count (.unreachable id) = 0 :=
    none fun f hf ↦ by simp [code_of_mem_labelFindings hf]
  have kind : (g.kindFindings r).count (.unreachable id) = 0 :=
    none fun f hf ↦ by simp [code_of_mem_kindFindings hf]
  simp only [validate, List.count_append, entry, required, type, count, endpoint, label, kind,
    Nat.zero_add, Nat.add_zero]

/-- A node is reported as unreachable if the first entry does not reach it. -/
theorem unreachable_mem_validate_iff {id : String} : .unreachable id ∈ g.validate r ↔
    g.hasNode id = true ∧ ∃ entry rest, g.entries r = entry :: rest ∧ ¬g.Reaches entry.id id := by
  rw [← List.count_pos_iff, count_unreachable, List.count_pos_iff, reachabilityFindings]
  cases g.entries r with
  | nil => simp
  | cons entry rest =>
    simp only [List.mem_map, List.mem_filter, Finding.unreachable.injEq, Bool.not_eq_true',
      List.contains_eq_mem, decide_eq_false_iff_not, List.cons.injEq]
    constructor
    · rintro ⟨n, ⟨hn, outside⟩, rfl⟩
      have there : g.hasNode n.id = true := hasNode_iff.2 ⟨n, hn, rfl⟩
      exact ⟨there, entry, rest, ⟨rfl, rfl⟩, mt (mem_closure_iff there).2 outside⟩
    · rintro ⟨there, _, _, ⟨rfl, rfl⟩, unreached⟩
      obtain ⟨n, hn, rfl⟩ := hasNode_iff.1 there
      exact ⟨n, ⟨hn, mt (mem_closure_iff there).1 unreached⟩, rfl⟩

end Graph

end CallFlow
