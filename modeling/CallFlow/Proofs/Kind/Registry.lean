import CallFlow.Catalog
import CallFlow.Proofs.Json.Members
import CallFlow.Validation

/-!
# Registries drawn from a list of kinds

A registry knows the kinds that it was built of, under their tags and under their templates: a
template stands for a kind if exactly one kind has it (`IsIndexed.isSome_ofTemplate?_iff`). What
holds of every kind of a list thus holds of every kind of a registry drawn from the list; for the
catalog this says which fields a node of any tag is declared to have, and how many edges may leave
it.
-/

namespace CallFlow

namespace Registry

variable {r : Registry}

/-! ## The kinds of a registry -/

/-- Everything under a template is a known kind. -/
def TemplatesKnown (r : Registry) : Prop := ∀ t, ∀ k ∈ r.byTemplate.get t, k ∈ r.kinds

theorem kinds_register {r' : Registry} {k : Kind} (h : r.register k = .ok r') :
    r'.kinds = r.kinds ++ [k] := by
  rw [register] at h
  split at h
  · cases h
  · cases h
    rfl

theorem TemplatesKnown.register {r' : Registry} {k : Kind} (known : r.TemplatesKnown)
    (h : r.register k = .ok r') : r'.TemplatesKnown := by
  intro t k' hk'
  rw [kinds_register h]
  rw [Registry.register] at h
  split at h
  · cases h
  · cases h
    cases ht : k.templateId with
    | none => exact List.mem_append_left _ (known t k' (by simpa [ht] using hk'))
    | some own =>
      simp only [ht, Buckets.get_add] at hk'
      split at hk'
      · exact (List.mem_append.1 hk').elim (fun h ↦ List.mem_append_left _ (known t k' h))
          fun h ↦ List.mem_append_right _ h
      · exact List.mem_append_left _ (known t k' hk')

/-- What is kept whenever a kind is added is kept when several are. -/
theorem registerAll_induction {P : Registry → Prop} {kinds : List Kind} {r' : Registry}
    (keep : ∀ {r r' : Registry} {k : Kind}, P r → r.register k = .ok r' → P r') (start : P r)
    (h : r.registerAll kinds = .ok r') : P r' := by
  induction kinds generalizing r with
  | nil =>
    cases h
    exact start
  | cons k ks ih =>
    rw [registerAll] at h
    split at h
    · rename_i r₁ h₁
      exact ih (keep start h₁) h
    · cases h

theorem registerAll_spec {kinds : List Kind} {r' : Registry} (known : r.TemplatesKnown)
    (h : r.registerAll kinds = .ok r') : r'.kinds = r.kinds ++ kinds ∧ r'.TemplatesKnown := by
  induction kinds generalizing r with
  | nil =>
    cases h
    exact ⟨(List.append_nil _).symm, known⟩
  | cons k ks ih =>
    rw [registerAll] at h
    split at h
    · rename_i r₁ h₁
      obtain ⟨hk, ht⟩ := ih (known.register h₁) h
      exact ⟨by rw [hk, kinds_register h₁, List.append_assoc, List.singleton_append], ht⟩
    · cases h

theorem ofList_spec {kinds : List Kind} (h : ofList kinds = .ok r) :
    r.kinds = kinds ∧ r.TemplatesKnown :=
  registerAll_spec (fun t k hk ↦ by simp [empty, Buckets.get] at hk) h

theorem mem_of_get? {tag : String} {k : Kind} (h : r.get? tag = some k) :
    k ∈ r.kinds ∧ k.tag = tag :=
  ⟨List.mem_of_find?_eq_some h, by simpa using List.find?_some h⟩

theorem isKnown_iff {tag : String} : r.isKnown tag = true ↔ ∃ k ∈ r.kinds, k.tag = tag := by
  simp [isKnown, get?]

theorem mem_of_ofTemplate? (known : r.TemplatesKnown) {t : Int} {k : Kind}
    (h : r.ofTemplate? t = some k) : k ∈ r.kinds := by
  rw [ofTemplate?] at h
  split at h
  · rename_i k' hk'
    obtain rfl : k' = k := Option.some.inj h
    exact known t k' (by simp [hk'])
  · cases h

/-! ## The index by template -/

/-- No two kinds have one tag, and under a template stand all kinds that have it, in order. -/
structure IsIndexed (r : Registry) : Prop where
  tags : (r.kinds.map Kind.tag).Nodup
  templates : ∀ t, r.byTemplate.get t = r.kinds.filter (·.templateId == some t)

namespace IsIndexed

theorem register {r' : Registry} {k : Kind} (indexed : r.IsIndexed) (h : r.register k = .ok r') :
    r'.IsIndexed := by
  have kinds := kinds_register h
  rw [Registry.register] at h
  split at h
  · cases h
  · rename_i new
    refine ⟨?_, fun t ↦ ?_⟩
    · have new : k.tag ∉ r.kinds.map Kind.tag := by
        simpa [isKnown_iff] using new
      rw [kinds, List.map_append, List.nodup_append]
      refine ⟨indexed.tags, List.nodup_singleton _, fun tag old tag' own ↦ ?_⟩
      obtain rfl := List.mem_singleton.1 own
      exact fun same ↦ new (same ▸ old)
    · rw [kinds, List.filter_append, ← indexed.templates]
      cases h
      cases template : k.templateId with
      | none => simp [template]
      | some own =>
        by_cases same : own = t <;> simp [template, Buckets.get_add, same]

theorem ofList {kinds : List Kind} (h : Registry.ofList kinds = .ok r) : r.IsIndexed :=
  registerAll_induction (r := empty) IsIndexed.register ⟨List.nodup_nil, fun _ ↦ rfl⟩ h

theorem templatesKnown (indexed : r.IsIndexed) : r.TemplatesKnown := fun t k hk ↦ by
  rw [indexed.templates] at hk
  exact List.mem_of_mem_filter hk

/-- A template stands for a kind if exactly one kind has it. -/
theorem isSome_ofTemplate?_iff (indexed : r.IsIndexed) {t : Int} :
    (r.ofTemplate? t).isSome = true ↔ ∃! k, k ∈ r.kinds ∧ k.templateId = some t := by
  have mem {k : Kind} : k ∈ r.kinds ∧ k.templateId = some t ↔ k ∈ r.byTemplate.get t := by
    simp [indexed.templates]
  have distinct : (r.byTemplate.get t).Nodup := by
    rw [indexed.templates]
    exact indexed.tags.of_map.filter _
  simp only [mem]
  rw [ofTemplate?]
  rcases found : r.byTemplate.get t with _ | ⟨k, _ | ⟨k', rest⟩⟩
  · simp
  · simp
  · rw [found] at distinct
    refine iff_of_false Bool.false_ne_true ?_
    rintro ⟨l, -, sole⟩
    have first := sole k List.mem_cons_self
    have second := sole k' (List.mem_cons_of_mem k List.mem_cons_self)
    simp [first, second] at distinct

end IsIndexed

/-! ## Registries drawn from a list -/

/-- A registry is built of some of the kinds of a list, in any order. -/
def DrawnFrom (r : Registry) (kinds : List Kind) : Prop :=
  ∃ chosen, (∀ k ∈ chosen, k ∈ kinds) ∧ ofList chosen = .ok r

theorem DrawnFrom.mem {kinds : List Kind} (drawn : r.DrawnFrom kinds) {k : Kind}
    (h : k ∈ r.kinds) : k ∈ kinds := by
  obtain ⟨chosen, sub, built⟩ := drawn
  exact sub k ((ofList_spec built).1 ▸ h)

theorem DrawnFrom.templatesKnown {kinds : List Kind} (drawn : r.DrawnFrom kinds) :
    r.TemplatesKnown := by
  obtain ⟨chosen, -, built⟩ := drawn
  exact (ofList_spec built).2

theorem DrawnFrom.get?_mem {kinds : List Kind} (drawn : r.DrawnFrom kinds) {tag : String} {k : Kind}
    (h : r.get? tag = some k) : k ∈ kinds ∧ k.tag = tag :=
  ⟨drawn.mem (mem_of_get? h).1, (mem_of_get? h).2⟩

end Registry

/-! ## The catalog -/

namespace Catalog

theorem drawnFrom_registry : registry.DrawnFrom kinds := ⟨kinds, fun _ hk ↦ hk, rfl⟩

theorem passThroughFields_subset_declared :
    ∀ k ∈ kinds, ∀ f ∈ passThroughFields, f ∈ k.declared := by decide

/-- A field that every node hands on has the same type in all kinds. -/
theorem passThroughFields_unique :
    ∀ k ∈ kinds, ∀ f ∈ k.declared, ∀ f' ∈ passThroughFields, f.1 = f'.1 → f = f' := by decide

theorem phoneNumbers_mem_declared :
    ∀ k ∈ kinds, k.tag = Kind.inputTag → ("phoneNumbers", DataType.array) ∈ k.declared := by decide

theorem tag_ne_empty : ∀ k ∈ kinds, k.tag ≠ "" := by decide

theorem tag_of_isEntry : ∀ k ∈ kinds, k.isEntry = true → k.tag = Kind.initTag := by decide

theorem isEntry_of_tag : ∀ k ∈ kinds, k.tag = Kind.initTag → k.isEntry = true := by decide

theorem maxOutgoing_all_le_one : ∀ k ∈ kinds, k.maxOutgoing.all (· ≤ 1) = true := by decide

theorem hasDistinctNames_initial :
    ∀ k ∈ kinds, ∀ f ∈ k.fields, f.initial.HasDistinctNames := by decide

end Catalog

namespace Registry

variable {r : Registry}

/-- Nodes of the kinds of a registry can be stored: tags are not empty, and no data that a fresh
node has names anything twice. -/
structure IsSound (r : Registry) : Prop where
  tags : ∀ k ∈ r.kinds, k.tag ≠ ""
  initial : ∀ k ∈ r.kinds, ∀ f ∈ k.fields, f.initial.HasDistinctNames
  templates : r.TemplatesKnown

theorem DrawnFrom.isSound (drawn : r.DrawnFrom Catalog.kinds) : r.IsSound where
  tags k hk := Catalog.tag_ne_empty k (drawn.mem hk)
  initial k hk := Catalog.hasDistinctNames_initial k (drawn.mem hk)
  templates := drawn.templatesKnown

theorem IsSound.initialData (sound : r.IsSound) {k : Kind} (h : k ∈ r.kinds) :
    k.initialData.HaveDistinctNames :=
  Members.haveDistinctNames_ofPairs (List.forall_mem_map.2 (sound.initial k h))

/-- Whatever the tag, a name is declared to be a text and a switch to be a truth value. -/
theorem DrawnFrom.passThroughFields_subset (drawn : r.DrawnFrom Catalog.kinds) (tag : String) :
    ∀ f ∈ passThroughFields, f ∈ r.declaredFields tag := by
  intro f hf
  rw [declaredFields]
  split
  · rename_i k hk
    exact Catalog.passThroughFields_subset_declared k (drawn.get?_mem hk).1 f hf
  · exact hf

/-- They are declared to be nothing else. -/
theorem DrawnFrom.passThroughFields_unique (drawn : r.DrawnFrom Catalog.kinds) {tag : String}
    {f f' : String × DataType} (hf : f ∈ r.declaredFields tag) (hf' : f' ∈ passThroughFields)
    (same : f.1 = f'.1) : f = f' := by
  rw [declaredFields] at hf
  split at hf
  · rename_i k hk
    exact Catalog.passThroughFields_unique k (drawn.get?_mem hk).1 f hf f' hf' same
  · have only : ∀ f ∈ passThroughFields, ∀ f' ∈ passThroughFields, f.1 = f'.1 → f = f' := by decide
    exact only f hf f' hf' same

theorem DrawnFrom.limit_le_one (drawn : r.DrawnFrom Catalog.kinds) {tag : String} {k : Kind}
    {limit : Nat} (h : r.get? tag = some k) (hl : k.maxOutgoing = some limit) : limit ≤ 1 := by
  simpa [hl] using Catalog.maxOutgoing_all_le_one k (drawn.get?_mem h).1

end Registry

end CallFlow
