import CallFlow.Proofs.FirstRepeat
import CallFlow.Proofs.Kind.Registry
import Mathlib.Data.List.Perm.Basic

/-!
# The indexes of a registry

A registry is built of a list of kinds exactly if no two of them have one tag, and the first tag
that is used again is reported otherwise. What the registry lists, what it shows of each category
and what a template stands for then all agree with the list (`Registry.indexes_agree`): no kind is
lost, none is shown twice, and a template that several kinds share stands for none of them.
-/

namespace CallFlow

/-! ## Lists split by a key -/

section Split

variable {α κ : Type} [DecidableEq κ] {key : α → κ}

/-- An item goes to the one part that has its key. -/
theorem flatMap_filter_cons_perm {keys : List κ} (distinct : keys.Nodup) {a : α}
    (covered : key a ∈ keys) (as : List α) :
    (keys.flatMap fun k ↦ (a :: as).filter (key · = k)).Perm
      (a :: keys.flatMap fun k ↦ as.filter (key · = k)) := by
  obtain ⟨before, after, rfl⟩ := List.append_of_mem covered
  have others : ∀ k ∈ before ++ after, (a :: as).filter (key · = k) = as.filter (key · = k) := by
    intro k hk
    refine List.filter_cons_of_neg ?_
    rw [decide_eq_true_iff]
    rintro rfl
    exact (List.nodup_middle.1 distinct).notMem hk
  have own : (a :: as).filter (key · = key a) = a :: as.filter (key · = key a) :=
    List.filter_cons_of_pos (decide_eq_true rfl)
  have first := List.flatMap_congr fun k hk ↦ others k (List.mem_append_left after hk)
  have last := List.flatMap_congr fun k hk ↦ others k (List.mem_append_right before hk)
  rw [List.flatMap_append, List.flatMap_append, List.flatMap_cons, List.flatMap_cons, first, last,
    own]
  exact List.perm_middle

/-- The parts of a list by key make up the list, if every key has its part. -/
theorem flatMap_filter_perm {keys : List κ} (distinct : keys.Nodup) {as : List α}
    (covered : ∀ a ∈ as, key a ∈ keys) :
    (keys.flatMap fun k ↦ as.filter (key · = k)).Perm as := by
  induction as with
  | nil => simp
  | cons a as ih =>
    obtain ⟨first, others⟩ := List.forall_mem_cons.1 covered
    exact (flatMap_filter_cons_perm distinct first as).trans ((ih others).cons a)

end Split

/-- A category is found under its name. -/
theorem Category.ofName?_name (c : Category) : ofName? c.name = some c := by
  cases c <;> decide

theorem Category.name_injective : Category.name.Injective := by
  intro c c' same
  rw [← Option.some.injEq, ← ofName?_name c, same, ofName?_name]

theorem Category.nodup_all : Category.all.Nodup := by decide

namespace Registry

variable {r : Registry} {kinds : List Kind}

/-! ## Building -/

theorem registerAll_eq_foldlM (r : Registry) (kinds : List Kind) :
    r.registerAll kinds = kinds.foldlM register r := by
  induction kinds generalizing r with
  | nil => rfl
  | cons k rest ih =>
    rw [registerAll, List.foldlM_cons]
    cases r.register k with
    | error e => rfl
    | ok r' => exact ih r'

/-- A registry takes kinds in under their tags. -/
theorem takesKeys_register :
    TakesKeys register Kind.tag (fun r ↦ r.kinds.map Kind.tag) DuplicateKind.mk where
  refuse r k inUse := by
    have known : r.isKnown k.tag = true := isKnown_iff.2 (List.mem_map.1 inUse)
    rw [register, if_pos known]
  accept r k new := by
    have unknown : ¬r.isKnown k.tag = true := fun known ↦ new (List.mem_map.2 (isKnown_iff.1 known))
    refine ⟨_, by rw [register, if_neg unknown], ?_⟩
    exact List.map_append

/-- A registry is built exactly of kinds whose tags differ. -/
theorem exists_ofList_eq_ok_iff :
    (∃ r, ofList kinds = .ok r) ↔ (kinds.map Kind.tag).Nodup := by
  rw [ofList, registerAll_eq_foldlM]
  exact takesKeys_register.exists_foldlM_eq_ok_iff (s := empty) List.nodup_nil

/-- The first tag that is used again is reported. -/
theorem ofList_eq_error_iff {tag : String} :
    ofList kinds = .error ⟨tag⟩ ↔ IsFirstRepeat (kinds.map Kind.tag) tag := by
  rw [ofList, registerAll_eq_foldlM]
  refine takesKeys_register.foldlM_eq_error_iff (s := empty) List.nodup_nil fun tag tag' same ↦ ?_
  exact DuplicateKind.mk.inj same

/-! ## The index by category -/

/-- Under a category stand all kinds of it, in order. -/
def IsGrouped (r : Registry) : Prop := ∀ c, r.inCategory c = r.kinds.filter (·.category = c)

theorem IsGrouped.register {r' : Registry} {k : Kind} (grouped : r.IsGrouped)
    (h : r.register k = .ok r') : r'.IsGrouped := by
  intro c
  rw [kinds_register h, List.filter_append, ← grouped c]
  rw [Registry.register] at h
  split at h
  · cases h
  · cases h
    rw [inCategory, inCategory, Buckets.get_add]
    by_cases same : k.category = c <;> simp [same]

theorem isGrouped_ofList (h : ofList kinds = .ok r) : r.IsGrouped :=
  registerAll_induction (r := empty) IsGrouped.register (fun _ ↦ rfl) h

theorem nodup_categories (r : Registry) : r.categories.Nodup := Category.nodup_all.filter _

namespace IsGrouped

variable (grouped : r.IsGrouped)
include grouped

theorem mem_categories_iff {c : Category} : c ∈ r.categories ↔ ∃ k ∈ r.kinds, k.category = c := by
  rw [categories, List.mem_filter, grouped c]
  simp [Category.mem_all, List.filter_eq_nil_iff]

/-- The kinds of all categories that have one are all kinds. -/
theorem flatMap_categories_perm : (r.categories.flatMap r.inCategory).Perm r.kinds := by
  have parts : r.categories.flatMap r.inCategory =
      r.categories.flatMap fun c ↦ r.kinds.filter (·.category = c) :=
    List.flatMap_congr fun c _ ↦ grouped c
  rw [parts]
  exact flatMap_filter_perm r.nodup_categories fun k hk ↦ grouped.mem_categories_iff.2 ⟨k, hk, rfl⟩

/-- The catalog shows every kind once, under the name of its category. -/
theorem catalog_perm : ∃ ms : Members, r.catalog = .obj ms ∧ ms.names.Nodup ∧
    (ms.flatMap fun m ↦ m.2.items).Perm (r.kinds.map Kind.toJson) := by
  refine ⟨_, rfl, ?_, ?_⟩
  · rw [Members.names, List.map_map]
    exact r.nodup_categories.map Category.name_injective
  · rw [List.flatMap_map]
    change (r.categories.flatMap fun c ↦ (r.inCategory c).map Kind.toJson).Perm _
    rw [← List.map_flatMap]
    exact grouped.flatMap_categories_perm.map Kind.toJson

end IsGrouped

/-! ## The index by template -/

/-- No other kind has a template that stands for one. -/
theorem IsIndexed.sole_of_ofTemplate? (indexed : r.IsIndexed) {t : Int} {k : Kind}
    (h : r.ofTemplate? t = some k) :
    (k ∈ r.kinds ∧ k.templateId = some t) ∧ ∀ k' ∈ r.kinds, k'.templateId = some t → k' = k := by
  have mem {k : Kind} : k ∈ r.kinds ∧ k.templateId = some t ↔ k ∈ r.byTemplate.get t := by
    simp [indexed.templates]
  rw [ofTemplate?] at h
  split at h
  · rename_i k₁ only
    obtain rfl : k₁ = k := Option.some.inj h
    refine ⟨mem.2 (only ▸ List.mem_cons_self), fun k' hk' ht ↦ ?_⟩
    have other := mem.1 ⟨hk', ht⟩
    rwa [only, List.mem_singleton] at other
  · cases h

/-- A template stands for the only kind that has it. -/
theorem IsIndexed.ofTemplate?_eq_some_iff (indexed : r.IsIndexed) {t : Int} {k : Kind} :
    r.ofTemplate? t = some k ↔ (k ∈ r.kinds ∧ k.templateId = some t) ∧
      ∀ k' ∈ r.kinds, k'.templateId = some t → k' = k := by
  constructor
  · exact indexed.sole_of_ofTemplate?
  · rintro ⟨own, sole⟩
    obtain ⟨k₁, found⟩ := Option.isSome_iff_exists.1
      (indexed.isSome_ofTemplate?_iff.2 ⟨k, own, fun k' h ↦ sole k' h.1 h.2⟩)
    obtain ⟨⟨inside, template⟩, -⟩ := indexed.sole_of_ofTemplate? found
    rw [found, sole k₁ inside template]

/-! ## Agreement -/

/-- A registry says of a list of kinds what there is to say, whichever way it is asked. -/
structure Agrees (r : Registry) (kinds : List Kind) : Prop where
  list : r.list = kinds
  inCategory : ∀ c, r.inCategory c = kinds.filter (·.category = c)
  /-- The categories that are shown are those of which there is a kind, each once. -/
  distinct : r.categories.Nodup
  shown : ∀ c, c ∈ r.categories ↔ ∃ k ∈ kinds, k.category = c
  /-- Their kinds together are all kinds, each once. -/
  complete : (r.categories.flatMap r.inCategory).Perm kinds
  catalog : ∃ ms : Members, r.catalog = .obj ms ∧ ms.names.Nodup ∧
    (ms.flatMap fun m ↦ m.2.items).Perm (kinds.map Kind.toJson)
  ofTemplate? : ∀ t k, r.ofTemplate? t = some k ↔ (k ∈ kinds ∧ k.templateId = some t) ∧
    ∀ k' ∈ kinds, k'.templateId = some t → k' = k

theorem agrees_ofList (h : ofList kinds = .ok r) : r.Agrees kinds := by
  have grouped := isGrouped_ofList h
  have indexed := IsIndexed.ofList h
  obtain rfl : r.kinds = kinds := (ofList_spec h).1
  exact ⟨rfl, grouped, r.nodup_categories, fun _ ↦ grouped.mem_categories_iff,
    grouped.flatMap_categories_perm, grouped.catalog_perm,
    fun _ _ ↦ indexed.ofTemplate?_eq_some_iff⟩

/-- A registry is refused exactly if a tag is used twice, and then the first one that is used again
is reported; otherwise there is a registry whose indexes agree with the list of kinds. -/
theorem indexes_agree (kinds : List Kind) :
    ((∃ e, ofList kinds = .error e) ↔ ∃ tag, 2 ≤ (kinds.map Kind.tag).count tag) ∧
    (∀ tag, ofList kinds = .error ⟨tag⟩ ↔ IsFirstRepeat (kinds.map Kind.tag) tag) ∧
    ((∀ tag, (kinds.map Kind.tag).count tag ≤ 1) → ∃ r, ofList kinds = .ok r ∧ r.Agrees kinds) := by
  refine ⟨?_, fun _ ↦ ofList_eq_error_iff, fun once ↦ ?_⟩
  · rw [exists_two_le_count_iff, Result.exists_error_iff, exists_ofList_eq_ok_iff]
  · obtain ⟨r, built⟩ := exists_ofList_eq_ok_iff.2 (List.nodup_iff_count_le_one.2 once)
    exact ⟨r, built, agrees_ofList built⟩

/-- The kinds of the catalog have tags of their own, though many of them share a template. -/
theorem catalog_indexes_agree :
    (∀ tag, (Catalog.kinds.map Kind.tag).count tag ≤ 1) ∧
      ∃ r, ofList Catalog.kinds = .ok r ∧ r.Agrees Catalog.kinds := by
  have once := List.nodup_iff_count_le_one.1 (show (Catalog.kinds.map Kind.tag).Nodup by decide)
  exact ⟨once, (indexes_agree Catalog.kinds).2.2 once⟩

end Registry

end CallFlow
