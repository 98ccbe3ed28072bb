import CallFlow.Proofs.Kind.Indexes
import CallFlow.Proofs.Script.Rebuild

/-!
# What a stored script means

The type and the data that an item gives to its node, and the item at which the flow starts. They
are told by the kinds of a registry and by what is written in the items, not by the lookups of the
registry or by how a graph is rebuilt (`hasType_iff`, `hasData_data`).
-/

namespace CallFlow

/-! ## The kinds of a registry -/

namespace Registry.IsIndexed

variable {r : Registry} (indexed : r.IsIndexed) {tag : String}
include indexed

theorem get?_eq_some_iff {k : Kind} : r.get? tag = some k ↔ k ∈ r.kinds ∧ k.tag = tag := by
  refine ⟨mem_of_get?, fun ⟨known, own⟩ ↦ ?_⟩
  obtain ⟨k', found⟩ := Option.isSome_iff_exists.1 (isKnown_iff.2 ⟨k, known, own⟩)
  obtain ⟨known', own'⟩ := mem_of_get? found
  rw [found, List.inj_on_of_nodup_map indexed.tags known' known (own'.trans own.symm)]

theorem isEntry_eq_true_iff :
    r.isEntry tag = true ↔ ∃ k ∈ r.kinds, k.tag = tag ∧ k.isEntry = true := by
  simp [isEntry, Option.any_eq_true, indexed.get?_eq_some_iff, and_assoc]

end Registry.IsIndexed

namespace StoredItem

variable {r : Registry} {s : Settings} {i : StoredItem} {type : String} {data : Members}

/-! ## Types -/

/-- The type of the node of an item: the one that it names, else that of the only kind that has its
template, else the one for nodes of no known kind. -/
inductive HasType (r : Registry) (s : Settings) (i : StoredItem) : String → Prop
  | own {type : String} (own : i.type = some type) (filled : type ≠ "") : HasType r s i type
  | template {t : Int} {k : Kind} (without : i.type = none ∨ i.type = some "")
    (own : i.templateId = some t) (kind : k ∈ r.kinds ∧ k.templateId = some t)
    (sole : ∀ k' ∈ r.kinds, k'.templateId = some t → k' = k) : HasType r s i k.tag
  | unknown (without : i.type = none ∨ i.type = some "")
    (none : ∀ t, i.templateId = some t → ¬∃! k, k ∈ r.kinds ∧ k.templateId = some t) :
    HasType r s i s.opaqueTag

theorem getD_type_eq_empty_iff : i.type.getD "" = "" ↔ i.type = none ∨ i.type = some "" := by
  simp [Option.getD_eq_iff, or_comm]

theorem type_eq_some (filled : i.type.getD "" ≠ "") : i.type = some (i.type.getD "") :=
  (Option.getD_eq_iff.1 rfl).resolve_right fun none ↦ filled none.2.symm

theorem hasType_kindTag (indexed : r.IsIndexed) : i.HasType r s (i.kindTag r s) := by
  rw [kindTag, tag]
  split
  · rename_i without
    rw [getD_type_eq_empty_iff] at without
    split
    · rename_i k found
      obtain ⟨t, own, found⟩ := Option.bind_eq_some_iff.1 found
      obtain ⟨kind, sole⟩ := indexed.ofTemplate?_eq_some_iff.1 found
      exact .template without own kind sole
    · rename_i lost
      refine .unknown without fun t own sole ↦ ?_
      rw [own, Option.bind_some] at lost
      simpa [lost] using indexed.isSome_ofTemplate?_iff.2 sole
  · rename_i filled
    exact .own (type_eq_some filled) filled

/-- There is one type that an item gives to its node. -/
theorem HasType.unique {type' : String} (h : i.HasType r s type) (h' : i.HasType r s type') :
    type = type' := by
  have typed {type : String} (own : i.type = some type) (filled : type ≠ "")
      (without : i.type = none ∨ i.type = some "") : False := by
    rw [own] at without
    simp [filled] at without
  cases h with
  | own own filled =>
    cases h' with
    | own own' _ => exact Option.some.inj (own.symm.trans own')
    | template without | unknown without => exact (typed own filled without).elim
  | template without own kind sole =>
    cases h' with
    | own own' filled => exact (typed own' filled without).elim
    | template _ own' kind' _ =>
      cases own.symm.trans own'
      rw [sole _ kind'.1 kind'.2]
    | unknown _ none => exact (none _ own ⟨_, kind, fun k h ↦ sole k h.1 h.2⟩).elim
  | unknown without none =>
    cases h' with
    | own own' filled => exact (typed own' filled without).elim
    | template _ own kind sole => exact (none _ own ⟨_, kind, fun k h ↦ sole k h.1 h.2⟩).elim
    | unknown => rfl

theorem hasType_iff (indexed : r.IsIndexed) : i.HasType r s type ↔ i.kindTag r s = type :=
  ⟨(hasType_kindTag indexed).unique, fun same ↦ same ▸ hasType_kindTag indexed⟩

/-- The flow may start at the node of an item. -/
def StartsFlow (r : Registry) (s : Settings) (i : StoredItem) : Prop :=
  ∃ k ∈ r.kinds, i.HasType r s k.tag ∧ k.isEntry = true

theorem startsFlow_iff (indexed : r.IsIndexed) :
    i.StartsFlow r s ↔ r.isEntry (i.kindTag r s) = true := by
  simp only [StartsFlow, hasType_iff indexed, indexed.isEntry_eq_true_iff, eq_comm]

theorem not_startsFlow_iff (indexed : r.IsIndexed) :
    ¬i.StartsFlow r s ↔ r.isEntry (i.kindTag r s) = false := by
  rw [startsFlow_iff indexed, Bool.not_eq_true]

/-! ## Data -/

/-- The data of the node of an item, if it has a type: the values of the item in their order, with
the name of the item or, if it has none, that of its kind, and whether it is enabled. -/
structure HasData (r : Registry) (i : StoredItem) (type : String) (data : Members) : Prop where
  enabled : data.get? "enabled" = some (.bool i.enabled)
  named : ∀ name, i.name = some name → data.get? "name" = some (.str name)
  titled : i.name = none → ∀ k ∈ r.kinds, k.tag = type → data.get? "name" = some (.str k.title)
  unnamed : i.name = none → (∀ k ∈ r.kinds, k.tag ≠ type) →
    data.get? "name" = i.values.get? "name"
  others : ∀ name, name ≠ "name" → name ≠ "enabled" → data.get? name = i.values.get? name
  order : i.values.names <+: data.names

theorem hasData_data (indexed : r.IsIndexed) : i.HasData r type (i.data r type) where
  enabled := by rw [StoredItem.data, Members.get?_set, if_pos rfl]
  named name own := by
    simp [StoredItem.data, Members.get?_set, own]
  titled none k known own := by
    have found := indexed.get?_eq_some_iff.2 ⟨known, own⟩
    simp [StoredItem.data, Members.get?_set, none, found]
  unnamed none unknown := by
    have lost : r.get? type = .none := by
      refine Option.eq_none_iff_forall_ne_some.2 fun k found ↦ ?_
      obtain ⟨known, own⟩ := indexed.get?_eq_some_iff.1 found
      exact unknown k known own
    simp [StoredItem.data, Members.get?_set, none, lost]
  others name other other' := by
    rw [StoredItem.data, Members.get?_set, if_neg other']
    split
    · rw [Members.get?_set, if_neg other]
    · rfl
  order := by
    have named {ms : Members} {name : String} {v : Json} (before : i.values.names <+: ms.names) :
        i.values.names <+: (ms.set name v).names := by
      rw [Members.names_set]
      split
      · exact before
      · exact before.trans (List.prefix_append ..)
    rw [StoredItem.data]
    refine named ?_
    split
    · exact named List.prefix_rfl
    · exact List.prefix_rfl

end StoredItem

/-! ## The chosen item -/

namespace StoredScript

variable {r : Registry} {s : Settings} {script : StoredScript}

/-- The item at which the flow starts, and its place: the first that is marked, else the first of an
entry kind, else the first. -/
inductive Chooses (r : Registry) (s : Settings) (script : StoredScript) : Nat → StoredItem → Prop
  | marked {k : Nat} {i : StoredItem} (here : script.items[k]? = some i) (marked : i.isEntry = true)
    (first : ∀ j ∈ script.items.take k, j.isEntry = false) : Chooses r s script k i
  | entry {k : Nat} {i : StoredItem} (here : script.items[k]? = some i)
    (unmarked : ∀ j ∈ script.items, j.isEntry = false) (entry : i.StartsFlow r s)
    (first : ∀ j ∈ script.items.take k, ¬j.StartsFlow r s) : Chooses r s script k i
  | first {i : StoredItem} (here : script.items[0]? = some i)
    (unmarked : ∀ j ∈ script.items, j.isEntry = false)
    (others : ∀ j ∈ script.items, ¬j.StartsFlow r s) : Chooses r s script 0 i

end StoredScript

/-- A first item is here, and not before. -/
theorem findIdx?_eq_some_iff_take {α : Type} {p : α → Bool} {as : List α} {k : Nat} :
    as.findIdx? p = some k ↔ ∃ a, as[k]? = some a ∧ p a = true ∧ ∀ b ∈ as.take k, p b = false := by
  rw [List.findIdx?_eq_some_iff_getElem]
  constructor
  · rintro ⟨inside, here, before⟩
    refine ⟨_, List.getElem?_eq_getElem inside, here, fun b hb ↦ ?_⟩
    obtain ⟨j, hj, rfl⟩ := List.mem_take_iff_getElem.1 hb
    exact Bool.eq_false_iff.2 (before j (by omega))
  · rintro ⟨a, ha, here, before⟩
    obtain ⟨inside, rfl⟩ := List.getElem?_eq_some_iff.1 ha
    refine ⟨inside, here, fun j hj ↦ Bool.eq_false_iff.1 (before _ ?_)⟩
    exact List.mem_take_iff_getElem.2 ⟨j, by omega, rfl⟩

namespace StoredScript

variable {r : Registry} {s : Settings} {script : StoredScript} (indexed : r.IsIndexed)
include indexed

omit indexed in
theorem Chooses.here {k : Nat} {i : StoredItem} (h : script.Chooses r s k i) :
    script.items[k]? = some i := by
  cases h <;> assumption

/-- A flow starts at some item, if there is any. -/
theorem exists_chooses (nonempty : script.items ≠ []) : ∃ k i, script.Chooses r s k i := by
  cases marked : script.items.findIdx? (·.isEntry) with
  | some k =>
    obtain ⟨i, here, marked, first⟩ := findIdx?_eq_some_iff_take.1 marked
    exact ⟨k, i, .marked here marked first⟩
  | none =>
    have unmarked := List.findIdx?_eq_none_iff.1 marked
    cases entry : script.items.findIdx? (fun j ↦ r.isEntry (j.kindTag r s)) with
    | some k =>
      obtain ⟨i, here, entry, first⟩ := findIdx?_eq_some_iff_take.1 entry
      exact ⟨k, i, .entry here unmarked ((StoredItem.startsFlow_iff indexed).2 entry)
        fun j hj ↦ (StoredItem.not_startsFlow_iff indexed).2 (first j hj)⟩
    | none =>
      have others := fun j hj ↦
        (StoredItem.not_startsFlow_iff indexed).2 (List.findIdx?_eq_none_iff.1 entry j hj)
      obtain ⟨i, rest, items⟩ := List.exists_cons_of_ne_nil nonempty
      exact ⟨0, i, .first (by rw [items]; rfl) unmarked others⟩

end StoredScript

end CallFlow
