import CallFlow.Compiled
import CallFlow.Proofs.Json.Sorted
import CallFlow.Proofs.Script

/-!
# When a graph compiles

A graph compiles exactly if it has a script and the phone numbers of its nodes can be looked into
(`Compiled.exists_ofGraph_iff`). A valid graph compiles, as long as the registry knows the kind that
holds phone numbers: that kind declares them to be a list.
-/

namespace CallFlow

/-! ## Phone numbers -/

/-- Whether what a value holds can be listed. -/
def Json.IsIterable (v : Json) : Prop := ∃ vs, v.contents = .ok vs

namespace Json

theorem isIterable_null : IsIterable .null := ⟨[], rfl⟩

theorem isIterable_arr (items : List Json) : IsIterable (.arr items) := by
  cases items <;> exact ⟨_, rfl⟩

/-- The values that a list may have are iterable. -/
theorem isIterable_of_admits {v : Json} (h : DataType.array.admits v = true) : v.IsIterable := by
  cases v with
  | null => exact isIterable_null
  | arr items => exact isIterable_arr items
  | bool | int | float | str | obj => simp [DataType.admits] at h

/-- Whether a value can be listed does not depend on the order of names. -/
theorem IsIterable.sorted {v : Json} (h : v.IsIterable) : v.sorted.IsIterable := by
  obtain ⟨vs, h⟩ := h
  cases v with
  | null => exact isIterable_null
  | arr items =>
    rw [sorted_arr]
    exact isIterable_arr _
  | bool | int | float | str => exact ⟨vs, h⟩
  | obj ms =>
    rw [sorted_obj]
    cases Members.sorted ms <;> exact ⟨_, rfl⟩

end Json

namespace Graph

/-- The value that stands for the phone numbers of a node. -/
def numbersOf (n : Node) : Json := (Members.get? n.data "phoneNumbers").getD .null

theorem exists_phoneNumbers_iff {g : Graph} :
    (∃ numbers, g.phoneNumbers = .ok numbers) ↔
      ∀ n ∈ g.nodes.rows, n.type = Kind.inputTag → (numbersOf n).IsIterable := by
  rw [phoneNumbers]
  refine Result.exists_foldlM_eq_ok_iff fun numbers n ↦ ?_
  by_cases h : n.type = Kind.inputTag
  · simp only [h, beq_self_eq_true, if_true, Result.bind_eq_ok_iff, Result.pure_eq_ok_iff,
      true_implies]
    exact ⟨fun ⟨_, vs, hvs, _⟩ ↦ ⟨vs, hvs⟩, fun ⟨vs, hvs⟩ ↦ ⟨_, vs, hvs, rfl⟩⟩
  · simp only [h, beq_eq_false_iff_ne.2 h, Bool.false_eq_true, if_false, false_implies, iff_true]
    exact ⟨numbers, rfl⟩

end Graph

/-! ## Compilation -/

namespace Compiled

variable {r : Registry} {g : Graph} {name : String} {type : PolicyType}

theorem ofGraph_eq_ok_iff {c : Compiled} :
    ofGraph r g name type = .ok c ↔ ∃ script numbers, Script.ofGraph r g name type = .ok script ∧
      g.phoneNumbers = .ok numbers ∧
      c = ⟨Json.canonical g.toJson, Json.canonical script.toJson, numbers⟩ := by
  simp only [ofGraph, Result.bind_eq_ok_iff, Result.mapError_eq_ok_iff, Result.pure_eq_ok_iff]
  constructor
  · rintro ⟨script, hs, numbers, hn, rfl⟩
    exact ⟨script, numbers, hs, hn, rfl⟩
  · rintro ⟨script, numbers, hs, hn, rfl⟩
    exact ⟨script, hs, numbers, hn, rfl⟩

/-- A graph compiles if it has a script and its phone numbers can be listed. -/
theorem exists_ofGraph_iff : (∃ c, ofGraph r g name type = .ok c) ↔
    (∃ script, Script.ofGraph r g name type = .ok script) ∧
      ∀ n ∈ g.nodes.rows, n.type = Kind.inputTag → (Graph.numbersOf n).IsIterable := by
  rw [← Graph.exists_phoneNumbers_iff]
  constructor
  · rintro ⟨c, h⟩
    obtain ⟨script, numbers, hs, hn, -⟩ := ofGraph_eq_ok_iff.1 h
    exact ⟨⟨script, hs⟩, numbers, hn⟩
  · rintro ⟨⟨script, hs⟩, numbers, hn⟩
    exact ⟨_, ofGraph_eq_ok_iff.2 ⟨script, numbers, hs, hn, rfl⟩⟩

/-! ## Valid graphs -/

theorem exists_script_of_isValid (drawn : r.DrawnFrom Catalog.kinds) (valid : g.IsValid r) :
    ∃ script, Script.ofGraph r g name type = .ok script := by
  obtain ⟨entry, he⟩ := List.length_eq_one_iff.1 valid.soleEntry
  refine ⟨_, Script.ofGraph_eq_ok_iff.2 ⟨entry, he, fun n hn ↦ ?_, rfl⟩⟩
  exact Script.not_faulty_of_isValid drawn valid (Graph.mem_preorder.1 hn).1

/-- The phone numbers of a valid graph can be listed where they are known to be a list. -/
theorem isIterable_of_isValid (drawn : r.DrawnFrom Catalog.kinds)
    (known : r.isKnown Kind.inputTag = true) (valid : g.IsValid r) {n : Node}
    (hn : n ∈ g.nodes.rows) (ht : n.type = Kind.inputTag) : (Graph.numbersOf n).IsIterable := by
  obtain ⟨k, hk⟩ := Option.isSome_iff_exists.1 known
  obtain ⟨mem, tag⟩ := drawn.get?_mem hk
  have declared := Catalog.phoneNumbers_mem_declared k mem tag
  rw [← ht] at hk
  exact Json.isIterable_of_admits <|
    valid.typed n hn ("phoneNumbers", .array) (by rwa [Registry.declaredFields, hk])

theorem exists_ofGraph_of_isValid (name : String) (type : PolicyType)
    (drawn : r.DrawnFrom Catalog.kinds) (known : r.isKnown Kind.inputTag = true)
    (valid : g.IsValid r) : ∃ c, ofGraph r g name type = .ok c :=
  exists_ofGraph_iff.2 ⟨exists_script_of_isValid drawn valid,
    fun _ hn ht ↦ isIterable_of_isValid drawn known valid hn ht⟩

end Compiled

end CallFlow
