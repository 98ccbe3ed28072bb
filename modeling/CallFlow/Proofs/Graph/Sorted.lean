import CallFlow.Proofs.Script.Layout

/-!
# Graphs with names in order

A graph whose nodes have the same data as those of another but for the order of names: it is valid
if the other is, and its script is the same text.
-/

namespace CallFlow

open Json

/-! ## Values -/

theorem isUnset_sorted (v : Option Json) : isUnset (v.map Json.sorted) = isUnset v := by
  rcases v with _ | v
  · rfl
  · cases v <;> rfl

theorem DataType.admits_sorted (t : DataType) (v : Json) : t.admits v.sorted = t.admits v := by
  cases v with
  | arr items => rw [sorted_arr]; cases t <;> rfl
  | obj ms => rw [sorted_obj]; cases t <;> rfl
  | null | bool | int | float | str => rfl

/-! ## Graphs -/

/-- The node with the names of its data in order. -/
def Node.sorted (n : Node) : Node := { n with data := n.data.sorted }

namespace Graph

variable {r : Registry} {g g' : Graph}

/-- The graph has the nodes of another with the names of their data in order, and its edges. -/
structure IsSorted (g g' : Graph) : Prop where
  nodes : g'.nodes.rows = g.nodes.rows.map Node.sorted
  edges : g'.edges.rows = g.edges.rows
  distinct : ∀ n ∈ g.nodes.rows, n.data.HaveDistinctNames

namespace IsSorted

variable (h : g.IsSorted g')
include h

theorem node?_eq (id : String) : g'.node? id = (g.node? id).map Node.sorted := by
  rw [node?, node?, Table.get?, Table.get?, h.nodes, List.find?_map]
  rfl

theorem hasNode_eq (id : String) : g'.hasNode id = g.hasNode id := by
  rw [hasNode, hasNode, Table.has, Table.has]
  change (g'.node? id).isSome = (g.node? id).isSome
  rw [h.node?_eq, Option.isSome_map]

theorem outgoing_eq (id : String) : g'.outgoing id = g.outgoing id := by
  rw [outgoing, outgoing, h.edges]

theorem entries_eq : g'.entries r = (g.entries r).map Node.sorted := by
  rw [entries, entries, h.nodes, List.filter_map]
  rfl

theorem get?_eq {n : Node} (hn : n ∈ g.nodes.rows) (f : String) :
    Members.get? n.sorted.data f = (Members.get? n.data f).map Json.sorted :=
  Members.get?_sorted (h.distinct n hn).nodup f

/-! ## Validity -/

/-- A graph is as valid as with the names of its data in order. -/
theorem isValid (valid : g.IsValid r) : g'.IsValid r where
  soleEntry := by rw [h.entries_eq, List.length_map, valid.soleEntry]
  filledIn := by
    rw [h.nodes]
    refine List.forall_mem_map.2 fun n hn f hf ↦ ?_
    rw [h.get?_eq hn, isUnset_sorted]
    exact valid.filledIn n hn f hf
  typed := by
    rw [h.nodes]
    refine List.forall_mem_map.2 fun n hn f hf ↦ ?_
    have := valid.typed n hn f hf
    rw [h.get?_eq hn]
    cases hv : Members.get? n.data f.1 with
    | none => rwa [hv] at this
    | some v =>
      rw [hv] at this
      exact (f.2.admits_sorted v).trans this
  withinLimit := by
    rw [h.nodes]
    refine List.forall_mem_map.2 fun n hn limit hl ↦ ?_
    rw [h.outgoing_eq]
    exact valid.withinLimit n hn limit hl
  endpoints := by
    rw [h.edges]
    intro e he
    rw [h.hasNode_eq, h.hasNode_eq]
    exact valid.endpoints e he
  labelled := by
    rw [h.edges]
    intro e he n hn branching
    rw [h.node?_eq, Option.map_eq_some_iff] at hn
    obtain ⟨m, hm, rfl⟩ := hn
    exact valid.labelled e he m hm branching

/-! ## Scripts -/

/-- The order of names does not change what a graph says. -/
theorem sameFlow (start : String) : g.SameFlow g' start := by
  have same : ∀ n ∈ g.nodes.rows, ∀ n' ∈ g'.nodes.rows, n'.id = n.id → n' = n.sorted := by
    intro n hn n' hn' id
    rw [h.nodes] at hn'
    obtain ⟨m, hm, rfl⟩ := List.mem_map.1 hn'
    rw [Table.eq_of_key_eq hm hn id]
  refine ⟨Reaches.congr h.hasNode_eq h.edges start, ?_, ?_, fun id _ ↦ by rw [h.outgoing_eq]⟩
  · intro n hn n' hn' _ id
    rw [same n hn n' hn' id]
    rfl
  · intro n hn n' hn' _ id
    rw [same n hn n' hn' id]
    exact Members.alike_sorted (h.distinct n hn)

/-- The text of the script of a graph does not tell in which order the names were. -/
theorem exists_ofGraph {name : String} {type : PolicyType} {c : Compiled}
    (compiled : Compiled.ofGraph r g name type = .ok c) :
    ∃ c', Compiled.ofGraph r g' name type = .ok c' ∧ c'.script = c.script := by
  obtain ⟨script, numbers, hs, hn, rfl⟩ := Compiled.ofGraph_eq_ok_iff.1 compiled
  obtain ⟨entry, he, -⟩ := Script.ofGraph_eq_ok_iff.1 hs
  have he' : g'.entries r = [entry.sorted] := by
    rw [h.entries_eq, he]
    rfl
  obtain ⟨script', hs', text⟩ :=
    Script.exists_ofGraph_of_sameFlow (h.sameFlow entry.id) he he' rfl hs
  obtain ⟨numbers', hn'⟩ := exists_phoneNumbers_iff.2 <| by
    rw [h.nodes]
    refine List.forall_mem_map.2 fun n hn' input ↦ ?_
    have iterable := exists_phoneNumbers_iff.1 ⟨numbers, hn⟩ n hn' input
    have same : numbersOf n.sorted = (numbersOf n).sorted := by
      rw [numbersOf, h.get?_eq hn', numbersOf]
      cases Members.get? n.data "phoneNumbers" <;> rfl
    rw [same]
    exact iterable.sorted
  exact ⟨_, Compiled.ofGraph_eq_ok_iff.2 ⟨script', numbers', hs', hn', rfl⟩, text⟩

end IsSorted

end Graph

end CallFlow
