import CallFlow.Body
import CallFlow.Proofs.Graph.Issued
import CallFlow.Proofs.Result
import Mathlib.Data.List.Basic
import Mathlib.Tactic.MkIffOfInductiveProp
import Mathlib.Tactic.Tauto

/-!
# Graphs of checked bodies

A checked body is loaded exactly if no two of its nodes and edges have the same id, and then the
graph holds what the body does, in the same order (`Graph.ofBody_eq_ok_iff`).
-/

namespace CallFlow

/-- The ids that a body gives to nodes and edges. -/
def Body.ids (b : Body) : List String := b.nodes.map Node.id ++ b.edges.map Edge.id

namespace Graph

variable {g g' : Graph}

/-! ## Rows put in one after another -/

/-- The graph after nodes, and then edges, were added under ids of their own. -/
@[mk_iff]
structure Loads (g : Graph) (ns : List Node) (es : List Edge) (g' : Graph) : Prop where
  nodes : g'.nodes.rows = g.nodes.rows ++ ns
  edges : g'.edges.rows = g.edges.rows ++ es
  viewport : g'.viewport = g.viewport
  warnings : g'.warnings = g.warnings
  issued : g'.issued = (ns.map Node.id ++ es.map Edge.id).reverse ++ g.issued

theorem ext_rows (nodes : g'.nodes.rows = g.nodes.rows) (edges : g'.edges.rows = g.edges.rows)
    (viewport : g'.viewport = g.viewport) (warnings : g'.warnings = g.warnings)
    (issued : g'.issued = g.issued) : g' = g := by
  cases g
  cases g'
  cases viewport
  cases warnings
  cases issued
  cases Table.ext nodes
  cases Table.ext edges
  rfl

theorem loads_nil_iff : g.Loads [] [] g' ↔ g' = g := by
  constructor
  · exact fun h ↦ ext_rows (h.nodes.trans (List.append_nil _)) (h.edges.trans (List.append_nil _))
      h.viewport h.warnings h.issued
  · rintro rfl
    exact ⟨(List.append_nil _).symm, (List.append_nil _).symm, rfl, rfl, rfl⟩

theorem Loads.trans {g'' : Graph} {ns : List Node} {es : List Edge} (h : g.Loads ns [] g')
    (h' : g'.Loads [] es g'') : g.Loads ns es g'' := by
  refine ⟨?_, ?_, h'.viewport.trans h.viewport, h'.warnings.trans h.warnings, ?_⟩
  · rw [h'.nodes, h.nodes, List.append_nil]
  · rw [h'.edges, h.edges, List.append_nil]
  · rw [h'.issued, h.issued]
    simp

section

variable (kept : g.IsKept)
include kept

theorem loads_insertNode_iff {n : Node} {ns : List Node} (new : n.id ∉ g.issued) :
    (g.insertNode n).Loads ns [] g' ↔ g.Loads (n :: ns) [] g' := by
  simp [loads_iff, kept.rows_insertNode new, issued_insertNode new]

theorem loads_insertEdge_iff {e : Edge} {es : List Edge} (new : e.id ∉ g.issued) :
    (g.insertEdge e).Loads [] es g' ↔ g.Loads [] (e :: es) g' := by
  simp [loads_iff, kept.rows_insertEdge new, issued_insertEdge new]

end

/-! ## Loading -/

theorem loadNode_eq_ok_iff {n : Node} :
    g.loadNode n = .ok g' ↔ n.id ∉ g.issued ∧ g' = g.insertNode n := by
  rw [loadNode, requireUnissued]
  split
  · rename_i issued
    exact ⟨fun h ↦ (nomatch h), fun h ↦ absurd (isIssued_iff.1 issued) h.1⟩
  · rename_i new
    exact ⟨fun h ↦ ⟨mt isIssued_iff.2 new, (Except.ok.inj h).symm⟩, fun h ↦ h.2 ▸ rfl⟩

theorem loadEdge_eq_ok_iff {e : Edge} :
    g.loadEdge e = .ok g' ↔ e.id ∉ g.issued ∧ g' = g.insertEdge e := by
  rw [loadEdge, requireUnissued]
  split
  · rename_i issued
    exact ⟨fun h ↦ (nomatch h), fun h ↦ absurd (isIssued_iff.1 issued) h.1⟩
  · rename_i new
    exact ⟨fun h ↦ ⟨mt isIssued_iff.2 new, (Except.ok.inj h).symm⟩, fun h ↦ h.2 ▸ rfl⟩

/-- Ids differ and are new: so is the first one, and the others still are when it is used. -/
theorem nodup_disjoint_cons_iff {id : String} {ids used : List String} :
    (id :: ids).Nodup ∧ (id :: ids).Disjoint used ↔
      id ∉ used ∧ ids.Nodup ∧ ids.Disjoint (id :: used) := by
  rw [List.nodup_cons, List.disjoint_cons_left, List.disjoint_cons_right]
  tauto

/-- Nodes are loaded exactly if their ids differ and are new. -/
theorem foldlM_loadNode_eq_ok_iff (kept : g.IsKept) {ns : List Node} :
    ns.foldlM loadNode g = .ok g' ↔
      ((ns.map Node.id).Nodup ∧ (ns.map Node.id).Disjoint g.issued) ∧ g.Loads ns [] g' := by
  induction ns generalizing g with
  | nil => simp [loads_nil_iff, Result.pure_eq_ok_iff]
  | cons n rest ih =>
    rw [List.foldlM_cons, Result.bind_eq_ok_iff, List.map_cons, nodup_disjoint_cons_iff]
    simp only [loadNode_eq_ok_iff]
    constructor
    · rintro ⟨_, ⟨new, rfl⟩, h⟩
      rw [ih (kept.insertNode new), issued_insertNode new, loads_insertNode_iff kept new] at h
      exact ⟨⟨new, h.1⟩, h.2⟩
    · rintro ⟨⟨new, others⟩, loads⟩
      refine ⟨_, ⟨new, rfl⟩, ?_⟩
      rw [ih (kept.insertNode new), issued_insertNode new, loads_insertNode_iff kept new]
      exact ⟨others, loads⟩

/-- So are edges. -/
theorem foldlM_loadEdge_eq_ok_iff (kept : g.IsKept) {es : List Edge} :
    es.foldlM loadEdge g = .ok g' ↔
      ((es.map Edge.id).Nodup ∧ (es.map Edge.id).Disjoint g.issued) ∧ g.Loads [] es g' := by
  induction es generalizing g with
  | nil => simp [loads_nil_iff, Result.pure_eq_ok_iff]
  | cons e rest ih =>
    rw [List.foldlM_cons, Result.bind_eq_ok_iff, List.map_cons, nodup_disjoint_cons_iff]
    simp only [loadEdge_eq_ok_iff]
    constructor
    · rintro ⟨_, ⟨new, rfl⟩, h⟩
      rw [ih (kept.insertEdge new), issued_insertEdge new, loads_insertEdge_iff kept new] at h
      exact ⟨⟨new, h.1⟩, h.2⟩
    · rintro ⟨⟨new, others⟩, loads⟩
      refine ⟨_, ⟨new, rfl⟩, ?_⟩
      rw [ih (kept.insertEdge new), issued_insertEdge new, loads_insertEdge_iff kept new]
      exact ⟨others, loads⟩

/-- The graph of a body before anything is put in. -/
def unloaded (b : Body) : Graph := { viewport := b.viewport.getD defaultViewport }

theorem isKept_unloaded (b : Body) : (unloaded b).IsKept :=
  ⟨fun _ h ↦ (nomatch h), fun _ h ↦ (nomatch h), fun _ h ↦ (nomatch h)⟩

/-- What was loaded is kept, if the ids differ. -/
theorem Loads.isKept {b : Body} {ns : List Node} {es : List Edge} (h : (unloaded b).Loads ns es g)
    (distinct : (ns.map Node.id ++ es.map Edge.id).Nodup) : g.IsKept := by
  have issued (id : String) : id ∈ g.issued ↔ id ∈ ns.map Node.id ++ es.map Edge.id := by
    rw [h.issued, List.mem_append, List.mem_reverse]
    exact or_iff_left List.not_mem_nil
  refine ⟨fun n hn ↦ ?_, fun e he ↦ ?_, fun n hn e he ↦ ?_⟩
  · rw [h.nodes] at hn
    exact (issued _).2 (List.mem_append_left _ (List.mem_map_of_mem hn))
  · rw [h.edges] at he
    exact (issued _).2 (List.mem_append_right _ (List.mem_map_of_mem he))
  · rw [h.nodes] at hn
    rw [h.edges] at he
    exact (List.nodup_append.1 distinct).2.2 _ (List.mem_map_of_mem hn) _ (List.mem_map_of_mem he)

/-- A body is loaded exactly if its ids differ, as the graph that holds what it does. -/
theorem ofBody_eq_ok_iff {b : Body} :
    ofBody b = .ok g ↔ b.ids.Nodup ∧ (unloaded b).Loads b.nodes b.edges g := by
  change (b.nodes.foldlM loadNode (unloaded b) >>= fun g ↦ b.edges.foldlM loadEdge g) = _ ↔ _
  rw [Result.bind_eq_ok_iff, Body.ids, List.nodup_append]
  constructor
  · rintro ⟨g₁, nodes, edges⟩
    obtain ⟨⟨first, -⟩, loads⟩ := (foldlM_loadNode_eq_ok_iff (isKept_unloaded b)).1 nodes
    have kept : g₁.IsKept := loads.isKept (by simpa using first)
    obtain ⟨⟨second, new⟩, loads'⟩ := (foldlM_loadEdge_eq_ok_iff kept).1 edges
    refine ⟨⟨first, second, fun id hn _ he same ↦ new he ?_⟩, loads.trans loads'⟩
    obtain ⟨n, inNodes, rfl⟩ := List.mem_map.1 hn
    have inside : n ∈ g₁.nodes.rows := loads.nodes ▸ List.mem_append_right _ inNodes
    exact same ▸ kept.nodes n inside
  · rintro ⟨⟨first, second, apart⟩, loads⟩
    let g₁ : Graph :=
      { unloaded b with nodes := ⟨b.nodes, first⟩, issued := (b.nodes.map Node.id).reverse }
    have issued : g₁.issued = (b.nodes.map Node.id).reverse := rfl
    have loads₁ : (unloaded b).Loads b.nodes [] g₁ := by
      refine ⟨rfl, rfl, rfl, rfl, ?_⟩
      rw [issued, List.map_nil, List.append_nil]
      exact (List.append_nil _).symm
    have loads₂ : g₁.Loads [] b.edges g := by
      refine ⟨loads.nodes.trans (List.append_nil _).symm, loads.edges, loads.viewport,
        loads.warnings, loads.issued.trans ?_⟩
      rw [issued, List.reverse_append, List.map_nil, List.nil_append]
      exact List.append_nil _
    refine ⟨g₁, (foldlM_loadNode_eq_ok_iff (isKept_unloaded b)).2
      ⟨⟨first, List.disjoint_nil_right _⟩, loads₁⟩, (foldlM_loadEdge_eq_ok_iff
        (loads₁.isKept (by simpa using first))).2 ⟨⟨second, fun id he h ↦ ?_⟩, loads₂⟩⟩
    rw [issued, List.mem_reverse] at h
    exact apart id h id he rfl

theorem isKept_ofBody {b : Body} (h : ofBody b = .ok g) : g.IsKept := by
  obtain ⟨distinct, loads⟩ := ofBody_eq_ok_iff.1 h
  exact loads.isKept distinct

/-- There is a graph for every body whose ids differ. -/
theorem exists_ofBody {b : Body} (distinct : b.ids.Nodup) : ∃ g, ofBody b = .ok g := by
  obtain ⟨first, second, -⟩ := List.nodup_append.1 distinct
  let g : Graph :=
    { unloaded b with
      nodes := ⟨b.nodes, first⟩, edges := ⟨b.edges, second⟩, issued := b.ids.reverse }
  exact ⟨g, ofBody_eq_ok_iff.2 ⟨distinct, rfl, rfl, rfl, rfl, (List.append_nil _).symm⟩⟩

end Graph

end CallFlow
