import CallFlow.Graph
import Mathlib.Data.List.Forall2

/-!
# Ids that are issued

An id that is drawn outside a list is one of the source and not in the list. So a node or an edge
that is added under a new id comes after all others, and the graph is otherwise as before.
-/

namespace CallFlow

namespace IdSource

/-- What a search finds is outside the list. -/
theorem supply_seek (s : IdSource) (used : List String) (start i : Nat)
    (h : i ≤ s.bound used start) : s.supply (s.seek used start i h) ∉ used := by
  fun_induction seek s used start i h with
  | case1 i h taken hi ih => exact ih
  | case2 i h free => exact free

theorem le_seek (s : IdSource) (used : List String) (start i : Nat)
    (h : i ≤ s.bound used start) : i ≤ s.seek used start i h := by
  fun_induction seek s used start i h with
  | case1 i h taken hi ih => exact Nat.le_of_succ_le ih
  | case2 i h free => exact Nat.le_refl i

end IdSource

namespace IdStream

theorem drawOutside_notMem (ids : IdStream) (used : List String) :
    (ids.drawOutside used).1 ∉ used := ids.source.supply_seek used ids.drawn ids.drawn _

/-- An id that is drawn is one of the source. -/
theorem exists_supply_drawOutside (ids : IdStream) (used : List String) :
    ∃ i, (ids.drawOutside used).1 = ids.source.supply i := ⟨_, rfl⟩

/-- It is the last one that is drawn. -/
theorem drawOutside_last (ids : IdStream) (used : List String) :
    ∃ k, ids.drawn ≤ k ∧
      ids.drawOutside used = (ids.source.supply k, { ids with drawn := k + 1 }) :=
  ⟨_, ids.source.le_seek .., rfl⟩

/-- The next id is drawn if it is not in use. -/
theorem drawOutside_of_notMem {ids : IdStream} {used : List String}
    (new : ids.source.supply ids.drawn ∉ used) : ids.drawOutside used = ids.draw := by
  rw [drawOutside, IdSource.seek, dif_neg new]
  rfl

theorem drawOutside_nil (ids : IdStream) : ids.drawOutside [] = ids.draw :=
  drawOutside_of_notMem List.not_mem_nil

@[simp] theorem source_draw (ids : IdStream) : ids.draw.2.source = ids.source := rfl

end IdStream

namespace Table

variable {α : Type} {key : α → String} {t : Table α key} {a : α}

/-- A row under a new key comes last. -/
theorem rows_put_of_notMem (h : key a ∉ t.keys) : (t.put a).rows = t.rows ++ [a] := by
  have last : ∀ rows : List α, key a ∉ rows.map key → putRow key a rows = rows ++ [a] := by
    intro rows new
    induction rows with
    | nil => rfl
    | cons b rest ih =>
      obtain ⟨first, others⟩ := not_or.1 (mt List.mem_cons.2 new)
      rw [putRow, if_neg fun e ↦ first e.symm, ih others, List.cons_append]
  exact last t.rows h

/-- A row under a key in use takes the place of the old one. -/
theorem rows_put_of_mem (h : key a ∈ t.keys) :
    (t.put a).rows = t.rows.map fun b ↦ if key b = key a then a else b := by
  have replaced : ∀ rows : List α, (rows.map key).Nodup → key a ∈ rows.map key →
      putRow key a rows = rows.map fun b ↦ if key b = key a then a else b := by
    intro rows distinct mem
    induction rows with
    | nil => simp at mem
    | cons b rest ih =>
      obtain ⟨first, distinct⟩ := List.nodup_cons.1 distinct
      rw [putRow, List.map_cons]
      split
      · rename_i same
        have others : ∀ c ∈ rest, ¬key c = key a := fun c hc e ↦
          first (List.mem_map.2 ⟨c, hc, e.trans same.symm⟩)
        rw [List.map_congr_left fun c hc ↦ if_neg (others c hc), List.map_id']
      · rename_i other
        rw [ih distinct ((List.mem_cons.1 mem).resolve_left fun e ↦ other e.symm)]
  exact replaced t.rows t.distinct h

/-- The rows after a row was put in: that row, and those under other keys. -/
theorem mem_rows_put_iff {b : α} : b ∈ (t.put a).rows ↔ b = a ∨ b ∈ t.rows ∧ key b ≠ key a := by
  by_cases used : key a ∈ t.keys
  · rw [rows_put_of_mem used, List.mem_map]
    constructor
    · rintro ⟨c, hc, rfl⟩
      split
      · exact .inl rfl
      · rename_i other
        exact .inr ⟨hc, other⟩
    · rintro (rfl | ⟨hb, other⟩)
      · obtain ⟨c, hc, same⟩ := List.mem_map.1 used
        exact ⟨c, hc, if_pos same⟩
      · exact ⟨b, hb, if_neg other⟩
  · rw [rows_put_of_notMem used, List.mem_append, List.mem_singleton, or_comm]
    refine or_congr_right ⟨fun hb ↦ ⟨hb, fun same ↦ used ?_⟩, And.left⟩
    exact List.mem_map.2 ⟨b, hb, same⟩

theorem get?_put_self : (t.put a).get? (key a) = some a :=
  get?_eq_some_iff.2 ⟨mem_rows_put_iff.2 (.inl rfl), rfl⟩

/-- The rows under other keys are not affected by a row that is put in. -/
theorem erase_put : (t.put a).erase (key a) = t.erase (key a) := by
  have others : ∀ rows : List α, (putRow key a rows).filter (fun b ↦ key b != key a) =
      rows.filter fun b ↦ key b != key a := by
    intro rows
    induction rows with
    | nil => simp [putRow]
    | cons b rest ih =>
      by_cases same : key b = key a
      · simp [putRow, same]
      · simp [putRow, same, ih]
  exact Table.ext (others t.rows)

theorem erase_erase (k : String) : (t.erase k).erase k = t.erase k :=
  Table.ext (by simp [List.filter_filter])

/-- A row is put in the place of one to which it is related, and all others stay. -/
theorem forall₂_rows_put {R : α → α → Prop} (refl : ∀ b, R b b) {old : α} (inside : old ∈ t.rows)
    (same : key old = key a) (related : R old a) : List.Forall₂ R t.rows (t.put a).rows := by
  rw [rows_put_of_mem (List.mem_map.2 ⟨old, inside, same⟩), List.forall₂_map_right_iff,
    List.forall₂_same]
  intro b hb
  split
  · rename_i here
    obtain rfl : b = old := eq_of_key_eq hb inside (here.trans same.symm)
    exact related
  · exact refl b

/-- Of two rows of one key, put in one after the other, the last one stays. -/
theorem put_put {b : α} (same : key a = key b) : (t.put a).put b = t.put b := by
  have replaced : ∀ rows : List α, putRow key b (putRow key a rows) = putRow key b rows := by
    intro rows
    induction rows with
    | nil => simp only [putRow, if_pos same]
    | cons c rest ih =>
      by_cases h : key c = key b
      · rw [putRow, if_pos (h.trans same.symm), putRow, if_pos same, putRow, if_pos h]
      · rw [putRow, if_neg fun e ↦ h (e.trans same), putRow, if_neg h, ih, putRow, if_neg h]
  exact Table.ext (replaced t.rows)

end Table

namespace Graph

variable {g : Graph}

theorem isIssued_iff {id : String} : g.isIssued id = true ↔ id ∈ g.issued := by simp [isIssued]

/-- Every id in use is issued, and no node has the id of an edge. -/
structure IsKept (g : Graph) : Prop where
  nodes : ∀ n ∈ g.nodes.rows, n.id ∈ g.issued
  edges : ∀ e ∈ g.edges.rows, e.id ∈ g.issued
  apart : ∀ n ∈ g.nodes.rows, ∀ e ∈ g.edges.rows, n.id ≠ e.id

/-! ## Issuing -/

theorem issue_of_mem {id : String} (h : id ∈ g.issued) : g.issue id = g := if_pos (isIssued_iff.2 h)

theorem issue_of_notMem {id : String} (h : id ∉ g.issued) :
    g.issue id = { g with issued := id :: g.issued } := if_neg (mt isIssued_iff.1 h)

@[simp] theorem nodes_issue (g : Graph) (id : String) : (g.issue id).nodes = g.nodes := by
  rw [issue]
  split <;> rfl

@[simp] theorem edges_issue (g : Graph) (id : String) : (g.issue id).edges = g.edges := by
  rw [issue]
  split <;> rfl

@[simp] theorem warnings_issue (g : Graph) (id : String) : (g.issue id).warnings = g.warnings := by
  rw [issue]
  split <;> rfl

@[simp] theorem viewport_issue (g : Graph) (id : String) : (g.issue id).viewport = g.viewport := by
  rw [issue]
  split <;> rfl

theorem mem_issued_issue (g : Graph) (id : String) : id ∈ (g.issue id).issued := by
  rw [issue]
  split
  · exact isIssued_iff.1 ‹_›
  · exact List.mem_cons_self

theorem newId_notMem (g : Graph) (ids : IdStream) : (g.newId ids).1 ∉ g.issued :=
  ids.drawOutside_notMem g.issued

theorem exists_supply_newId (g : Graph) (ids : IdStream) :
    ∃ i, (g.newId ids).1 = ids.source.supply i := ids.exists_supply_drawOutside g.issued

/-- Ids are drawn up to the one that is issued. -/
theorem newId_last (g : Graph) (ids : IdStream) : ∃ k, ids.drawn ≤ k ∧
    (g.newId ids).1 = ids.source.supply k ∧ (g.newId ids).2.2 = { ids with drawn := k + 1 } := by
  obtain ⟨k, le, drawn⟩ := ids.drawOutside_last g.issued
  exact ⟨k, le, congrArg Prod.fst drawn, congrArg Prod.snd drawn⟩

theorem graph_newId (g : Graph) (ids : IdStream) :
    (g.newId ids).2.1 = { g with issued := (g.newId ids).1 :: g.issued } :=
  issue_of_notMem (g.newId_notMem ids)

/-! ## Adding -/

theorem issued_insertNode {n : Node} (new : n.id ∉ g.issued) :
    (g.insertNode n).issued = n.id :: g.issued := by
  rw [insertNode, issue_of_notMem new]

theorem issued_insertNode_of_mem {n : Node} (old : n.id ∈ g.issued) :
    (g.insertNode n).issued = g.issued := by
  rw [insertNode, issue_of_mem old]

theorem issued_insertEdge {e : Edge} (new : e.id ∉ g.issued) :
    (g.insertEdge e).issued = e.id :: g.issued := by
  rw [insertEdge, issue_of_notMem new]

/-- A node that is put in twice is put in once, as it was the last time. -/
theorem insertNode_insertNode (g : Graph) {n m : Node} (same : n.id = m.id) :
    (g.insertNode n).insertNode m = g.insertNode m := by
  have issued : m.id ∈ (g.insertNode n).issued := same ▸ g.mem_issued_issue n.id
  have nodes : (g.insertNode n).nodes.put m = g.nodes.put m := Table.put_put same
  rw [insertNode, issue_of_mem issued, nodes, insertNode, insertNode, same]

@[simp] theorem edges_insertNode (g : Graph) (n : Node) : (g.insertNode n).edges = g.edges :=
  g.edges_issue n.id

@[simp] theorem nodes_insertEdge (g : Graph) (e : Edge) : (g.insertEdge e).nodes = g.nodes :=
  g.nodes_issue e.id

@[simp] theorem warnings_insertNode (g : Graph) (n : Node) :
    (g.insertNode n).warnings = g.warnings := g.warnings_issue n.id

@[simp] theorem warnings_insertEdge (g : Graph) (e : Edge) :
    (g.insertEdge e).warnings = g.warnings := g.warnings_issue e.id

@[simp] theorem viewport_insertNode (g : Graph) (n : Node) :
    (g.insertNode n).viewport = g.viewport := g.viewport_issue n.id

@[simp] theorem viewport_insertEdge (g : Graph) (e : Edge) :
    (g.insertEdge e).viewport = g.viewport := g.viewport_issue e.id

namespace IsKept

/-- Only the nodes, the edges and what was issued matter. -/
theorem of_eq {g' : Graph} (kept : g.IsKept) (nodes : g'.nodes = g.nodes)
    (edges : g'.edges = g.edges) (issued : g'.issued = g.issued) : g'.IsKept := by
  refine ⟨?_, ?_, ?_⟩
  · rw [nodes, issued]
    exact kept.nodes
  · rw [edges, issued]
    exact kept.edges
  · rw [nodes, edges]
    exact kept.apart

/-- What is left of a graph is kept, and it does not matter what is issued besides. -/
theorem of_subset {g' : Graph} (kept : g.IsKept) (nodes : g'.nodes.rows ⊆ g.nodes.rows)
    (edges : g'.edges.rows ⊆ g.edges.rows) (issued : g.issued ⊆ g'.issued) : g'.IsKept where
  nodes n hn := issued (kept.nodes n (nodes hn))
  edges e he := issued (kept.edges e (edges he))
  apart n hn e he := kept.apart n (nodes hn) e (edges he)

/-- A node of an id that was never issued comes last. -/
theorem rows_insertNode (kept : g.IsKept) {n : Node} (new : n.id ∉ g.issued) :
    (g.insertNode n).nodes.rows = g.nodes.rows ++ [n] := by
  refine Table.rows_put_of_notMem fun h ↦ ?_
  obtain ⟨m, hm, e⟩ := List.mem_map.1 h
  exact new (e ▸ kept.nodes m hm)

theorem rows_insertEdge (kept : g.IsKept) {e : Edge} (new : e.id ∉ g.issued) :
    (g.insertEdge e).edges.rows = g.edges.rows ++ [e] := by
  refine Table.rows_put_of_notMem fun h ↦ ?_
  obtain ⟨d, hd, same⟩ := List.mem_map.1 h
  exact new (same ▸ kept.edges d hd)

theorem insertNode (kept : g.IsKept) {n : Node} (new : n.id ∉ g.issued) :
    (g.insertNode n).IsKept := by
  have rows := kept.rows_insertNode new
  refine ⟨fun m hm ↦ ?_, fun e he ↦ ?_, fun m hm e he ↦ ?_⟩
  · rw [issued_insertNode new]
    rw [rows, List.mem_append, List.mem_singleton] at hm
    rcases hm with hm | rfl
    · exact List.mem_cons_of_mem _ (kept.nodes m hm)
    · exact List.mem_cons_self
  · rw [issued_insertNode new]
    exact List.mem_cons_of_mem _ (kept.edges e (by simpa using he))
  · rw [edges_insertNode] at he
    rw [rows, List.mem_append, List.mem_singleton] at hm
    rcases hm with hm | rfl
    · exact kept.apart m hm e he
    · exact fun same ↦ new (same ▸ kept.edges e he)

theorem insertEdge (kept : g.IsKept) {e : Edge} (new : e.id ∉ g.issued) :
    (g.insertEdge e).IsKept := by
  have rows := kept.rows_insertEdge new
  refine ⟨fun m hm ↦ ?_, fun d hd ↦ ?_, fun m hm d hd ↦ ?_⟩
  · rw [issued_insertEdge new]
    exact List.mem_cons_of_mem _ (kept.nodes m (by simpa using hm))
  · rw [issued_insertEdge new]
    rw [rows, List.mem_append, List.mem_singleton] at hd
    rcases hd with hd | rfl
    · exact List.mem_cons_of_mem _ (kept.edges d hd)
    · exact List.mem_cons_self
  · rw [nodes_insertEdge] at hm
    rw [rows, List.mem_append, List.mem_singleton] at hd
    rcases hd with hd | rfl
    · exact kept.apart m hm d hd
    · exact fun same ↦ new (same ▸ kept.nodes m hm)

/-- A node may take the place of the one with its id. -/
theorem replaceNode (kept : g.IsKept) {old n : Node} (inside : old ∈ g.nodes.rows)
    (same : n.id = old.id) : (g.insertNode n).IsKept := by
  have issued : (g.insertNode n).issued = g.issued :=
    issued_insertNode_of_mem (same ▸ kept.nodes old inside)
  have each : ∀ m ∈ (g.insertNode n).nodes.rows, ∃ b ∈ g.nodes.rows, m.id = b.id := fun m hm ↦
    (Table.mem_rows_put_iff.1 hm).elim (fun e ↦ ⟨old, inside, e ▸ same⟩) fun h ↦ ⟨m, h.1, rfl⟩
  refine ⟨fun m hm ↦ ?_, ?_, fun m hm e he ↦ ?_⟩
  · obtain ⟨b, hb, id⟩ := each m hm
    exact issued ▸ id ▸ kept.nodes b hb
  · rw [edges_insertNode, issued]
    exact kept.edges
  · obtain ⟨b, hb, id⟩ := each m hm
    exact id ▸ kept.apart b hb e (by simpa using he)

end IsKept

end Graph

end CallFlow
