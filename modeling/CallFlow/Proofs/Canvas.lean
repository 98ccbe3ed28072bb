import CallFlow.Canvas
import CallFlow.Proofs.Graph.Issued

/-!
# Adding to a canvas

An id is offered for something new (`Offers`), and then a node or an edge is added under it. All
that is added in this way comes after what was there before (`Adds`).
-/

namespace CallFlow

namespace Canvas

variable {c c' c'' : Canvas} {id : String}

/-! ## Ids on offer -/

/-- The canvas is as before, but for an id that may be given to something new. -/
structure Offers (c : Canvas) (id : String) (c' : Canvas) : Prop where
  new : id ∉ c.graph.issued
  nodes : c'.graph.nodes = c.graph.nodes
  edges : c'.graph.edges = c.graph.edges
  viewport : c'.graph.viewport = c.graph.viewport
  issued : (c'.graph.issue id).issued = id :: c.graph.issued
  source : c'.ids.source = c.ids.source

theorem offers_self (new : id ∉ c.graph.issued) : c.Offers id c :=
  ⟨new, rfl, rfl, rfl, by rw [Graph.issue_of_notMem new], rfl⟩

theorem offers_newId (c : Canvas) : c.Offers c.newId.1 c.newId.2 := by
  have graph : c.newId.2.graph = { c.graph with issued := c.newId.1 :: c.graph.issued } :=
    c.graph.graph_newId c.ids
  refine ⟨c.graph.newId_notMem c.ids, ?_, ?_, ?_, ?_, rfl⟩
  · rw [graph]
  · rw [graph]
  · rw [graph]
  · rw [Graph.issue_of_mem (by rw [graph]; exact List.mem_cons_self), graph]

theorem exists_supply_newId (c : Canvas) : ∃ k, c.newId.1 = c.ids.source.supply k :=
  c.graph.exists_supply_newId c.ids

/-! ## Added nodes and edges -/

/-- The canvas after nodes and edges were added to it, the edges under ids of the source. -/
structure Adds (c : Canvas) (nodes : List Node) (edges : List Edge) (c' : Canvas) : Prop where
  drawn : ∀ e ∈ edges, ∃ k, e.id = c.ids.source.supply k
  nodes : c'.graph.nodes.rows = c.graph.nodes.rows ++ nodes
  edges : c'.graph.edges.rows = c.graph.edges.rows ++ edges
  viewport : c'.graph.viewport = c.graph.viewport
  issued : c.graph.issued ⊆ c'.graph.issued
  source : c'.ids.source = c.ids.source
  kept : c'.graph.IsKept

theorem Adds.refl (kept : c.graph.IsKept) : c.Adds [] [] c :=
  ⟨by simp, by rw [List.append_nil], by rw [List.append_nil], rfl, List.Subset.refl _, rfl, kept⟩

theorem Adds.trans {nodes nodes' : List Node} {edges edges' : List Edge}
    (h : c.Adds nodes edges c') (h' : c'.Adds nodes' edges' c'') :
    c.Adds (nodes ++ nodes') (edges ++ edges') c'' where
  drawn e he := (List.mem_append.1 he).elim (h.drawn e) fun he ↦ h.source ▸ h'.drawn e he
  nodes := by rw [h'.nodes, h.nodes, List.append_assoc]
  edges := by rw [h'.edges, h.edges, List.append_assoc]
  viewport := h'.viewport.trans h.viewport
  issued := List.Subset.trans h.issued h'.issued
  source := h'.source.trans h.source
  kept := h'.kept

namespace Offers

variable (kept : c.graph.IsKept)
include kept

theorem insertNode {n : Node} (h : c.Offers n.id c') : c.Adds [n] [] (c'.insertNode n) := by
  have nodes : (c'.insertNode n).graph.nodes = (c.graph.insertNode n).nodes := by
    change c'.graph.nodes.put n = c.graph.nodes.put n
    rw [h.nodes]
  have edges : (c'.insertNode n).graph.edges = c.graph.edges :=
    (c'.graph.edges_insertNode n).trans h.edges
  have issued : (c'.insertNode n).graph.issued = n.id :: c.graph.issued := h.issued
  refine ⟨by simp, ?_, ?_, ?_, ?_, h.source, ?_⟩
  · rw [nodes, kept.rows_insertNode h.new]
  · rw [edges, List.append_nil]
  · exact (c'.graph.viewport_insertNode n).trans h.viewport
  · rw [issued]
    exact List.subset_cons_self _ _
  · refine (kept.insertNode h.new).of_eq nodes (edges.trans (c.graph.edges_insertNode n).symm) ?_
    rw [issued, Graph.issued_insertNode h.new]

theorem insertEdge {e : Edge} (h : c.Offers e.id c') (drawn : ∃ k, e.id = c.ids.source.supply k) :
    c.Adds [] [e] (c'.insertEdge e) := by
  have nodes : (c'.insertEdge e).graph.nodes = c.graph.nodes :=
    (c'.graph.nodes_insertEdge e).trans h.nodes
  have edges : (c'.insertEdge e).graph.edges = (c.graph.insertEdge e).edges := by
    change c'.graph.edges.put e = c.graph.edges.put e
    rw [h.edges]
  have issued : (c'.insertEdge e).graph.issued = e.id :: c.graph.issued := h.issued
  refine ⟨by simpa using drawn, ?_, ?_, ?_, ?_, h.source, ?_⟩
  · rw [nodes, List.append_nil]
  · rw [edges, kept.rows_insertEdge h.new]
  · exact (c'.graph.viewport_insertEdge e).trans h.viewport
  · rw [issued]
    exact List.subset_cons_self _ _
  · refine (kept.insertEdge h.new).of_eq (nodes.trans (c.graph.nodes_insertEdge e).symm) edges ?_
    rw [issued, Graph.issued_insertEdge h.new]

end Offers

/-! ## Later canvases -/

/-- A canvas at a later time: what was issued stays issued, and what was issued since is an id that
was drawn since. -/
structure Continues (c c' : Canvas) : Prop where
  kept : c'.graph.IsKept
  warnings : c'.graph.warnings = c.graph.warnings
  source : c'.ids.source = c.ids.source
  drawn : c.ids.drawn ≤ c'.ids.drawn
  issued : c.graph.issued ⊆ c'.graph.issued
  supplied : ∀ id ∈ c'.graph.issued, id ∈ c.graph.issued ∨
    ∃ k, c.ids.drawn ≤ k ∧ k < c'.ids.drawn ∧ id = c.ids.source.supply k

namespace Continues

/-- While no id is drawn, none is issued. -/
theorem of_issued {g : Graph} (kept : g.IsKept) (warnings : g.warnings = c.graph.warnings)
    (issued : g.issued = c.graph.issued) : c.Continues { c with graph := g } :=
  ⟨kept, warnings, rfl, Nat.le_refl _, fun _ h ↦ issued ▸ h, fun _ h ↦ .inl (issued ▸ h)⟩

theorem refl (kept : c.graph.IsKept) : c.Continues c := of_issued kept rfl rfl

theorem trans (h : c.Continues c') (h' : c'.Continues c'') : c.Continues c'' where
  kept := h'.kept
  warnings := h'.warnings.trans h.warnings
  source := h'.source.trans h.source
  drawn := Nat.le_trans h.drawn h'.drawn
  issued := List.Subset.trans h.issued h'.issued
  supplied id hid := by
    rcases h'.supplied id hid with old | ⟨k, le, lt, rfl⟩
    · rcases h.supplied id old with old | ⟨k, le, lt, rfl⟩
      · exact .inl old
      · exact .inr ⟨k, le, Nat.lt_of_lt_of_le lt h'.drawn, rfl⟩
    · exact .inr ⟨k, Nat.le_trans h.drawn le, lt, h.source ▸ rfl⟩

end Continues

/-- Something is added under the next id. -/
theorem continues_newId {g : Graph} (kept : g.IsKept) (warnings : g.warnings = c.graph.warnings)
    (issued : g.issued = c.newId.1 :: c.graph.issued) :
    c.Continues { c.newId.2 with graph := g } := by
  obtain ⟨k, le, new, drawn⟩ := c.graph.newId_last c.ids
  have drawn : c.newId.2.ids = { c.ids with drawn := k + 1 } := drawn
  have new : c.newId.1 = c.ids.source.supply k := new
  rw [new] at issued
  refine ⟨kept, warnings, by rw [drawn], ?_, ?_, fun id hid ↦ ?_⟩
  · rw [drawn]
    exact Nat.le_succ_of_le le
  · rw [issued]
    exact List.subset_cons_self _ _
  · rw [issued, List.mem_cons] at hid
    exact hid.symm.imp_right fun e ↦ ⟨k, le, by rw [drawn]; exact Nat.lt_succ_self k, e⟩

theorem continues_insertNode (kept : c.graph.IsKept) {n : Node} (id : n.id = c.newId.1) :
    c.Continues (c.newId.2.insertNode n) := by
  have offers : c.Offers n.id c.newId.2 := id ▸ c.offers_newId
  refine continues_newId (offers.insertNode kept).kept ?_ (id ▸ offers.issued)
  rw [Graph.warnings_insertNode]
  exact c.graph.warnings_issue _

theorem continues_insertEdge (kept : c.graph.IsKept) {e : Edge} (id : e.id = c.newId.1) :
    c.Continues (c.newId.2.insertEdge e) := by
  have offers : c.Offers e.id c.newId.2 := id ▸ c.offers_newId
  refine continues_newId (offers.insertEdge kept (id ▸ c.exists_supply_newId)).kept ?_
    (id ▸ offers.issued)
  rw [Graph.warnings_insertEdge]
  exact c.graph.warnings_issue _

/-! ## Fresh canvases -/

variable {r : Registry} {s : Settings} {ids : IdStream}

/-- A canvas with nothing on it. -/
def blank (s : Settings) (ids : IdStream) : Canvas :=
  ⟨{ viewport := [("x", .int 0), ("y", .int 0), ("zoom", .float s.zoom)] }, ids⟩

theorem isKept_blank : (blank s ids).graph.IsKept :=
  ⟨fun _ h ↦ (nomatch h), fun _ h ↦ (nomatch h), fun _ h ↦ (nomatch h)⟩

/-- The entry of a new policy. -/
def entry (s : Settings) (k : Kind) (id : String) : Node where
  id := id
  type := k.tag
  position := ⟨.float s.entryX, .float s.entryY⟩
  data := k.initialData

/-- A graph that holds only an entry. -/
def lone (s : Settings) (k : Kind) (id : String) : Graph where
  nodes := Table.empty.put (entry s k id)
  viewport := [("x", .int 0), ("y", .int 0), ("zoom", .float s.zoom)]
  issued := [id]

theorem isKept_lone (s : Settings) (k : Kind) (id : String) : (lone s k id).IsKept :=
  ⟨List.forall_mem_singleton.2 List.mem_cons_self, fun _ h ↦ (nomatch h),
    fun _ _ _ h ↦ (nomatch h)⟩

theorem newId_blank (s : Settings) (ids : IdStream) : (blank s ids).newId =
    (ids.draw.1, ⟨{ (blank s ids).graph with issued := [ids.draw.1] }, ids.draw.2⟩) := by
  have drawn : ids.drawOutside (blank s ids).graph.issued = ids.draw := ids.drawOutside_nil
  simp only [newId, Graph.newId, show (blank s ids).ids = ids from rfl, drawn]
  rfl

theorem insertNode_entry (s : Settings) (k : Kind) (id : String) (ids : IdStream) :
    insertNode ⟨{ (blank s ids).graph with issued := [id] }, ids⟩ (entry s k id) =
      ⟨lone s k id, ids⟩ := by
  have issued : Graph.issue { (blank s ids).graph with issued := [id] } id =
      { (blank s ids).graph with issued := [id] } := Graph.issue_of_mem List.mem_cons_self
  rw [insertNode, Graph.insertNode, show (entry s k id).id = id from rfl, issued]
  rfl

/-- The canvas of a new policy holds one entry, if there is a kind for it and room for a node. -/
theorem fresh_eq (ids : IdStream) : fresh r s ids = match r.get? Kind.initTag with
    | some k =>
      if s.maxNodes ≤ 0 then .error (.tooManyNodes s.maxNodes)
      else .ok ⟨lone s k ids.draw.1, ids.draw.2⟩
    | none => .error (.unknownKind Kind.initTag) := by
  change (blank s ids).addNode r s Kind.initTag _ >>= _ = _
  rw [addNode]
  cases r.get? Kind.initTag with
  | none => rfl
  | some k =>
    dsimp only
    rw [newId_blank, ← insertNode_entry s k ids.draw.1 ids.draw.2]
    by_cases full : s.maxNodes ≤ 0
    · have full' : s.maxNodes ≤ ((blank s ids).graph.nodes.size : Int) := full
      rw [if_pos full, if_pos full']
      cases k.isEntry <;> rfl
    · have room : ¬s.maxNodes ≤ ((blank s ids).graph.nodes.size : Int) := full
      rw [if_neg full, if_neg room]
      cases k.isEntry <;> rfl

theorem fresh_eq_ok_iff {c : Canvas} : fresh r s ids = .ok c ↔ ∃ k,
    r.get? Kind.initTag = some k ∧ 0 < s.maxNodes ∧ c = ⟨lone s k ids.draw.1, ids.draw.2⟩ := by
  rw [fresh_eq]
  constructor
  · intro h
    split at h
    · rename_i k hk
      split at h
      · cases h
      · rename_i room
        exact ⟨k, hk, Int.not_le.1 room, (Except.ok.inj h).symm⟩
    · cases h
  · rintro ⟨k, hk, room, rfl⟩
    rw [hk]
    exact if_neg (Int.not_le.2 room)

theorem source_fresh {c : Canvas} (h : fresh r s ids = .ok c) : c.ids.source = ids.source := by
  obtain ⟨k, -, -, rfl⟩ := fresh_eq_ok_iff.1 h
  rfl

end Canvas

end CallFlow
