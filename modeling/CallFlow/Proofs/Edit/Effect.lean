import CallFlow.Edit
import CallFlow.Proofs.Canvas
import CallFlow.Proofs.Graph.Walk
import CallFlow.Proofs.Result

/-!
# What an edit does

An edit that is not refused makes one of seven changes, each under the conditions that the edit
checks (`Edit.Makes`). What a change keeps is read off these rules, one case for each.
-/

namespace CallFlow

/-! ## The changes -/

/-- A new node of a kind: the data of a fresh one, with some members put in. -/
def Kind.node (k : Kind) (id : String) (position : Position) (data : Members) : Node where
  id := id
  type := k.tag
  position := position
  data := Members.update k.initialData data

/-- The graph without a node and the edges that touch it. -/
def Graph.withoutNode (g : Graph) (id : String) : Graph :=
  { g with
    nodes := g.nodes.erase id
    edges := g.edges.filter fun e ↦ e.source != id && e.target != id }

def Graph.withoutEdge (g : Graph) (id : String) : Graph := { g with edges := g.edges.erase id }

/-- The canvas with room for one more edge from a node that may have one at most. -/
def Canvas.cleared (r : Registry) (c : Canvas) (n : Node) : Canvas :=
  { c with graph := if r.maxOutgoing n.type == some 1 then c.graph.dropOutgoing n.id else c.graph }

/-- What an edit is answered and which canvas it leaves, one rule for each edit. -/
inductive Edit.Makes (r : Registry) (s : Settings) (c : Canvas) : Edit → Outcome → Canvas → Prop
  | addNode {tag : String} {position : Position} {data : Members} (k : Kind)
      (known : r.get? tag = some k) (first : k.isEntry = true → c.graph.entries r = [])
      (room : (c.graph.nodes.size : Int) < s.maxNodes) :
      Makes r s c (.addNode tag position data) (.node (k.node c.newId.1 position data))
        (c.newId.2.insertNode (k.node c.newId.1 position data))
  | updateNode {changes : Members} (n : Node) (inside : n ∈ c.graph.nodes.rows) :
      Makes r s c (.updateNode n.id changes) .done
        (c.insertNode { n with data := Members.update n.data changes })
  | moveNode {position : Position} (n : Node) (inside : n ∈ c.graph.nodes.rows) :
      Makes r s c (.moveNode n.id position) .done (c.insertNode { n with position })
  | removeNode (n : Node) (inside : n ∈ c.graph.nodes.rows)
      (spare : r.isEntry n.type = true → (c.graph.entries r).length ≠ 1) :
      Makes r s c (.removeNode n.id) .done { c with graph := c.graph.withoutNode n.id }
  | connect {target : String} {label sourceHandle targetHandle : Option String} (n : Node)
      (e : Edge) (inside : n ∈ c.graph.nodes.rows) (ends : c.graph.hasNode target = true)
      (other : n.id ≠ target) (limit : r.maxOutgoing n.type ≠ some 0)
      (made : e = ⟨(c.cleared r n).newId.1, n.id, target, sourceHandle, targetHandle, label, []⟩) :
      Makes r s c
        (.connect n.id target (.ofOption label) (.ofOption sourceHandle) (.ofOption targetHandle))
        (.edge e) ((c.cleared r n).newId.2.insertEdge e)
  | disconnect (e : Edge) (inside : e ∈ c.graph.edges.rows) :
      Makes r s c (.disconnect e.id) .done { c with graph := c.graph.withoutEdge e.id }
  | setViewport (viewport : Members) :
      Makes r s c (.setViewport viewport) .done { c with graph := c.graph.setViewport viewport }

/-! ## Edits that are not refused -/

theorem textAttribute_eq_ok_iff {name : String} {v : Json} {o : Option String} :
    textAttribute name v = .ok o ↔ v = .ofOption o := by
  cases v <;> cases o <;> simp [textAttribute, Json.ofOption]

section

variable {r : Registry} {s : Settings} {g : Graph} {c c' : Canvas}

theorem Graph.getNode_eq_ok_iff {id : String} {n : Node} :
    g.getNode id = .ok n ↔ g.node? id = some n := by
  rw [getNode]
  cases g.node? id with
  | none => exact ⟨fun h ↦ (nomatch h), fun h ↦ (nomatch h)⟩
  | some m =>
    exact ⟨fun h ↦ congrArg some (Except.ok.inj h), fun h ↦ congrArg Except.ok (Option.some.inj h)⟩

theorem Graph.mem_of_getNode {id : String} {n : Node} (h : g.getNode id = .ok n) :
    n ∈ g.nodes.rows ∧ n.id = id := node?_eq_some_iff.1 (getNode_eq_ok_iff.1 h)

namespace Canvas

/-- A node is added only under the conditions of the rule, and then under the next id. -/
theorem addNode_eq_ok {tag : String} {position : Position} {n : Node}
    (h : c.addNode r s tag position = .ok (n, c')) : ∃ k, r.get? tag = some k ∧
      (k.isEntry = true → c.graph.entries r = []) ∧ (c.graph.nodes.size : Int) < s.maxNodes ∧
      n = k.node c.newId.1 position [] ∧ c' = c.newId.2.insertNode n := by
  rw [addNode] at h
  cases known : r.get? tag with
  | none =>
    rw [known] at h
    cases h
  | some k =>
    rw [known] at h
    dsimp only at h
    by_cases entry : k.isEntry = true
    · rw [if_pos entry] at h
      cases rows : c.graph.entries r with
      | cons first others =>
        rw [rows] at h
        cases h
      | nil =>
        rw [rows] at h
        obtain ⟨room, made⟩ := Result.refuseIf_eq_ok_iff.1 h
        obtain ⟨rfl, rfl⟩ := Prod.mk.inj (Except.ok.inj made)
        exact ⟨k, rfl, fun _ ↦ rfl, Int.not_le.1 room, rfl, rfl⟩
    · rw [if_neg entry] at h
      obtain ⟨room, made⟩ := Result.refuseIf_eq_ok_iff.1 h
      obtain ⟨rfl, rfl⟩ := Prod.mk.inj (Except.ok.inj made)
      exact ⟨k, rfl, fun isEntry ↦ absurd isEntry entry, Int.not_le.1 room, rfl, rfl⟩

/-- Data that are put into a node that was just added are those that it is added with. -/
theorem updateNode_insertNode {n : Node} {data : Members} {g : Graph}
    (h : (c.insertNode n).graph.updateNode n.id data = .ok g) :
    g = (c.insertNode { n with data := Members.update n.data data }).graph := by
  obtain ⟨m, found, made⟩ := Result.bind_eq_ok_iff.1 h
  have same : (c.insertNode n).graph.node? n.id = some n := Table.get?_put_self
  obtain rfl : n = m := Option.some.inj (same.symm.trans (Graph.getNode_eq_ok_iff.1 found))
  rw [Result.pure_eq_ok_iff.1 made]
  exact c.graph.insertNode_insertNode rfl

/-- A node is added with its data, and what is shown of it is what it is with them. -/
theorem makes_of_addNode {tag : String} {position : Position} {data : Members} {n : Node} {g : Graph}
    (added : c.addNode r s tag position = .ok (n, c'))
    (updated : c'.graph.updateNode n.id data = .ok g) :
    (Edit.addNode tag position data).Makes r s c (Outcome.refresh g (.node n))
      { c' with graph := g } := by
  obtain ⟨k, known, first, room, rfl, rfl⟩ := addNode_eq_ok added
  obtain rfl := updateNode_insertNode updated
  have found : (c.newId.2.insertNode (k.node c.newId.1 position data)).graph.node? c.newId.1 =
    some (k.node c.newId.1 position data) := Table.get?_put_self
  have shown : Outcome.refresh (c.newId.2.insertNode (k.node c.newId.1 position data)).graph
      (.node (k.node c.newId.1 position [])) = .node (k.node c.newId.1 position data) := by
    rw [Outcome.refresh, show (k.node c.newId.1 position []).id = c.newId.1 from rfl, found]
    rfl
  have made : Edit.Makes r s c (.addNode tag position data) _ _ := .addNode k known first room
  rw [← shown] at made
  exact made

/-- An edge is added only under the conditions of the rule. -/
theorem makes_of_connect {source target : String} {label sourceHandle targetHandle : Json}
    {e : Edge} (h : c.connect r source target label sourceHandle targetHandle = .ok (e, c')) :
    (Edit.connect source target label sourceHandle targetHandle).Makes r s c (.edge e) c' := by
  obtain ⟨n, found, h⟩ := Result.bind_eq_ok_iff.1 h
  obtain ⟨m, ends, h⟩ := Result.bind_eq_ok_iff.1 h
  obtain ⟨other, h⟩ := Result.refuseIf_eq_ok_iff.1 h
  obtain ⟨label, hl, h⟩ := Result.bind_eq_ok_iff.1 h
  obtain ⟨sourceHandle, hs, h⟩ := Result.bind_eq_ok_iff.1 h
  obtain ⟨targetHandle, ht, h⟩ := Result.bind_eq_ok_iff.1 h
  obtain ⟨limit, h⟩ := Result.refuseIf_eq_ok_iff.1 h
  obtain ⟨rfl, rfl⟩ := Prod.mk.inj (Except.ok.inj h)
  obtain ⟨inside, rfl⟩ := Graph.mem_of_getNode found
  obtain rfl := textAttribute_eq_ok_iff.1 hl
  obtain rfl := textAttribute_eq_ok_iff.1 hs
  obtain rfl := textAttribute_eq_ok_iff.1 ht
  exact .connect n _ inside (Graph.hasNode_of_node? (Graph.getNode_eq_ok_iff.1 ends))
    (by simpa using other) (by simpa using limit) rfl

end Canvas

/-- An edit that is not refused makes the change of its rule. -/
theorem Edit.makes_of_apply {e : Edit} {o : Outcome} (h : e.apply r s c = .ok (o, c')) :
    e.Makes r s c o c' := by
  cases e with
  | addNode tag position data =>
    obtain ⟨⟨n, d⟩, added, h⟩ := Result.bind_eq_ok_iff.1 h
    obtain ⟨graph, updated, h⟩ := Result.bind_eq_ok_iff.1 h
    cases h
    exact Canvas.makes_of_addNode added updated
  | updateNode id changes =>
    obtain ⟨graph, updated, h⟩ := Result.bind_eq_ok_iff.1 h
    obtain ⟨n, found, updated⟩ := Result.bind_eq_ok_iff.1 updated
    cases updated
    cases h
    obtain ⟨inside, rfl⟩ := Graph.mem_of_getNode found
    exact .updateNode n inside
  | moveNode id position =>
    obtain ⟨graph, moved, h⟩ := Result.bind_eq_ok_iff.1 h
    obtain ⟨n, found, moved⟩ := Result.bind_eq_ok_iff.1 moved
    cases moved
    cases h
    obtain ⟨inside, rfl⟩ := Graph.mem_of_getNode found
    exact .moveNode n inside
  | removeNode id =>
    obtain ⟨graph, removed, h⟩ := Result.bind_eq_ok_iff.1 h
    obtain ⟨n, found, removed⟩ := Result.bind_eq_ok_iff.1 removed
    obtain ⟨spare, removed⟩ := Result.refuseIf_eq_ok_iff.1 removed
    cases removed
    cases h
    obtain ⟨inside, rfl⟩ := Graph.mem_of_getNode found
    exact .removeNode n inside fun entry sole ↦ spare (by simp [entry, sole])
  | connect source target label sourceHandle targetHandle =>
    obtain ⟨⟨e, d⟩, connected, h⟩ := Result.bind_eq_ok_iff.1 h
    cases h
    exact Canvas.makes_of_connect connected
  | disconnect id =>
    obtain ⟨graph, removed, h⟩ := Result.bind_eq_ok_iff.1 h
    rw [Graph.disconnect] at removed
    split at removed
    · rename_i e found
      obtain ⟨inside, rfl⟩ := Table.get?_eq_some_iff.1 found
      cases removed
      cases h
      exact .disconnect e inside
    · cases removed
  | setViewport viewport =>
    cases h
    exact .setViewport viewport

/-! ## What every change keeps -/

namespace Canvas

variable (r c) (n : Node)

@[simp] theorem nodes_cleared : (c.cleared r n).graph.nodes = c.graph.nodes := by
  rw [cleared]
  split <;> rfl

@[simp] theorem issued_cleared : (c.cleared r n).graph.issued = c.graph.issued := by
  rw [cleared]
  split <;> rfl

@[simp] theorem warnings_cleared : (c.cleared r n).graph.warnings = c.graph.warnings := by
  rw [cleared]
  split <;> rfl

@[simp] theorem viewport_cleared : (c.cleared r n).graph.viewport = c.graph.viewport := by
  rw [cleared]
  split <;> rfl

theorem edges_cleared_sublist :
    (c.cleared r n).graph.edges.rows.Sublist c.graph.edges.rows := by
  rw [cleared]
  split
  · exact List.filter_sublist
  · exact List.Sublist.refl _

end Canvas

/-- Nothing is issued while a graph only loses nodes and edges. -/
theorem Canvas.continues_of_subset (kept : c.graph.IsKept) {g : Graph}
    (nodes : g.nodes.rows ⊆ c.graph.nodes.rows) (edges : g.edges.rows ⊆ c.graph.edges.rows)
    (warnings : g.warnings = c.graph.warnings) (issued : g.issued = c.graph.issued) :
    c.Continues { c with graph := g } :=
  .of_issued (kept.of_subset nodes edges fun _ h ↦ issued ▸ h) warnings issued

/-- Nor when a node takes the place of the one with its id. -/
theorem Canvas.continues_replaceNode (kept : c.graph.IsKept) {old n : Node}
    (inside : old ∈ c.graph.nodes.rows) (same : n.id = old.id) : c.Continues (c.insertNode n) :=
  .of_issued (kept.replaceNode inside same) (c.graph.warnings_insertNode n)
    (Graph.issued_insertNode_of_mem (same ▸ kept.nodes old inside))

theorem Canvas.continues_cleared (kept : c.graph.IsKept) (n : Node) :
    c.Continues (c.cleared r n) :=
  continues_of_subset kept (g := (c.cleared r n).graph)
    (by rw [nodes_cleared]; exact List.Subset.refl _) (c.edges_cleared_sublist r n).subset
    (c.warnings_cleared r n) (c.issued_cleared r n)

/-- Every edit forgets no id that was issued, and issues only ids that it draws. -/
theorem Edit.Makes.continues (kept : c.graph.IsKept) {e : Edit} {o : Outcome}
    (h : e.Makes r s c o c') : c.Continues c' := by
  cases h with
  | addNode k known first room => exact Canvas.continues_insertNode kept rfl
  | updateNode n inside | moveNode n inside => exact Canvas.continues_replaceNode kept inside rfl
  | removeNode n inside spare =>
    exact Canvas.continues_of_subset kept List.filter_sublist.subset List.filter_sublist.subset
      rfl rfl
  | connect n e inside ends other limit made =>
    have cleared := Canvas.continues_cleared (r := r) kept n
    exact cleared.trans (Canvas.continues_insertEdge cleared.kept (made ▸ rfl))
  | disconnect e inside =>
    exact Canvas.continues_of_subset kept (List.Subset.refl _) List.filter_sublist.subset rfl rfl
  | setViewport viewport =>
    exact Canvas.continues_of_subset kept (List.Subset.refl _) (List.Subset.refl _) rfl rfl

/-! ## Edits that somebody asks for -/

namespace Canvas

/-- The canvas after somebody asked for an edit. One that is refused changes nothing. -/
def after (r : Registry) (s : Settings) (c : Canvas) (e : Edit) : Canvas :=
  match e.apply r s c with
  | .ok (_, c') => c'
  | .error _ => c

theorem after_eq_or_makes (r : Registry) (s : Settings) (c : Canvas) (e : Edit) :
    c.after r s e = c ∨ ∃ o, e.Makes r s c o (c.after r s e) := by
  rw [after]
  split
  · rename_i o c' made
    exact .inr ⟨o, Edit.makes_of_apply made⟩
  · exact .inl rfl

end Canvas

end

end CallFlow
