import CallFlow.Proofs.Canvas.History
import CallFlow.Proofs.Edit.Effect

/-!
# Edges drawn and nodes removed

The two edits that delete what the registry or another row asks for: exactly when they are refused,
and exactly what they leave behind (`connect_and_removeNode_areExact`), on any graph, however many
entries it has and wherever its edges end.

Both are also told as processes, step by step: look-ups, checks, each edge that is deleted, the id
that is drawn. A process that is refused half-way would leave a canvas half-way. But every check
comes before the first change, and the edges that are deleted one after another are those of one
filter, so the processes come to what `Canvas.connect` and `Graph.removeNode` say (`exec_connect`,
`exec_removeNode`).
-/

namespace CallFlow

/-! ## Rows deleted one after another -/

namespace Table

variable {α : Type} {key : α → String}

theorem rows_foldl_erase (t : Table α key) (gone : List α) :
    (gone.foldl (fun t a ↦ t.erase (key a)) t).rows =
      t.rows.filter fun a ↦ !(gone.map key).contains (key a) := by
  induction gone generalizing t with
  | nil => simp
  | cons a gone ih =>
    rw [List.foldl_cons, ih, rows_erase, List.filter_filter]
    refine List.filter_congr fun b _ ↦ ?_
    by_cases same : key b = key a <;> simp [same]

/-- To delete the rows that pass a test, one after another, is to keep those that fail it. -/
theorem foldl_erase_filter (t : Table α key) (p : α → Bool) :
    (t.rows.filter p).foldl (fun t a ↦ t.erase (key a)) t = t.filter (!p ·) := by
  refine Table.ext ?_
  rw [rows_foldl_erase, rows_filter]
  refine List.filter_congr fun a ha ↦ ?_
  congr 1
  rw [Bool.eq_iff_iff, List.contains_iff_mem, List.mem_map]
  constructor
  · rintro ⟨b, hb, same⟩
    obtain ⟨hb, passes⟩ := List.mem_filter.1 hb
    exact eq_of_key_eq hb ha same ▸ passes
  · exact fun passes ↦ ⟨a, List.mem_filter.2 ⟨ha, passes⟩, rfl⟩

/-- A row that is put in among rows that fail a test is the only one that passes it. -/
theorem filter_rows_put (t : Table α key) {a : α} {p : α → Bool} (passes : p a = true)
    (fail : ∀ b ∈ t.rows, p b = false) : (t.put a).rows.filter p = [a] := by
  have only : ∀ rows : List α, (∀ b ∈ rows, p b = false) → (putRow key a rows).filter p = [a] := by
    intro rows fail
    induction rows with
    | nil => simp [putRow, passes]
    | cons b rest ih =>
      obtain ⟨first, fail⟩ := List.forall_mem_cons.1 fail
      rw [putRow]
      split
      · rw [List.filter_cons_of_pos passes,
          List.filter_eq_nil_iff.2 fun c hc ↦ by simp [fail c hc]]
      · rw [List.filter_cons_of_neg (by simp [first]), ih fail]
  exact only t.rows fail

end Table

/-! ## Edits step by step -/

/-- An edit step by step: what was changed before it is refused stays changed. -/
abbrev Process (α : Type) := ExceptT EditError (StateM Canvas) α

namespace Process

variable {α β : Type}

/-- The value of a result, or a refusal. -/
def ofResult (x : Except EditError α) : Process α := ExceptT.mk (pure x)

/-- Deletes edges one after another. -/
def deleteEdges (edges : List Edge) : Process Unit :=
  edges.forM fun e ↦ modify fun c ↦
    { c with graph := { c.graph with edges := c.graph.edges.erase e.id } }

def deleteNode (id : String) : Process Unit :=
  modify fun c ↦ { c with graph := { c.graph with nodes := c.graph.nodes.erase id } }

/-- Draws an edge. If the source may have one only, those that it has are deleted first. -/
def connect (r : Registry) (source target : String) (label sourceHandle targetHandle : Json) :
    Process Edge := do
  let n ← ofResult ((← get).graph.getNode source)
  let _ ← ofResult ((← get).graph.getNode target)
  if source == target then
    throw (.selfLoop source)
  let label ← ofResult (textAttribute "label" label)
  let sourceHandle ← ofResult (textAttribute "source_handle" sourceHandle)
  let targetHandle ← ofResult (textAttribute "target_handle" targetHandle)
  if r.maxOutgoing n.type == some 0 then
    throw (.noOutgoing source n.type)
  if r.maxOutgoing n.type == some 1 then
    deleteEdges ((← get).graph.outgoing source)
  let id ← modifyGet Canvas.newId
  let e : Edge := { id, source, target, sourceHandle, targetHandle, label }
  modify (·.insertEdge e)
  return e

/-- Removes a node, after every edge that touches it. -/
def removeNode (r : Registry) (id : String) : Process Unit := do
  let n ← ofResult ((← get).graph.getNode id)
  if r.isEntry n.type && ((← get).graph.entries r).length == 1 then
    throw (.onlyEntry id)
  deleteEdges ((← get).graph.incident id)
  deleteNode id

/-- What a process answers on a canvas, and the canvas after it. -/
def exec (p : Process α) (c : Canvas) : Except EditError α × Canvas := (ExceptT.run p).run c

/-- The answer and the canvas that a result stands for: where it is refused, nothing changes. -/
def settle (c : Canvas) : Except EditError (α × Canvas) → Except EditError α × Canvas
  | .ok (a, c') => (.ok a, c')
  | .error e => (.error e, c)

section Steps

variable {c : Canvas}

theorem exec_get_bind (f : Canvas → Process α) : exec (get >>= f) c = exec (f c) c := rfl

/-- A look-up that is refused is the answer, while nothing is changed yet. -/
theorem exec_ofResult_bind {x : Except EditError α} {f : α → Process β}
    {g : α → Except EditError (β × Canvas)} (rest : ∀ a, exec (f a) c = settle c (g a)) :
    exec (ofResult x >>= f) c = settle c (x >>= g) := by
  cases x with
  | error e => rfl
  | ok a => exact rest a

/-- So is a check. -/
theorem exec_refuseIf {b : Bool} {e : EditError} {f : Unit → Process β}
    {g : Unit → Except EditError (β × Canvas)} (rest : exec (f ()) c = settle c (g ())) :
    exec (if b = true then throw e >>= f else f ()) c =
      settle c (if b = true then throw e >>= g else g ()) := by
  cases b with
  | true => rfl
  | false => exact rest

theorem exec_deleteEdges_bind (edges : List Edge) (f : Unit → Process α) :
    exec (deleteEdges edges >>= f) c = exec (f ()) { c with
      graph := { c.graph with
        edges := edges.foldl (fun t e ↦ t.erase e.id) c.graph.edges } } := by
  induction edges generalizing c with
  | nil => rfl
  | cons e rest ih => exact ih

end Steps

variable (r : Registry) (c : Canvas)

/-- The process comes to what the edit says, and where it is refused it has changed nothing. -/
theorem exec_connect (source target : String) (label sourceHandle targetHandle : Json) :
    (connect r source target label sourceHandle targetHandle).exec c =
      settle c (c.connect r source target label sourceHandle targetHandle) := by
  rw [connect, Canvas.connect]
  rw [exec_get_bind]
  refine exec_ofResult_bind fun n ↦ ?_
  rw [exec_get_bind]
  refine exec_ofResult_bind fun _ ↦ exec_refuseIf ?_
  refine exec_ofResult_bind fun label ↦ exec_ofResult_bind fun sourceHandle ↦
    exec_ofResult_bind fun targetHandle ↦ exec_refuseIf ?_
  dsimp only
  cases r.maxOutgoing n.type == some 1 with
  | false => rfl
  | true =>
    rw [if_pos rfl, if_pos rfl]
    rw [exec_get_bind]
    refine (exec_deleteEdges_bind _ _).trans ?_
    rw [Graph.outgoing, c.graph.edges.foldl_erase_filter]
    rfl

theorem exec_removeNode (id : String) : (removeNode r id).exec c =
    settle c (c.graph.removeNode r id >>= fun g ↦ .ok (⟨⟩, { c with graph := g })) := by
  rw [removeNode, Graph.removeNode, bind_assoc]
  rw [exec_get_bind]
  refine exec_ofResult_bind fun n ↦ ?_
  rw [exec_get_bind]
  cases r.isEntry n.type && (c.graph.entries r).length == 1 with
  | true => rfl
  | false =>
    rw [if_neg Bool.false_ne_true, exec_get_bind]
    refine (exec_deleteEdges_bind _ _).trans ?_
    have touching : c.graph.incident id =
        c.graph.edges.rows.filter fun e ↦ e.source == id || e.target == id := rfl
    rw [touching, c.graph.edges.foldl_erase_filter]
    simp only [Bool.not_or]
    rfl

end Process

/-! ## What is refused -/

theorem Json.exists_ofOption_iff {v : Json} :
    (∃ o, v = .ofOption o) ↔ v = .null ∨ ∃ s, v = .str s := by
  simp [Option.exists, Json.ofOption]

namespace Graph

/-- What stands in the way of a new edge. -/
inductive RefusesEdge (r : Registry) (g : Graph) (source target : String) (attributes : List Json) :
    Prop
  | noSource (absent : ∀ n ∈ g.nodes.rows, n.id ≠ source)
  | noTarget (absent : ∀ n ∈ g.nodes.rows, n.id ≠ target)
  | selfLoop (same : source = target)
  | notText (v : Json) (given : v ∈ attributes) (some : v ≠ .null) (other : ∀ s, v ≠ .str s)
  | noOutgoing (n : Node) (inside : n ∈ g.nodes.rows) (id : n.id = source)
    (limit : r.maxOutgoing n.type = some 0)

/-- What stands in the way of the removal of a node. -/
inductive RefusesRemoval (r : Registry) (g : Graph) (id : String) : Prop
  | noNode (absent : ∀ n ∈ g.nodes.rows, n.id ≠ id)
  | onlyEntry (n : Node) (only : g.entries r = [n]) (same : n.id = id)

end Graph

/-! ## What is left behind -/

/-- An edge was drawn from a node: after all others, of which those of the node are gone if it may
have one only, and under an id that was not issued before. It comes last wherever the edges have
ids that were issued, as all edges do that were put in by `Graph.insertEdge`. -/
structure Canvas.Connects (r : Registry) (c : Canvas) (n : Node) (target : String)
    (label sourceHandle targetHandle : Json) (e : Edge) (c' : Canvas) : Prop where
  new : e.id ∉ c.graph.issued
  ends : e.source = n.id ∧ e.target = target
  attributes : label = .ofOption e.label ∧ sourceHandle = .ofOption e.sourceHandle ∧
    targetHandle = .ofOption e.targetHandle ∧ e.extras = []
  edges : (∀ d ∈ c.graph.edges.rows, d.id ∈ c.graph.issued) → c'.graph.edges.rows =
    (if r.maxOutgoing n.type = some 1 then c.graph.edges.rows.filter (·.source != n.id)
      else c.graph.edges.rows) ++ [e]
  sole : r.maxOutgoing n.type = some 1 → c'.graph.outgoing n.id = [e]
  nodes : c'.graph.nodes = c.graph.nodes
  viewport : c'.graph.viewport = c.graph.viewport
  warnings : c'.graph.warnings = c.graph.warnings
  issued : c'.graph.issued = e.id :: c.graph.issued
  source : c'.ids.source = c.ids.source

/-- A node was removed, with the edges that touch it and nothing else. -/
structure Canvas.Removes (c : Canvas) (id : String) (c' : Canvas) : Prop where
  nodes : c'.graph.nodes.rows = c.graph.nodes.rows.filter (·.id != id)
  edges : c'.graph.edges.rows =
    c.graph.edges.rows.filter fun e ↦ e.source != id && e.target != id
  viewport : c'.graph.viewport = c.graph.viewport
  warnings : c'.graph.warnings = c.graph.warnings
  issued : c'.graph.issued = c.graph.issued
  ids : c'.ids = c.ids

namespace Canvas

/-- What comes of asking for an edge: a refusal that changes nothing, where something stands in its
way, and otherwise the edge. -/
def ConnectsExactly (r : Registry) (c : Canvas) (source target : String)
    (label sourceHandle targetHandle : Json) : Except EditError Edge × Canvas → Prop
  | (.error _, c') =>
    c.graph.RefusesEdge r source target [label, sourceHandle, targetHandle] ∧ c' = c
  | (.ok e, c') => ¬c.graph.RefusesEdge r source target [label, sourceHandle, targetHandle] ∧
    ∃ n ∈ c.graph.nodes.rows, n.id = source ∧
      c.Connects r n target label sourceHandle targetHandle e c'

/-- What comes of asking for the removal of a node. -/
def RemovesExactly (r : Registry) (c : Canvas) (id : String) :
    Except EditError Unit × Canvas → Prop
  | (.error _, c') => c.graph.RefusesRemoval r id ∧ c' = c
  | (.ok _, c') => ¬c.graph.RefusesRemoval r id ∧ c.Removes id c'

variable {r : Registry} {c : Canvas}

/-! ## Edges -/

/-- The edge that is drawn where nothing stands in its way. -/
def drawnEdge (r : Registry) (c : Canvas) (n : Node) (target : String)
    (label sourceHandle targetHandle : Option String) : Edge where
  id := (c.cleared r n).newId.1
  source := n.id
  target := target
  sourceHandle := sourceHandle
  targetHandle := targetHandle
  label := label

theorem connect_eq_ok {n : Node} {target : String} (inside : n ∈ c.graph.nodes.rows)
    (ends : c.graph.hasNode target = true) (other : n.id ≠ target)
    (limit : r.maxOutgoing n.type ≠ some 0) (label sourceHandle targetHandle : Option String) :
    c.connect r n.id target (.ofOption label) (.ofOption sourceHandle) (.ofOption targetHandle) =
      .ok (c.drawnEdge r n target label sourceHandle targetHandle,
        (c.cleared r n).newId.2.insertEdge
          (c.drawnEdge r n target label sourceHandle targetHandle)) := by
  obtain ⟨m, hm⟩ := Graph.exists_node?_of_hasNode ends
  have found : c.graph.getNode n.id = .ok n :=
    Graph.getNode_eq_ok_iff.2 (Graph.node?_of_mem inside)
  refine Result.bind_eq_ok_iff.2 ⟨n, found, Result.bind_eq_ok_iff.2
    ⟨m, Graph.getNode_eq_ok_iff.2 hm, Result.refuseIf_eq_ok_iff.2 ⟨by simpa using other, ?_⟩⟩⟩
  refine Result.bind_eq_ok_iff.2 ⟨label, textAttribute_eq_ok_iff.2 rfl, Result.bind_eq_ok_iff.2
    ⟨sourceHandle, textAttribute_eq_ok_iff.2 rfl, Result.bind_eq_ok_iff.2
      ⟨targetHandle, textAttribute_eq_ok_iff.2 rfl, ?_⟩⟩⟩
  exact Result.refuseIf_eq_ok_iff.2 ⟨by simpa using limit, rfl⟩

/-- The edges that are there when an edge is added. -/
theorem rows_cleared (r : Registry) (c : Canvas) (n : Node) : (c.cleared r n).graph.edges.rows =
    if r.maxOutgoing n.type = some 1 then c.graph.edges.rows.filter (·.source != n.id)
    else c.graph.edges.rows := by
  rw [cleared]
  by_cases single : r.maxOutgoing n.type = some 1 <;> simp [single, Graph.dropOutgoing]

theorem connects_drawnEdge (r : Registry) (c : Canvas) (n : Node) (target : String)
    (label sourceHandle targetHandle : Option String) :
    c.Connects r n target (.ofOption label) (.ofOption sourceHandle) (.ofOption targetHandle)
      (c.drawnEdge r n target label sourceHandle targetHandle)
      ((c.cleared r n).newId.2.insertEdge
        (c.drawnEdge r n target label sourceHandle targetHandle)) := by
  generalize he : c.drawnEdge r n target label sourceHandle targetHandle = e
  have source : e.source = n.id := he ▸ rfl
  have offers : (c.cleared r n).Offers e.id (c.cleared r n).newId.2 :=
    he ▸ (c.cleared r n).offers_newId
  have new : e.id ∉ c.graph.issued := c.issued_cleared r n ▸ offers.new
  have rows : ((c.cleared r n).newId.2.insertEdge e).graph.edges =
      (c.cleared r n).graph.edges.put e := offers.edges ▸ rfl
  refine ⟨new, ⟨source, he ▸ rfl⟩, he ▸ ⟨rfl, rfl, rfl, rfl⟩, fun issued ↦ ?_, fun single ↦ ?_,
    ?_, ?_, ?_, ?_, offers.source⟩
  · rw [rows, ← rows_cleared]
    refine Table.rows_put_of_notMem fun used ↦ ?_
    obtain ⟨d, hd, same⟩ := List.mem_map.1 used
    exact new (same ▸ issued d ((c.edges_cleared_sublist r n).subset hd))
  · rw [Graph.outgoing, rows]
    refine Table.filter_rows_put _ (by simp [source]) fun d hd ↦ ?_
    rw [rows_cleared, if_pos single, List.mem_filter] at hd
    simpa using hd.2
  · rw [← c.nodes_cleared r n, ← offers.nodes]
    exact (c.cleared r n).newId.2.graph.nodes_insertEdge e
  · rw [← c.viewport_cleared r n, ← offers.viewport]
    exact (c.cleared r n).newId.2.graph.viewport_insertEdge e
  · rw [← c.warnings_cleared r n]
    exact ((c.cleared r n).newId.2.graph.warnings_insertEdge e).trans
      ((c.cleared r n).graph.warnings_issue _)
  · rw [← c.issued_cleared r n]
    exact offers.issued

/-- Where nothing stands in the way of an edge, it is drawn. -/
theorem connects_of_not_refusesEdge {source target : String}
    {label sourceHandle targetHandle : Json}
    (free : ¬c.graph.RefusesEdge r source target [label, sourceHandle, targetHandle]) :
    ∃ e c', c.connect r source target label sourceHandle targetHandle = .ok (e, c') ∧
      ∃ n ∈ c.graph.nodes.rows, n.id = source ∧
        c.Connects r n target label sourceHandle targetHandle e c' := by
  have texts : ∀ v ∈ [label, sourceHandle, targetHandle], ∃ o, v = .ofOption o := by
    intro v given
    rw [Json.exists_ofOption_iff]
    by_contra other
    obtain ⟨some, other⟩ := not_or.1 other
    exact free (.notText v given some (not_exists.1 other))
  simp only [List.forall_mem_cons, List.not_mem_nil, false_implies, implies_true,
    and_true] at texts
  obtain ⟨⟨l, rfl⟩, ⟨sh, rfl⟩, th, rfl⟩ := texts
  have starts : ∃ n ∈ c.graph.nodes.rows, n.id = source := by
    by_contra absent
    exact free (.noSource fun n hn id ↦ absent ⟨n, hn, id⟩)
  have ends : ∃ n ∈ c.graph.nodes.rows, n.id = target := by
    by_contra absent
    exact free (.noTarget fun n hn id ↦ absent ⟨n, hn, id⟩)
  obtain ⟨n, inside, rfl⟩ := starts
  have made := connect_eq_ok inside (Graph.hasNode_iff.2 ends) (fun same ↦ free (.selfLoop same))
    (fun limit ↦ free (.noOutgoing n inside rfl limit)) l sh th
  exact ⟨_, _, made, n, inside, rfl, c.connects_drawnEdge r n target l sh th⟩

/-- What stands in the way of an edge is found before anything is changed. -/
theorem not_refusesEdge_of_connect {source target : String} {label sourceHandle targetHandle : Json}
    {e : Edge} {c' : Canvas}
    (h : c.connect r source target label sourceHandle targetHandle = .ok (e, c')) :
    ¬c.graph.RefusesEdge r source target [label, sourceHandle, targetHandle] := by
  cases makes_of_connect (s := {}) h with
  | connect n _ inside ends other limit =>
    intro refuses
    cases refuses with
    | noSource absent => exact absent n inside rfl
    | noTarget absent =>
      obtain ⟨m, hm, id⟩ := Graph.hasNode_iff.1 ends
      exact absent m hm id
    | selfLoop same => exact other same
    | notText v given some other =>
      have text : ∃ o, v = .ofOption o := by
        simp only [List.mem_cons, List.not_mem_nil, or_false] at given
        rcases given with rfl | rfl | rfl <;> exact ⟨_, rfl⟩
      rcases Json.exists_ofOption_iff.1 text with null | ⟨s, str⟩
      · exact some null
      · exact other s str
    | noOutgoing m hm id none =>
      obtain rfl : m = n := Table.eq_of_key_eq hm inside id
      exact limit none

theorem connectsExactly (r : Registry) (c : Canvas) (source target : String)
    (label sourceHandle targetHandle : Json) :
    c.ConnectsExactly r source target label sourceHandle targetHandle
      (Process.settle c (c.connect r source target label sourceHandle targetHandle)) := by
  cases h : c.connect r source target label sourceHandle targetHandle with
  | error e =>
    refine ⟨?_, rfl⟩
    by_contra free
    obtain ⟨e, c', made, -⟩ := connects_of_not_refusesEdge free
    exact nomatch h.symm.trans made
  | ok x =>
    obtain ⟨e, c'⟩ := x
    have free := not_refusesEdge_of_connect h
    obtain ⟨e', c'', made, connects⟩ := connects_of_not_refusesEdge free
    cases h.symm.trans made
    exact ⟨free, connects⟩

end Canvas

/-! ## Nodes -/

/-- A node is the only entry where there is one entry and it is of a kind of entries. -/
theorem Graph.entries_eq_singleton_iff {r : Registry} {g : Graph} {n : Node}
    (inside : n ∈ g.nodes.rows) :
    g.entries r = [n] ↔ r.isEntry n.type = true ∧ (g.entries r).length = 1 := by
  constructor
  · intro only
    have entry : n ∈ g.entries r := only ▸ List.mem_cons_self
    exact ⟨(List.mem_filter.1 entry).2, by rw [only, List.length_singleton]⟩
  · rintro ⟨entry, one⟩
    obtain ⟨m, only⟩ := List.length_eq_one_iff.1 one
    have inEntries : n ∈ g.entries r := List.mem_filter.2 ⟨inside, entry⟩
    rw [only, List.mem_singleton] at inEntries
    rw [only, inEntries]

theorem Graph.removeNode_eq_ok_iff {r : Registry} {g g' : Graph} {id : String} :
    g.removeNode r id = .ok g' ↔ ¬g.RefusesRemoval r id ∧ g' = g.withoutNode id := by
  constructor
  · intro h
    obtain ⟨n, found, h⟩ := Result.bind_eq_ok_iff.1 h
    obtain ⟨spare, h⟩ := Result.refuseIf_eq_ok_iff.1 h
    obtain ⟨inside, rfl⟩ := mem_of_getNode found
    refine ⟨fun refuses ↦ ?_, Result.pure_eq_ok_iff.1 h⟩
    cases refuses with
    | noNode absent => exact absent n inside rfl
    | onlyEntry m only same =>
      have entry : m ∈ g.entries r := only ▸ List.mem_cons_self
      obtain rfl : m = n := Table.eq_of_key_eq (List.mem_filter.1 entry).1 inside same
      exact spare (by simpa using (entries_eq_singleton_iff inside).1 only)
  · rintro ⟨free, rfl⟩
    have present : ∃ n ∈ g.nodes.rows, n.id = id := by
      by_contra absent
      exact free (.noNode fun n hn same ↦ absent ⟨n, hn, same⟩)
    obtain ⟨n, inside, rfl⟩ := present
    refine Result.bind_eq_ok_iff.2 ⟨n, getNode_eq_ok_iff.2 (node?_of_mem inside),
      Result.refuseIf_eq_ok_iff.2 ⟨fun sole ↦ ?_, rfl⟩⟩
    exact free (.onlyEntry n ((entries_eq_singleton_iff inside).2 (by simpa using sole)) rfl)

namespace Canvas

theorem removesExactly (r : Registry) (c : Canvas) (id : String) :
    c.RemovesExactly r id (Process.settle c
      (c.graph.removeNode r id >>= fun g ↦ .ok (⟨⟩, { c with graph := g }))) := by
  cases h : c.graph.removeNode r id with
  | error e =>
    refine ⟨?_, rfl⟩
    by_contra free
    exact nomatch h.symm.trans (Graph.removeNode_eq_ok_iff.2 ⟨free, rfl⟩)
  | ok g =>
    obtain ⟨free, rfl⟩ := Graph.removeNode_eq_ok_iff.1 h
    exact ⟨free, rfl, rfl, rfl, rfl, rfl, rfl⟩

/-! ## Exactness -/

/-- On any graph, an edge is drawn and a node is removed as `ConnectsExactly` and `RemovesExactly`
say, and refused where they say so, whether it is done at once or step by step. On every canvas of
an editor, however it was obtained and whatever was done on it, the edges have ids that were
issued. -/
theorem connect_and_removeNode_areExact (r : Registry) (c : Canvas) :
    (∀ source target label sourceHandle targetHandle,
      let result := Process.settle c (c.connect r source target label sourceHandle targetHandle)
      (Process.connect r source target label sourceHandle targetHandle).exec c = result ∧
        c.ConnectsExactly r source target label sourceHandle targetHandle result) ∧
    (∀ id,
      let result := Process.settle c
        (c.graph.removeNode r id >>= fun g ↦ .ok ((), { c with graph := g }))
      (Process.removeNode r id).exec c = result ∧ c.RemovesExactly r id result) ∧
    ∀ s g ids changes, Graph.IsObtained r s g → c ∈ history r s ⟨g, ids⟩ changes →
      ∀ d ∈ c.graph.edges.rows, d.id ∈ c.graph.issued := by
  refine ⟨fun source target label sourceHandle targetHandle ↦ ?_, fun id ↦ ?_, ?_⟩
  · exact ⟨Process.exec_connect r c source target label sourceHandle targetHandle,
      c.connectsExactly r source target label sourceHandle targetHandle⟩
  · exact ⟨Process.exec_removeNode r c id, c.removesExactly r id⟩
  · intro s g ids changes obtained past
    exact (isKept_of_mem_history (c := ⟨g, ids⟩) obtained.isKept past).edges

/-- From a node that may have one edge, three lead away: one is parallel to the new one, one leads
nowhere, and one leads back. The new edge replaces them all. -/
theorem crowded_node_is_rewired :
    let node (id : String) : Json := .obj [("id", .str id), ("type", .str "speak"),
      ("position", .obj [("x", .int 0), ("y", .int 0)])]
    let edge (id source target : String) : Json :=
      .obj [("id", .str id), ("source", .str source), ("target", .str target)]
    let v : Json := .obj [("nodes", .arr [node "a", node "b"]),
      ("edges", .arr [edge "1" "a" "b", edge "2" "b" "a", edge "3" "a" "ghost", edge "4" "a" "a"])]
    ∃ g, Graph.ofBodyJson v = .ok g ∧ (g.outgoing "a").map Edge.id = ["1", "3", "4"] ∧
      ∀ ids : IdStream, ∃ e c', connect Catalog.registry ⟨g, ids⟩ "a" "b" .null .null .null =
        .ok (e, c') ∧ c'.graph.outgoing "a" = [e] ∧ c'.graph.edges.keys = ["2", e.id] := by
  intro node edge v
  let a : Node := { id := "a", type := "speak" }
  have loaded : ∃ g, Graph.ofBodyJson v = .ok g ∧ a ∈ g.nodes.rows ∧ g.hasNode "b" = true ∧
      (g.outgoing "a").map Edge.id = ["1", "3", "4"] ∧
      (g.edges.rows.filter (·.source != "a")).map Edge.id = ["2"] ∧
      ∀ d ∈ g.edges.rows, d.id ∈ g.issued := by
    refine ⟨_, rfl, List.mem_cons_self, rfl, rfl, rfl, ?_⟩
    decide
  obtain ⟨g, loaded, inside, ends, crowd, others, issued⟩ := loaded
  refine ⟨g, loaded, crowd, fun ids ↦ ?_⟩
  have single : Catalog.registry.maxOutgoing a.type = some 1 := by decide
  have made := connect_eq_ok (r := Catalog.registry) (c := ⟨g, ids⟩) inside ends (by decide)
    (by decide) none none none
  have exactly := ((connect_and_removeNode_areExact Catalog.registry ⟨g, ids⟩).1 "a" "b" .null
    .null .null).2
  refine ⟨_, _, made, ?_⟩
  obtain ⟨-, n, here, id, connects⟩ := made ▸ exactly
  obtain rfl : n = a := Table.eq_of_key_eq here inside id
  refine ⟨connects.sole single, ?_⟩
  rw [Table.keys, connects.edges issued, if_pos single, List.map_append]
  exact congrArg (· ++ [_]) others

end Canvas

end CallFlow
