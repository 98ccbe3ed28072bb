import CallFlow.Proofs.Body.Reload
import CallFlow.Proofs.FirstRepeat

/-!
# Repeated ids in a body

The entries of a body document, nodes first, are put into one graph under their ids, and nothing is
put in the place of anything else: a document is refused exactly if an id is in it twice, be it of a
node and an edge, and the id that is reported is the first one that repeats an earlier one
(`Graph.ofBody_refuses_repeats`). Otherwise every entry has its node or edge.
-/

namespace CallFlow

open Json Schema

/-! ## The entries of a document -/

/-- The entries of a document under a name: the items of the list there, if there is one. -/
def Json.entries (v : Json) (name : String) : List Json := ((v.member? name).map items).getD []

/-- The records of a list were checked entry by entry. -/
theorem Json.forall₂_entries {α : Type} {ms : Members} {name : String} {check : Json → Checked α}
    {as : List α} (h : optional ms name [] (list check) = .sound as) :
    List.Forall₂ (fun entry a ↦ check entry = .sound a) ((Json.obj ms).entries name) as := by
  rw [entries, member?]
  cases found : Members.get? ms name with
  | none =>
    rw [optional_of_none found] at h
    cases h
    exact .nil
  | some v =>
    rw [optional_eq_sound_iff found] at h
    obtain ⟨vs, rfl, each⟩ := list_eq_sound_iff.1 h
    exact each

theorem Schema.get?_of_required {ms : Members} {name s : String}
    (h : required ms name nonemptyText = .sound s) : Members.get? ms name = some (.str s) := by
  obtain ⟨v, found, sound⟩ := required_eq_sound h
  rw [found, eq_str_of_nonemptyText sound]

/-- A node has the id that its entry names. -/
theorem Node.id_of_check {entry : Json} {n : Node}
    (h : record .document (Body.checkNode .document) entry = .sound n) :
    entry.member? "id" = some (.str n.id) := by
  obtain ⟨ms, rfl, h⟩ := record_eq_sound h
  obtain ⟨_, data, h₃, -, rfl⟩ := Checked.seq_eq_sound_iff.1 h
  obtain ⟨_, position, h₂, -, rfl⟩ := Checked.seq_eq_sound_iff.1 h₃
  obtain ⟨_, type, h₁, -, rfl⟩ := Checked.seq_eq_sound_iff.1 h₂
  obtain ⟨id, hi, rfl⟩ := Checked.map_eq_sound_iff.1 h₁
  exact get?_of_required hi

/-- So has an edge. -/
theorem Edge.id_of_check {entry : Json} {e : Edge}
    (h : record .document Body.checkEdge entry = .sound e) :
    entry.member? "id" = some (.str e.id) := by
  obtain ⟨ms, rfl, h⟩ := record_eq_sound h
  obtain ⟨_, label, h₅, -, rfl⟩ := Checked.seq_eq_sound_iff.1 h
  obtain ⟨_, targetHandle, h₄, -, rfl⟩ := Checked.seq_eq_sound_iff.1 h₅
  obtain ⟨_, sourceHandle, h₃, -, rfl⟩ := Checked.seq_eq_sound_iff.1 h₄
  obtain ⟨_, target, h₂, -, rfl⟩ := Checked.seq_eq_sound_iff.1 h₃
  obtain ⟨_, source, h₁, -, rfl⟩ := Checked.seq_eq_sound_iff.1 h₂
  obtain ⟨id, hi, rfl⟩ := Checked.map_eq_sound_iff.1 h₁
  exact get?_of_required hi

namespace Body

variable {v : Json} {b : Body}

/-- The nodes and edges of a body were read of the entries of its document, one of each. -/
theorem forall₂_of_check (h : check .document v = .sound b) :
    List.Forall₂ (fun entry n ↦ record .document (checkNode .document) entry = .sound n)
      (v.entries "nodes") b.nodes ∧
    List.Forall₂ (fun entry e ↦ record .document checkEdge entry = .sound e)
      (v.entries "edges") b.edges := by
  obtain ⟨ms, rfl, nodes, edges, -⟩ := fields_of_check h
  exact ⟨forall₂_entries nodes, forall₂_entries edges⟩

/-- The ids of a body are those that the entries of its document name. -/
theorem ids_of_check (h : check .document v = .sound b) :
    (v.entries "nodes" ++ v.entries "edges").map (·.member? "id") =
      b.ids.map fun id ↦ some (.str id) := by
  obtain ⟨nodes, edges⟩ := forall₂_of_check h
  rw [ids, List.map_append, List.map_append, List.map_map, List.map_map]
  congr 1
  · rw [← List.forall₂_eq_eq_eq, List.forall₂_map_left_iff, List.forall₂_map_right_iff]
    exact nodes.imp fun _ _ ↦ Node.id_of_check
  · rw [← List.forall₂_eq_eq_eq, List.forall₂_map_left_iff, List.forall₂_map_right_iff]
    exact edges.imp fun _ _ ↦ Edge.id_of_check

/-- What a body holds, in the order in which it is put into a graph. -/
def parts (b : Body) : List (Node ⊕ Edge) := b.nodes.map .inl ++ b.edges.map .inr

/-- The id of a node or an edge. -/
def partId : Node ⊕ Edge → String := Sum.elim Node.id Edge.id

theorem map_partId_parts (b : Body) : b.parts.map partId = b.ids := by
  rw [parts, List.map_append, List.map_map, List.map_map]
  rfl

end Body

namespace Graph

variable {g : Graph} {b : Body}

/-! ## Loading part by part -/

/-- Adds a node or an edge of a document. -/
def loadPart (g : Graph) : Node ⊕ Edge → Except DocumentError Graph :=
  Sum.elim g.loadNode g.loadEdge

theorem ofBody_eq_foldlM (b : Body) : ofBody b = b.parts.foldlM loadPart (unloaded b) := by
  simp only [Body.parts, List.foldlM_append, List.foldlM_map]
  rfl

theorem requireUnissued_of_mem {id : String} (h : id ∈ g.issued) :
    g.requireUnissued id = .error (.duplicateId id) := if_pos (isIssued_iff.2 h)

/-- A graph takes nodes and edges in under their ids. -/
theorem takesKeys_loadPart :
    TakesKeys loadPart Body.partId (fun g ↦ g.issued.reverse) DocumentError.duplicateId where
  refuse g part inUse := by
    have issued := List.mem_reverse.1 inUse
    cases part with
    | inl n =>
      have refused : g.requireUnissued n.id = _ := requireUnissued_of_mem issued
      change g.loadNode n = _
      rw [loadNode, refused]
      rfl
    | inr e =>
      have refused : g.requireUnissued e.id = _ := requireUnissued_of_mem issued
      change g.loadEdge e = _
      rw [loadEdge, refused]
      rfl
  accept g part new := by
    have new := mt List.mem_reverse.2 new
    cases part with
    | inl n =>
      refine ⟨_, loadNode_eq_ok_iff.2 ⟨new, rfl⟩, ?_⟩
      rw [issued_insertNode new, List.reverse_cons]
      rfl
    | inr e =>
      refine ⟨_, loadEdge_eq_ok_iff.2 ⟨new, rfl⟩, ?_⟩
      rw [issued_insertEdge new, List.reverse_cons]
      rfl

/-- An id of a body is refused exactly if the ids do not differ. -/
theorem exists_ofBody_eq_error_iff :
    (∃ id, ofBody b = .error (.duplicateId id)) ↔ ¬b.ids.Nodup := by
  rw [ofBody_eq_foldlM, ← b.map_partId_parts]
  exact takesKeys_loadPart.exists_foldlM_eq_error_iff (s := unloaded b) List.nodup_nil

/-- The first repeated id of a body is reported. -/
theorem ofBody_eq_error_iff {id : String} :
    ofBody b = .error (.duplicateId id) ↔ IsFirstRepeat b.ids id := by
  rw [ofBody_eq_foldlM, ← b.map_partId_parts]
  refine takesKeys_loadPart.foldlM_eq_error_iff (s := unloaded b) List.nodup_nil ?_
  exact fun id id' same ↦ DocumentError.duplicateId.inj same

/-! ## Entries in a graph -/

/-- The graph holds what is read of the entries of a document: for each of them, in order, a node or
an edge under the id that the entry names. No other ids are issued. -/
structure HoldsEntries (g : Graph) (v : Json) : Prop where
  nodes : List.Forall₂ (fun entry n ↦ entry.member? "id" = some (.str n.id) ∧
    record .document (Body.checkNode .document) entry = .sound n) (v.entries "nodes") g.nodes.rows
  edges : List.Forall₂ (fun entry e ↦ entry.member? "id" = some (.str e.id) ∧
    record .document Body.checkEdge entry = .sound e) (v.entries "edges") g.edges.rows
  node? : ∀ n ∈ g.nodes.rows, g.node? n.id = some n
  edge? : ∀ e ∈ g.edges.rows, g.edge? e.id = some e
  issued : ∀ id, id ∈ g.issued ↔ id ∈ g.nodes.keys ∨ id ∈ g.edges.keys

theorem holdsEntries_ofBody {v : Json} (sound : Body.check .document v = .sound b)
    (made : ofBody b = .ok g) : g.HoldsEntries v := by
  obtain ⟨nodes, edges⟩ := Body.forall₂_of_check sound
  have loads := (ofBody_eq_ok_iff.1 made).2
  have nodeRows : g.nodes.rows = b.nodes := loads.nodes
  have edgeRows : g.edges.rows = b.edges := loads.edges
  have issued : g.issued = b.ids.reverse := loads.issued.trans (List.append_nil _)
  refine ⟨?_, ?_, fun n hn ↦ Table.get?_eq_some_iff.2 ⟨hn, rfl⟩,
    fun e he ↦ Table.get?_eq_some_iff.2 ⟨he, rfl⟩, fun id ↦ ?_⟩
  · rw [nodeRows]
    exact nodes.imp fun _ _ h ↦ ⟨Node.id_of_check h, h⟩
  · rw [edgeRows]
    exact edges.imp fun _ _ h ↦ ⟨Edge.id_of_check h, h⟩
  · rw [issued, List.mem_reverse, Body.ids, List.mem_append, Table.keys, Table.keys, nodeRows,
      edgeRows]

/-- A document that passes the check, and so its text, is refused exactly if one of the ids that its
entries name, nodes first, is there twice; the id that is reported is the first one that repeats an
earlier one. Otherwise there is a graph that holds all entries. -/
theorem ofBody_refuses_repeats {v : Json} {b : Body} (sound : Body.check .document v = .sound b) :
    (ofBodyJson v = ofBody b ∧
      ∀ text, readDocument? text = some v → ofBodyText text = ofBody b) ∧
    (v.entries "nodes" ++ v.entries "edges").map (·.member? "id") =
      b.ids.map (fun id ↦ some (.str id)) ∧
    ((∃ id, ofBody b = .error (.duplicateId id)) ↔ ∃ id, 2 ≤ b.ids.count id) ∧
    (∀ id, ofBody b = .error (.duplicateId id) ↔ IsFirstRepeat b.ids id) ∧
    ((∀ id, b.ids.count id ≤ 1) → ∃ g, ofBody b = .ok g ∧ g.HoldsEntries v) := by
  have document : ofBodyJson v = ofBody b := by rw [ofBodyJson, sound]
  refine ⟨⟨document, fun text read ↦ ?_⟩, Body.ids_of_check sound, ?_, fun _ ↦ ofBody_eq_error_iff,
    fun once ↦ ?_⟩
  · rw [ofBodyText, read]
    exact document
  · rw [exists_two_le_count_iff, exists_ofBody_eq_error_iff]
  · obtain ⟨g, made⟩ := exists_ofBody (List.nodup_iff_count_le_one.2 once)
    exact ⟨g, made, holdsEntries_ofBody sound made⟩

/-- An edge that has the id of a node is refused, before a node's id that a later edge has. -/
theorem edge_named_as_a_node_is_refused :
    let node (id : String) : Json := .obj [("id", .str id), ("type", .str "x-kind")]
    let edge (id : String) : Json :=
      .obj [("id", .str id), ("source", .str "m"), ("target", .str "n")]
    let v : Json := .obj [("edges", .arr [edge "e", edge "n", edge "m"]),
      ("nodes", .arr [node "m", node "n"])]
    ∃ b, Body.check .document v = .sound b ∧ ofBodyJson v = .error (.duplicateId "n") := by
  intro node edge v
  refine ⟨_, rfl, ?_⟩
  obtain ⟨⟨document, -⟩, -, -, refused, -⟩ := ofBody_refuses_repeats (v := v) rfl
  rw [document, refused "n"]
  exact ⟨["m", "n", "e"], ["m"], rfl, by decide, by decide⟩

end Graph

end CallFlow
