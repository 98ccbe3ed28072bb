import CallFlow.Proofs.Edit.Effect
import CallFlow.Proofs.Kind.Registry
import CallFlow.Proofs.Validation

/-!
# Edits keep a graph in order

A new canvas is in order (`Graph.IsOrderly`): it has one entry and not too many nodes, all of known
kinds, and every edge leads from one node to another, not more of them than the kind of their source
admits. Every edit keeps this order, and a refused edit changes nothing. So whatever is edited,
validation finds no fault of the kinds that order excludes; and it finds none of the data either
until somebody edits them (`Canvas.edited_isOrderly`).
-/

namespace CallFlow

/-! ## Graphs in order -/

/-- A graph is put together as the registry and the settings demand. -/
structure Graph.IsOrderly (r : Registry) (s : Settings) (g : Graph) : Prop where
  soleEntry : (g.entries r).length = 1
  room : (g.nodes.size : Int) ≤ s.maxNodes
  known : ∀ n ∈ g.nodes.rows, r.isKnown n.type = true
  noLoops : ∀ e ∈ g.edges.rows, e.source ≠ e.target
  endpoints : ∀ e ∈ g.edges.rows, g.hasNode e.source = true ∧ g.hasNode e.target = true
  withinLimit : ∀ n ∈ g.nodes.rows, ∀ limit, r.maxOutgoing n.type = some limit →
    (g.outgoing n.id).length ≤ limit

namespace Graph

variable {r : Registry} {s : Settings} {g g' : Graph}

/-! ### Changed nodes -/

/-- The ids and types of the nodes, which is all that order depends on. -/
def outline (g : Graph) : List (String × String) := g.nodes.rows.map fun n ↦ (n.id, n.type)

theorem length_entries (r : Registry) (g : Graph) :
    (g.entries r).length = (g.outline.filter (r.isEntry ·.2)).length := by
  rw [outline, List.filter_map, List.length_map]
  rfl

theorem hasNode_iff_mem_outline {id : String} :
    g.hasNode id = true ↔ id ∈ g.outline.map Prod.fst := by
  simp [hasNode_iff, outline]

theorem IsOrderly.of_outline (h : g.IsOrderly r s) (outline : g'.outline = g.outline)
    (edges : g'.edges = g.edges) : g'.IsOrderly r s := by
  have each (p : String → String → Prop) (all : ∀ n ∈ g.nodes.rows, p n.id n.type) :
      ∀ n ∈ g'.nodes.rows, p n.id n.type := by
    have all : ∀ x ∈ g.outline, p x.1 x.2 := List.forall_mem_map.2 all
    rw [← outline] at all
    exact List.forall_mem_map.1 all
  have hasNode (id : String) : g'.hasNode id = g.hasNode id := by
    rw [Bool.eq_iff_iff, hasNode_iff_mem_outline, hasNode_iff_mem_outline, outline]
  have outgoing (id : String) : g'.outgoing id = g.outgoing id := by
    rw [Graph.outgoing, edges, Graph.outgoing]
  have size : g'.nodes.size = g.nodes.size := by
    simpa [Graph.outline, Table.size] using congrArg List.length outline
  refine ⟨?_, ?_, each (fun _ type ↦ r.isKnown type = true) h.known, ?_, ?_, ?_⟩
  · rw [length_entries, outline, ← length_entries, h.soleEntry]
  · rw [size]
    exact h.room
  · rw [edges]
    exact h.noLoops
  · simp only [edges, hasNode]
    exact h.endpoints
  · simp only [outgoing]
    exact each (fun id type ↦ ∀ limit, r.maxOutgoing type = some limit →
      (g.outgoing id).length ≤ limit) h.withinLimit

/-- A node with the id and the type of another one takes its place. -/
theorem outline_replaceNode {old n : Node} (inside : old ∈ g.nodes.rows) (id : n.id = old.id)
    (type : n.type = old.type) : (g.insertNode n).outline = g.outline := by
  have used : n.id ∈ g.nodes.keys := List.mem_map.2 ⟨old, inside, id.symm⟩
  have rows : (g.insertNode n).nodes.rows = g.nodes.rows.map fun b ↦ if b.id = n.id then n else b :=
    Table.rows_put_of_mem used
  rw [outline, rows, List.map_map, outline]
  refine List.map_congr_left fun b hb ↦ ?_
  rw [Function.comp_apply]
  split
  · rename_i same
    obtain rfl : b = old := Table.eq_of_key_eq hb inside (same.trans id)
    rw [id, type]
  · rfl

/-! ### Fewer nodes and edges -/

namespace IsOrderly

theorem of_edges (h : g.IsOrderly r s) (nodes : g'.nodes = g.nodes)
    (edges : g'.edges.rows.Sublist g.edges.rows) : g'.IsOrderly r s where
  soleEntry := by
    rw [entries, nodes]
    exact h.soleEntry
  room := nodes ▸ h.room
  known := nodes ▸ h.known
  noLoops e he := h.noLoops e (edges.subset he)
  endpoints e he := by
    rw [hasNode, hasNode, nodes]
    exact h.endpoints e (edges.subset he)
  withinLimit n hn limit hl := by
    rw [nodes] at hn
    exact Nat.le_trans (edges.filter _).length_le (h.withinLimit n hn limit hl)

/-- The sole entry is not removed, so the entries stay. -/
theorem entries_withoutNode (h : g.IsOrderly r s) {n : Node} (inside : n ∈ g.nodes.rows)
    (spare : r.isEntry n.type = true → (g.entries r).length ≠ 1) :
    (g.withoutNode n.id).entries r = g.entries r := by
  rw [entries, withoutNode, Table.rows_erase, List.filter_filter, entries]
  refine List.filter_congr fun m hm ↦ ?_
  by_cases entry : r.isEntry m.type = true
  · have other : m.id ≠ n.id := by
      intro same
      obtain rfl : m = n := Table.eq_of_key_eq hm inside same
      exact spare entry h.soleEntry
    simp [entry, other]
  · simp [entry]

theorem withoutNode (h : g.IsOrderly r s) {n : Node} (inside : n ∈ g.nodes.rows)
    (spare : r.isEntry n.type = true → (g.entries r).length ≠ 1) :
    (g.withoutNode n.id).IsOrderly r s := by
  have nodes : (g.withoutNode n.id).nodes.rows.Sublist g.nodes.rows := List.filter_sublist
  have edges : (g.withoutNode n.id).edges.rows.Sublist g.edges.rows := List.filter_sublist
  have stays : ∀ id, id ≠ n.id → g.hasNode id = true → (g.withoutNode n.id).hasNode id = true := by
    intro id other has
    obtain ⟨m, hm, rfl⟩ := hasNode_iff.1 has
    exact hasNode_iff.2 ⟨m, List.mem_filter.2 ⟨hm, by simpa using other⟩, rfl⟩
  refine ⟨?_, ?_, fun m hm ↦ h.known m (nodes.subset hm),
    fun e he ↦ h.noLoops e (edges.subset he), fun e he ↦ ?_, fun m hm limit hl ↦ ?_⟩
  · rw [h.entries_withoutNode inside spare, h.soleEntry]
  · exact Int.le_trans (Int.ofNat_le.2 nodes.length_le) h.room
  · obtain ⟨he, apart⟩ := List.mem_filter.1 he
    obtain ⟨source, target⟩ := h.endpoints e he
    rw [Bool.and_eq_true, bne_iff_ne, bne_iff_ne] at apart
    exact ⟨stays _ apart.1 source, stays _ apart.2 target⟩
  · exact Nat.le_trans (edges.filter _).length_le (h.withinLimit m (nodes.subset hm) limit hl)

end IsOrderly

end Graph

/-! ### More nodes and edges -/

namespace Canvas

variable {r : Registry} {s : Settings} {c c' : Canvas}

/-- A node may come to the others if there is room for it and it is no second entry. No edge leads
to an id that was never issued. -/
theorem Adds.isOrderly_node {n : Node} (added : c.Adds [n] [] c') (kept : c.graph.IsKept)
    (new : n.id ∉ c.graph.issued) (h : c.graph.IsOrderly r s) (known : r.isKnown n.type = true)
    (plain : r.isEntry n.type = false) (room : (c.graph.nodes.size : Int) < s.maxNodes) :
    c'.graph.IsOrderly r s := by
  have edges : c'.graph.edges.rows = c.graph.edges.rows := by rw [added.edges, List.append_nil]
  have stays : ∀ id, c.graph.hasNode id = true → c'.graph.hasNode id = true := by
    intro id has
    obtain ⟨m, hm, rfl⟩ := Graph.hasNode_iff.1 has
    exact Graph.hasNode_iff.2 ⟨m, by rw [added.nodes]; exact List.mem_append_left _ hm, rfl⟩
  have outgoing (id : String) : c'.graph.outgoing id = c.graph.outgoing id := by
    rw [Graph.outgoing, edges, Graph.outgoing]
  have unused : c.graph.outgoing n.id = [] := by
    refine List.filter_eq_nil_iff.2 fun e he same ↦ new ?_
    obtain ⟨m, hm, id⟩ := Graph.hasNode_iff.1 (h.endpoints e he).1
    have source : e.source = n.id := by simpa using same
    exact source ▸ id ▸ kept.nodes m hm
  refine ⟨?_, ?_, ?_, ?_, ?_, ?_⟩
  · rw [Graph.entries, added.nodes, List.filter_append, List.length_append]
    simpa [plain, Graph.entries] using h.soleEntry
  · rw [Table.size, added.nodes, List.length_append]
    exact Int.add_one_le_of_lt room
  · rw [added.nodes, List.forall_mem_append]
    exact ⟨h.known, List.forall_mem_singleton.2 known⟩
  · rw [edges]
    exact h.noLoops
  · rw [edges]
    exact fun e he ↦ (h.endpoints e he).imp (stays _) (stays _)
  · simp only [outgoing, added.nodes, List.forall_mem_append, List.forall_mem_singleton, unused]
    exact ⟨h.withinLimit, fun _ _ ↦ Nat.zero_le _⟩

/-- An edge may come to the others if it leads from one node to another, and the first one has room
for it. -/
theorem Adds.isOrderly_edge {n : Node} {e : Edge} (added : c.Adds [] [e] c')
    (h : c.graph.IsOrderly r s) (inside : n ∈ c.graph.nodes.rows) (source : e.source = n.id)
    (ends : c.graph.hasNode e.target = true) (other : e.source ≠ e.target)
    (free : ∀ limit, r.maxOutgoing n.type = some limit →
      (c.graph.outgoing n.id).length < limit) : c'.graph.IsOrderly r s := by
  have nodes : c'.graph.nodes = c.graph.nodes := Table.ext (by rw [added.nodes, List.append_nil])
  refine ⟨?_, nodes ▸ h.room, nodes ▸ h.known, ?_, ?_, fun m hm limit hl ↦ ?_⟩
  · rw [Graph.entries, nodes]
    exact h.soleEntry
  · rw [added.edges, List.forall_mem_append]
    exact ⟨h.noLoops, List.forall_mem_singleton.2 other⟩
  · have begins : c.graph.hasNode e.source = true :=
      source ▸ Graph.hasNode_of_node? (Graph.node?_of_mem inside)
    simp only [added.edges, List.forall_mem_append, List.forall_mem_singleton, Graph.hasNode, nodes]
    exact ⟨h.endpoints, begins, ends⟩
  · rw [nodes] at hm
    rw [Graph.outgoing, added.edges, List.filter_append, List.length_append]
    by_cases same : m.id = n.id
    · obtain rfl : m = n := Table.eq_of_key_eq hm inside same
      exact Nat.le_trans (Nat.add_le_add_left (List.length_filter_le _ _) _) (free limit hl)
    · have away : (e.source == m.id) = false := by
        rw [source]
        simpa using fun e ↦ same e.symm
      simpa [away, Graph.outgoing] using h.withinLimit m hm limit hl

/-- Where a node may have one edge at most, none is left when it is to get one. -/
theorem length_outgoing_cleared {n : Node} (one : r.maxOutgoing n.type = some 1) :
    ((c.cleared r n).graph.outgoing n.id).length = 0 := by
  rw [cleared, if_pos (by rw [one]; rfl)]
  simp [Graph.outgoing, Graph.dropOutgoing]

end Canvas

/-! ## Edits -/

section Edits

variable {r : Registry} {s : Settings} {c c' : Canvas} {e : Edit} {o : Outcome}

/-- A known tag is that of a kind. -/
theorem Registry.roles_of_get? {tag : String} {k : Kind} (h : r.get? tag = some k) :
    r.isKnown k.tag = true ∧ r.isEntry k.tag = k.isEntry := by
  obtain rfl := (mem_of_get? h).2
  exact ⟨by simp [isKnown, h], by simp [isEntry, h]⟩

theorem Edit.Makes.isOrderly (drawn : r.DrawnFrom Catalog.kinds) (kept : c.graph.IsKept)
    (h : c.graph.IsOrderly r s) (made : e.Makes r s c o c') : c'.graph.IsOrderly r s := by
  cases made with
  | @addNode tag position data k found first room =>
    obtain ⟨known, entry⟩ := Registry.roles_of_get? found
    have plain : k.isEntry = false := by
      by_contra isEntry
      have none := first (by simpa using isEntry)
      simpa [none] using h.soleEntry
    have added := c.offers_newId.insertNode kept (n := k.node c.newId.1 position data)
    exact added.isOrderly_node kept c.offers_newId.new h known (entry.trans plain) room
  | updateNode n inside | moveNode n inside =>
    exact h.of_outline (Graph.outline_replaceNode inside rfl rfl) (c.graph.edges_insertNode _)
  | removeNode n inside spare => exact h.withoutNode inside spare
  | connect n e inside ends other limit made =>
    have cleared : (c.cleared r n).graph.IsOrderly r s :=
      h.of_edges (c.nodes_cleared r n) (c.edges_cleared_sublist r n)
    have nodes := c.nodes_cleared r n
    have offers : (c.cleared r n).Offers e.id (c.cleared r n).newId.2 :=
      made ▸ (c.cleared r n).offers_newId
    have added := offers.insertEdge (Canvas.continues_cleared kept n).kept
      (made ▸ (c.cleared r n).exists_supply_newId)
    refine added.isOrderly_edge (n := n) cleared (nodes ▸ inside) (by rw [made]) ?_ ?_ ?_
    · rw [made, Graph.hasNode, nodes]
      exact ends
    · rw [made]
      exact other
    · intro most hm
      obtain ⟨k, hk, hl⟩ := Option.bind_eq_some_iff.1 hm
      have : most ≤ 1 := drawn.limit_le_one hk hl
      have : most ≠ 0 := fun none ↦ limit (none ▸ hm)
      obtain rfl : most = 1 := by omega
      exact Nat.lt_one_iff.2 (Canvas.length_outgoing_cleared hm)
  | disconnect e inside => exact h.of_edges rfl List.filter_sublist
  | setViewport viewport => exact h.of_edges rfl (List.Sublist.refl _)

/-! ### Data -/

/-- The data of a node are complete and of the declared types. -/
structure Node.IsComplete (r : Registry) (n : Node) : Prop where
  filledIn : ∀ f ∈ r.requiredFields n.type, isUnset (Members.get? n.data f) = false
  typed : ∀ f ∈ r.declaredFields n.type, f.2.admits ((Members.get? n.data f.1).getD .null) = true

theorem Catalog.initialData_filledIn :
    ∀ k ∈ kinds, ∀ f ∈ k.requiredFields, isUnset (Members.get? k.initialData f) = false := by
  decide

theorem Catalog.initialData_typed :
    ∀ k ∈ kinds, ∀ f ∈ k.declared,
      f.2.admits ((Members.get? k.initialData f.1).getD .null) = true := by
  decide

/-- A fresh node of any kind of the catalog is complete. -/
theorem Kind.isComplete_node (drawn : r.DrawnFrom Catalog.kinds) {tag : String} {k : Kind}
    (h : r.get? tag = some k) (n : Node) (type : n.type = k.tag) (data : n.data = k.initialData) :
    n.IsComplete r := by
  obtain ⟨inside, rfl⟩ := drawn.get?_mem h
  constructor
  · rw [type, data, Registry.requiredFields, h]
    exact Catalog.initialData_filledIn k inside
  · rw [type, data, Registry.declaredFields, h]
    exact Catalog.initialData_typed k inside

/-- An edit puts nothing into the data of a node. -/
def Edit.keepsData : Edit → Bool
  | updateNode .. => false
  | addNode _ _ data => data.isEmpty
  | _ => true

theorem Edit.Makes.isComplete (drawn : r.DrawnFrom Catalog.kinds) (keeps : e.keepsData = true)
    (h : ∀ n ∈ c.graph.nodes.rows, n.IsComplete r) (made : e.Makes r s c o c') :
    ∀ n ∈ c'.graph.nodes.rows, n.IsComplete r := by
  cases made with
  | @addNode tag position data k found first room =>
    obtain rfl : data = [] := List.isEmpty_iff.1 keeps
    intro m hm
    rcases Table.mem_rows_put_iff.1 hm with rfl | ⟨hm, -⟩
    · exact Kind.isComplete_node drawn found _ rfl rfl
    · rw [c.offers_newId.nodes] at hm
      exact h m hm
  | updateNode n inside => cases keeps
  | moveNode n inside =>
    intro m hm
    rcases Table.mem_rows_put_iff.1 hm with rfl | ⟨hm, -⟩
    · exact ⟨(h n inside).filledIn, (h n inside).typed⟩
    · exact h m hm
  | removeNode n inside spare => exact fun m hm ↦ h m (List.mem_filter.1 hm).1
  | connect n e inside ends other limit made =>
    intro m hm
    have nodes : ((c.cleared r n).newId.2.insertEdge e).graph.nodes = c.graph.nodes :=
      (Graph.nodes_insertEdge _ e).trans
        ((c.cleared r n).offers_newId.nodes.trans (c.nodes_cleared r n))
    rw [nodes] at hm
    exact h m hm
  | disconnect e inside => exact h
  | setViewport viewport => exact h

end Edits

/-! ## What validation does not find -/

namespace Graph

variable {r : Registry} {s : Settings} {g : Graph}

/-- What may be wrong with a graph in order: its data, labels that are not set, and nodes to which
nothing leads. -/
theorem IsOrderly.validate (h : g.IsOrderly r s) : g.validate r =
    g.requiredFindings r ++ g.typeFindings r ++ g.reachabilityFindings r ++ g.labelFindings r := by
  have entry : g.entryFindings r = [] := by
    obtain ⟨first, sole⟩ := List.length_eq_one_iff.1 h.soleEntry
    rw [entryFindings, sole]
    rfl
  have count : g.countFindings r = [] := by
    refine List.filterMap_eq_nil_iff.2 fun n hn ↦ ?_
    split
    · rfl
    · rename_i limit hl
      exact if_neg (Nat.not_lt.2 (h.withinLimit n hn limit hl))
  have ends : g.endpointFindings = [] := by
    refine List.flatMap_eq_nil_iff.2 fun e he ↦ ?_
    obtain ⟨source, target⟩ := h.endpoints e he
    simp [source, target]
  have kind : g.kindFindings r = [] := by
    refine List.map_eq_nil_iff.2 (List.filter_eq_nil_iff.2 fun n hn ↦ ?_)
    simp [h.known n hn]
  rw [Graph.validate, entry, count, ends, kind, List.nil_append, List.append_nil, List.append_nil,
    List.append_nil]

theorem IsOrderly.code_of_mem_validate (h : g.IsOrderly r s) {f : Finding} (hf : f ∈ g.validate r) :
    f.code ∈
      ["MissingRequiredField", "InvalidFieldType", "UnreachableNode", "UnlabeledBranch"] := by
  rw [h.validate, List.mem_append, List.mem_append, List.mem_append] at hf
  rcases hf with ((hf | hf) | hf) | hf
  · simp [code_of_mem_requiredFindings hf]
  · simp [code_of_mem_typeFindings hf]
  · simp [code_of_mem_reachabilityFindings hf]
  · simp [code_of_mem_labelFindings hf]

theorem IsOrderly.code_of_mem_validate_of_isComplete (h : g.IsOrderly r s)
    (complete : ∀ n ∈ g.nodes.rows, n.IsComplete r) {f : Finding} (hf : f ∈ g.validate r) :
    f.code ∈ ["UnreachableNode", "UnlabeledBranch"] := by
  have required : g.requiredFindings r = [] := by
    refine List.flatMap_eq_nil_iff.2 fun n hn ↦
      List.map_eq_nil_iff.2 (List.filter_eq_nil_iff.2 fun field hfield ↦ ?_)
    simp [(complete n hn).filledIn field hfield]
  have typed : g.typeFindings r = [] := by
    refine List.flatMap_eq_nil_iff.2 fun n hn ↦ List.filterMap_eq_nil_iff.2 fun field hfield ↦ ?_
    exact if_pos ((complete n hn).typed field hfield)
  rw [h.validate, required, typed, List.nil_append, List.nil_append, List.mem_append] at hf
  rcases hf with hf | hf
  · simp [code_of_mem_reachabilityFindings hf]
  · simp [code_of_mem_labelFindings hf]

end Graph

/-! ## Runs of edits -/

namespace Canvas

variable {r : Registry} {s : Settings} {c : Canvas}

/-- The canvas after somebody asked for edits, one after another. -/
def edited (r : Registry) (s : Settings) (c : Canvas) (edits : List Edit) : Canvas :=
  edits.foldl (after r s) c

/-- A property that every change keeps is kept by every run of edits. -/
theorem edited_induction {P : Canvas → Prop} {edits : List Edit} (start : P c)
    (step : ∀ e ∈ edits, ∀ c o c', P c → e.Makes r s c o c' → P c') : P (c.edited r s edits) := by
  induction edits generalizing c with
  | nil => exact start
  | cons e rest ih =>
    refine ih ?_ fun d hd ↦ step d (List.mem_cons_of_mem e hd)
    rcases c.after_eq_or_makes r s e with same | ⟨o, made⟩
    · rw [same]
      exact start
    · exact step e List.mem_cons_self c o _ start made

theorem isOrderly_lone {k : Kind} (h : r.get? Kind.initTag = some k) (entry : k.isEntry = true)
    (room : 1 ≤ s.maxNodes) (id : String) : (lone s k id).IsOrderly r s := by
  obtain ⟨known, isEntry⟩ := Registry.roles_of_get? h
  refine ⟨?_, room, List.forall_mem_singleton.2 known, fun _ h ↦ (nomatch h),
    fun _ h ↦ (nomatch h), fun _ _ _ _ ↦ Nat.zero_le _⟩
  have sole : (lone s k id).entries r = [Canvas.entry s k id] :=
    List.filter_eq_self.2 (List.forall_mem_singleton.2 (isEntry.trans entry))
  rw [sole, List.length_singleton]

end Canvas

/-- Whatever is edited on a new canvas, made or refused, the graph stays in order, and validation
finds no fault of the kinds that order excludes. While nobody edits data, it finds none of the data
either. -/
theorem Canvas.edited_isOrderly {r : Registry} {s : Settings} (drawn : r.DrawnFrom Catalog.kinds)
    (start : r.isKnown Kind.initTag = true) (room : 1 ≤ s.maxNodes) (ids : IdStream) :
    ∃ c, fresh r s ids = .ok c ∧ ∀ edits : List Edit,
      (c.edited r s edits).graph.IsOrderly r s ∧
      (∀ f ∈ (c.edited r s edits).graph.validate r,
        f.code ∉ ["MissingEntryNode", "MultipleEntryNodes", "TooManyOutgoingEdges", "NodeNotFound",
          "UnknownNodeKind"]) ∧
      ((∀ e ∈ edits, e.keepsData = true) → ∀ f ∈ (c.edited r s edits).graph.validate r,
        f.code ∉ ["MissingRequiredField", "InvalidFieldType"]) := by
  obtain ⟨k, hk⟩ := Option.isSome_iff_exists.1 start
  obtain ⟨inside, tag⟩ := drawn.get?_mem hk
  let c : Canvas := ⟨lone s k ids.draw.1, ids.draw.2⟩
  refine ⟨c, fresh_eq_ok_iff.2 ⟨k, hk, room, rfl⟩, ?_⟩
  intro edits
  -- only where a graph is kept does what is created not take the place of something else
  obtain ⟨-, orderly⟩ : (c.edited r s edits).graph.IsKept ∧
      (c.edited r s edits).graph.IsOrderly r s := by
    apply edited_induction (P := fun c ↦ c.graph.IsKept ∧ c.graph.IsOrderly r s)
    · exact ⟨isKept_lone s k _, isOrderly_lone hk (Catalog.isEntry_of_tag k inside tag) room _⟩
    · rintro e - c o c' ⟨kept, orderly⟩ made
      exact ⟨(made.continues kept).kept, made.isOrderly drawn kept orderly⟩
  refine ⟨orderly, ?_, ?_⟩
  · intro f hf
    have other : ∀ word ∈ ["MissingRequiredField", "InvalidFieldType", "UnreachableNode",
        "UnlabeledBranch"], word ∉ ["MissingEntryNode", "MultipleEntryNodes",
          "TooManyOutgoingEdges", "NodeNotFound", "UnknownNodeKind"] := by decide
    exact other _ (orderly.code_of_mem_validate hf)
  · intro keeps f hf
    have complete : ∀ n ∈ (c.edited r s edits).graph.nodes.rows, n.IsComplete r := by
      apply edited_induction (P := fun c ↦ ∀ n ∈ c.graph.nodes.rows, n.IsComplete r)
      · exact List.forall_mem_singleton.2 (Kind.isComplete_node drawn hk _ rfl rfl)
      · intro e he c o c' complete made
        exact made.isComplete drawn (keeps e he) complete
    have other : ∀ word ∈ ["UnreachableNode", "UnlabeledBranch"],
        word ∉ ["MissingRequiredField", "InvalidFieldType"] := by decide
    exact other _ (orderly.code_of_mem_validate_of_isComplete complete hf)

/-- It is so for the whole catalog: a node comes to the entry, and the entry is not removed. -/
theorem Canvas.catalog_canvas_stays_orderly :
    Catalog.registry.DrawnFrom Catalog.kinds ∧
    Catalog.registry.isKnown Kind.initTag = true ∧ 1 ≤ ({} : Settings).maxNodes ∧
    ∃ c, fresh Catalog.registry {} ⟨.listed [], 0⟩ = .ok c ∧
      (c.edited Catalog.registry {} [.addNode "speak" {} [],
        .connect "id-1" "id-2" .null .null .null,
        .removeNode "id-1"]).graph.IsOrderly Catalog.registry {} := by
  obtain ⟨c, made, orderly⟩ :=
    edited_isOrderly Catalog.drawnFrom_registry rfl (by decide) (s := {}) ⟨.listed [], 0⟩
  exact ⟨Catalog.drawnFrom_registry, rfl, by decide, c, made, (orderly _).1⟩

end CallFlow
