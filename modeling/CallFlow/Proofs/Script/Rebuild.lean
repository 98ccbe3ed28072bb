import CallFlow.Proofs.Canvas
import CallFlow.Script.Rebuild

/-!
# What is rebuilt from a script

A rebuilt graph has the nodes of the items in order, each under its own id or under one that was
drawn, and the edges of the items in order; if the flow starts at no entry, there is a start node
more, and an edge from it (`IsRebuilt`). Only ids are drawn: everything else is given by the script.
-/

namespace CallFlow

/-! ## Nodes and edges of items -/

namespace StoredItem

variable (r : Registry) (s : Settings)

/-- The tag of the node of an item. -/
def kindTag (i : StoredItem) : String := (i.tag r s 0).1

theorem tag_eq_kindTag (index : Nat) (i : StoredItem) : (i.tag r s index).1 = i.kindTag r s := by
  rw [kindTag, tag, tag]
  split
  · split <;> rfl
  · rfl

/-- The node of an item under an id. -/
def node (index : Nat) (i : StoredItem) (id : String) : Node where
  id := id
  type := i.kindTag r s
  position := s.place (index + 1)
  data := i.data r (i.kindTag r s)

end StoredItem

/-- The edge, but for its id. -/
def Edge.unnamed (e : Edge) : Edge := { e with id := "" }

/-- The edge of a branch out of a node, but for its id. -/
def StoredBranch.edge? (source : String) (b : StoredBranch) : Option Edge :=
  if b.target.getD "" = "" then none
  else some {
    id := "", source, target := b.target.getD "", label := b.label, sourceHandle := b.handle }

/-- The edges of an item out of its node, but for their ids: one to the next item, under the newer
name or else the older one, and one for every branch. -/
def StoredItem.edges (s : Settings) (i : StoredItem) (source : String) : List Edge :=
  (match i.next <|> i.connectedTo with
    | some target =>
      if target == "" || target == s.finishWord then [] else [{ id := "", source, target }]
    | none => []) ++ i.branches.filterMap (·.edge? source)

/-- How the node of an item gets its id: it is the one of the item, or one of the source if that is
empty or taken. -/
inductive IsItemId (source : IdSource) (taken : List String) (i : StoredItem) : String → Prop
  | own {id : String} (own : i.id.getD "" = id) (some : id ≠ "") (free : id ∉ taken) :
    IsItemId source taken i id
  | drawn (k : Nat) (without : i.id.getD "" = "" ∨ i.id.getD "" ∈ taken)
    (free : source.supply k ∉ taken) : IsItemId source taken i (source.supply k)

/-- The nodes of the items from a position on, in order. -/
inductive AreItemNodes (r : Registry) (s : Settings) (source : IdSource) :
    List String → Nat → List StoredItem → List Node → Prop
  | nil (taken : List String) (index : Nat) : AreItemNodes r s source taken index [] []
  | cons {taken : List String} {index : Nat} {i : StoredItem} {items : List StoredItem}
    {id : String} {nodes : List Node} (named : IsItemId source taken i id)
    (others : AreItemNodes r s source (id :: taken) (index + 1) items nodes) :
    AreItemNodes r s source taken index (i :: items) (i.node r s index id :: nodes)

/-! ## Adding nodes -/

namespace Canvas

variable {r : Registry} {s : Settings} {c c' : Canvas}

/-- The canvas is as before, but for warnings. -/
structure Warned (c d : Canvas) : Prop where
  nodes : d.graph.nodes = c.graph.nodes
  edges : d.graph.edges = c.graph.edges
  viewport : d.graph.viewport = c.graph.viewport
  issued : d.graph.issued = c.graph.issued
  ids : d.ids = c.ids

namespace Warned

variable {d : Canvas}

theorem refl (c : Canvas) : c.Warned c := ⟨rfl, rfl, rfl, rfl, rfl⟩

theorem warn (h : c.Warned d) (message : String) : c.Warned (d.warn message) :=
  ⟨h.nodes, h.edges, h.viewport, h.issued, h.ids⟩

theorem kept (h : c.Warned d) (kept : c.graph.IsKept) : d.graph.IsKept :=
  kept.of_eq h.nodes h.edges h.issued

theorem adds (h : c.Warned d) {nodes : List Node} {edges : List Edge} (h' : d.Adds nodes edges c') :
    c.Adds nodes edges c' :=
  ⟨h.ids ▸ h'.drawn, h.nodes ▸ h'.nodes, h.edges ▸ h'.edges, h'.viewport.trans h.viewport,
    h.issued ▸ h'.issued, h.ids ▸ h'.source, h'.kept⟩

end Warned

theorem Offers.warn {id : String} (h : c.Offers id c') (message : String) :
    c.Offers id (c'.warn message) := by
  refine ⟨h.new, h.nodes, h.edges, h.viewport, ?_, h.source⟩
  rw [← h.issued]
  by_cases issued : id ∈ c'.graph.issued
  · rw [Graph.issue_of_mem issued, Graph.issue_of_mem (g := (c'.warn message).graph) issued]
    rfl
  · rw [Graph.issue_of_notMem issued, Graph.issue_of_notMem (g := (c'.warn message).graph) issued]
    rfl

/-- The id of an item is on offer. -/
theorem offers_itemId (c : Canvas) (index : Nat) (i : StoredItem) :
    c.Offers (c.itemId index i).1 (c.itemId index i).2 ∧
      IsItemId c.ids.source c.graph.issued i (c.itemId index i).1 := by
  obtain ⟨k, hk⟩ := c.exists_supply_newId
  have new := c.offers_newId
  have free : c.ids.source.supply k ∉ c.graph.issued := hk ▸ new.new
  rw [itemId]
  split
  · rename_i none
    exact ⟨new.warn _, hk ▸ .drawn k (.inl none) free⟩
  · rename_i own some
    split
    · rename_i taken
      exact ⟨new.warn _, hk ▸ .drawn k (.inr (Graph.isIssued_iff.1 taken)) free⟩
    · rename_i unissued
      have unissued := mt Graph.isIssued_iff.2 unissued
      exact ⟨offers_self unissued, .own rfl some unissued⟩

theorem addItem_spec (kept : c.graph.IsKept) (index : Nat) (i : StoredItem) :
    ∃ id, IsItemId c.ids.source c.graph.issued i id ∧
      (c.addItem r s index i).1 = i.node r s index id ∧
      c.Adds [i.node r s index id] [] (c.addItem r s index i).2 ∧
      (c.addItem r s index i).2.graph.issued = id :: c.graph.issued := by
  obtain ⟨offered, named⟩ := c.offers_itemId index i
  have warned : c.Offers (c.itemId index i).1
      ((i.tag r s index).2.elim (c.itemId index i).2 (c.itemId index i).2.warn) := by
    cases (i.tag r s index).2 with
    | none => exact offered
    | some message => exact offered.warn message
  have node : (c.addItem r s index i).1 = i.node r s index (c.itemId index i).1 := by
    rw [StoredItem.node, ← i.tag_eq_kindTag r s index]
    rfl
  refine ⟨_, named, node, ?_, warned.issued⟩
  rw [← node]
  exact Offers.insertNode kept warned

theorem addItems_spec (kept : c.graph.IsKept) (index : Nat) (items : List StoredItem) :
    AreItemNodes r s c.ids.source c.graph.issued index items (addItems r s index items c).1 ∧
      c.Adds (addItems r s index items c).1 [] (addItems r s index items c).2 := by
  induction items generalizing index c with
  | nil => exact ⟨.nil _ _, .refl kept⟩
  | cons i rest ih =>
    obtain ⟨id, named, node, added, issued⟩ := addItem_spec (r := r) (s := s) kept index i
    obtain ⟨nodes, others⟩ := ih added.kept (index + 1)
    rw [issued, added.source] at nodes
    change AreItemNodes r s c.ids.source c.graph.issued index (i :: rest)
      ((c.addItem r s index i).1 :: _) ∧ c.Adds ((c.addItem r s index i).1 :: _) [] _
    rw [node]
    exact ⟨.cons named nodes, added.trans others⟩

end Canvas

/-! ## Adding a start -/

/-- A start node. -/
def Settings.start (s : Settings) (k : Kind) (id : String) : Node where
  id := id
  type := Kind.initTag
  position := s.place 0
  data := k.initialData

/-- What is added to make a flow start: nothing if its first node is an entry, else a start node and
an edge from it to the first node. -/
inductive IsStart (r : Registry) (s : Settings) (source : IdSource) :
    Option Node → List Node → List Edge → Prop
  | entry {n : Node} (entry : r.isEntry n.type = true) : IsStart r s source (some n) [] []
  | before {n : Node} {k : Kind} (j : Nat) (other : r.isEntry n.type = false)
    (known : r.get? Kind.initTag = some k) :
    IsStart r s source (some n) [s.start k (source.supply j)]
      [{ id := "", source := source.supply j, target := n.id }]
  | alone {k : Kind} (j : Nat) (known : r.get? Kind.initTag = some k) :
    IsStart r s source none [s.start k (source.supply j)] []

namespace Canvas

variable {r : Registry} {s : Settings} {c c' : Canvas}

theorem addStart_spec (kept : c.graph.IsKept) {target : Option String}
    (h : c.addStart r s target = (.ok (), c')) :
    ∃ k j edges, r.get? Kind.initTag = some k ∧
      c.Adds [s.start k (c.ids.source.supply j)] edges c' ∧
      edges.map Edge.unnamed = target.toList.map fun target ↦
        { id := "", source := c.ids.source.supply j, target } := by
  obtain ⟨j, hj⟩ := c.exists_supply_newId
  have new := c.offers_newId
  rw [addStart] at h
  cases hk : r.get? Kind.initTag with
  | none =>
    rw [hk] at h
    cases h
  | some k =>
    simp only [hk] at h
    have started : c.Adds [s.start k (c.ids.source.supply j)] []
        (c.newId.2.insertNode (s.start k c.newId.1)) :=
      hj ▸ Offers.insertNode kept (n := s.start k c.newId.1) new
    cases target with
    | none =>
      cases h
      exact ⟨k, j, [], rfl, started, rfl⟩
    | some target =>
      cases h
      obtain ⟨l, hl⟩ := exists_supply_newId (c.newId.2.insertNode (s.start k c.newId.1))
      have edge := Offers.insertEdge started.kept (offers_newId _)
        (e := { id := _, source := c.newId.1, target }) ⟨l, hl⟩
      refine ⟨k, j, _, rfl, started.trans edge, ?_⟩
      rw [← hj]
      rfl

/-- There is no start node to add only if the registry has no start kind. -/
theorem addStart_fst_eq_ok_iff {target : Option String} :
    (c.addStart r s target).1 = .ok () ↔ r.isKnown Kind.initTag = true := by
  rw [addStart, Registry.isKnown]
  cases r.get? Kind.initTag with
  | none => exact ⟨fun h ↦ (nomatch h), fun h ↦ (nomatch h)⟩
  | some k => cases target <;> exact ⟨fun _ ↦ rfl, fun _ ↦ rfl⟩

/-- The start that is ensured, after some warnings. -/
theorem ensureEntry_eq (r : Registry) (s : Settings) (items : List StoredItem) (nodes : List Node)
    (c : Canvas) : ∃ d, c.Warned d ∧ c.ensureEntry r s items nodes =
      match startNode? r items nodes with
      | none => d.addStart r s none
      | some n => if r.isEntry n.type then (.ok (), d) else d.addStart r s n.id := by
  rw [ensureEntry]
  cases startNode? r items nodes with
  | none => exact ⟨_, .warn (.refl c) _, rfl⟩
  | some n =>
    dsimp only
    cases r.isEntry n.type with
    | true =>
      rcases markedItems items with _ | ⟨first, _ | ⟨second, rest⟩⟩
      · exact ⟨_, .refl c, rfl⟩
      · exact ⟨_, .refl c, rfl⟩
      · exact ⟨_, .warn (.refl c) _, rfl⟩
    | false =>
      rcases markedItems items with _ | ⟨first, _ | ⟨second, rest⟩⟩
      · exact ⟨_, .warn (.refl c) _, rfl⟩
      · exact ⟨_, .warn (.refl c) _, rfl⟩
      · exact ⟨_, .warn (.warn (.refl c) _) _, rfl⟩

theorem ensureEntry_spec (kept : c.graph.IsKept) {items : List StoredItem} {nodes : List Node}
    (h : c.ensureEntry r s items nodes = (.ok (), c')) :
    ∃ starts edges, IsStart r s c.ids.source (startNode? r items nodes) starts
      (edges.map Edge.unnamed) ∧ c.Adds starts edges c' := by
  obtain ⟨d, warned, he⟩ := ensureEntry_eq r s items nodes c
  rw [he] at h
  rw [← warned.ids]
  cases found : startNode? r items nodes with
  | none =>
    rw [found] at h
    obtain ⟨k, j, edges, known, added, unnamed⟩ := addStart_spec (warned.kept kept) h
    exact ⟨_, edges, unnamed ▸ .alone j known, warned.adds added⟩
  | some n =>
    rw [found] at h
    cases entry : r.isEntry n.type with
    | true =>
      simp only [entry, if_true] at h
      cases h
      exact ⟨[], [], .entry entry, warned.adds (.refl (warned.kept kept))⟩
    | false =>
      simp only [entry, Bool.false_eq_true, if_false] at h
      obtain ⟨k, j, edges, known, added, unnamed⟩ := addStart_spec (warned.kept kept) h
      exact ⟨_, edges, unnamed ▸ .before j entry known, warned.adds added⟩

theorem source_addStart (target : Option String) :
    (c.addStart r s target).2.ids.source = c.ids.source := by
  rw [addStart]
  cases r.get? Kind.initTag with
  | none => rfl
  | some k => cases target <;> rfl

theorem source_ensureEntry (r : Registry) (s : Settings) (items : List StoredItem)
    (nodes : List Node) (c : Canvas) :
    (c.ensureEntry r s items nodes).2.ids.source = c.ids.source := by
  obtain ⟨d, warned, he⟩ := ensureEntry_eq r s items nodes c
  rw [he, ← warned.ids]
  cases startNode? r items nodes with
  | none => exact source_addStart none
  | some n =>
    dsimp only
    split
    · rfl
    · exact source_addStart (some n.id)

/-- A flow starts somewhere, or a start can be added to it. -/
theorem ensureEntry_fst_eq_ok_iff {items : List StoredItem} {nodes : List Node} :
    (c.ensureEntry r s items nodes).1 = .ok () ↔
      (startNode? r items nodes).any (r.isEntry ·.type) = true ∨ r.isKnown Kind.initTag = true := by
  obtain ⟨d, -, he⟩ := ensureEntry_eq r s items nodes c
  rw [he]
  cases startNode? r items nodes with
  | none => simp [addStart_fst_eq_ok_iff]
  | some n => cases entry : r.isEntry n.type <;> simp [entry, addStart_fst_eq_ok_iff]

/-! ## Adding edges -/

theorem addWay_spec (kept : c.graph.IsKept) (source target : String)
    (label sourceHandle : Option String) :
    ∃ e, c.Adds [] [e] (c.addWay source target label sourceHandle) ∧
      e.unnamed = { id := "", source, target, label, sourceHandle } := by
  obtain ⟨d, warned, way⟩ : ∃ d, c.Warned d ∧ c.addWay source target label sourceHandle =
      d.newId.2.insertEdge { id := d.newId.1, source, target, label, sourceHandle } := by
    rw [addWay]
    cases c.graph.hasNode target with
    | true => exact ⟨_, .refl c, rfl⟩
    | false => exact ⟨_, .warn (.refl c) _, rfl⟩
  rw [way]
  refine ⟨_, warned.adds (Offers.insertEdge (warned.kept kept) ?_ ?_), rfl⟩
  · exact d.offers_newId
  · exact d.exists_supply_newId

theorem addBranch_spec (kept : c.graph.IsKept) (source : String) (b : StoredBranch) :
    ∃ edges, c.Adds [] edges (c.addBranch source b) ∧
      edges.map Edge.unnamed = (b.edge? source).toList := by
  rw [addBranch]
  split
  · rename_i none
    rw [StoredBranch.edge?, if_pos none]
    exact ⟨[], (Warned.warn (.refl c) _).adds (.refl (kept.of_eq rfl rfl rfl)), rfl⟩
  · rename_i target some
    obtain ⟨e, added, unnamed⟩ := addWay_spec kept source (b.target.getD "") b.label b.handle
    refine ⟨[e], added, ?_⟩
    rw [List.map_singleton, unnamed, StoredBranch.edge?, if_neg some]
    rfl

theorem foldl_addBranch_spec (kept : c.graph.IsKept) (source : String)
    (branches : List StoredBranch) :
    ∃ edges, c.Adds [] edges (branches.foldl (addBranch source) c) ∧
      edges.map Edge.unnamed = branches.filterMap (·.edge? source) := by
  induction branches generalizing c with
  | nil => exact ⟨[], .refl kept, rfl⟩
  | cons b rest ih =>
    obtain ⟨first, added, unnamed⟩ := addBranch_spec kept source b
    obtain ⟨others, added', unnamed'⟩ := ih added.kept
    refine ⟨first ++ others, added.trans added', ?_⟩
    rw [List.map_append, unnamed, unnamed', List.filterMap_cons]
    cases b.edge? source <;> rfl

theorem addWays_spec (kept : c.graph.IsKept) (i : StoredItem) (n : Node) :
    ∃ edges, c.Adds [] edges (c.addWays s i n) ∧ edges.map Edge.unnamed = i.edges s n.id := by
  have next : ∃ d first, c.Adds [] first d ∧
      c.addWays s i n = i.branches.foldl (addBranch n.id) d ∧
      first.map Edge.unnamed ++ i.branches.filterMap (·.edge? n.id) = i.edges s n.id := by
    rw [addWays, StoredItem.edges, StoredItem.nextTarget]
    cases i.next <|> i.connectedTo with
    | none => exact ⟨c, [], .refl kept, rfl, rfl⟩
    | some target =>
      dsimp only
      split
      · exact ⟨c, [], .refl kept, rfl, rfl⟩
      · obtain ⟨e, added, unnamed⟩ := addWay_spec kept n.id target none none
        exact ⟨_, [e], added, rfl, by rw [List.map_singleton, unnamed]⟩
  obtain ⟨d, first, added, ways, edges⟩ := next
  obtain ⟨others, added', unnamed⟩ := foldl_addBranch_spec added.kept n.id i.branches
  rw [ways, ← edges, ← unnamed, ← List.map_append]
  exact ⟨_, added.trans added', rfl⟩

theorem foldl_addWays_spec (kept : c.graph.IsKept) (pairs : List (StoredItem × Node)) :
    ∃ edges, c.Adds [] edges (pairs.foldl (fun c (i, n) ↦ c.addWays s i n) c) ∧
      edges.map Edge.unnamed = pairs.flatMap fun p ↦ p.1.edges s p.2.id := by
  induction pairs generalizing c with
  | nil => exact ⟨[], .refl kept, rfl⟩
  | cons p rest ih =>
    obtain ⟨first, added, unnamed⟩ := addWays_spec (s := s) kept p.1 p.2
    obtain ⟨others, added', unnamed'⟩ := ih added.kept
    refine ⟨first ++ others, added.trans added', ?_⟩
    rw [List.map_append, unnamed, unnamed', List.flatMap_cons]

end Canvas

/-! ## The graph -/

/-- What a graph is that was rebuilt from a script. -/
structure IsRebuilt (r : Registry) (s : Settings) (source : IdSource) (script : StoredScript)
    (nodes starts : List Node) (leads : List Edge) (g : Graph) : Prop where
  items : AreItemNodes r s source [] 0 script.items nodes
  start : IsStart r s source (Canvas.startNode? r script.items nodes) starts leads
  rows : g.nodes.rows = nodes ++ starts
  edges : g.edges.rows.map Edge.unnamed =
    leads ++ (script.items.zip nodes).flatMap fun p ↦ p.1.edges s p.2.id
  drawn : ∀ e ∈ g.edges.rows, ∃ k, e.id = source.supply k
  viewport : g.viewport = [("x", .int 0), ("y", .int 0), ("zoom", .float s.zoom)]
  kept : g.IsKept

namespace StoredScript

variable {r : Registry} {s : Settings} {script : StoredScript} {ids ids' : IdStream} {g : Graph}

/-- The start that is ensured after the nodes of all items were added. -/
def entered (r : Registry) (s : Settings) (script : StoredScript) (ids : IdStream) :
    Except EditError Unit × Canvas :=
  let (nodes, c) := Canvas.addItems r s 0 script.items (.blank s ids)
  c.ensureEntry r s script.items nodes

theorem rebuild_eq : script.rebuild r s ids = match script.entered r s ids with
    | (.error e, c) => (.error e, c.ids)
    | (.ok (), c) =>
      let nodes := (Canvas.addItems r s 0 script.items (.blank s ids)).1
      let c := (script.items.zip nodes).foldl (fun c (i, n) ↦ c.addWays s i n) c
      (.ok c.graph, c.ids) := rfl

theorem rebuild_spec (h : script.rebuild r s ids = (.ok g, ids')) :
    (∃ nodes starts leads, IsRebuilt r s ids.source script nodes starts leads g) ∧
      ids'.source = ids.source := by
  obtain ⟨nodes, first⟩ := Canvas.addItems_spec (r := r) (s := s) Canvas.isKept_blank
    0 script.items
  rw [rebuild_eq] at h
  rcases start : script.entered r s ids with ⟨e | ⟨⟩, c⟩
  · rw [start] at h
    cases h
  · rw [start] at h
    obtain ⟨starts, edges, start, second⟩ := Canvas.ensureEntry_spec first.kept start
    obtain ⟨others, third, unnamed⟩ := Canvas.foldl_addWays_spec (s := s) second.kept
      (script.items.zip (Canvas.addItems r s 0 script.items (.blank s ids)).1)
    have all := (first.trans second).trans third
    cases h
    refine ⟨⟨_, starts, edges.map Edge.unnamed, nodes, first.source ▸ start, ?_, ?_, ?_,
      all.viewport, all.kept⟩, all.source⟩
    · rw [all.nodes, List.append_nil]
      rfl
    · rw [all.edges, ← unnamed, ← List.map_append]
      rfl
    · rw [all.edges]
      exact all.drawn

/-- Ids are drawn from one source, also where a script is refused. -/
theorem source_rebuild : (script.rebuild r s ids).2.source = ids.source := by
  rcases result : script.rebuild r s ids with ⟨e | g, ids'⟩
  · obtain ⟨-, first⟩ := Canvas.addItems_spec (r := r) (s := s)
      Canvas.isKept_blank 0 script.items
    rw [rebuild_eq] at result
    rcases start : script.entered r s ids with ⟨e' | ⟨⟩, c⟩
    · rw [start] at result
      cases result
      have source := Canvas.source_ensureEntry r s script.items
        (Canvas.addItems r s 0 script.items (.blank s ids)).1
        (Canvas.addItems r s 0 script.items (.blank s ids)).2
      exact (congrArg (·.2.ids.source) start.symm).trans (source.trans first.source)
    · rw [start] at result
      cases result
  · exact (rebuild_spec result).2

/-- A script is refused only if a start is to be added and the registry has no start kind. -/
theorem rebuild_fst_eq_ok_iff (r : Registry) (s : Settings) (script : StoredScript)
    (ids : IdStream) : (∃ g, (script.rebuild r s ids).1 = .ok g) ↔
    (Canvas.startNode? r script.items (Canvas.addItems r s 0 script.items (.blank s ids)).1).any
      (r.isEntry ·.type) = true ∨ r.isKnown Kind.initTag = true := by
  rw [← Canvas.ensureEntry_fst_eq_ok_iff
    (c := (Canvas.addItems r s 0 script.items (.blank s ids)).2) (s := s)]
  change _ ↔ (script.entered r s ids).1 = .ok ()
  rw [rebuild_eq]
  rcases script.entered r s ids with ⟨e | ⟨⟩, c⟩
  · exact ⟨fun ⟨_, h⟩ ↦ (nomatch h), fun h ↦ (nomatch h)⟩
  · exact ⟨fun _ ↦ rfl, fun _ ↦ ⟨_, rfl⟩⟩

/-- If there is a start kind, no script is refused. -/
theorem exists_rebuild_of_isKnown (s : Settings) (script : StoredScript) (ids : IdStream)
    (known : r.isKnown Kind.initTag = true) :
    ∃ g ids', script.rebuild r s ids = (.ok g, ids') := by
  obtain ⟨g, hg⟩ := (script.rebuild_fst_eq_ok_iff r s ids).2 (.inr known)
  exact ⟨g, _, Prod.ext hg rfl⟩

end StoredScript

/-! ## Edges by their sources -/

theorem StoredBranch.edge?_spec {source : String} {b : StoredBranch} {e : Edge}
    (h : b.edge? source = some e) : e.source = source ∧ e.target ≠ "" ∧ e.extras = [] := by
  rw [edge?] at h
  split at h
  · cases h
  · rename_i some
    cases h
    exact ⟨rfl, some, rfl⟩

/-- The edges of an item leave its node and lead somewhere, and nothing else is known of them. -/
theorem StoredItem.edges_spec {s : Settings} {i : StoredItem} {source : String} {e : Edge}
    (h : e ∈ i.edges s source) : e.source = source ∧ e.target ≠ "" ∧ e.extras = [] := by
  rw [edges, List.mem_append, List.mem_filterMap] at h
  rcases h with h | ⟨b, -, h⟩
  · split at h
    · split at h
      · cases h
      · rename_i somewhere
        rw [List.mem_singleton] at h
        subst h
        rw [Bool.or_eq_true, beq_iff_eq, not_or] at somewhere
        exact ⟨rfl, somewhere.1, rfl⟩
    · cases h
  · exact b.edge?_spec h

/-- Of the edges of many items, those that leave one node are those of its item. -/
theorem filter_flatMap_edges {s : Settings} {pairs : List (StoredItem × Node)}
    (distinct : (pairs.map (·.2.id)).Nodup) {p : StoredItem × Node} (hp : p ∈ pairs) :
    (pairs.flatMap fun q ↦ q.1.edges s q.2.id).filter (·.source == p.2.id) =
      p.1.edges s p.2.id := by
  have own : ∀ q : StoredItem × Node, (q.1.edges s q.2.id).filter (·.source == p.2.id) =
      if q.2.id = p.2.id then q.1.edges s q.2.id else [] := fun q ↦ by
    split
    · rename_i same
      exact List.filter_eq_self.2 fun e he ↦ by simp [(StoredItem.edges_spec he).1, same]
    · rename_i other
      exact List.filter_eq_nil_iff.2 fun e he ↦ by simp [(StoredItem.edges_spec he).1, other]
  have none : ∀ rest : List (StoredItem × Node), p.2.id ∉ rest.map (·.2.id) →
      (rest.flatMap fun q ↦ q.1.edges s q.2.id).filter (·.source == p.2.id) = [] := by
    intro rest new
    rw [List.filter_flatMap, List.flatMap_eq_nil_iff]
    intro q hq
    rw [own, if_neg fun same ↦ new (List.mem_map.2 ⟨q, hq, same⟩)]
  induction pairs with
  | nil => cases hp
  | cons q rest ih =>
    obtain ⟨first, others⟩ := List.nodup_cons.1 distinct
    rw [List.flatMap_cons, List.filter_append, own]
    rcases List.mem_cons.1 hp with rfl | hp
    · rw [if_pos rfl, none rest first, List.append_nil]
    · have other : q.2.id ≠ p.2.id := fun same ↦ first (List.mem_map.2 ⟨p, hp, same.symm⟩)
      rw [if_neg other, ih others hp, List.nil_append]

theorem AreItemNodes.length_eq {r : Registry} {s : Settings} {source : IdSource}
    {taken : List String} {index : Nat} {items : List StoredItem} {nodes : List Node}
    (h : AreItemNodes r s source taken index items nodes) : nodes.length = items.length := by
  induction h with
  | nil => rfl
  | cons _ _ ih => rw [List.length_cons, List.length_cons, ih]

namespace IsStart

variable {r : Registry} {s : Settings} {source : IdSource} {first : Option Node}
  {starts : List Node} {leads : List Edge}

/-- The edge that is added with a start leads from it to the first node. -/
theorem lead_of_mem (h : IsStart r s source first starts leads) {e : Edge} (he : e ∈ leads) :
    ∃ n m, starts = [n] ∧ first = some m ∧ e = { id := "", source := n.id, target := m.id } := by
  cases h with
  | entry | alone => cases he
  | before => exact ⟨_, _, rfl, rfl, List.mem_singleton.1 he⟩

/-- What is added is a start node. -/
theorem start_of_mem (h : IsStart r s source first starts leads) {n : Node} (hn : n ∈ starts) :
    ∃ k j, r.get? Kind.initTag = some k ∧ n = s.start k (source.supply j) := by
  cases h with
  | entry => cases hn
  | before j _ known => exact ⟨_, j, known, List.mem_singleton.1 hn⟩
  | alone j known => exact ⟨_, j, known, List.mem_singleton.1 hn⟩

/-- Nothing is added before an entry. -/
theorem eq_nil {n : Node} (h : IsStart r s source (some n) starts leads)
    (entry : r.isEntry n.type = true) : starts = [] ∧ leads = [] := by
  cases h with
  | entry => exact ⟨rfl, rfl⟩
  | before _ other => exact absurd entry (by simp [other])

/-- Where no start is added the flow starts at an entry. -/
theorem exists_entry (h : IsStart r s source first [] leads) :
    ∃ n, first = some n ∧ r.isEntry n.type = true := by
  cases h with
  | entry entry => exact ⟨_, rfl, entry⟩

end IsStart

theorem Graph.map_unnamed_outgoing (g : Graph) (id : String) :
    (g.outgoing id).map Edge.unnamed =
      (g.edges.rows.map Edge.unnamed).filter (·.source == id) := by
  rw [List.filter_map]
  rfl

namespace IsRebuilt

variable {r : Registry} {s : Settings} {source : IdSource} {script : StoredScript}
  {nodes starts : List Node} {leads : List Edge} {g : Graph}
  (h : IsRebuilt r s source script nodes starts leads g)
include h

theorem nodup : ((nodes ++ starts).map Node.id).Nodup := h.rows ▸ g.nodes.distinct

theorem map_id_zip : (script.items.zip nodes).map (·.2.id) = nodes.map Node.id := by
  change (script.items.zip nodes).map (Node.id ∘ Prod.snd) = _
  rw [← List.map_map, List.map_snd_zip (Nat.le_of_eq h.items.length_eq)]

/-- The edges that leave the node of an item are those of the item. -/
theorem outgoing_item {p : StoredItem × Node} (hp : p ∈ script.items.zip nodes) :
    (g.outgoing p.2.id).map Edge.unnamed = p.1.edges s p.2.id := by
  have distinct := h.nodup
  rw [List.map_append, List.nodup_append] at distinct
  have other : leads.filter (·.source == p.2.id) = [] := by
    refine List.filter_eq_nil_iff.2 fun e he ↦ ?_
    obtain ⟨n, m, rfl, -, rfl⟩ := h.start.lead_of_mem he
    have := distinct.2.2 _ (List.mem_map_of_mem (List.of_mem_zip hp).2) n.id (by simp)
    simpa using Ne.symm this
  rw [g.map_unnamed_outgoing, h.edges, List.filter_append, other,
    filter_flatMap_edges (h.map_id_zip ▸ distinct.1) hp, List.nil_append]

/-- The edges that leave an added start are those that were added with it. -/
theorem outgoing_start {n : Node} (hn : n ∈ starts) :
    (g.outgoing n.id).map Edge.unnamed = leads := by
  have distinct := h.nodup
  rw [List.map_append, List.nodup_append] at distinct
  have own : leads.filter (·.source == n.id) = leads := by
    refine List.filter_eq_self.2 fun e he ↦ ?_
    obtain ⟨m, _, rfl, -, rfl⟩ := h.start.lead_of_mem he
    rw [List.mem_singleton.1 hn, beq_self_eq_true]
  have others : ((script.items.zip nodes).flatMap fun p ↦ p.1.edges s p.2.id).filter
      (·.source == n.id) = [] := by
    rw [List.filter_eq_nil_iff]
    intro e he
    obtain ⟨p, hp, he⟩ := List.mem_flatMap.1 he
    have := distinct.2.2 _ (List.mem_map_of_mem (List.of_mem_zip hp).2) _ (List.mem_map_of_mem hn)
    simpa [(StoredItem.edges_spec he).1] using this
  rw [g.map_unnamed_outgoing, h.edges, List.filter_append, own, others, List.append_nil]

end IsRebuilt

end CallFlow
