import CallFlow.Proofs.Canvas.History
import CallFlow.Proofs.Script.Meaning
import CallFlow.Proofs.Script.Verdict

/-!
# Nothing is lost of a script, and nothing made up

A graph that is rebuilt from a script has a node for each item, in order, with the edges of the
item, and nothing else but a start where the item at which the flow starts is no entry
(`rebuild_isFaithful`). A name that several items have stands for the first of them.
-/

namespace CallFlow

variable {r : Registry} {s : Settings} {source : IdSource} {script : StoredScript}
  {items : List StoredItem} {nodes starts : List Node} {g : Graph}

/-! ## Items and names -/

/-- The id that an item has to itself: it is there, it is not empty, and no earlier item has it. -/
def StoredItem.ownId? (earlier : List StoredItem) (i : StoredItem) : Option String :=
  i.id.filter fun id ↦ id != "" && earlier.all (·.id != some id)

theorem StoredItem.ownId?_eq_some_iff {earlier : List StoredItem} {i : StoredItem} {id : String} :
    i.ownId? earlier = some id ↔
      i.id = some id ∧ id ≠ "" ∧ ∀ j ∈ earlier, j.id ≠ some id := by
  simp [ownId?, Option.filter_eq_some_iff]

theorem StoredItem.id_eq_some_of_getD {i : StoredItem} {id : String} (h : i.id.getD "" = id)
    (some : id ≠ "") : i.id = .some id :=
  (Option.getD_eq_iff.1 h).resolve_right fun none ↦ some none.2.symm

namespace StoredScript

/-- The ids and targets that stand in a script. -/
def names (script : StoredScript) : List String :=
  script.items.filterMap (·.id) ++ script.targets

/-- The place of the first item with an id. -/
def place? (script : StoredScript) (id : String) : Option Nat :=
  script.items.findIdx? (·.id == some id)

end StoredScript

/-! ## Faithful graphs -/

/-- A graph holds an item at a node: the node is of the type of the item and has its data, its id is
the own id of the item or one that was drawn, and the edges that leave it are those of the item. -/
structure Graph.Holds (r : Registry) (s : Settings) (source : IdSource) (g : Graph)
    (earlier : List StoredItem) (i : StoredItem) (n : Node) : Prop where
  type : i.HasType r s n.type
  data : i.HasData r n.type n.data
  /-- Items stand in a row, with a place before them for a start. -/
  position : n.position =
    ⟨.float (s.entryX + .ofInt (earlier.length + 1) * s.spacing), .float s.entryY⟩
  plain : n.extras = []
  own : ∀ id, i.ownId? earlier = some id → n.id = id
  drawn : i.ownId? earlier = none → ∃ j, n.id = source.supply j
  ways : (g.outgoing n.id).map Edge.unnamed = i.edges s n.id

/-- A graph holds a start at a node that was added: it is as a fresh node of the kind is, and plain
edges lead from it to some nodes. -/
structure Graph.HoldsStart (r : Registry) (s : Settings) (source : IdSource) (g : Graph) (n : Node)
    (targets : List Node) : Prop where
  type : n.type = "init"
  data : ∃ k ∈ r.kinds, k.tag = "init" ∧
    n.data = Members.ofPairs (k.fields.map fun f ↦ (f.name, f.initial))
  position : n.position = ⟨.float (s.entryX + .ofInt 0 * s.spacing), .float s.entryY⟩
  plain : n.extras = []
  drawn : ∃ j, n.id = source.supply j
  ways : (g.outgoing n.id).map Edge.unnamed =
    targets.map fun m ↦ { id := "", source := n.id, target := m.id }

/-- What a graph holds beside the items of a script: nothing if the flow starts at an entry, else a
start that leads to the node of the item at which the flow starts, or nowhere if there is none. -/
inductive StoredScript.HasStart (r : Registry) (s : Settings) (source : IdSource)
    (script : StoredScript) (nodes : List Node) (g : Graph) : List Node → Prop
  | entry {k : Nat} {i : StoredItem} (chosen : script.Chooses r s k i)
    (entry : i.StartsFlow r s) : HasStart r s source script nodes g []
  | before {k : Nat} {i : StoredItem} {m n : Node} (chosen : script.Chooses r s k i)
    (other : ¬i.StartsFlow r s) (node : nodes[k]? = some m)
    (start : g.HoldsStart r s source n [m]) : HasStart r s source script nodes g [n]
  | alone {n : Node} (empty : script.items = []) (start : g.HoldsStart r s source n []) :
    HasStart r s source script nodes g [n]

/-- A graph holds what a script says and nothing else: a node for each item, in order, and maybe a
start. -/
structure StoredScript.IsFaithful (r : Registry) (s : Settings) (source : IdSource)
    (script : StoredScript) (nodes starts : List Node) (g : Graph) : Prop where
  rows : g.nodes.rows = nodes ++ starts
  length : nodes.length = script.items.length
  each : ∀ k i n, script.items[k]? = some i → nodes[k]? = some n →
    g.Holds r s source (script.items.take k) i n
  /-- A target that is the id of an item leads to the first item that has it. -/
  named : ∀ id k, id ≠ "" → script.place? id = some k → g.node? id = nodes[k]?
  start : script.HasStart r s source nodes g starts
  sources : ∀ e ∈ g.edges.rows, ∃ n ∈ g.nodes.rows, n.id = e.source
  distinct : g.idsInUse.Nodup
  viewport : g.viewport = [("x", .int 0), ("y", .int 0), ("zoom", .float s.zoom)]

/-! ## Nodes by their places -/

namespace AreItemNodes

variable {taken : List String} {index : Nat}

theorem take (h : AreItemNodes r s source taken index items nodes) (k : Nat) :
    AreItemNodes r s source taken index (items.take k) (nodes.take k) := by
  induction h generalizing k with
  | nil =>
    rw [List.take_nil, List.take_nil]
    exact .nil _ _
  | cons named _ ih =>
    cases k with
    | zero => exact .nil _ _
    | succ k => exact .cons named (ih k)

/-- The node at a place is that of the item there. Its id is free of those of the earlier nodes. -/
theorem getElem? (h : AreItemNodes r s source taken index items nodes) {k : Nat} {i : StoredItem}
    {n : Node} (hi : items[k]? = some i) (hn : nodes[k]? = some n) :
    n = i.node r s (index + k) n.id ∧
      IsItemId source (((nodes.take k).map Node.id).reverse ++ taken) i n.id := by
  induction h generalizing k with
  | nil => cases hi
  | @cons taken index _ _ id nodes named _ ih =>
    cases k with
    | zero =>
      cases hi
      cases hn
      exact ⟨rfl, named⟩
    | succ k =>
      obtain ⟨node, named⟩ := ih hi hn
      refine ⟨by rwa [Nat.add_right_comm] at node, ?_⟩
      rwa [List.take_succ_cons, List.map_cons, List.reverse_cons, List.append_assoc]

theorem exists_getElem? (h : AreItemNodes r s source taken index items nodes) {k : Nat}
    {i : StoredItem} (hi : items[k]? = some i) : ∃ n, nodes[k]? = some n := by
  have inside := (List.getElem?_eq_some_iff.1 hi).1
  exact ⟨_, List.getElem?_eq_getElem (h.length_eq ▸ inside)⟩

/-- The node of an item has the own id of the item, or one that was drawn. -/
theorem id_eq (h : AreItemNodes r s source [] 0 items nodes)
    (apart : ∀ j, source.supply j ∉ items.filterMap (·.id)) {k : Nat} {i : StoredItem} {n : Node}
    (hi : items[k]? = some i) (hn : nodes[k]? = some n) :
    (∀ id, i.ownId? (items.take k) = some id → n.id = id) ∧
      (i.ownId? (items.take k) = none → ∃ j, n.id = source.supply j) := by
  have earlier := h.take k
  have taken {id : String} : id ∈ ((nodes.take k).map Node.id).reverse ++ [] ↔
      ∃ m ∈ nodes.take k, m.id = id := by
    rw [List.append_nil, List.mem_reverse, List.mem_map]
  have given := (h.getElem? hi hn).2
  generalize n.id = given' at given
  cases given with
  | own own some free =>
    have own := i.id_eq_some_of_getD own some
    refine ⟨fun id hid ↦ ?_, fun none ↦ absurd none ?_⟩
    · exact Option.some.inj (own.symm.trans (StoredItem.ownId?_eq_some_iff.1 hid).1)
    · refine Option.ne_none_iff_exists'.2 ⟨_, StoredItem.ownId?_eq_some_iff.2 ⟨own, some, ?_⟩⟩
      intro j hj same
      have used := earlier.mem_ids some ⟨j, hj, by rw [same]; rfl⟩
      exact free (taken.2 (List.mem_map.1 (used.resolve_left List.not_mem_nil)))
  | drawn j without free =>
    refine ⟨fun id hid ↦ ?_, fun _ ↦ ⟨j, rfl⟩⟩
    obtain ⟨own, some, first⟩ := StoredItem.ownId?_eq_some_iff.1 hid
    rw [own, Option.getD_some] at without
    obtain ⟨m, hm, rfl⟩ := taken.1 (without.resolve_left some)
    rcases earlier.id_of_mem hm with ⟨i', hi', same⟩ | ⟨l, same⟩
    · exact absurd (i'.id_eq_some_of_getD same some) (first i' hi')
    · have written := List.mem_filterMap.2 ⟨i, List.mem_of_getElem? hi, own⟩
      exact absurd (same ▸ written) (apart l)

end AreItemNodes

/-! ## The chosen item -/

namespace Canvas

theorem head?_markedItems (items : List StoredItem) :
    (markedItems items).head? = items.findIdx? (·.isEntry) := by
  rw [markedItems, List.head?_map, List.head?_filter, List.findIdx?_eq_fst_find?_zipIdx]

theorem find?_isEntry_eq (h : AreItemNodes r s source [] 0 script.items nodes) :
    nodes.find? (r.isEntry ·.type) =
      (script.items.findIdx? fun i ↦ r.isEntry (i.kindTag r s)).bind (nodes[·]?) := by
  have types := congrArg (List.findIdx? r.isEntry) h.map_type
  rw [List.findIdx?_map, List.findIdx?_map] at types
  rw [List.find?_eq_bind_findIdx?_getElem?]
  exact congrArg (Option.bind · (nodes[·]?)) types

/-- The flow starts at the node of the chosen item. -/
theorem startNode?_eq (indexed : r.IsIndexed)
    (h : AreItemNodes r s source [] 0 script.items nodes) {k : Nat} {i : StoredItem}
    (chosen : script.Chooses r s k i) : startNode? r script.items nodes = nodes[k]? := by
  have marked := head?_markedItems script.items
  have entry := find?_isEntry_eq h
  rw [startNode?]
  cases chosen with
  | marked here isMarked first =>
    rw [findIdx?_eq_some_iff_take.2 ⟨i, here, isMarked, first⟩] at marked
    obtain ⟨rest, found⟩ := List.head?_eq_some_iff.1 marked
    rw [found]
  | entry here unmarked isEntry first =>
    rw [List.findIdx?_eq_none_iff.2 unmarked, List.head?_eq_none_iff] at marked
    have found := findIdx?_eq_some_iff_take.2
      ⟨i, here, (StoredItem.startsFlow_iff indexed).1 isEntry,
        fun j hj ↦ (StoredItem.not_startsFlow_iff indexed).1 (first j hj)⟩
    obtain ⟨n, hn⟩ := h.exists_getElem? here
    rw [marked, entry, found, Option.bind_some, hn]
    rfl
  | first here unmarked others =>
    rw [List.findIdx?_eq_none_iff.2 unmarked, List.head?_eq_none_iff] at marked
    have none := List.findIdx?_eq_none_iff.2
      fun j hj ↦ (StoredItem.not_startsFlow_iff indexed).1 (others j hj)
    rw [marked, entry, none]
    exact List.head?_eq_getElem?

end Canvas

/-! ## What is rebuilt -/

/-- The start that was added to a rebuilt graph. -/
theorem Graph.holdsStart {k : Kind} {j : Nat} {targets : List Node}
    (known : r.get? Kind.initTag = some k)
    (ways : (g.outgoing (source.supply j)).map Edge.unnamed =
      targets.map fun m ↦ { id := "", source := source.supply j, target := m.id }) :
    g.HoldsStart r s source (s.start k (source.supply j)) targets where
  type := rfl
  data := ⟨k, (Registry.mem_of_get? known).1, (Registry.mem_of_get? known).2, rfl⟩
  position := rfl
  plain := rfl
  drawn := ⟨j, rfl⟩
  ways := ways

namespace IsRebuilt

variable {leads : List Edge} (h : IsRebuilt r s source script nodes starts leads g)
include h

theorem hasNode_source : ∀ e ∈ g.edges.rows, g.hasNode e.source = true := by
  intro e he
  have mem := List.mem_map_of_mem (f := Edge.unnamed) he
  rw [h.edges] at mem
  refine Graph.hasNode_iff.2 ?_
  rw [h.rows]
  rcases List.mem_append.1 mem with lead | mem
  · obtain ⟨n, _, rfl, -, same⟩ := h.start.lead_of_mem lead
    exact ⟨n, List.mem_append_right _ (List.mem_singleton_self n), (congrArg Edge.source same).symm⟩
  · obtain ⟨p, hp, own⟩ := List.mem_flatMap.1 mem
    exact ⟨p.2, List.mem_append_left _ (List.of_mem_zip hp).2, (StoredItem.edges_spec own).1.symm⟩

/-- The first node of the flow is that of the chosen item. -/
theorem exists_chosen (indexed : r.IsIndexed) {n : Node}
    (first : Canvas.startNode? r script.items nodes = some n) :
    ∃ k i, script.Chooses r s k i ∧ nodes[k]? = some n ∧
      (i.StartsFlow r s ↔ r.isEntry n.type = true) := by
  have nonempty : script.items ≠ [] := by
    rintro empty
    have length := h.items.length_eq
    rw [empty, List.length_nil, List.length_eq_zero_iff] at length
    exact List.not_mem_nil (length ▸ Canvas.mem_of_startNode? first)
  obtain ⟨k, i, chosen⟩ := script.exists_chooses (s := s) indexed nonempty
  have hn := (Canvas.startNode?_eq indexed h.items chosen).symm.trans first
  have type : n.type = i.kindTag r s := congrArg Node.type (h.items.getElem? chosen.here hn).1
  exact ⟨k, i, chosen, hn, type ▸ StoredItem.startsFlow_iff indexed⟩

theorem hasStart (indexed : r.IsIndexed) : script.HasStart r s source nodes g starts := by
  have start := h.start
  have ways {n : Node} (hn : n ∈ starts) := h.outgoing_start hn
  generalize first : Canvas.startNode? r script.items nodes = start? at start
  cases start with
  | entry entry =>
    obtain ⟨k, i, chosen, -, starts⟩ := h.exists_chosen indexed first
    exact .entry chosen (starts.2 entry)
  | before j other known =>
    obtain ⟨k, i, chosen, hn, starts⟩ := h.exists_chosen indexed first
    refine .before chosen (fun entry ↦ ?_) hn (Graph.holdsStart known (ways List.mem_cons_self))
    exact Bool.false_ne_true (other.symm.trans (starts.1 entry))
  | alone j known =>
    refine .alone ?_ (Graph.holdsStart known (ways List.mem_cons_self))
    by_contra nonempty
    obtain ⟨k, i, chosen⟩ := script.exists_chooses (s := s) indexed nonempty
    obtain ⟨n, hn⟩ := h.items.exists_getElem? chosen.here
    rw [Canvas.startNode?_eq indexed h.items chosen, hn] at first
    cases first

variable (apart : ∀ j, source.supply j ∉ script.names)
include apart

omit h in
theorem notMem_ids (j : Nat) : source.supply j ∉ script.items.filterMap (·.id) :=
  fun mem ↦ apart j (List.mem_append_left _ mem)

/-- A name stands for the first item that has it. -/
theorem node?_of_place? {id : String} {k : Nat} (filled : id ≠ "")
    (place : script.place? id = some k) : g.node? id = nodes[k]? := by
  obtain ⟨i, here, own, first⟩ := findIdx?_eq_some_iff_take.1 place
  obtain ⟨n, hn⟩ := h.items.exists_getElem? here
  have given := h.items.id_eq (notMem_ids apart) here hn
  rw [hn]
  refine Graph.node?_eq_some_iff.2 ⟨?_, given.1 id ?_⟩
  · rw [h.rows]
    exact List.mem_append_left _ (List.mem_of_getElem? hn)
  · exact StoredItem.ownId?_eq_some_iff.2
      ⟨beq_iff_eq.1 own, filled, fun j hj ↦ beq_eq_false_iff_ne.1 (first j hj)⟩

/-- What is rebuilt from a script is faithful to it. -/
theorem isFaithful (indexed : r.IsIndexed) : script.IsFaithful r s source nodes starts g where
  rows := h.rows
  length := h.items.length_eq
  each k i n hi hn := by
    have given := h.items.id_eq (notMem_ids apart) hi hn
    obtain ⟨node, -⟩ := h.items.getElem? hi hn
    have place : (script.items.take k).length = 0 + k := by
      have inside := (List.getElem?_eq_some_iff.1 hi).1
      rw [List.length_take, Nat.min_eq_left (Nat.le_of_lt inside), Nat.zero_add]
    have paired := List.mem_of_getElem? (List.getElem?_zip_eq_some (z := (i, n)).2 ⟨hi, hn⟩)
    have type : n.type = i.kindTag r s := congrArg Node.type node
    have data : n.data = i.data r n.type := type ▸ congrArg Node.data node
    exact {
      type := type ▸ StoredItem.hasType_kindTag indexed
      data := data ▸ StoredItem.hasData_data indexed
      position := place ▸ congrArg Node.position node
      plain := congrArg Node.extras node
      own := given.1
      drawn := given.2
      ways := h.outgoing_item paired }
  named id k filled place := h.node?_of_place? apart filled place
  start := h.hasStart indexed
  sources e he := Graph.hasNode_iff.1 (h.hasNode_source e he)
  distinct := h.kept.nodup_idsInUse
  viewport := h.viewport

end IsRebuilt

namespace StoredScript

variable {ids : IdStream}

/-- Whatever a script says, a graph is rebuilt from it that is faithful to it, if there is a start
kind and the ids that may be drawn do not stand in the script. -/
theorem rebuild_isFaithful {kinds : List Kind} (built : Registry.ofList kinds = .ok r)
    (known : r.isKnown Kind.initTag = true) (apart : ∀ j, ids.source.supply j ∉ script.names) :
    ∃ g after nodes starts, script.rebuild r s ids = (.ok g, after) ∧
      script.IsFaithful r s ids.source nodes starts g := by
  obtain ⟨g, after, rebuilt⟩ := script.exists_rebuild_of_isKnown s ids known
  obtain ⟨⟨nodes, starts, leads, h⟩, -⟩ := rebuild_spec rebuilt
  exact ⟨g, _, nodes, starts, rebuilt, h.isFaithful apart (.ofList built)⟩

end StoredScript

/-- A numbered id is no short name. -/
theorem IdSource.supply_listed_notMem {names : List String} (short : ∀ id ∈ names, id.length ≤ 3)
    (j : Nat) : (IdSource.listed []).supply j ∉ names := by
  intro mem
  have length := short _ mem
  change (numberedId j).length ≤ 3 at length
  have digits : 0 < (toString (j + 1)).length := by simp [Nat.length_repr_pos]
  rw [numberedId, String.length_append] at length
  have head : "id-".length = 3 := rfl
  omega

namespace StoredScript

/-- Two items have the number 5 for their name, once as a text, and one has no name. The second is
marked, but it is no entry, so a start is added before it. Its type is told by its template, and
that of the third is not, as many kinds have its template. -/
theorem shared_name_is_faithful :
    let document : Json := .obj [("items", .arr [
      .obj [("id", .int 5), ("type", .str "voice-menu"), ("next", .null),
        ("connectedTo", .str "5")],
      .obj [("id", .str "5"), ("templateId", .int 9), ("entry", .bool true), ("next", .str "end"),
        ("connectedTo", .str "5"), ("branches", .arr [
          .obj [("label", .str "b"), ("target", .int 5), ("handle", .str "h")]])],
      .obj [("templateId", .int 4), ("name", .str "last"), ("enabled", .bool false),
        ("variables", .obj [("name", .null), ("x", .int 1)]), ("next", .int 7),
        ("branches", .arr [.obj [("target", .str "")]])]])]
    let first : StoredItem :=
      { id := some "5", name := none, type := some "voice-menu", templateId := none,
        enabled := true, isEntry := false, values := [], next := none, connectedTo := some "5",
        branches := [] }
    let menu : StoredItem :=
      { id := some "5", name := none, type := none, templateId := some 9, enabled := true,
        isEntry := true, values := [], next := some "end", connectedTo := some "5",
        branches := [⟨some "b", some "5", some "h"⟩] }
    let last : StoredItem :=
      { id := none, name := some "last", type := none, templateId := some 4, enabled := false,
        isEntry := false, values := [("name", .null), ("x", .int 1)], next := some "7",
        connectedTo := none, branches := [⟨none, some "", none⟩] }
    let script : StoredScript := ⟨[first, menu, last]⟩
    ofJson document = .ok script ∧ ∃ g after nodes starts,
      script.rebuild Catalog.registry { finishWord := "end" } ⟨.listed [], 0⟩ = (.ok g, after) ∧
      script.IsFaithful Catalog.registry { finishWord := "end" } (.listed []) nodes starts g ∧
      (g.outgoing "5").map Edge.unnamed = [{ id := "", source := "5", target := "5" }] := by
  intro document first menu last script
  have built : Registry.ofList Catalog.kinds = .ok Catalog.registry := rfl
  have known : Catalog.registry.isKnown Kind.initTag = true := by decide +kernel
  have short : ∀ id ∈ script.names, id.length ≤ 3 := by decide +kernel
  let ids : IdStream := ⟨.listed [], 0⟩
  have apart : ∀ j, ids.source.supply j ∉ script.names := IdSource.supply_listed_notMem short
  obtain ⟨g, after, nodes, starts, rebuilt, faithful⟩ :=
    rebuild_isFaithful (s := { finishWord := "end" }) built known apart
  refine ⟨rfl, g, after, nodes, starts, rebuilt, faithful, ?_⟩
  obtain ⟨n, hn⟩ : ∃ n, nodes[0]? = some n :=
    ⟨_, List.getElem?_eq_getElem (faithful.length ▸ Nat.zero_lt_succ _)⟩
  have held := faithful.each 0 first n rfl hn
  have ways := held.ways
  rw [held.own "5" rfl] at ways
  exact ways

end StoredScript

end CallFlow
