import CallFlow.Proofs.Kind.Registry
import CallFlow.Proofs.Script.Warnings

/-!
# Scripts that leave nothing open

A graph is rebuilt from a script without a warning exactly if the script is unambiguous: whatever
had to be decided while it was rebuilt is written down (`warnings_rebuild_eq_nil_iff`). In a graph
that was rebuilt without a warning a validation does not miss an entry, a node or a kind.
-/

namespace CallFlow

variable {r : Registry} {s : Settings} {source : IdSource} {script : StoredScript}
  {items : List StoredItem} {nodes starts : List Node} {leads : List Edge} {g : Graph}

/-! ## Unambiguous scripts -/

/-- It can be told of which kind an item is. -/
inductive StoredItem.HasKind (r : Registry) (i : StoredItem) : Prop
  /-- The item names a kind that is known. -/
  | typed (tag : String) (own : i.type = some tag) (some : tag ≠ "") (known : r.isKnown tag = true)
  /-- The item names no kind, but a template that just one kind has. -/
  | template (without : i.type.getD "" = "") (t : Int) (own : i.templateId = some t)
    (sole : ∃! k, k ∈ r.kinds ∧ k.templateId = some t)

/-- Some item has the id. -/
def StoredScript.Names (script : StoredScript) (id : String) : Prop :=
  ∃ i ∈ script.items, i.id = some id

/-- A script leaves nothing open. -/
structure StoredScript.IsUnambiguous (r : Registry) (s : Settings) (script : StoredScript) :
    Prop where
  nonempty : script.items ≠ []
  named : ∀ i ∈ script.items, ∃ id, i.id = some id ∧ id ≠ ""
  distinct : (script.items.map (·.id)).Nodup
  kinds : ∀ i ∈ script.items, i.HasKind r
  marked : script.items.countP (·.isEntry) ≤ 1
  entry : ∃ k i, script.Chooses r s k i ∧ i.StartsFlow r s
  next : ∀ i ∈ script.items, ∀ t, (i.next <|> i.connectedTo) = some t → t ≠ "" → t ≠ s.finishWord →
    script.Names t
  branches : ∀ i ∈ script.items, ∀ b ∈ i.branches,
    ∃ t, b.target = some t ∧ t ≠ "" ∧ script.Names t

/-! ## Items -/

namespace StoredItem

/-- Nothing is said of the kind of an item if it can be told. -/
theorem snd_tag_eq_none_iff (indexed : r.IsIndexed) {index : Nat} {i : StoredItem} :
    (i.tag r s index).2 = none ↔ i.HasKind r := by
  rw [tag]
  split
  · rename_i without
    have typed : ∀ tag, i.type = some tag → tag = "" := fun tag own ↦ by
      rwa [own, Option.getD_some] at without
    split
    · rename_i k found
      refine iff_of_true rfl ?_
      obtain ⟨t, own, found⟩ := Option.bind_eq_some_iff.1 found
      exact .template without t own (indexed.isSome_ofTemplate?_iff.1 (by rw [found]; rfl))
    · rename_i lost
      refine iff_of_false (Option.some_ne_none _) ?_
      rintro (⟨tag, own, some, -⟩ | ⟨-, t, own, sole⟩)
      · exact some (typed tag own)
      · rw [own, Option.bind_some] at lost
        simpa [lost] using indexed.isSome_ofTemplate?_iff.2 sole
  · rename_i some
    have own := type_eq_some some
    by_cases known : r.isKnown (i.type.getD "") = true
    · exact iff_of_true (if_pos known) (.typed _ own some known)
    · refine iff_of_false (by simp [known]) ?_
      rintro (⟨tag, own, -, known'⟩ | ⟨without, -⟩)
      · rw [own] at known
        exact known known'
      · exact some without

/-- The kind of an item is known if it can be told. -/
theorem HasKind.isKnown_kindTag (indexed : r.IsIndexed) {i : StoredItem} (h : i.HasKind r) :
    r.isKnown (i.kindTag r s) = true := by
  cases h with
  | typed tag own filled known =>
    rw [(hasType_iff indexed).1 (.own own filled)]
    exact known
  | template without t own sole =>
    obtain ⟨k, kind, sole⟩ := sole
    rw [(hasType_iff indexed).1 (.template (getD_type_eq_empty_iff.1 without) own kind
      fun k' known same ↦ sole k' ⟨known, same⟩)]
    exact Registry.isKnown_iff.2 ⟨k, kind.1, rfl⟩

theorem idWarnings_eq_nil_iff {index : Nat} {given : String} {i : StoredItem} :
    i.idWarnings index given = [] ↔ i.id = some given ∧ given ≠ "" := by
  rw [idWarnings]
  by_cases none : i.id.getD "" = ""
  · refine iff_of_false (by simp [none]) ?_
    rintro ⟨own, filled⟩
    rw [own] at none
    exact filled none
  · rw [if_neg none]
    by_cases same : i.id.getD "" = given
    · exact iff_of_true (if_pos same) ⟨i.id_eq_some_of_getD same (same ▸ none), same ▸ none⟩
    · refine iff_of_false (by simp [same]) ?_
      rintro ⟨own, -⟩
      exact same (by rw [own, Option.getD_some])

theorem warnings_eq_nil_iff (indexed : r.IsIndexed) {index : Nat} {i : StoredItem} {n : Node} :
    i.warnings r s index n = [] ↔ (i.id = some n.id ∧ n.id ≠ "") ∧ i.HasKind r := by
  rw [warnings, List.append_eq_nil_iff, idWarnings_eq_nil_iff, Option.toList_eq_nil_iff,
    snd_tag_eq_none_iff indexed]

end StoredItem

namespace AreItemNodes

/-- The nodes have the ids of their items if these are distinct. -/
theorem own_iff (h : AreItemNodes r s source [] 0 items nodes)
    (distinct : (nodes.map Node.id).Nodup) (apart : ∀ j, source.supply j ∉ items.filterMap (·.id)) :
    (∀ (k : Nat) (i : StoredItem) (n : Node), items[k]? = some i → nodes[k]? = some n →
      i.id = some n.id ∧ n.id ≠ "") ↔
    (∀ i ∈ items, ∃ id, i.id = some id ∧ id ≠ "") ∧ (items.map (·.id)).Nodup := by
  constructor
  · intro own
    have ids : items.map (·.id) = nodes.map (some ·.id) := by
      refine List.ext_getElem? fun k ↦ ?_
      rw [List.getElem?_map, List.getElem?_map]
      rcases hi : items[k]? with _ | i
      · have outside : nodes.length ≤ k := h.length_eq ▸ List.getElem?_eq_none_iff.1 hi
        rw [List.getElem?_eq_none outside]
        rfl
      · obtain ⟨n, hn⟩ := h.exists_getElem? hi
        rw [hn]
        exact congrArg some (own k i n hi hn).1
    refine ⟨fun i hi ↦ ?_, ?_⟩
    · obtain ⟨k, hi⟩ := List.mem_iff_getElem?.1 hi
      obtain ⟨n, hn⟩ := h.exists_getElem? hi
      exact ⟨n.id, own k i n hi hn⟩
    · rw [ids]
      exact List.map_map ▸ distinct.map fun _ _ ↦ Option.some.inj
  · rintro ⟨named, distinct⟩ k i n hi hn
    obtain ⟨id, own, filled⟩ := named i (List.mem_of_getElem? hi)
    have first : ∀ j ∈ items.take k, j.id ≠ some id := by
      intro j hj same
      obtain ⟨l, hl, rfl⟩ := List.mem_take_iff_getElem.1 hj
      obtain ⟨inside, rfl⟩ := List.getElem?_eq_some_iff.1 hi
      have before : l < k := by omega
      have other := List.pairwise_iff_getElem.1 distinct l k (by simp; omega) (by simpa) before
      simp only [List.getElem_map] at other
      exact other (same.trans own.symm)
    have same := (h.id_eq apart hi hn).1 id (StoredItem.ownId?_eq_some_iff.2 ⟨own, filled, first⟩)
    exact same ▸ ⟨own, filled⟩

end AreItemNodes

theorem itemWarnings_eq_nil_iff (indexed : r.IsIndexed) :
    itemWarnings r s 0 items nodes = [] ↔ ∀ (k : Nat) (i : StoredItem) (n : Node),
      items[k]? = some i → nodes[k]? = some n → (i.id = some n.id ∧ n.id ≠ "") ∧ i.HasKind r := by
  rw [itemWarnings, List.flatMap_eq_nil_iff]
  constructor
  · intro silent k i n hi hn
    have mem : ((i, n), k) ∈ (items.zip nodes).zipIdx :=
      List.mem_zipIdx_iff_getElem?.2 (List.getElem?_zip_eq_some.2 ⟨hi, hn⟩)
    exact (StoredItem.warnings_eq_nil_iff indexed).1 (silent _ mem)
  · rintro own ⟨⟨i, n⟩, k⟩ mem
    obtain ⟨hi, hn⟩ := List.getElem?_zip_eq_some.1 (List.mem_zipIdx_iff_getElem?.1 mem)
    exact (StoredItem.warnings_eq_nil_iff indexed).2 (own k i n hi hn)

/-- Nothing is said of items that have ids of their own, and kinds. -/
theorem AreItemNodes.itemWarnings_eq_nil_iff (indexed : r.IsIndexed)
    (h : AreItemNodes r s source [] 0 items nodes) (distinct : (nodes.map Node.id).Nodup)
    (apart : ∀ j, source.supply j ∉ items.filterMap (·.id)) :
    itemWarnings r s 0 items nodes = [] ↔ (∀ i ∈ items, ∃ id, i.id = some id ∧ id ≠ "") ∧
      (items.map (·.id)).Nodup ∧ ∀ i ∈ items, i.HasKind r := by
  rw [CallFlow.itemWarnings_eq_nil_iff indexed, ← and_assoc, ← h.own_iff distinct apart]
  constructor
  · refine fun own ↦ ⟨fun k i n hi hn ↦ (own k i n hi hn).1, fun i hi ↦ ?_⟩
    obtain ⟨k, hi⟩ := List.mem_iff_getElem?.1 hi
    obtain ⟨n, hn⟩ := h.exists_getElem? hi
    exact (own k i n hi hn).2
  · exact fun ⟨own, kinds⟩ k i n hi hn ↦ ⟨own k i n hi hn, kinds i (List.mem_of_getElem? hi)⟩

/-! ## The start -/

theorem length_markedItems (items : List StoredItem) :
    (Canvas.markedItems items).length = items.countP (·.isEntry) := by
  have items' : items.zipIdx.map Prod.fst = items := List.zipIdx_map_fst 0 items
  rw [Canvas.markedItems, List.length_map, ← List.countP_eq_length_filter]
  conv_rhs => rw [← items', List.countP_map]
  rfl

theorem markedWarnings_eq_nil_iff {marked : List Nat} :
    markedWarnings marked = [] ↔ marked.length ≤ 1 := by
  rcases marked with _ | ⟨first, _ | ⟨second, rest⟩⟩ <;> simp [markedWarnings]

/-- The flow starts at an entry if the chosen item is of an entry kind. -/
theorem IsRebuilt.exists_startsFlow_iff (indexed : r.IsIndexed)
    (h : IsRebuilt r s source script nodes starts leads g) :
    (∃ k i, script.Chooses r s k i ∧ i.StartsFlow r s) ↔
      ∃ n, Canvas.startNode? r script.items nodes = some n ∧ r.isEntry n.type = true := by
  constructor
  · rintro ⟨k, i, chosen, entry⟩
    obtain ⟨n, hn⟩ := h.items.exists_getElem? chosen.here
    have type : n.type = i.kindTag r s := congrArg Node.type (h.items.getElem? chosen.here hn).1
    refine ⟨n, (Canvas.startNode?_eq indexed h.items chosen).trans hn, ?_⟩
    exact type ▸ (StoredItem.startsFlow_iff indexed).1 entry
  · rintro ⟨n, first, entry⟩
    obtain ⟨k, i, chosen, -, starts⟩ := h.exists_chosen indexed first
    exact ⟨k, i, chosen, starts.2 entry⟩

/-- Nothing is said of the start if at most one item is marked and the flow starts at an entry. -/
theorem startWarnings_eq_nil_iff :
    startWarnings r items nodes = [] ↔ items.countP (·.isEntry) ≤ 1 ∧
      ∃ n, Canvas.startNode? r items nodes = some n ∧ r.isEntry n.type = true := by
  rw [startWarnings, ← length_markedItems]
  cases Canvas.startNode? r items nodes with
  | none => simp
  | some n =>
    dsimp only
    rw [List.append_eq_nil_iff, markedWarnings_eq_nil_iff]
    simp

/-! ## Ways on -/

theorem Graph.wayWarnings_eq_nil_iff {id target : String} :
    g.wayWarnings id target = [] ↔ g.hasNode target = true := by
  rw [wayWarnings]
  split <;> simp_all

theorem StoredItem.nextWarnings_eq_nil_iff {id : String} {i : StoredItem} :
    i.nextWarnings s g id = [] ↔
      ∀ t, (i.next <|> i.connectedTo) = some t → t ≠ "" → t ≠ s.finishWord →
        g.hasNode t = true := by
  rw [nextWarnings]
  cases i.next <|> i.connectedTo with
  | none => simp
  | some target =>
    simp only [Option.some.injEq, forall_eq']
    split
    · rename_i nowhere
      rw [Bool.or_eq_true, beq_iff_eq, beq_iff_eq] at nowhere
      exact iff_of_true rfl fun some other ↦ absurd nowhere (not_or.2 ⟨some, other⟩)
    · rename_i somewhere
      rw [Bool.or_eq_true, beq_iff_eq, beq_iff_eq, not_or] at somewhere
      simp [Graph.wayWarnings_eq_nil_iff, somewhere]

theorem StoredBranch.warnings_eq_nil_iff {id : String} {b : StoredBranch} :
    b.warnings g id = [] ↔ ∃ t, b.target = some t ∧ t ≠ "" ∧ g.hasNode t = true := by
  rw [warnings]
  cases b.target with
  | none => simp
  | some target => by_cases none : target = "" <;> simp [none, Graph.wayWarnings_eq_nil_iff]

/-- Where nothing is said of the ways on of an item, its edges lead to nodes. -/
theorem StoredItem.hasNode_target {id : String} {i : StoredItem}
    (silent : i.wayWarnings s g id = []) : ∀ e ∈ i.edges s id, g.hasNode e.target = true := by
  obtain ⟨next, branches⟩ := List.append_eq_nil_iff.1 silent
  intro e he
  rcases List.mem_append.1 he with he | he
  · rw [nextWarnings] at next
    cases target : i.next <|> i.connectedTo with
    | none =>
      rw [target] at he
      cases he
    | some t =>
      simp only [target] at he next
      split at he
      · cases he
      · rename_i somewhere
        rw [if_neg somewhere] at next
        rw [List.mem_singleton.1 he]
        exact Graph.wayWarnings_eq_nil_iff.1 next
  · obtain ⟨b, hb, he⟩ := List.mem_filterMap.1 he
    obtain ⟨t, ht, some, there⟩ :=
      StoredBranch.warnings_eq_nil_iff.1 (List.flatMap_eq_nil_iff.1 branches b hb)
    rw [StoredBranch.edge?, ht, Option.getD_some, if_neg some] at he
    cases he
    exact there

/-! ## Scripts -/

namespace IsRebuilt

variable (h : IsRebuilt r s source script nodes starts leads g)
  (apart : ∀ j, source.supply j ∉ script.names)
include h apart

/-- A target is a node if it is the id of an item. -/
theorem hasNode_iff_names {t : String} (some : t ≠ "") (target : t ∈ script.targets) :
    g.hasNode t = true ↔ script.Names t := by
  rw [h.hasNode_iff some fun k drawn ↦ apart k (List.mem_append_right _ (drawn ▸ target))]
  exact exists_congr fun i ↦ and_congr_right fun _ ↦
    ⟨fun own ↦ i.id_eq_some_of_getD own some, fun own ↦ by rw [own]; rfl⟩

/-- Nothing is said of ways on that all lead to items. -/
theorem forall_wayWarnings_eq_nil_iff :
    (∀ p ∈ script.items.zip nodes, p.1.wayWarnings s g p.2.id = []) ↔
      (∀ i ∈ script.items, ∀ t, (i.next <|> i.connectedTo) = some t → t ≠ "" →
        t ≠ s.finishWord → script.Names t) ∧
      ∀ i ∈ script.items, ∀ b ∈ i.branches, ∃ t, b.target = some t ∧ t ≠ "" ∧ script.Names t := by
  have next {i : StoredItem} {t : String} (hi : i ∈ script.items)
      (ht : (i.next <|> i.connectedTo) = some t) :
      t ∈ script.targets :=
    List.mem_flatMap.2 ⟨i, hi, List.mem_append_left _ (Option.mem_toList.2 ht)⟩
  have branch {i : StoredItem} {b : StoredBranch} {t : String} (hi : i ∈ script.items)
      (hb : b ∈ i.branches) (ht : b.target = some t) : t ∈ script.targets :=
    List.mem_flatMap.2 ⟨i, hi, List.mem_append_right _ (List.mem_filterMap.2 ⟨b, hb, ht⟩)⟩
  simp only [StoredItem.wayWarnings, List.append_eq_nil_iff, List.flatMap_eq_nil_iff,
    StoredItem.nextWarnings_eq_nil_iff, StoredBranch.warnings_eq_nil_iff]
  constructor
  · refine fun silent ↦ ⟨fun i hi t ht some other ↦ ?_, fun i hi b hb ↦ ?_⟩
    · obtain ⟨n, -, hp⟩ := h.mem_zip_of_item hi
      exact (h.hasNode_iff_names apart some (next hi ht)).1 ((silent _ hp).1 t ht some other)
    · obtain ⟨n, -, hp⟩ := h.mem_zip_of_item hi
      obtain ⟨t, ht, some, there⟩ := (silent _ hp).2 b hb
      exact ⟨t, ht, some, (h.hasNode_iff_names apart some (branch hi hb ht)).1 there⟩
  · rintro ⟨nexts, branches⟩ ⟨i, n⟩ hp
    have hi := (List.of_mem_zip hp).1
    refine ⟨fun t ht some other ↦ ?_, fun b hb ↦ ?_⟩
    · exact (h.hasNode_iff_names apart some (next hi ht)).2 (nexts i hi t ht some other)
    · obtain ⟨t, ht, some, named⟩ := branches i hi b hb
      exact ⟨t, ht, some, (h.hasNode_iff_names apart some (branch hi hb ht)).2 named⟩

end IsRebuilt

namespace StoredScript

variable {ids ids' : IdStream}

/-- A graph is rebuilt without a warning if and only if the script is unambiguous. -/
theorem warnings_rebuild_eq_nil_iff (indexed : r.IsIndexed)
    (apart : ∀ j, ids.source.supply j ∉ script.names)
    (h : script.rebuild r s ids = (.ok g, ids')) :
    g.warnings = [] ↔ script.IsUnambiguous r s := by
  obtain ⟨⟨nodes, starts, leads, rebuilt⟩, -⟩ := rebuild_spec h
  have distinct : (nodes.map Node.id).Nodup := by
    have all := rebuilt.nodup
    rw [List.map_append] at all
    exact (List.nodup_append.1 all).1
  rw [warnings_rebuild h, warnings, rebuilt.take_rows, List.append_eq_nil_iff,
    List.append_eq_nil_iff, List.flatMap_eq_nil_iff, startWarnings_eq_nil_iff,
    ← rebuilt.exists_startsFlow_iff indexed,
    rebuilt.items.itemWarnings_eq_nil_iff indexed distinct (IsRebuilt.notMem_ids apart)]
  have ways := rebuilt.forall_wayWarnings_eq_nil_iff apart
  constructor
  · rintro ⟨⟨⟨named, distinct, kinds⟩, marked, entry⟩, silent⟩
    obtain ⟨next, branches⟩ := ways.1 silent
    refine ⟨?_, named, distinct, kinds, marked, entry, next, branches⟩
    rintro none
    obtain ⟨k, i, chosen, -⟩ := entry
    simpa [none] using chosen.here
  · intro h
    exact ⟨⟨⟨h.named, h.distinct, h.kinds⟩, h.marked, h.entry⟩, ways.2 ⟨h.next, h.branches⟩⟩

/-- What a validation does not miss in a graph that was rebuilt without a warning. -/
theorem sound_of_isUnambiguous (indexed : r.IsIndexed)
    (apart : ∀ j, ids.source.supply j ∉ script.names)
    (h : script.rebuild r s ids = (.ok g, ids')) (clear : script.IsUnambiguous r s) :
    g.entries r ≠ [] ∧
      (∀ e ∈ g.edges.rows, g.hasNode e.source = true ∧ g.hasNode e.target = true) ∧
      ∀ n ∈ g.nodes.rows, r.isKnown n.type = true := by
  obtain ⟨⟨nodes, starts, leads, rebuilt⟩, -⟩ := rebuild_spec h
  have silent := (rebuilt.forall_wayWarnings_eq_nil_iff apart).2 ⟨clear.next, clear.branches⟩
  obtain ⟨n, first, entry⟩ := (rebuilt.exists_startsFlow_iff indexed).1 clear.entry
  have start := rebuilt.start
  rw [first] at start
  obtain ⟨rfl, rfl⟩ := start.eq_nil entry
  have rows : g.nodes.rows = nodes := by rw [rebuilt.rows, List.append_nil]
  refine ⟨?_, fun e he ↦ ⟨rebuilt.hasNode_source e he, ?_⟩, fun m hm ↦ ?_⟩
  · refine List.ne_nil_of_mem (a := n) (List.mem_filter.2 ⟨?_, entry⟩)
    exact rows ▸ Canvas.mem_of_startNode? first
  · have mem := List.mem_map_of_mem (f := Edge.unnamed) he
    rw [rebuilt.edges, List.nil_append] at mem
    obtain ⟨p, hp, own⟩ := List.mem_flatMap.1 mem
    exact StoredItem.hasNode_target (silent p hp) e.unnamed own
  · have types := rebuilt.items.map_type
    have mem := List.mem_map_of_mem (f := Node.type) (rows ▸ hm)
    rw [types] at mem
    obtain ⟨i, hi, same⟩ := List.mem_map.1 mem
    exact same ▸ (clear.kinds i hi).isKnown_kindTag indexed

/-- Whatever a script says, a graph is rebuilt from it if there is a start kind, and without a
warning exactly if the script is unambiguous. A validation then misses no entry, node or kind. -/
theorem rebuild_silent_iff {kinds : List Kind} (built : Registry.ofList kinds = .ok r)
    (known : r.isKnown Kind.initTag = true) (apart : ∀ j, ids.source.supply j ∉ script.names) :
    ∃ g after, script.rebuild r s ids = (.ok g, after) ∧
      (g.warnings = [] ↔ script.IsUnambiguous r s) ∧
      (g.warnings = [] → ∀ f ∈ g.validate r,
        f.code ∉ ["MissingEntryNode", "NodeNotFound", "UnknownNodeKind"]) := by
  obtain ⟨g, after, rebuilt⟩ := script.exists_rebuild_of_isKnown s ids known
  have indexed := Registry.IsIndexed.ofList built
  have clear := warnings_rebuild_eq_nil_iff indexed apart rebuilt
  refine ⟨g, _, rebuilt, clear, fun silent f hf ↦ ?_⟩
  obtain ⟨entry, ends, kinds⟩ := sound_of_isUnambiguous indexed apart rebuilt (clear.1 silent)
  exact Graph.code_of_mem_validate entry ends kinds hf

/-- An entry that is told by its template goes on, by the older name of the way, to a switchboard
with a branch back to itself. -/
theorem menu_rebuild_silent :
    let first : StoredItem :=
      { id := some "1", name := none, type := none, templateId := some 2, enabled := true,
        isEntry := false, values := [], next := none, connectedTo := some "2", branches := [] }
    let menu : StoredItem :=
      { id := some "2", name := none, type := some "switchboard", templateId := none,
        enabled := true, isEntry := false, values := [], next := some "", connectedTo := none,
        branches := [⟨some "again", some "2", none⟩] }
    let script : StoredScript := ⟨[first, menu]⟩
    script.IsUnambiguous Catalog.registry {} ∧
      ∃ g after, script.rebuild Catalog.registry {} ⟨.listed [], 0⟩ = (.ok g, after) ∧
        (g.warnings = [] ↔ script.IsUnambiguous Catalog.registry {}) ∧
        (g.warnings = [] → ∀ f ∈ g.validate Catalog.registry,
          f.code ∉ ["MissingEntryNode", "NodeNotFound", "UnknownNodeKind"]) := by
  intro first menu script
  have built : Registry.ofList Catalog.kinds = .ok Catalog.registry := rfl
  have short : ∀ id ∈ script.names, id.length ≤ 3 := by decide +kernel
  have apart := IdSource.supply_listed_notMem short
  refine ⟨?_, rebuild_silent_iff built (by decide +kernel) apart⟩
  have indexed := Registry.IsIndexed.ofList built
  have sole := indexed.isSome_ofTemplate?_iff (t := 2)
  have starts : first.StartsFlow Catalog.registry {} :=
    (StoredItem.startsFlow_iff indexed).2 (by decide +kernel)
  have ofMenu : menu.HasKind Catalog.registry :=
    .typed "switchboard" rfl (by decide) (by decide +kernel)
  exact {
    nonempty := List.cons_ne_nil _ _
    named := by simp [script, first, menu]
    distinct := by decide +kernel
    kinds := by
      refine List.forall_mem_cons.2 ⟨?_, List.forall_mem_singleton.2 ofMenu⟩
      exact .template rfl 2 rfl (sole.1 (by decide +kernel))
    marked := by decide +kernel
    entry := ⟨0, first, .entry rfl (by simp [script, first, menu]) starts (by simp), starts⟩
    next := by simp [script, first, menu, Names]
    branches := by simp [script, first, menu, Names] }

end StoredScript

end CallFlow
