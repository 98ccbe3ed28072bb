import CallFlow.Proofs.Canvas
import CallFlow.Proofs.Script.Rebuild
import CallFlow.Proofs.Validation

/-!
# Verdicts do not depend on ids

Two graphs that were made of the same script, or fresh, differ in the ids that were drawn. One is
valid if the other is, as long as no id that may be drawn is a target of the script: otherwise an
edge might end at a node by accident.
-/

namespace CallFlow

/-! ## Twins -/

namespace Graph

variable {r : Registry} {g g' : Graph}

/-- A node of one graph is like a node of another, but for ids: its kind, its data and the labels of
the edges that leave it. -/
structure Twins (g g' : Graph) (n n' : Node) : Prop where
  type : n.type = n'.type
  data : n.data = n'.data
  labels : (g.outgoing n.id).map Edge.label = (g'.outgoing n'.id).map Edge.label

/-- A graph is valid if every node has a twin in a valid graph of the same kinds of nodes, and all
its edges end at nodes. -/
theorem isValid_of_twins (types : g'.nodes.rows.map Node.type = g.nodes.rows.map Node.type)
    (twins : ∀ n' ∈ g'.nodes.rows, ∃ n ∈ g.nodes.rows, g.Twins g' n n')
    (endpoints : ∀ e ∈ g'.edges.rows, g'.hasNode e.source = true ∧ g'.hasNode e.target = true)
    (valid : g.IsValid r) : g'.IsValid r where
  soleEntry := by
    have count : ∀ g : Graph, (g.entries r).length =
        ((g.nodes.rows.map Node.type).filter r.isEntry).length := fun g ↦ by
      rw [List.filter_map, List.length_map]
      rfl
    rw [count, types, ← count, valid.soleEntry]
  filledIn n' hn' f hf := by
    obtain ⟨n, hn, twins⟩ := twins n' hn'
    rw [← twins.data]
    exact valid.filledIn n hn f (twins.type ▸ hf)
  typed n' hn' f hf := by
    obtain ⟨n, hn, twins⟩ := twins n' hn'
    rw [← twins.data]
    exact valid.typed n hn f (twins.type ▸ hf)
  withinLimit n' hn' limit hl := by
    obtain ⟨n, hn, twins⟩ := twins n' hn'
    have length : (g.outgoing n.id).length = (g'.outgoing n'.id).length := by
      simpa using congrArg List.length twins.labels
    rw [← length]
    exact valid.withinLimit n hn limit (twins.type ▸ hl)
  endpoints := endpoints
  labelled e' he' n' hn' branching := by
    obtain ⟨inside, source⟩ := Table.get?_eq_some_iff.1 hn'
    obtain ⟨n, hn, twins⟩ := twins n' inside
    have leaves : e'.label ∈ (g'.outgoing n'.id).map Edge.label :=
      List.mem_map_of_mem (List.mem_filter.2 ⟨he', beq_iff_eq.2 source.symm⟩)
    rw [← twins.labels] at leaves
    obtain ⟨e, he, label⟩ := List.mem_map.1 leaves
    obtain ⟨he, source⟩ := List.mem_filter.1 he
    have found : g.node? e.source = some n :=
      Table.get?_eq_some_iff.2 ⟨hn, (beq_iff_eq.1 source).symm⟩
    rw [← label]
    exact valid.labelled e he n found (twins.type ▸ branching)

end Graph

/-! ## What the script says -/

/-- The targets that an item names. -/
def StoredItem.targets (i : StoredItem) : List String :=
  (i.next <|> i.connectedTo).toList ++ i.branches.filterMap (·.target)

/-- The targets that a script names. -/
def StoredScript.targets (script : StoredScript) : List String :=
  script.items.flatMap StoredItem.targets

/-- The way of a branch, which is the same from every node. -/
def Edge.way (e : Edge) : Option String × String := (e.label, e.target)

theorem StoredBranch.map_way_edge? (b : StoredBranch) (source source' : String) :
    (b.edge? source).map Edge.way = (b.edge? source').map Edge.way := by
  rw [edge?, edge?]
  split <;> rfl

/-- The labels and targets of the edges of an item do not depend on where they start. -/
theorem StoredItem.map_way_edges (s : Settings) (i : StoredItem) (source source' : String) :
    (i.edges s source).map Edge.way = (i.edges s source').map Edge.way := by
  have branches : ∀ bs : List StoredBranch, (bs.filterMap (·.edge? source)).map Edge.way =
      (bs.filterMap (·.edge? source')).map Edge.way := fun bs ↦ by
    rw [List.map_filterMap, List.map_filterMap]
    exact congrArg (bs.filterMap ·) (funext fun b ↦ b.map_way_edge? source source')
  rw [edges, edges, List.map_append, List.map_append, branches]
  cases i.next <|> i.connectedTo with
  | none => rfl
  | some target =>
    dsimp only
    split <;> rfl

theorem StoredItem.target_mem {s : Settings} {i : StoredItem} {source : String} {e : Edge}
    (h : e ∈ i.edges s source) : e.target ∈ i.targets := by
  rw [edges, List.mem_append, List.mem_filterMap] at h
  rw [targets, List.mem_append, List.mem_filterMap]
  rcases h with h | ⟨b, hb, h⟩
  · left
    cases next : i.next <|> i.connectedTo with
    | none =>
      rw [next] at h
      cases h
    | some target =>
      simp only [next] at h
      split at h
      · cases h
      · obtain rfl := List.mem_singleton.1 h
        simp
  · right
    refine ⟨b, hb, ?_⟩
    rw [StoredBranch.edge?] at h
    split at h
    · cases h
    · rename_i some
      cases h
      cases target : b.target with
      | none =>
        rw [target] at some
        exact absurd rfl some
      | some t => rfl

namespace AreItemNodes

variable {r : Registry} {s : Settings} {source : IdSource} {taken : List String} {index : Nat}
  {items : List StoredItem} {nodes : List Node}

theorem map_type (h : AreItemNodes r s source taken index items nodes) :
    nodes.map Node.type = items.map (·.kindTag r s) := by
  induction h with
  | nil => rfl
  | cons _ _ ih => exact congrArg _ ih

/-- Kind and data of a node are those that its item says. -/
theorem of_mem_zip (h : AreItemNodes r s source taken index items nodes) :
    ∀ p ∈ items.zip nodes,
      p.2.type = p.1.kindTag r s ∧ p.2.data = p.1.data r (p.1.kindTag r s) := by
  induction h with
  | nil => exact fun _ hp ↦ (nomatch hp)
  | cons _ _ ih => exact List.forall_mem_cons.2 ⟨⟨rfl, rfl⟩, ih⟩

/-- Each id of an item is that of a node, unless it was taken before. -/
theorem mem_ids (h : AreItemNodes r s source taken index items nodes) {t : String} (some : t ≠ "")
    (named : ∃ i ∈ items, i.id.getD "" = t) : t ∈ taken ∨ t ∈ nodes.map Node.id := by
  induction h with
  | nil => exact nomatch named
  | @cons taken _ i _ id nodes given _ ih =>
    obtain ⟨j, hj, rfl⟩ := named
    rcases List.mem_cons.1 hj with rfl | hj
    · cases given with
      | own own => exact .inr (own ▸ List.mem_cons_self)
      | drawn k without => exact .inl (without.resolve_left some)
    · rcases ih ⟨j, hj, rfl⟩ with used | there
      · rcases List.mem_cons.1 used with rfl | used
        · exact .inr List.mem_cons_self
        · exact .inl used
      · exact .inr (List.mem_cons_of_mem _ there)

/-- The id of a node is that of an item, or it was drawn. -/
theorem id_of_mem (h : AreItemNodes r s source taken index items nodes) {n : Node}
    (hn : n ∈ nodes) :
    (∃ i ∈ items, i.id.getD "" = n.id) ∨ ∃ k, n.id = source.supply k := by
  induction h with
  | nil => cases hn
  | @cons _ _ i _ id nodes given _ ih =>
    rcases List.mem_cons.1 hn with rfl | hn
    · cases given with
      | own own => exact .inl ⟨i, List.mem_cons_self, own⟩
      | drawn k => exact .inr ⟨k, rfl⟩
    · exact (ih hn).imp_left fun ⟨j, hj, same⟩ ↦ ⟨j, List.mem_cons_of_mem i hj, same⟩

end AreItemNodes

/-! ## The start -/

namespace Canvas

variable {r : Registry} {items : List StoredItem} {nodes nodes' : List Node}

/-- Of what kind the first node is depends on the kinds of the nodes alone. -/
theorem map_type_startNode? (r : Registry) (items : List StoredItem)
    (same : nodes.map Node.type = nodes'.map Node.type) :
    (startNode? r items nodes).map Node.type = (startNode? r items nodes').map Node.type := by
  rw [startNode?, startNode?]
  cases markedItems items with
  | cons i _ =>
    change nodes[i]?.map Node.type = nodes'[i]?.map Node.type
    rw [← List.getElem?_map, same, List.getElem?_map]
  | nil =>
    have ofTypes : ∀ nodes : List Node,
        (nodes.find? (r.isEntry ·.type) <|> nodes.head?).map Node.type =
          ((nodes.map Node.type).find? r.isEntry <|> (nodes.map Node.type).head?) := by
      intro nodes
      rw [List.find?_map, List.head?_map]
      change _ = ((nodes.find? (r.isEntry ·.type)).map Node.type <|> nodes.head?.map Node.type)
      cases nodes.find? (r.isEntry ·.type) <;> rfl
    rw [ofTypes, ofTypes, same]

theorem mem_of_startNode? {n : Node} (h : startNode? r items nodes = some n) : n ∈ nodes := by
  rw [startNode?] at h
  split at h
  · exact List.mem_of_getElem? h
  · cases found : nodes.find? (r.isEntry ·.type) with
    | none =>
      rw [found] at h
      exact List.mem_of_head? h
    | some m =>
      rw [found] at h
      obtain rfl := Option.some.inj h
      exact List.mem_of_find?_eq_some found

end Canvas

namespace IsStart

variable {r : Registry} {s : Settings} {source : IdSource} {first first' : Option Node}
  {starts starts' : List Node} {leads leads' : List Edge}

/-- What is added to make two flows start that begin with the same kind of node is alike. -/
theorem alike (h : IsStart r s source first starts leads)
    (h' : IsStart r s source first' starts' leads')
    (same : first'.map Node.type = first.map Node.type) :
    starts'.map Node.type = starts.map Node.type ∧
      (∀ n' ∈ starts', ∃ n ∈ starts, n.type = n'.type ∧ n.data = n'.data) ∧
      leads'.map Edge.label = leads.map Edge.label := by
  cases h with
  | @entry n entry =>
    cases h' with
    | entry => exact ⟨rfl, fun _ h ↦ (nomatch h), rfl⟩
    | @before n' _ _ other =>
      obtain same : n'.type = n.type := Option.some.inj same
      rw [same, entry] at other
      cases other
    | alone => cases same
  | @before n k _ other known =>
    cases h' with
    | @entry n' entry =>
      obtain same : n'.type = n.type := Option.some.inj same
      rw [← same, entry] at other
      cases other
    | before _ _ known' =>
      obtain rfl := Option.some.inj (known.symm.trans known')
      exact ⟨rfl, List.forall_mem_singleton.2 ⟨_, List.mem_singleton_self _, rfl, rfl⟩, rfl⟩
    | alone => cases same
  | alone _ known =>
    cases h' with
    | entry | before => cases same
    | alone _ known' =>
      obtain rfl := Option.some.inj (known.symm.trans known')
      exact ⟨rfl, List.forall_mem_singleton.2 ⟨_, List.mem_singleton_self _, rfl, rfl⟩, rfl⟩

end IsStart

/-! ## Rebuilt graphs -/

namespace IsRebuilt

variable {r : Registry} {s : Settings} {source : IdSource} {script : StoredScript}
  {nodes starts nodes' starts' : List Node} {leads leads' : List Edge} {g g' : Graph}

/-- Where a target is no id of the source, it is a node exactly if an item has it as its id. -/
theorem hasNode_iff (h : IsRebuilt r s source script nodes starts leads g) {t : String}
    (some : t ≠ "") (apart : ∀ k, source.supply k ≠ t) :
    g.hasNode t = true ↔ ∃ i ∈ script.items, i.id.getD "" = t := by
  rw [Graph.hasNode, Table.has_iff, Table.keys, h.rows, List.map_append, List.mem_append]
  constructor
  · rintro (there | there)
    · obtain ⟨n, hn, rfl⟩ := List.mem_map.1 there
      rcases h.items.id_of_mem hn with named | ⟨k, drawn⟩
      · exact named
      · exact absurd drawn.symm (apart k)
    · obtain ⟨n, hn, rfl⟩ := List.mem_map.1 there
      obtain ⟨_, j, -, rfl⟩ := h.start.start_of_mem hn
      exact absurd rfl (apart j)
  · intro named
    exact .inl ((h.items.mem_ids some named).resolve_left (List.not_mem_nil))

theorem mem_zip_of_mem (h : IsRebuilt r s source script nodes starts leads g) {n : Node}
    (hn : n ∈ nodes) : ∃ i ∈ script.items, (i, n) ∈ script.items.zip nodes := by
  have all : (script.items.zip nodes).map Prod.snd = nodes :=
    List.map_snd_zip (Nat.le_of_eq h.items.length_eq)
  rw [← all] at hn
  obtain ⟨⟨i, _⟩, hp, rfl⟩ := List.mem_map.1 hn
  exact ⟨i, (List.of_mem_zip hp).1, hp⟩

theorem mem_zip_of_item (h : IsRebuilt r s source script nodes starts leads g) {i : StoredItem}
    (hi : i ∈ script.items) : ∃ n ∈ nodes, (i, n) ∈ script.items.zip nodes := by
  have all : (script.items.zip nodes).map Prod.fst = script.items :=
    List.map_fst_zip (Nat.le_of_eq h.items.length_eq.symm)
  rw [← all] at hi
  obtain ⟨⟨_, n⟩, hp, rfl⟩ := List.mem_map.1 hi
  exact ⟨n, (List.of_mem_zip hp).2, hp⟩

theorem labels_eq {edges : List Edge} {g : Graph} {id : String}
    (h : (g.outgoing id).map Edge.unnamed = edges) :
    (g.outgoing id).map Edge.label = edges.map Edge.label := by
  rw [← h, List.map_map]
  rfl

section Two

variable (h : IsRebuilt r s source script nodes starts leads g)
  (h' : IsRebuilt r s source script nodes' starts' leads' g')
include h h'

theorem start_alike : starts'.map Node.type = starts.map Node.type ∧
    (∀ n' ∈ starts', ∃ n ∈ starts, n.type = n'.type ∧ n.data = n'.data) ∧
    leads'.map Edge.label = leads.map Edge.label :=
  h.start.alike h'.start (Canvas.map_type_startNode? r script.items
    (h'.items.map_type.trans h.items.map_type.symm))

theorem types_eq : g'.nodes.rows.map Node.type = g.nodes.rows.map Node.type := by
  rw [h.rows, h'.rows, List.map_append, List.map_append, h.items.map_type, h'.items.map_type,
    (h.start_alike h').1]

/-- Every node of one graph has a twin in the other. -/
theorem exists_twin {n' : Node} (hn' : n' ∈ g'.nodes.rows) :
    ∃ n ∈ g.nodes.rows, g.Twins g' n n' := by
  rw [h'.rows] at hn'
  rw [h.rows]
  rcases List.mem_append.1 hn' with hn' | hn'
  · obtain ⟨i, hi, hp'⟩ := h'.mem_zip_of_mem hn'
    obtain ⟨n, hn, hp⟩ := h.mem_zip_of_item hi
    obtain ⟨type, data⟩ := h.items.of_mem_zip _ hp
    obtain ⟨type', data'⟩ := h'.items.of_mem_zip _ hp'
    refine ⟨n, List.mem_append_left _ hn, type.trans type'.symm, data.trans data'.symm, ?_⟩
    rw [labels_eq (h.outgoing_item hp), labels_eq (h'.outgoing_item hp')]
    have ways := congrArg (List.map Prod.fst) (i.map_way_edges s n.id n'.id)
    rwa [List.map_map, List.map_map] at ways
  · obtain ⟨-, like, labels⟩ := h.start_alike h'
    obtain ⟨n, hn, type, data⟩ := like n' hn'
    refine ⟨n, List.mem_append_right _ hn, type, data, ?_⟩
    rw [labels_eq (h.outgoing_start hn), labels_eq (h'.outgoing_start hn'), labels]

/-- If edges end at nodes in one graph, they do so in the other. -/
theorem endpoints (apart : ∀ k, source.supply k ∉ script.targets)
    (ends : ∀ e ∈ g.edges.rows, g.hasNode e.target = true) :
    ∀ e ∈ g'.edges.rows, g'.hasNode e.source = true ∧ g'.hasNode e.target = true := by
  have inside : ∀ n ∈ g'.nodes.rows, g'.hasNode n.id = true := fun n hn ↦
    Table.has_iff.2 (List.mem_map_of_mem hn)
  intro e he
  have mem := List.mem_map_of_mem (f := Edge.unnamed) he
  rw [h'.edges] at mem
  rcases List.mem_append.1 mem with lead | mem
  · obtain ⟨n, m, rfl, first, same⟩ := h'.start.lead_of_mem lead
    have hn : n ∈ g'.nodes.rows := h'.rows ▸ List.mem_append_right _ (List.mem_singleton_self n)
    have hm : m ∈ g'.nodes.rows := h'.rows ▸ List.mem_append_left _ (Canvas.mem_of_startNode? first)
    have source : e.source = n.id := congrArg Edge.source same
    have target : e.target = m.id := congrArg Edge.target same
    rw [source, target]
    exact ⟨inside n hn, inside m hm⟩
  · obtain ⟨⟨i, n'⟩, hp', own⟩ := List.mem_flatMap.1 mem
    obtain ⟨from', some, -⟩ := StoredItem.edges_spec own
    have hi := (List.of_mem_zip hp').1
    have target := StoredItem.target_mem own
    have named : e.target ∈ script.targets := List.mem_flatMap.2 ⟨i, hi, target⟩
    have undrawn : ∀ k, source.supply k ≠ e.target := fun k drawn ↦ apart k (drawn ▸ named)
    have hn' : n' ∈ g'.nodes.rows := h'.rows ▸ List.mem_append_left _ (List.of_mem_zip hp').2
    refine ⟨from'.symm ▸ inside n' hn', (h'.hasNode_iff some undrawn).2 ?_⟩
    obtain ⟨n, -, hp⟩ := h.mem_zip_of_item hi
    have way := List.mem_map_of_mem (f := Edge.way) own
    rw [i.map_way_edges s n'.id n.id] at way
    obtain ⟨d, hd, same⟩ := List.mem_map.1 way
    have other : d ∈ g.edges.rows.map Edge.unnamed := by
      rw [h.edges]
      exact List.mem_append_right _ (List.mem_flatMap.2 ⟨_, hp, hd⟩)
    obtain ⟨e₀, he₀, rfl⟩ := List.mem_map.1 other
    have target : e₀.target = e.target := congrArg Prod.snd same
    exact (h.hasNode_iff some undrawn).1 (target ▸ ends e₀ he₀)

/-- One graph is valid if the other is. -/
theorem isValid (apart : ∀ k, source.supply k ∉ script.targets) (valid : g.IsValid r) :
    g'.IsValid r :=
  Graph.isValid_of_twins (h.types_eq h') (fun _ hn' ↦ h.exists_twin h' hn')
    (h.endpoints h' apart fun e he ↦ (valid.endpoints e he).2) valid

end Two

end IsRebuilt

/-! ## Other ids -/

section OtherIds

variable {r : Registry} {s : Settings} {ids ids₁ ids₂ : IdStream} {g : Graph}
  (same : ids₂.source = ids.source)

theorem StoredScript.exists_rebuild (script : StoredScript) (ids₂ : IdStream)
    (h : ∃ g, (script.rebuild r s ids).1 = .ok g) : ∃ g, (script.rebuild r s ids₂).1 = .ok g := by
  have types : ∀ ids, (Canvas.addItems r s 0 script.items (.blank s ids)).1.map Node.type =
      script.items.map (·.kindTag r s) := fun ids ↦
    (Canvas.addItems_spec (c := .blank s ids) Canvas.isKept_blank 0 script.items).1.map_type
  have first := Canvas.map_type_startNode? r script.items
    ((types ids).trans (types ids₂).symm)
  rw [script.rebuild_fst_eq_ok_iff] at h ⊢
  rw [← Option.any_map (p := r.isEntry)] at h ⊢
  rwa [← first]

include same

/-- What is rebuilt from a script is valid whatever ids are drawn, if it is so for some. -/
theorem StoredScript.exists_valid_rebuild {script : StoredScript}
    (apart : ∀ k, ids.source.supply k ∉ script.targets)
    (h : script.rebuild r s ids = (.ok g, ids₁)) (valid : g.IsValid r) :
    ∃ g' ids', script.rebuild r s ids₂ = (.ok g', ids') ∧ g'.IsValid r := by
  obtain ⟨g', hg⟩ := script.exists_rebuild ids₂ ⟨g, congrArg Prod.fst h⟩
  have again : script.rebuild r s ids₂ = (.ok g', (script.rebuild r s ids₂).2) := Prod.ext hg rfl
  obtain ⟨⟨nodes, starts, leads, first⟩, -⟩ := StoredScript.rebuild_spec h
  obtain ⟨⟨nodes', starts', leads', second⟩, -⟩ := StoredScript.rebuild_spec again
  rw [same] at second
  exact ⟨g', _, again, first.isValid second apart valid⟩

omit same in
/-- So is a fresh graph. -/
theorem Canvas.exists_valid_fresh (ids₂ : IdStream) {c : Canvas}
    (h : Canvas.fresh r s ids = .ok c)
    (valid : c.graph.IsValid r) :
    ∃ c', Canvas.fresh r s ids₂ = .ok c' ∧ c'.graph.IsValid r := by
  obtain ⟨k, known, room, rfl⟩ := Canvas.fresh_eq_ok_iff.1 h
  have types : (Canvas.lone s k ids₂.draw.1).nodes.rows.map Node.type =
      (Canvas.lone s k ids.draw.1).nodes.rows.map Node.type := rfl
  refine ⟨_, Canvas.fresh_eq_ok_iff.2 ⟨k, known, room, rfl⟩,
    Graph.isValid_of_twins types ?_ ?_ valid⟩
  · exact List.forall_mem_singleton.2 ⟨_, List.mem_singleton_self _, rfl, rfl, rfl⟩
  · exact fun _ h ↦ (nomatch h)

end OtherIds

end CallFlow
