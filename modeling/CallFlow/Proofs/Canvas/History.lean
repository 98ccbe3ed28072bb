import CallFlow.Catalog
import CallFlow.Proofs.Body.Load
import CallFlow.Proofs.Edit.Effect
import CallFlow.Proofs.Script.Rebuild
import CallFlow.Session
import Mathlib.Data.List.Chain

/-!
# Ids over the history of a canvas

However an editor got a graph, no id that anything in it ever had is given to something new: not
after its node or edge was removed, and not after a batch was rolled back
(`Canvas.ids_never_reused`). What is issued is remembered from each canvas of a history to the next,
also across a rollback, and new ids are drawn outside of what was issued.
-/

namespace CallFlow

/-! ## Graphs to start from -/

/-- A graph as an editor may get it: that of a new policy, one that was loaded from a body, or one
that was rebuilt from a script. -/
inductive Graph.IsObtained (r : Registry) (s : Settings) : Graph → Prop
  | fresh {ids : IdStream} {c : Canvas} (made : Canvas.fresh r s ids = .ok c) :
      IsObtained r s c.graph
  | loaded {b : Body} {g : Graph} (made : Graph.ofBody b = .ok g) : IsObtained r s g
  | rebuilt {script : StoredScript} {ids ids' : IdStream} {g : Graph}
      (made : script.rebuild r s ids = (.ok g, ids')) : IsObtained r s g

namespace Graph

variable {r : Registry} {s : Settings} {g : Graph}

theorem IsObtained.isKept (h : g.IsObtained r s) : g.IsKept := by
  cases h with
  | fresh made =>
    obtain ⟨k, -, -, rfl⟩ := Canvas.fresh_eq_ok_iff.1 made
    exact Canvas.isKept_lone s k _
  | loaded made => exact isKept_ofBody made
  | rebuilt made =>
    obtain ⟨⟨nodes, starts, leads, built⟩, -⟩ := StoredScript.rebuild_spec made
    exact built.kept

/-- The ids of all nodes and all edges. -/
def idsInUse (g : Graph) : List String := g.nodes.keys ++ g.edges.keys

theorem IsKept.nodup_idsInUse (kept : g.IsKept) : g.idsInUse.Nodup := by
  refine List.nodup_append.2 ⟨g.nodes.distinct, g.edges.distinct, fun id hn _ he ↦ ?_⟩
  obtain ⟨n, inNodes, rfl⟩ := List.mem_map.1 hn
  obtain ⟨e, inEdges, rfl⟩ := List.mem_map.1 he
  exact kept.apart n inNodes e inEdges

theorem IsKept.idsInUse_subset (kept : g.IsKept) : g.idsInUse ⊆ g.issued :=
  List.append_subset.2 ⟨List.forall_mem_map.2 kept.nodes, List.forall_mem_map.2 kept.edges⟩

theorem idsInUse_subset_of_rows {g' : Graph} (nodes : g'.nodes.rows ⊆ g.nodes.rows)
    (edges : g'.edges.rows ⊆ g.edges.rows) : g'.idsInUse ⊆ g.idsInUse :=
  List.append_subset.2 ⟨fun _ h ↦ List.mem_append_left _ (List.map_subset _ nodes h),
    fun _ h ↦ List.mem_append_right _ (List.map_subset _ edges h)⟩

theorem idsInUse_replaceNode (g : Graph) {old n : Node} (inside : old ∈ g.nodes.rows)
    (same : n.id = old.id) : (g.insertNode n).idsInUse ⊆ g.idsInUse := by
  have keys : (g.insertNode n).nodes.keys = g.nodes.keys :=
    (g.nodes.keys_put n).trans (if_pos (List.mem_map.2 ⟨old, inside, same.symm⟩))
  rw [idsInUse, keys, edges_insertNode]
  exact List.Subset.refl _

end Graph

/-! ## Histories -/

namespace Canvas

/-- What may happen to a canvas: somebody asks for an edit or for a batch of actions, made or
refused, or the source of ids is used for another graph. -/
inductive Change where
  | edit (e : Edit)
  | batch (actions : List Action)
  | elsewhere (ids : IdStream)

variable (r : Registry) (s : Settings)

/-- The canvases after each action of a batch, up to the first that fails. -/
def stages : List Action → Canvas → List Canvas
  | [], _ => []
  | a :: rest, c =>
    match c.perform r s a with
    | .error _ => []
    | .ok (_, c') => c' :: stages rest c'

namespace Change

/-- The canvases that come about in the middle of a change. -/
def within (c : Canvas) : Change → List Canvas
  | batch actions => stages r s actions c
  | edit _ | elsewhere _ => []

/-- The canvas after a change. A batch that fails is rolled back. -/
def result (c : Canvas) : Change → Canvas
  | edit e => c.after r s e
  | batch actions => (performAll r s actions c).2
  | elsewhere ids => { c with ids }

end Change

/-- All canvases that come about from one on, those in the middle of batches included. -/
def history (c : Canvas) : List Change → List Canvas
  | [] => [c]
  | change :: rest => c :: change.within r s c ++ history (change.result r s c) rest

/-! ## What is remembered -/

/-- A later canvas, on which every id that was issued is still issued. -/
structure Remembers (c c' : Canvas) : Prop where
  kept : c'.graph.IsKept
  issued : c.graph.issued ⊆ c'.graph.issued

variable {r s} {c c' c'' : Canvas}

theorem Remembers.refl (kept : c.graph.IsKept) : c.Remembers c := ⟨kept, List.Subset.refl _⟩

theorem Remembers.trans (h : c.Remembers c') (h' : c'.Remembers c'') : c.Remembers c'' :=
  ⟨h'.kept, List.Subset.trans h.issued h'.issued⟩

instance : IsTrans Canvas Continues := ⟨fun _ _ _ ↦ .trans⟩

instance : IsTrans Canvas Remembers := ⟨fun _ _ _ ↦ .trans⟩

theorem Continues.remembers (h : c.Continues c') : c.Remembers c' := ⟨h.kept, h.issued⟩

theorem perform_continues (kept : c.graph.IsKept) {a : Action} {o : Outcome}
    (h : c.perform r s a = .ok (o, c')) : c.Continues c' := by
  obtain ⟨e, -, applied⟩ := Result.bind_eq_ok_iff.1 h
  exact (Edit.makes_of_apply (Result.mapError_eq_ok_iff.1 applied)).continues kept

/-- Actions lead to the last of the stages. -/
theorem snd_performAfter (actions : List Action) (past : List Performed) (c : Canvas) :
    (performAfter r s past actions c).2 = (stages r s actions c).getLastD c := by
  induction actions generalizing past c with
  | nil => rfl
  | cons a rest ih =>
    rw [performAfter, stages]
    cases perform r s c a with
    | error e => rfl
    | ok result =>
      obtain ⟨o, c'⟩ := result
      exact (ih _ c').trans (List.getLastD_cons ..).symm

theorem isChain_stages (kept : c.graph.IsKept) (actions : List Action) :
    (c :: stages r s actions c).IsChain Continues := by
  induction actions generalizing c with
  | nil => exact .singleton c
  | cons a rest ih =>
    rw [stages]
    split
    · exact .singleton c
    · rename_i o c' performed
      have later := perform_continues kept performed
      exact .cons_cons later (ih later.kept)

theorem continues_getLastD (kept : c.graph.IsKept) (actions : List Action) :
    c.Continues ((stages r s actions c).getLastD c) := by
  have later := (List.pairwise_cons.1 (List.isChain_iff_pairwise.1
    (isChain_stages (r := r) (s := s) kept actions))).1
  have last : (stages r s actions c).getLastD c ∈ c :: stages r s actions c :=
    List.getLastD_mem_cons
  rcases List.mem_cons.1 last with same | stage
  · rw [same]
    exact .refl kept
  · exact later _ stage

/-- A rollback forgets what was added, but not the ids. -/
theorem Continues.restore (h : c.Continues c') (kept : c.graph.IsKept) :
    c.Continues { c' with graph := c'.graph.restore c.graph } where
  kept := kept.of_subset (List.Subset.refl _) (List.Subset.refl _) h.issued
  warnings := h.warnings
  source := h.source
  drawn := h.drawn
  issued := h.issued
  supplied := h.supplied

/-- After a batch everything is issued that was issued after the last action that was made. -/
theorem performAll_continues (kept : c.graph.IsKept) (actions : List Action) :
    c.Continues (performAll r s actions c).2 ∧
      ((stages r s actions c).getLastD c).Remembers (performAll r s actions c).2 := by
  have last := continues_getLastD (r := r) (s := s) kept actions
  rw [← snd_performAfter actions [] c] at last ⊢
  rw [performAll]
  split
  · rename_i past c' performed
    rw [performed] at last ⊢
    exact ⟨last, .refl last.kept⟩
  · rename_i e c' performed
    rw [performed] at last ⊢
    exact ⟨last.restore kept, (last.restore kept).kept, List.Subset.refl _⟩

/-- A batch that fails leaves the graph as it was, but for ids. -/
theorem performAll_eq_error {actions : List Action} {e : Error}
    (h : performAll r s actions c = (.error e, c')) : c'.graph.nodes = c.graph.nodes ∧
      c'.graph.edges = c.graph.edges ∧ c'.graph.viewport = c.graph.viewport := by
  rw [performAll] at h
  split at h
  · cases h
  · cases h
    exact ⟨rfl, rfl, rfl⟩

theorem after_continues (kept : c.graph.IsKept) (e : Edit) : c.Continues (c.after r s e) := by
  rcases c.after_eq_or_makes r s e with same | ⟨o, made⟩
  · rw [same]
    exact .refl kept
  · exact made.continues kept

namespace Change

theorem isChain_within (kept : c.graph.IsKept) (change : Change) :
    (c :: change.within r s c).IsChain Remembers := by
  cases change with
  | batch actions => exact (isChain_stages kept actions).imp fun _ _ ↦ Continues.remembers
  | edit e | elsewhere ids => exact .singleton c

theorem result_remembers (kept : c.graph.IsKept) (change : Change) :
    ((change.within r s c).getLastD c).Remembers (change.result r s c) := by
  cases change with
  | edit e => exact (after_continues kept e).remembers
  | batch actions => exact (performAll_continues kept actions).2
  | elsewhere ids => exact ⟨kept, List.Subset.refl _⟩

end Change

theorem head?_history (r : Registry) (s : Settings) (c : Canvas) (changes : List Change) :
    (history r s c changes).head? = some c := by
  cases changes <;> rfl

theorem isChain_history (kept : c.graph.IsKept) (changes : List Change) :
    (history r s c changes).IsChain Remembers := by
  induction changes generalizing c with
  | nil => exact .singleton c
  | cons change rest ih =>
    have result := change.result_remembers (r := r) (s := s) kept
    refine List.isChain_append.2 ⟨change.isChain_within kept, ih result.kept, fun x hx y hy ↦ ?_⟩
    rw [List.getLast?_cons, ← List.getLastD_eq_getLast?, Option.mem_some_iff] at hx
    rw [head?_history, Option.mem_some_iff] at hy
    exact hx ▸ hy ▸ result

/-- All that came before is remembered, at every time. -/
theorem pairwise_history (kept : c.graph.IsKept) (changes : List Change) :
    (history r s c changes).Pairwise Remembers := List.isChain_iff_pairwise.1
  (isChain_history kept changes)

theorem isKept_of_mem_history (kept : c.graph.IsKept) {changes : List Change}
    (h : c' ∈ history r s c changes) : c'.graph.IsKept := by
  obtain ⟨rest, here⟩ := List.head?_eq_some_iff.1 (head?_history r s c changes)
  have all := pairwise_history (r := r) (s := s) kept changes
  rw [here] at h all
  rcases List.mem_cons.1 h with rfl | h
  · exact kept
  · exact ((List.pairwise_cons.1 all).1 c' h).kept

theorem idsInUse_subset_of_history (kept : c.graph.IsKept) {changes : List Change}
    {past future : List Canvas} (h : history r s c changes = past ++ c' :: future) :
    ∀ b ∈ past ++ [c'], b.graph.idsInUse ⊆ c'.graph.issued := by
  have all := pairwise_history (r := r) (s := s) kept changes
  have each (b : Canvas) (hb : b ∈ past ++ c' :: future) : b.graph.IsKept :=
    isKept_of_mem_history kept (h ▸ hb)
  rw [h] at all
  refine List.forall_mem_append.2 ⟨fun b hb ↦ ?_, List.forall_mem_singleton.2 ?_⟩
  · have later := (List.pairwise_append.1 all).2.2 b hb c' List.mem_cons_self
    exact List.Subset.trans (each b (List.mem_append_left _ hb)).idsInUse_subset later.issued
  · exact (each c' (List.mem_append_right _ List.mem_cons_self)).idsInUse_subset

/-! ## New ids -/

/-- What came of an edit, after the canvases of the past: something under an id that nothing had on
any of them, beside all that was there but for edges, or nothing new. -/
def IsNew (past : List Canvas) (c c' : Canvas) : Outcome → Prop
  | .node n => (∀ b ∈ past, n.id ∉ b.graph.idsInUse) ∧
    c'.graph.nodes.rows = c.graph.nodes.rows ++ [n] ∧ c'.graph.edges = c.graph.edges
  | .edge e => (∀ b ∈ past, e.id ∉ b.graph.idsInUse) ∧ c'.graph.nodes = c.graph.nodes ∧
    ∃ others, others.Sublist c.graph.edges.rows ∧ c'.graph.edges.rows = others ++ [e]
  | .done => c'.graph.idsInUse ⊆ c.graph.idsInUse

end Canvas

/-- What an edit adds is under an id that was never issued. -/
theorem Edit.Makes.isNew {r : Registry} {s : Settings} {c c' : Canvas} {past : List Canvas}
    (kept : c.graph.IsKept) (remembered : ∀ b ∈ past, b.graph.idsInUse ⊆ c.graph.issued) {e : Edit}
    {o : Outcome} (made : e.Makes r s c o c') : Canvas.IsNew past c c' o := by
  cases made with
  | @addNode tag position data k known first room =>
    have offers := c.offers_newId
    have added := offers.insertNode kept (n := k.node c.newId.1 position data)
    exact ⟨fun b hb used ↦ offers.new (remembered b hb used), added.nodes,
      Table.ext (added.edges.trans (List.append_nil _))⟩
  | updateNode n inside | moveNode n inside => exact c.graph.idsInUse_replaceNode inside rfl
  | removeNode n inside spare =>
    exact Graph.idsInUse_subset_of_rows List.filter_sublist.subset List.filter_sublist.subset
  | connect n e inside ends other limit made =>
    have cleared := (Canvas.continues_cleared (r := r) kept n).kept
    have offers : (c.cleared r n).Offers e.id (c.cleared r n).newId.2 :=
      made ▸ (c.cleared r n).offers_newId
    have new : e.id ∉ c.graph.issued := c.issued_cleared r n ▸ offers.new
    have added := offers.insertEdge cleared (made ▸ (c.cleared r n).exists_supply_newId)
    exact ⟨fun b hb used ↦ new (remembered b hb used),
      Table.ext (added.nodes.trans (by rw [List.append_nil, c.nodes_cleared r n])),
      _, c.edges_cleared_sublist r n, added.edges⟩
  | disconnect e inside =>
    exact Graph.idsInUse_subset_of_rows (List.Subset.refl _) List.filter_sublist.subset
  | setViewport viewport => exact List.Subset.refl _

/-- At every time in the history of a canvas, the ids in use are distinct, and no edit that is made
then uses an id again or puts anything in the place of something else. -/
theorem Canvas.ids_never_reused {r : Registry} {s : Settings} {g : Graph}
    (obtained : g.IsObtained r s) (ids : IdStream) (changes : List Change)
    {past future : List Canvas} {c : Canvas}
    (now : history r s ⟨g, ids⟩ changes = past ++ c :: future) :
    c.graph.idsInUse.Nodup ∧
      ∀ e o c', Edit.apply r s c e = .ok (o, c') → IsNew (past ++ [c]) c c' o := by
  have kept : c.graph.IsKept := isKept_of_mem_history (c := ⟨g, ids⟩) obtained.isKept
    (now ▸ List.mem_append_right _ List.mem_cons_self)
  refine ⟨kept.nodup_idsInUse, fun e o c' made ↦ ?_⟩
  exact (Edit.makes_of_apply made).isNew kept
    (idsInUse_subset_of_history (c := ⟨g, ids⟩) obtained.isKept now)

/-- A batch adds a node, fails and is rolled back. The source repeats the id of the node, but the
next node gets another one. -/
theorem Canvas.rolled_back_id_is_skipped :
    let source := IdSource.listed ["start", "first", "first", "second"]
    let speak : Action := ⟨.addNode, [("kind", .str "speak")]⟩
    let changes := [Change.batch [speak, ⟨.removeNode, [("node_id", .str "start")]⟩]]
    let c : Canvas := ⟨lone {} Catalog.start "start", ⟨source, 1⟩⟩
    ∃ middle, ∃ last : Canvas, c.graph.IsObtained Catalog.registry {} ∧
      history Catalog.registry {} c changes = [c, middle] ++ last :: [] ∧
      "first" ∈ middle.graph.idsInUse ∧ last.graph.nodes = c.graph.nodes ∧
      ∃ n c', (Edit.addNode "speak" {} []).apply Catalog.registry {} last = .ok (.node n, c') ∧
        n.id = "second" ∧ IsNew ([c, middle] ++ [last]) last c' (.node n) := by
  intro source speak changes c
  have made : fresh Catalog.registry {} ⟨source, 0⟩ = .ok c :=
    fresh_eq_ok_iff.2 ⟨Catalog.start, rfl, by decide, rfl⟩
  let first : Node := Catalog.speak.node "first" {} []
  let middle : Canvas := insertNode ⟨c.graph.issue "first", ⟨source, 2⟩⟩ first
  let last : Canvas := { middle with graph := middle.graph.restore c.graph }
  have newId : c.newId = ("first", ⟨c.graph.issue "first", ⟨source, 2⟩⟩) := by
    rw [Canvas.newId, Graph.newId, IdStream.drawOutside, IdSource.seek, dif_neg (by decide)]
    rfl
  have performed : c.perform Catalog.registry {} speak = .ok (.node first, middle) := by
    change ((Edit.addNode "speak" {} []).apply Catalog.registry {} c).mapError Error.edit = _
    rw [Edit.apply, addNode, newId]
    rfl
  have now : history Catalog.registry {} c changes = [c, middle] ++ last :: [] := by
    rw [history, Change.within, Change.result, stages, performAll, performAfter, performed]
    rfl
  have newId' : last.newId = ("second", ⟨last.graph.issue "second", ⟨source, 4⟩⟩) := by
    rw [Canvas.newId, Graph.newId, IdStream.drawOutside, IdSource.seek, dif_pos (by decide),
      IdSource.seek, dif_neg (by decide)]
    rfl
  let second : Node := Catalog.speak.node "second" {} []
  have added : (Edit.addNode "speak" {} []).apply Catalog.registry {} last =
      .ok (.node second, insertNode ⟨last.graph.issue "second", ⟨source, 4⟩⟩ second) := by
    rw [Edit.apply, addNode, newId']
    rfl
  exact ⟨middle, last, .fresh made, now, by decide, rfl, second, _, added, rfl,
    (ids_never_reused (.fresh made) c.ids changes now).2 _ _ _ added⟩

end CallFlow
