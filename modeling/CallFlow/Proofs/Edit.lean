import CallFlow.Proofs.Body
import CallFlow.Proofs.Edit.Effect
import CallFlow.Proofs.Kind.Registry
import CallFlow.Session

/-!
# Edits keep graphs sound

Whatever is asked for in a payload, the graph stays one that a document can hold: payloads are
checked for the texts, objects and numbers that go into the graph, and ids are new. A batch that
fails leaves the nodes, edges and view of before.
-/

namespace CallFlow

open Json

/-! ## Graphs -/

namespace Graph

variable {r : Registry} {g g' : Graph}

/-- A sound graph without some nodes and edges is sound. -/
theorem IsSound.of_subset (sound : g.IsSound) (nodes : g'.nodes.rows ⊆ g.nodes.rows)
    (edges : g'.edges.rows ⊆ g.edges.rows) (viewport : g'.viewport.IsView)
    (issued : g.issued ⊆ g'.issued) : g'.IsSound where
  nodes n hn := sound.nodes n (nodes hn)
  edges e he := sound.edges e (edges he)
  viewport := viewport
  kept := sound.kept.of_subset nodes edges issued

/-- So is one in which a node was changed but for its id. -/
theorem IsSound.replaceNode (sound : g.IsSound) {old n : Node} (inside : old ∈ g.nodes.rows)
    (same : n.id = old.id) (node : n.IsSound) : (g.insertNode n).IsSound := by
  refine ⟨fun m hm ↦ ?_, ?_, ?_, sound.kept.replaceNode inside same⟩
  · rcases Table.mem_rows_put_iff.1 hm with rfl | ⟨hm, -⟩
    · exact node
    · exact sound.nodes m hm
  · rw [edges_insertNode]
    exact sound.edges
  · rw [viewport_insertNode]
    exact sound.viewport

end Graph

/-! ## Canvases -/

/-- The graph of a canvas is sound after a change that forgets no issued id and leaves the source of
ids as it is. -/
structure Canvas.Keeps (c c' : Canvas) : Prop where
  sound : c'.graph.IsSound
  issued : c.graph.issued ⊆ c'.graph.issued
  source : c'.ids.source = c.ids.source

namespace Canvas

variable {r : Registry} {s : Settings} {c c' c'' : Canvas}

theorem Keeps.refl (sound : c.graph.IsSound) : c.Keeps c := ⟨sound, List.Subset.refl _, rfl⟩

theorem Keeps.trans (h : c.Keeps c') (h' : c'.Keeps c'') : c.Keeps c'' :=
  ⟨h'.sound, List.Subset.trans h.issued h'.issued, h'.source.trans h.source⟩

/-- What is added to a sound graph is sound if it is so by itself. -/
theorem Adds.isSound {nodes : List Node} {edges : List Edge} (h : c.Adds nodes edges c')
    (sound : c.graph.IsSound) (newNodes : ∀ n ∈ nodes, n.IsSound)
    (newEdges : ∀ e ∈ edges, e.IsSound) :
    c'.graph.IsSound where
  nodes n hn := by
    rw [h.nodes] at hn
    exact (List.mem_append.1 hn).elim (sound.nodes n) (newNodes n)
  edges e he := by
    rw [h.edges] at he
    exact (List.mem_append.1 he).elim (sound.edges e) (newEdges e)
  viewport := h.viewport ▸ sound.viewport
  kept := h.kept

theorem newId_ne_empty (named : ∀ k, c.ids.source.supply k ≠ "") : c.newId.1 ≠ "" := by
  obtain ⟨k, hk⟩ := c.exists_supply_newId
  exact hk ▸ named k

end Canvas

/-! ## Edits -/

/-- What an edit puts into a graph is what a document can hold. -/
def Edit.IsSound : Edit → Prop
  | addNode _ position data =>
    Action.isNumber position.x = true ∧ Action.isNumber position.y = true ∧ data.HaveDistinctNames
  | updateNode _ changes => changes.HaveDistinctNames
  | moveNode _ position => Action.isNumber position.x = true ∧ Action.isNumber position.y = true
  | setViewport viewport => viewport.IsView
  | removeNode _ | connect .. | disconnect _ => True

namespace Edit

variable {r : Registry} {s : Settings} {c c' : Canvas}

/-- Every change keeps a graph sound. -/
theorem Makes.isSound (kinds : r.IsSound) (named : ∀ k, c.ids.source.supply k ≠ "")
    (sound : c.graph.IsSound) {e : Edit} (edit : e.IsSound) {o : Outcome}
    (h : e.Makes r s c o c') : c'.graph.IsSound := by
  cases h with
  | @addNode tag position data k known first room =>
    obtain ⟨x, y, distinct⟩ := edit
    have inside := (Registry.mem_of_get? known).1
    have node : (k.node c.newId.1 position data).IsSound :=
      ⟨Canvas.newId_ne_empty named, kinds.tags k inside, x, y,
        (kinds.initialData inside).update distinct.each, rfl⟩
    exact (c.offers_newId.insertNode sound.kept (n := k.node c.newId.1 position data)).isSound sound
      (by simpa using node) (by simp)
  | updateNode n inside =>
    have node := sound.nodes n inside
    exact sound.replaceNode inside rfl { node with data := node.data.update edit.each }
  | moveNode n inside =>
    exact sound.replaceNode inside rfl { sound.nodes n inside with x := edit.1, y := edit.2 }
  | removeNode n inside spare =>
    exact sound.of_subset List.filter_sublist.subset List.filter_sublist.subset sound.viewport
      (List.Subset.refl _)
  | connect n e inside ends other limit made =>
    have cleared : (c.cleared r n).graph.IsSound := sound.of_subset
      (by rw [Canvas.nodes_cleared]; exact List.Subset.refl _)
      (c.edges_cleared_sublist r n).subset
      (by rw [Canvas.viewport_cleared]; exact sound.viewport)
      (by rw [Canvas.issued_cleared]; exact List.Subset.refl _)
    have offers : (c.cleared r n).Offers e.id (c.cleared r n).newId.2 :=
      made ▸ (c.cleared r n).offers_newId
    have id : e.id ≠ "" := by
      rw [made]
      exact Canvas.newId_ne_empty (c := c.cleared r n) named
    have edge : e.IsSound := ⟨id, by rw [made]⟩
    exact (offers.insertEdge cleared.kept (made ▸ (c.cleared r n).exists_supply_newId)).isSound
      cleared (by simp) (by simpa using edge)
  | disconnect e inside =>
    exact sound.of_subset (List.Subset.refl _) List.filter_sublist.subset sound.viewport
      (List.Subset.refl _)
  | setViewport viewport =>
    exact ⟨sound.nodes, sound.edges, edit, sound.kept.of_eq rfl rfl rfl⟩

/-- Every edit keeps a graph sound. -/
theorem apply_keeps (kinds : r.IsSound) (named : ∀ k, c.ids.source.supply k ≠ "")
    (sound : c.graph.IsSound) {e : Edit} (edit : e.IsSound) {o : Outcome}
    (h : e.apply r s c = .ok (o, c')) : c.Keeps c' := by
  have made := makes_of_apply h
  have later := made.continues sound.kept
  exact ⟨made.isSound kinds named sound edit, later.issued, later.source⟩

end Edit

/-! ## Payloads -/

namespace Action

variable {a : Action}

theorem coordinates_spec {keys : List String} {v : Json} {ms : Members}
    (h : a.coordinates keys v = .ok ms) :
    v = .obj ms ∧ ∀ k ∈ keys, isNumber ((Members.get? ms k).getD (.int 0)) = true := by
  rw [coordinates.eq_def] at h
  split at h
  · split at h
    · cases h
    · rename_i all
      cases h
      exact ⟨rfl, by simpa using all⟩
  · cases h

theorem position_spec {v : Json} {p : Position} (h : a.position v = .ok p) :
    isNumber p.x = true ∧ isNumber p.y = true := by
  obtain ⟨ms, hms, placed⟩ := Result.bind_eq_ok_iff.1 h
  cases placed
  obtain ⟨-, numbers⟩ := coordinates_spec hms
  exact ⟨numbers "x" (by simp), numbers "y" (by simp)⟩

section Payload

variable (distinct : a.payload.HaveDistinctNames)
include distinct

theorem hasDistinctNames_of_get? {key : String} {v : Json}
    (h : Members.get? a.payload key = some v) :
    v.HasDistinctNames := distinct.each (key, v) (Members.mem_of_get? h)

theorem hasDistinctNames_of_getD {key : String} {ms : Members}
    (h : (Members.get? a.payload key).getD .null = .obj ms) : ms.HaveDistinctNames := by
  cases found : Members.get? a.payload key with
  | none => simp [found] at h
  | some v =>
    obtain rfl : v = .obj ms := by simpa [found] using h
    exact hasDistinctNames_of_get? distinct found

theorem object_spec {key : String} {ms : Members} (h : a.object key = .ok ms) :
    ms.HaveDistinctNames := by
  obtain ⟨v, hv, h⟩ := Result.bind_eq_ok_iff.1 h
  rw [get] at hv
  cases found : Members.get? a.payload key with
  | none =>
    rw [found] at hv
    cases hv
  | some w =>
    rw [found] at hv
    cases hv
    have w := hasDistinctNames_of_get? distinct found
    split at h
    · cases h
      exact w
    · cases h

theorem viewport_spec {ms : Members}
    (h : a.coordinates ["x", "y", "zoom"] ((Members.get? a.payload "viewport").getD
      (.obj a.payload)) = .ok ms) : (Edit.setViewport ms).IsSound := by
  obtain ⟨given, numbers⟩ := coordinates_spec h
  have view : ms.HaveDistinctNames := by
    cases found : Members.get? a.payload "viewport" with
    | none =>
      rw [found] at given
      cases given
      exact distinct
    | some v =>
      rw [found] at given
      obtain rfl : v = .obj ms := given
      exact hasDistinctNames_of_get? distinct found
  refine ⟨view, fun k hk v hv ↦ ?_⟩
  have number := numbers k hk
  rwa [hv] at number

/-- The edit that a payload asks for is sound. -/
theorem edit_isSound {e : Edit} (h : a.edit = .ok e) : e.IsSound := by
  rw [edit] at h
  split at h
  · obtain ⟨tag, -, h⟩ := Result.bind_eq_ok_iff.1 h
    have empty : Members.HaveDistinctNames [] := .obj List.nodup_nil fun _ hm ↦ (nomatch hm)
    dsimp only at h
    split at h
    · split at h
      · cases h
        exact ⟨rfl, rfl, empty⟩
      · cases h
        exact ⟨rfl, rfl, hasDistinctNames_of_getD distinct ‹_›⟩
      · cases h
    · obtain ⟨position, hp, h⟩ := Result.bind_eq_ok_iff.1 h
      obtain ⟨x, y⟩ := position_spec hp
      split at h
      · cases h
        exact ⟨x, y, empty⟩
      · cases h
        exact ⟨x, y, hasDistinctNames_of_getD distinct ‹_›⟩
      · cases h
  · obtain ⟨id, -, h⟩ := Result.bind_eq_ok_iff.1 h
    obtain ⟨data, hd, h⟩ := Result.bind_eq_ok_iff.1 h
    cases h
    exact object_spec distinct hd
  · obtain ⟨id, -, h⟩ := Result.bind_eq_ok_iff.1 h
    obtain ⟨v, -, h⟩ := Result.bind_eq_ok_iff.1 h
    obtain ⟨position, hp, h⟩ := Result.bind_eq_ok_iff.1 h
    cases h
    exact position_spec hp
  · obtain ⟨id, -, h⟩ := Result.bind_eq_ok_iff.1 h
    cases h
    trivial
  · obtain ⟨source, -, h⟩ := Result.bind_eq_ok_iff.1 h
    obtain ⟨target, -, h⟩ := Result.bind_eq_ok_iff.1 h
    cases h
    trivial
  · obtain ⟨id, -, h⟩ := Result.bind_eq_ok_iff.1 h
    cases h
    trivial
  · obtain ⟨ms, hms, h⟩ := Result.bind_eq_ok_iff.1 h
    cases h
    exact viewport_spec distinct hms

end Payload

end Action

/-! ## Batches -/

namespace Canvas

variable {r : Registry} {s : Settings} {c c' : Canvas} (kinds : r.IsSound)
include kinds

theorem performAfter_keeps {actions : List Action} {past : List Performed}
    (named : ∀ k, c.ids.source.supply k ≠ "")
    (distinct : ∀ a ∈ actions, a.payload.HaveDistinctNames) (sound : c.graph.IsSound)
    {result : Except Error (List Performed)}
    (h : performAfter r s past actions c = (result, c')) : c.Keeps c' := by
  induction actions generalizing past c with
  | nil =>
    cases h
    exact .refl sound
  | cons a rest ih =>
    rw [performAfter] at h
    split at h
    · cases h
      exact .refl sound
    · rename_i outcome d performed
      obtain ⟨e, he, applied⟩ := Result.bind_eq_ok_iff.1 performed
      have edit := Action.edit_isSound (distinct a List.mem_cons_self)
        (Result.mapError_eq_ok_iff.1 he)
      have keeps := Edit.apply_keeps kinds named sound edit (Result.mapError_eq_ok_iff.1 applied)
      exact keeps.trans (ih (keeps.source ▸ named)
        (fun b hb ↦ distinct b (List.mem_cons_of_mem a hb)) keeps.sound h)

/-- A batch keeps a graph sound, whether it is made or not. -/
theorem performAll_keeps {actions : List Action} (named : ∀ k, c.ids.source.supply k ≠ "")
    (distinct : ∀ a ∈ actions, a.payload.HaveDistinctNames) (sound : c.graph.IsSound)
    {result : Except Error (List Performed)} (h : performAll r s actions c = (result, c')) :
    c.Keeps c' := by
  rw [performAll] at h
  split at h
  · rename_i past d performed
    cases h
    exact performAfter_keeps kinds named distinct sound performed
  · rename_i e d performed
    cases h
    have keeps := performAfter_keeps kinds named distinct sound performed
    exact ⟨sound.of_subset (List.Subset.refl _) (List.Subset.refl _) sound.viewport keeps.issued,
      keeps.issued, keeps.source⟩

end Canvas

end CallFlow
