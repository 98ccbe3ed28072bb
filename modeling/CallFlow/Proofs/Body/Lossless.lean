import CallFlow.Proofs.Body
import CallFlow.Proofs.Json.Alike

/-!
# Nothing is lost in a body

A graph is loaded from the text of its body as it was: nodes and edges in the same order, with all
that is known of them, whether declared or not, and with the view (`Graph.body_is_lossless`). Only
the order of names is not kept, for the text has them in order.

What a document could not give back is left out: nodes without an id or a type, coordinates that are
no numbers, undeclared members under declared names, and handles that are hidden by such members.
-/

namespace CallFlow

open Json Schema

/-! ## Alike in all parts -/

/-- The nodes are the same but for the order of names. -/
structure Node.Alike (n n' : Node) : Prop where
  id : n'.id = n.id
  type : n'.type = n.type
  position : n'.position = n.position
  data : n.data.Alike n'.data
  extras : n.extras.Alike n'.extras

/-- The edges are the same but for the order of names. -/
structure Edge.Alike (e e' : Edge) : Prop where
  id : e'.id = e.id
  source : e'.source = e.source
  target : e'.target = e.target
  sourceHandle : e'.sourceHandle = e.sourceHandle
  targetHandle : e'.targetHandle = e.targetHandle
  label : e'.label = e.label
  extras : e.extras.Alike e'.extras

theorem Node.IsRead.alike_inOrder {n : Node} (read : n.IsRead) : n.Alike n.inOrder :=
  ⟨rfl, rfl, rfl, Members.alike_sorted read.data, Members.alike_sorted read.extras⟩

theorem Edge.IsRead.alike_inOrder {e : Edge} (read : e.IsRead) : e.Alike e.inOrder :=
  ⟨rfl, rfl, rfl, rfl, rfl, rfl, Members.alike_sorted read.extras⟩

/-- A view with all its coordinates has nothing to be filled up. -/
theorem Members.IsView.alike_filled {ms : Members} (view : ms.IsView)
    (coordinates : ∀ k ∈ Body.viewportFields, k ∈ ms.names) : ms.Alike ms.filled := by
  have distinct := view.filled.distinct
  refine alike_iff.2 ⟨view.distinct, distinct,
    (sorted_eq_iff view.distinct.nodup distinct.nodup).2 fun name ↦ ?_⟩
  rw [view.get?_filled]
  cases found : get? ms name with
  | some v =>
    have inner : v.HasDistinctNames := view.distinct.each _ (mem_of_get? found)
    rw [Option.map_some, Option.some_or, Option.map_some, Json.sorted_sorted inner]
  | none =>
    have other : name ∉ Body.viewportFields := fun h ↦
      get?_eq_none_iff.1 found (coordinates name h)
    have unfilled : get? defaultViewport name = none := get?_eq_none_iff.2 other
    rw [unfilled]
    rfl

/-! ## Bodies -/

namespace Graph

variable {g : Graph}

/-- A graph whose view has all its coordinates is loaded from the text of its body, if that can be
read at all, as it was: the same nodes and edges in the same order and the same view, but for the
order of names. The ids that count as issued are then those of its nodes and edges. -/
theorem body_is_lossless (storable : g.IsStorable)
    (coordinates : ∀ k ∈ Body.viewportFields, k ∈ g.viewport.names)
    (readable : (readDocument? (canonical g.toJson)).isSome = true) :
    ∃ g', ofBodyText (canonical g.toJson) = .ok g' ∧
      List.Forall₂ Node.Alike g.nodes.rows g'.nodes.rows ∧
      List.Forall₂ Edge.Alike g.edges.rows g'.edges.rows ∧
      g.viewport.Alike g'.viewport ∧
      ∀ id, id ∈ g'.issued ↔ id ∈ g.nodes.keys ∨ id ∈ g.edges.keys := by
  obtain ⟨g', loaded, made⟩ := storable.exists_ofBodyText readable
  have loads := (ofBody_eq_ok_iff.1 made).2
  have nodes : g'.nodes.rows = g.nodes.rows.map Node.inOrder := loads.nodes
  have edges : g'.edges.rows = g.edges.rows.map Edge.inOrder := loads.edges
  have viewport : g'.viewport = g.viewport.filled := loads.viewport
  have issued : g'.issued = g.bodyInOrder.ids.reverse ++ [] := loads.issued
  refine ⟨g', loaded, ?_, ?_, ?_, fun id ↦ ?_⟩
  · rw [nodes, List.forall₂_map_right_iff]
    exact List.forall₂_same.2 fun n hn ↦ (storable.nodes n hn).alike_inOrder
  · rw [edges, List.forall₂_map_right_iff]
    exact List.forall₂_same.2 fun e he ↦ (storable.edges e he).alike_inOrder
  · rw [viewport]
    exact storable.viewport.alike_filled coordinates
  · rw [issued, List.append_nil, List.mem_reverse, ids_bodyInOrder, List.mem_append]

/-- Nothing is lost of a node of an unknown kind, of an edge that ends nowhere and has one handle,
and of members that are not declared. -/
theorem odd_graph_is_lossless :
    let node : Node :=
      { id := "n", type := "x-kind", position := ⟨.int (-3), .float (.finite true ⟨0, by decide⟩)⟩
        data := [("z", .obj [("b", .int 1), ("a", .null)]), ("a", .arr [.bool true])]
        extras := [("width", .int 7), ("color", .str "red")] }
    let edge : Edge :=
      { id := "e", source := "n", target := "nowhere", targetHandle := some ""
        extras := [("animated", .bool false)] }
    let g : Graph :=
      { nodes := Table.empty.put node, edges := Table.empty.put edge
        viewport := [("grid", .int 5), ("zoom", .int 2), ("x", .int 0), ("y", .int 1)] }
    ∃ g', ofBodyText (canonical g.toJson) = .ok g' ∧
      List.Forall₂ Node.Alike [node] g'.nodes.rows ∧ List.Forall₂ Edge.Alike [edge] g'.edges.rows ∧
      g.viewport.Alike g'.viewport ∧ ∀ id, id ∈ g'.issued ↔ id ∈ ["n"] ∨ id ∈ ["e"] := by
  intro node edge g
  have storable : g.IsStorable := by
    refine ⟨List.forall_mem_singleton.2 ?_, List.forall_mem_singleton.2 ?_,
      List.forall_mem_singleton.2 ?_, ?_, ?_⟩
    · exact ⟨by decide, by decide, rfl, rfl, by decide, by decide, by decide⟩
    · exact ⟨by decide, by decide, by decide⟩
    · rintro (⟨-, h⟩ | ⟨-, h⟩) <;> revert h <;> decide
    · refine ⟨by decide, List.forall_mem_cons.2 ⟨?_, List.forall_mem_cons.2 ⟨?_,
        List.forall_mem_singleton.2 ?_⟩⟩⟩
      all_goals
        intro v found
        cases found
        rfl
    · decide
  have readable : (readDocument? (canonical g.toJson)).isSome = true :=
    (isSome_readDocument?_canonical storable.haveDistinctNames).trans (by decide +kernel)
  exact body_is_lossless storable (by decide) readable

end Graph

end CallFlow
