import CallFlow.Proofs.Body
import CallFlow.Proofs.Json.RoundTrip

/-!
# Bodies that are loaded again

The body of a graph that was loaded is loaded as the same graph, with all that is not declared, and
so has the same text again. There is one exception (`Graph.reload_stable_iff`): where an edge has
null under the first name of a handle and anything under the other one. What stands under the other
name is then kept aside, the handle is not written, and the next load takes the one for the other.
-/

namespace CallFlow

open Json Schema

theorem isNumber_of_optional {ms : Members} {name : String} {default v : Json}
    (number : Action.isNumber default = true)
    (h : optional ms name default Schema.number = .sound v) : Action.isNumber v = true := by
  rcases optional_eq_sound h with rfl | ⟨w, -, sound⟩
  · exact number
  · exact isNumber_of_number sound

/-! ## Nodes -/

namespace Node

variable {n : Node} {ms : Members}

theorem position_of_check {p : Position} (h : Body.checkPosition ms = .sound p) :
    Action.isNumber p.x = true ∧ Action.isNumber p.y = true := by
  obtain ⟨_, y, h₁, hy, rfl⟩ := Checked.seq_eq_sound_iff.1 h
  obtain ⟨x, hx, rfl⟩ := Checked.map_eq_sound_iff.1 h₁
  exact ⟨isNumber_of_optional rfl hx, isNumber_of_optional rfl hy⟩

theorem isRead_of_check (distinct : ms.HaveDistinctNames)
    (h : Body.checkNode .document ms = .sound n) : n.IsRead := by
  obtain ⟨_, data, h₃, hd, rfl⟩ := Checked.seq_eq_sound_iff.1 h
  obtain ⟨_, position, h₂, hp, rfl⟩ := Checked.seq_eq_sound_iff.1 h₃
  obtain ⟨_, type, h₁, ht, rfl⟩ := Checked.seq_eq_sound_iff.1 h₂
  obtain ⟨id, hi, rfl⟩ := Checked.map_eq_sound_iff.1 h₁
  obtain ⟨_, -, hi⟩ := required_eq_sound hi
  obtain ⟨_, -, ht⟩ := required_eq_sound ht
  obtain ⟨x, y⟩ : Action.isNumber position.x = true ∧ Action.isNumber position.y = true := by
    rcases optional_eq_sound hp with rfl | ⟨w, -, sound⟩
    · exact ⟨rfl, rfl⟩
    · obtain ⟨_, rfl, sound⟩ := record_eq_sound sound
      exact position_of_check sound
  have data : Members.HaveDistinctNames data := by
    rcases optional_eq_sound hd with rfl | ⟨w, found, sound⟩
    · exact .obj List.nodup_nil fun _ h ↦ (nomatch h)
    · cases w with
      | obj members =>
        cases sound
        exact distinct.each _ (Members.mem_of_get? found)
      | null | bool | int | float | str | arr => cases sound
  exact ⟨nonemptyText_eq_sound hi, nonemptyText_eq_sound ht, x, y, data, distinct.without _,
    fun name h ↦ (Members.mem_names_without.1 h).2⟩

end Node

/-! ## Edges -/

/-- One of the handles of an edge has null under its first name, and something under the other. -/
def Members.HidesHandle (ms : Members) : Prop :=
  get? ms "sourceHandle" = some .null ∧ "source_handle" ∈ ms.names ∨
    get? ms "targetHandle" = some .null ∧ "target_handle" ∈ ms.names

namespace Edge

variable {e e' : Edge} {ms : Members}

/-- What an edge has of what it was read of. -/
theorem fields_of_check (h : Body.checkEdge ms = .sound e) : e.id ≠ "" ∧
    optional ms (Body.sourceHandleName ms) none (nullable text) = .sound e.sourceHandle ∧
    optional ms (Body.targetHandleName ms) none (nullable text) = .sound e.targetHandle ∧
    e.extras = ms.without (Body.edgeFields ms) := by
  obtain ⟨_, label, h₅, -, rfl⟩ := Checked.seq_eq_sound_iff.1 h
  obtain ⟨_, targetHandle, h₄, ht, rfl⟩ := Checked.seq_eq_sound_iff.1 h₅
  obtain ⟨_, sourceHandle, h₃, hs, rfl⟩ := Checked.seq_eq_sound_iff.1 h₄
  obtain ⟨_, target, h₂, -, rfl⟩ := Checked.seq_eq_sound_iff.1 h₃
  obtain ⟨_, source, h₁, -, rfl⟩ := Checked.seq_eq_sound_iff.1 h₂
  obtain ⟨id, hi, rfl⟩ := Checked.map_eq_sound_iff.1 h₁
  obtain ⟨_, -, hi⟩ := required_eq_sound hi
  exact ⟨nonemptyText_eq_sound hi, hs, ht, rfl⟩

theorem isRead_of_check (distinct : ms.HaveDistinctNames) (h : Body.checkEdge ms = .sound e) :
    e.IsRead := by
  obtain ⟨id, -, -, extras⟩ := fields_of_check h
  refine ⟨id, extras ▸ distinct.without _, fun name left known ↦ ?_⟩
  obtain ⟨inside, undeclared⟩ := Members.mem_names_without.1 (extras ▸ left)
  exact undeclared (mem_edgeFields known inside)

/-- A handle is lacking, and its other name left over, if there is null under the first one. -/
theorem hides_iff {first second : String} {o : Option String} {fields : List String}
    (h : optional ms (nameOf ms first second) none (nullable text) = .sound o)
    (declared : second ∈ fields ↔ nameOf ms first second = second) (differ : first ≠ second) :
    o = none ∧ second ∈ (ms.without fields).names ↔
      Members.get? ms first = some .null ∧ second ∈ ms.names := by
  rw [Members.mem_names_without, declared]
  cases found : Members.get? ms first with
  | none =>
    rw [nameOf_of_none found]
    exact iff_of_false (fun h ↦ h.2.2 rfl) fun h ↦ (nomatch h.1)
  | some v =>
    rw [nameOf_of_some found, optional_eq_sound_iff found] at h
    cases nullable_text_eq_sound h
    rw [nameOf_of_some found]
    cases o with
    | none => exact ⟨fun h ↦ ⟨rfl, h.2.1⟩, fun h ↦ ⟨rfl, h.2, differ⟩⟩
    | some s => exact iff_of_false (fun h ↦ (nomatch h.1)) fun h ↦ (nomatch h.1)

/-- An edge hides a handle if the object does of which it was read. -/
theorem hidesHandle_iff (h : Body.checkEdge ms = .sound e) : e.HidesHandle ↔ ms.HidesHandle := by
  obtain ⟨-, source, target, extras⟩ := fields_of_check h
  rw [HidesHandle, extras]
  refine or_congr (hides_iff source ?_ (by decide)) (hides_iff target ?_ (by decide))
  · rcases nameOf_eq_or ms "targetHandle" "target_handle" with other | other <;>
      simp [Body.edgeFields, Body.sourceHandleName, Body.targetHandleName, other, eq_comm]
  · rcases nameOf_eq_or ms "sourceHandle" "source_handle" with other | other <;>
      simp [Body.edgeFields, Body.sourceHandleName, Body.targetHandleName, other, eq_comm]

/-- A name that is looked up is not left over, and not written if an edge never uses it. -/
theorem notMem_of_taken (h : Body.checkEdge ms = .sound e) {name : String}
    (new : name ∉ memberNames) (taken : name ∈ Body.edgeFields ms) :
    name ∉ (e.extras ++ e.members).names := by
  obtain ⟨-, -, -, extras⟩ := fields_of_check h
  rw [extras, Members.names_append]
  exact List.not_mem_append (fun left ↦ (Members.mem_names_without.1 left).2 taken)
    fun h ↦ new (e.names_members name h)

namespace IsRead

variable (read : e.IsRead)
include read

/-- An edge that hides a handle is not read again with all its names: the first name of the handle
is not written, so the next load takes what stands under the other one. -/
theorem sorted_ne_of_hides (hides : e.HidesHandle)
    (again : record .document Body.checkEdge e.toJson = .sound e') :
    e'.toJson.sorted ≠ e.toJson.sorted := by
  have distinct := read.hasDistinctNames
  rw [read.toJson] at again distinct
  intro same
  rw [(isRead_of_check distinct again).toJson, read.toJson, sorted_obj, sorted_obj] at same
  have names : (e'.extras ++ e'.members).names.Perm (e.extras ++ e.members).names :=
    (Members.names_sorted_perm _).symm.trans (Json.obj.inj same ▸ Members.names_sorted_perm _)
  have lost {second : String} (new : second ∉ memberNames)
      (taken : second ∈ Body.edgeFields (e.extras ++ e.members)) (left : second ∈ e.extras.names) :
      False :=
    notMem_of_taken again new taken (names.mem_iff.2
      (Members.names_append _ _ ▸ List.mem_append_left _ left))
  have unwritten {first : String} (known : first ∈ memberNames)
      (lacking : Members.get? e.members first = none) (second : String) :
      nameOf (e.extras ++ e.members) first second = second :=
    nameOf_of_none ((read.get?_extras_members first known).trans lacking)
  rcases hides with ⟨lacking, left⟩ | ⟨lacking, left⟩
  · have name : Body.sourceHandleName (e.extras ++ e.members) = "source_handle" :=
      unwritten (by decide) (by simp [get?_members, lacking]) _
    exact lost (by decide) (by simp [Body.edgeFields, name]) left
  · have name : Body.targetHandleName (e.extras ++ e.members) = "target_handle" :=
      unwritten (by decide) (by simp [get?_members, lacking]) _
    exact lost (by decide) (by simp [Body.edgeFields, name]) left

end IsRead

end Edge

/-! ## Documents -/

/-- A view that was read is read again as it is. -/
theorem Members.view_of_check {ms view : Members} (distinct : ms.HaveDistinctNames)
    (h : Body.checkViewport ms = .sound view) :
    Body.checkViewport view = .sound view ∧ view.HaveDistinctNames := by
  obtain ⟨_, zoom, h₂, hz, rfl⟩ := Checked.seq_eq_sound_iff.1 h
  obtain ⟨_, y, h₁, hy, rfl⟩ := Checked.seq_eq_sound_iff.1 h₂
  obtain ⟨x, hx, rfl⟩ := Checked.map_eq_sound_iff.1 h₁
  obtain ⟨readX, -, distinctX⟩ := number_of_isNumber (isNumber_of_optional rfl hx)
  obtain ⟨readY, -, distinctY⟩ := number_of_isNumber (isNumber_of_optional rfl hy)
  obtain ⟨readZoom, -, distinctZoom⟩ := number_of_isNumber (isNumber_of_optional rfl hz)
  refine ⟨?_, haveDistinctNames_view distinctX distinctY distinctZoom distinct⟩
  have own : without [("x", x), ("y", y), ("zoom", zoom)] Body.viewportFields = [] :=
    without_eq_nil fun _ h ↦ h
  have rest : without ([("x", x), ("y", y), ("zoom", zoom)] ++ ms.without Body.viewportFields)
      Body.viewportFields = ms.without Body.viewportFields := by
    rw [without_append, own, List.nil_append]
    exact without_eq_self fun name left ↦ (mem_names_without.1 left).2
  rw [Body.checkViewport, optional_of_some (v := x) (by simp [get?_cons]) readX,
    optional_of_some (v := y) (by simp [get?_cons]) readY,
    optional_of_some (v := zoom) (by simp [get?_cons]) readZoom, rest]
  rfl

namespace Body

variable {v : Json} {b : Body}

/-- What a body has of what it was read of. -/
theorem fields_of_check (h : check .document v = .sound b) : ∃ ms, v = .obj ms ∧
    optional ms "nodes" [] (list (record .document (checkNode .document))) = .sound b.nodes ∧
    optional ms "edges" [] (list (record .document checkEdge)) = .sound b.edges ∧
    optional ms "viewport" none (nullable (record .document checkViewport)) =
      .sound b.viewport := by
  obtain ⟨ms, rfl, h⟩ := record_eq_sound h
  obtain ⟨_, viewport, h₂, hv, rfl⟩ := Checked.seq_eq_sound_iff.1 h
  obtain ⟨_, edges, h₁, he, rfl⟩ := Checked.seq_eq_sound_iff.1 h₂
  obtain ⟨nodes, hn, rfl⟩ := Checked.map_eq_sound_iff.1 h₁
  exact ⟨ms, rfl, hn, he, hv⟩

/-- Every record of a list was read of an object in the document. -/
theorem exists_members {α : Type} {ms : Members} {name : String} {fields : Members → Checked α}
    {as : List α} (distinct : ms.HaveDistinctNames)
    (h : optional ms name [] (list (record .document fields)) = .sound as) :
    ∀ a ∈ as, ∃ ms' : Members, ms'.HaveDistinctNames ∧ fields ms' = .sound a := by
  intro a ha
  rcases optional_eq_sound h with rfl | ⟨v, found, sound⟩
  · cases ha
  · obtain ⟨items, rfl, each⟩ := list_eq_sound sound
    obtain ⟨w, hw, sound⟩ := each a ha
    obtain ⟨ms', rfl, sound⟩ := record_eq_sound sound
    cases distinct.each _ (Members.mem_of_get? found) with
    | arr items => exact ⟨ms', items _ hw, sound⟩

/-- So was a view. -/
theorem exists_view {ms view : Members} {name : String} (distinct : ms.HaveDistinctNames)
    (h : optional ms name none (nullable (record .document checkViewport)) = .sound (some view)) :
    ∃ ms' : Members, ms'.HaveDistinctNames ∧ checkViewport ms' = .sound view := by
  rcases optional_eq_sound h with absent | ⟨v, found, sound⟩
  · cases absent
  · obtain ⟨ms', rfl, read⟩ := record_eq_sound (nullable_eq_some sound)
    exact ⟨ms', distinct.each _ (Members.mem_of_get? found), read⟩

end Body

/-- An edge of a body document hides a handle. -/
def Json.HidesHandle (v : Json) : Prop :=
  ∃ edges, v.member? "edges" = some (.arr edges) ∧ ∃ ms : Members, .obj ms ∈ edges ∧ ms.HidesHandle

/-- An edge of a body hides a handle if one of its document does. -/
theorem Body.hidesHandle_iff {v : Json} {b : Body} (h : check .document v = .sound b) :
    (∃ e ∈ b.edges, e.HidesHandle) ↔ v.HidesHandle := by
  obtain ⟨ms, rfl, -, h, -⟩ := fields_of_check h
  rw [Json.HidesHandle, Json.member?]
  cases found : Members.get? ms "edges" with
  | none =>
    rw [optional_of_none found] at h
    rw [← Checked.sound.inj h]
    exact iff_of_false (fun ⟨_, he, _⟩ ↦ nomatch he) fun ⟨_, h, _⟩ ↦ nomatch h
  | some w =>
    rw [optional_eq_sound_iff found] at h
    obtain ⟨items, rfl, each⟩ := list_eq_sound_iff.1 h
    constructor
    · rintro ⟨e, he, hides⟩
      obtain ⟨w, hw, sound⟩ := exists_left_of_forall₂ each e he
      obtain ⟨ms', rfl, sound⟩ := record_eq_sound sound
      exact ⟨items, rfl, ms', hw, (Edge.hidesHandle_iff sound).1 hides⟩
    · rintro ⟨_, ⟨⟩, ms', hw, hides⟩
      obtain ⟨e, he, sound⟩ := exists_right_of_forall₂ each _ hw
      exact ⟨e, he, (Edge.hidesHandle_iff sound).2 hides⟩

namespace Graph

variable {g g' : Graph} {v : Json}

/-- What a graph is that was read of a document. -/
structure IsRead (g : Graph) : Prop where
  nodes : ∀ n ∈ g.nodes.rows, n.IsRead
  edges : ∀ e ∈ g.edges.rows, e.IsRead
  viewport : Body.checkViewport g.viewport = .sound g.viewport
  distinct : g.viewport.HaveDistinctNames

/-- A document is loaded as the graph that holds what was read of it. -/
theorem ofBodyJson_eq_ok (h : ofBodyJson v = .ok g) :
    ∃ b, Body.check .document v = .sound b ∧ ofBody b = .ok g := by
  rw [ofBodyJson] at h
  split at h
  · rename_i b read
    exact ⟨b, read, h⟩
  · cases h

theorem isRead_of_ofBodyJson (distinct : v.HasDistinctNames) (h : ofBodyJson v = .ok g) :
    g.IsRead := by
  obtain ⟨b, read, made⟩ := ofBodyJson_eq_ok h
  obtain ⟨ms, rfl, hn, he, hv⟩ := Body.fields_of_check read
  have loads := (ofBody_eq_ok_iff.1 made).2
  have nodes : g.nodes.rows = b.nodes := loads.nodes
  have edges : g.edges.rows = b.edges := loads.edges
  have viewport : g.viewport = b.viewport.getD defaultViewport := loads.viewport
  have seen : Body.checkViewport g.viewport = .sound g.viewport ∧
      g.viewport.HaveDistinctNames := by
    cases hw : b.viewport with
    | none =>
      rw [viewport, hw]
      exact ⟨rfl, by decide⟩
    | some view =>
      rw [hw] at hv
      obtain ⟨ms', distinct, sound⟩ := Body.exists_view distinct hv
      rw [viewport, hw]
      exact Members.view_of_check distinct sound
  refine ⟨fun n inside ↦ ?_, fun e inside ↦ ?_, seen.1, seen.2⟩
  · rw [nodes] at inside
    obtain ⟨ms', distinct, sound⟩ := Body.exists_members distinct hn n inside
    exact Node.isRead_of_check distinct sound
  · rw [edges] at inside
    obtain ⟨ms', distinct, sound⟩ := Body.exists_members distinct he e inside
    exact Edge.isRead_of_check distinct sound

namespace IsRead

variable (read : g.IsRead)
include read

theorem hasDistinctNames : g.toJson.HasDistinctNames := by
  refine .obj (by simp [Members.names]) ?_
  simp only [List.forall_mem_cons, List.not_mem_nil, false_implies, implies_true, and_true]
  exact ⟨.arr (List.forall_mem_map.2 fun n hn ↦ (read.nodes n hn).hasDistinctNames),
    .arr (List.forall_mem_map.2 fun e he ↦ (read.edges e he).hasDistinctNames), read.distinct⟩

/-- The body of a graph that hides no handle is checked as what the graph holds. -/
theorem check (plain : ∀ e ∈ g.edges.rows, ¬e.HidesHandle) :
    Body.check .document g.toJson = .sound ⟨g.nodes.rows, g.edges.rows, some g.viewport⟩ := by
  have nodes : list (record .document (Body.checkNode .document))
      (.arr (g.nodes.rows.map Node.toJson)) = .sound (g.nodes.rows.map fun n ↦ n) :=
    list_map fun n hn ↦ (read.nodes n hn).checkNode
  have edges : list (record .document Body.checkEdge)
      (.arr (g.edges.rows.map Edge.toJson)) = .sound (g.edges.rows.map fun e ↦ e) :=
    list_map fun e he ↦ (read.edges e he).checkEdge (plain e he)
  have seen : nullable (record .document Body.checkViewport) (.obj g.viewport) =
      .sound (some g.viewport) :=
    congrArg (Checked.map some) read.viewport
  have hasNodes : Members.get? g.members "nodes" = some (.arr (g.nodes.rows.map Node.toJson)) := rfl
  have hasEdges : Members.get? g.members "edges" = some (.arr (g.edges.rows.map Edge.toJson)) := rfl
  have hasView : Members.get? g.members "viewport" = some (.obj g.viewport) := rfl
  change Body.check .document (.obj g.members) = _
  rw [Body.check, record, optional_of_some hasNodes nodes, optional_of_some hasEdges edges,
    optional_of_some hasView seen, List.map_id', List.map_id']
  rfl

end IsRead

/-- A graph that hides no handle is loaded from its body as it was loaded before. -/
theorem ofBodyJson_toJson (distinct : v.HasDistinctNames) (h : ofBodyJson v = .ok g)
    (plain : ∀ e ∈ g.edges.rows, ¬e.HidesHandle) : ofBodyJson g.toJson = .ok g := by
  have read := isRead_of_ofBodyJson distinct h
  obtain ⟨b, -, made⟩ := ofBodyJson_eq_ok h
  obtain ⟨ids, loads⟩ := ofBody_eq_ok_iff.1 made
  have nodes : g.nodes.rows = b.nodes := loads.nodes
  have edges : g.edges.rows = b.edges := loads.edges
  rw [ofBodyJson, read.check plain, nodes, edges]
  exact ofBody_eq_ok_iff.2 ⟨ids, loads.nodes, loads.edges, rfl, loads.warnings, loads.issued⟩

/-- Documents that are the same but for the order of names have the same edges. -/
theorem edges_of_sorted_eq (read : g.IsRead) (read' : g'.IsRead)
    (same : g'.toJson.sorted = g.toJson.sorted) :
    List.Forall₂ (fun e e' ↦ e'.toJson.sorted = e.toJson.sorted) g.edges.rows g'.edges.rows := by
  have written {g : Graph} (read : g.IsRead) : g.toJson.sorted.member? "edges" =
      some (.arr (g.edges.rows.map (Json.sorted ∘ Edge.toJson))) := by
    have distinct : g.members.HaveDistinctNames := read.hasDistinctNames
    change (Json.obj g.members).sorted.member? "edges" = _
    rw [sorted_obj, Json.member?, Members.get?_sorted distinct.nodup]
    change some (Json.arr (g.edges.rows.map Edge.toJson)).sorted = _
    rw [sorted_arr, List.map_map]
  have same := congrArg (Json.member? · "edges") same
  rw [written read, written read'] at same
  have rows := Json.arr.inj (Option.some.inj same)
  rw [← List.forall₂_eq_eq_eq, List.forall₂_map_left_iff, List.forall₂_map_right_iff] at rows
  exact rows.flip

/-- A graph that hides a handle is not loaded from its body with all its names, if at all. -/
theorem sorted_ne_of_hides (read : g.IsRead) (hides : ∃ e ∈ g.edges.rows, e.HidesHandle)
    (h : ofBodyJson g.toJson = .ok g') : g'.toJson.sorted ≠ g.toJson.sorted := by
  intro same
  have read' := isRead_of_ofBodyJson read.hasDistinctNames h
  obtain ⟨b, sound, made⟩ := ofBodyJson_eq_ok h
  obtain ⟨_, ⟨⟩, -, edges, -⟩ := Body.fields_of_check sound
  have rows : g'.edges.rows = b.edges := (ofBody_eq_ok_iff.1 made).2.edges
  obtain ⟨_, ⟨⟩, again⟩ := list_eq_sound_iff.1 ((optional_eq_sound_iff rfl).1 edges)
  rw [← rows, List.forall₂_map_left_iff] at again
  have both := again.mp (fun _ _ ↦ And.intro) (edges_of_sorted_eq read read' same)
  obtain ⟨e, he, hides⟩ := hides
  obtain ⟨e', -, again, same⟩ := exists_right_of_forall₂ both e he
  exact (read.edges e he).sorted_ne_of_hides hides again same

/-- A body document is stable under loading, exactly if none of its edges hides a handle. -/
theorem reload_stable_iff (distinct : v.HasDistinctNames) (loaded : ofBodyJson v = .ok g) :
    (∃ g', ofBodyJson g.toJson = .ok g' ∧ canonical g'.toJson = canonical g.toJson) ↔
      ¬v.HidesHandle := by
  have read := isRead_of_ofBodyJson distinct loaded
  obtain ⟨b, sound, made⟩ := ofBodyJson_eq_ok loaded
  have rows : g.edges.rows = b.edges := (ofBody_eq_ok_iff.1 made).2.edges
  rw [← Body.hidesHandle_iff sound, ← rows]
  constructor
  · rintro ⟨g', again, same⟩ hides
    have distinct' := (isRead_of_ofBodyJson read.hasDistinctNames again).hasDistinctNames
    exact sorted_ne_of_hides read hides again
      (sorted_eq_of_canonical_eq distinct' read.hasDistinctNames same)
  · intro plain
    exact ⟨g, ofBodyJson_toJson distinct loaded fun e he hides ↦ plain ⟨e, he, hides⟩, rfl⟩

/-- Names that are not declared are kept, also where a handle has both of its names. -/
theorem document_with_extras_is_stable :
    let v : Json := .obj
      [("nodes", .arr [.obj [("id", .str "n"), ("type", .str "init"), ("color", .str "red"),
          ("position", .obj [("x", .bool true), ("z", .int 5)])]]),
        ("edges", .arr [.obj [("id", .str "e"), ("source", .str "n"), ("target", .str "n"),
          ("sourceHandle", .str "out"), ("source_handle", .str "kept"),
          ("target_handle", .str "in"), ("label", .null)]]),
        ("viewport", .obj [("zoom", .int 2), ("grid", .bool true)])]
    (v.HasDistinctNames ∧ ¬v.HidesHandle) ∧ ∃ g, ofBodyJson v = .ok g ∧
      ∃ g', ofBodyJson g.toJson = .ok g' ∧ canonical g'.toJson = canonical g.toJson := by
  intro v
  have distinct : v.HasDistinctNames := by decide
  have plain : ¬v.HidesHandle := by
    rintro ⟨_, ⟨⟩, ms, inside, hides⟩
    cases List.mem_singleton.1 inside
    rcases hides with ⟨⟨⟩, -⟩ | ⟨⟨⟩, -⟩
  exact ⟨⟨distinct, plain⟩, _, rfl, (reload_stable_iff distinct rfl).2 plain⟩

/-- An edge with null under one name of a handle is loaded without it, and loaded again with it. -/
theorem hidden_handle_is_not_stable :
    let v : Json := .obj [("edges", .arr [.obj [("id", .str "e"), ("source", .str "a"),
      ("target", .str "b"), ("sourceHandle", .null), ("source_handle", .str "x")]])]
    v.HasDistinctNames ∧ ∃ g, ofBodyJson v = .ok g ∧
      ∃ g', ofBodyJson g.toJson = .ok g' ∧ canonical g'.toJson ≠ canonical g.toJson := by
  intro v
  refine ⟨by decide, _, rfl, _, rfl, ?_⟩
  decide

end Graph

end CallFlow
