import CallFlow.Edit.Action
import CallFlow.Proofs.Body.Load
import CallFlow.Proofs.Graph.Sorted

/-!
# Bodies read back from storage

A graph of which a document gives back everything is loaded from its body as it was, but for the
order of names and for the parts of the view that were not given (`IsStorable.exists_ofBodyText`).
Sound graphs, of which nothing is known but what is declared, are of this kind
(`ofBodyText_canonical`).
-/

namespace CallFlow

open Json Schema

/-! ## Sound graphs -/

/-- What is kept of a node in a document is all there is. -/
structure Node.IsSound (n : Node) : Prop where
  id : n.id ≠ ""
  type : n.type ≠ ""
  x : Action.isNumber n.position.x = true
  y : Action.isNumber n.position.y = true
  data : n.data.HaveDistinctNames
  extras : n.extras = []

/-- What is kept of an edge in a document is all there is. -/
structure Edge.IsSound (e : Edge) : Prop where
  id : e.id ≠ ""
  extras : e.extras = []

/-- The coordinates of a view are numbers, as far as they are given. -/
structure Members.IsView (ms : Members) : Prop where
  distinct : ms.HaveDistinctNames
  numbers : ∀ k ∈ Body.viewportFields, ∀ v, get? ms k = some v → Action.isNumber v = true

/-- A graph that a document can hold. -/
structure Graph.IsSound (g : Graph) : Prop where
  nodes : ∀ n ∈ g.nodes.rows, n.IsSound
  edges : ∀ e ∈ g.edges.rows, e.IsSound
  viewport : g.viewport.IsView
  kept : g.IsKept

/-! ## Numbers and views -/

theorem number_of_isNumber {v : Json} (h : Action.isNumber v = true) :
    number v = .sound v ∧ v.sorted = v ∧ v.HasDistinctNames := by
  cases v with
  | int i => exact ⟨rfl, rfl, .int i⟩
  | float x => exact ⟨rfl, rfl, .float x⟩
  | null | bool | str | arr | obj => cases h

theorem isNumber_of_number {v w : Json} (h : number v = .sound w) : Action.isNumber w = true := by
  cases v with
  | str s =>
    rw [number] at h
    split at h
    · cases h
      rfl
    · split at h
      · cases h
        rfl
      · cases h
  | bool | int | float =>
    cases h
    rfl
  | null | arr | obj => cases h

/-- A position is read back if its coordinates are numbers. -/
theorem Position.check_toJson {p : Position} (x : Action.isNumber p.x = true)
    (y : Action.isNumber p.y = true) :
    record .document Body.checkPosition p.toJson = .sound p := by
  change Body.checkPosition [("x", p.x), ("y", p.y)] = _
  rw [Body.checkPosition,
    optional_of_some (v := p.x) (by simp [Members.get?_cons]) (number_of_isNumber x).1,
    optional_of_some (v := p.y) (by simp [Members.get?_cons]) (number_of_isNumber y).1]
  rfl

theorem Members.haveDistinctNames_view {x y zoom : Json} {ms : Members} (hx : x.HasDistinctNames)
    (hy : y.HasDistinctNames) (hz : zoom.HasDistinctNames) (distinct : ms.HaveDistinctNames) :
    HaveDistinctNames
      ([("x", x), ("y", y), ("zoom", zoom)] ++ ms.without Body.viewportFields) := by
  have own : HaveDistinctNames [("x", x), ("y", y), ("zoom", zoom)] :=
    .obj (by simp [names]) (by simp [hx, hy, hz])
  exact own.append (distinct.without _) fun name h left ↦ (mem_names_without.1 left).2 h

/-- The view with all its coordinates and the names of the rest in order. -/
def Members.filled (ms : Members) : Members :=
  [("x", (get? ms "x").getD (.int 0)), ("y", (get? ms "y").getD (.int 0)),
    ("zoom", (get? ms "zoom").getD (.int 1))] ++ ms.sorted.without Body.viewportFields

namespace Members.IsView

variable {ms : Members} (view : ms.IsView)
include view

/-- A view is filled up with the coordinates of one that nobody has moved. -/
theorem get?_filled (name : String) :
    get? ms.filled name = ((get? ms name).map Json.sorted).or (get? defaultViewport name) := by
  have own : ∀ k ∈ Body.viewportFields, (get? ms k).map Json.sorted = get? ms k := fun k hk ↦ by
    cases hv : get? ms k with
    | none => rfl
    | some v => exact congrArg some (number_of_isNumber (view.numbers k hk v hv)).2.1
  have rest : get? (ms.sorted.without Body.viewportFields) name =
      if name ∈ Body.viewportFields then none else (get? ms name).map Json.sorted := by
    rw [get?_without, get?_sorted view.distinct.nodup]
  rw [filled, get?_append, rest, defaultViewport]
  by_cases coordinate : name ∈ Body.viewportFields
  · rw [if_pos coordinate, own name coordinate, Option.or_none]
    simp only [Body.viewportFields, List.mem_cons, List.not_mem_nil, or_false] at coordinate
    rcases coordinate with rfl | rfl | rfl <;> simp [get?_cons]
  · rw [if_neg coordinate]
    simp only [Body.viewportFields, List.mem_cons, List.not_mem_nil, or_false, not_or] at coordinate
    simp [get?_cons, get?_nil, coordinate]

end Members.IsView

theorem nonemptyText_str {s : String} (h : s ≠ "") : nonemptyText (.str s) = .sound s := by
  have length : ¬s.length < 1 := fun short ↦ h (String.length_eq_zero_iff.1 (by omega))
  change (if s.length < 1 then .fail .textTooShort else .sound s : Checked String) = _
  rw [if_neg length]

/-! ## Nodes -/

namespace Node

variable {n : Node}

/-- The members of a node of which nothing else is known. -/
def members (n : Node) : Members :=
  [("id", .str n.id), ("type", .str n.type), ("position", n.position.toJson), ("data", .obj n.data)]

theorem names_members (n : Node) : n.members.names = Body.nodeFields := rfl

/-- A node is read of an object that has its members and beside them what else is known of it. -/
theorem check_of_members {ms : Members} (id : n.id ≠ "") (type : n.type ≠ "")
    (x : Action.isNumber n.position.x = true) (y : Action.isNumber n.position.y = true)
    (own : ∀ m ∈ n.members, Members.get? ms m.1 = some m.2)
    (rest : ms.without Body.nodeFields = n.extras) : Body.checkNode .document ms = .sound n := by
  simp only [members, List.forall_mem_cons] at own
  obtain ⟨hasId, hasType, hasPosition, hasData, -⟩ := own
  rw [Body.checkNode, required_of_some hasId (nonemptyText_str id),
    required_of_some hasType (nonemptyText_str type),
    optional_of_some hasPosition (Position.check_toJson x y),
    optional_of_some hasData (a := n.data) rfl, rest]
  rfl

/-- What a node is that was read of a document. -/
structure IsRead (n : Node) : Prop where
  id : n.id ≠ ""
  type : n.type ≠ ""
  x : Action.isNumber n.position.x = true
  y : Action.isNumber n.position.y = true
  data : n.data.HaveDistinctNames
  extras : n.extras.HaveDistinctNames
  apart : ∀ name ∈ n.extras.names, name ∉ Body.nodeFields

/-- The node with the names of its data, and of what else is known of it, in order. -/
def inOrder (n : Node) : Node := { n.sorted with extras := n.extras.sorted }

namespace IsRead

variable (read : n.IsRead)
include read

theorem position : n.position.toJson.HasDistinctNames ∧
    n.position.toJson.sorted = n.position.toJson := by
  obtain ⟨-, sameX, distinctX⟩ := number_of_isNumber read.x
  obtain ⟨-, sameY, distinctY⟩ := number_of_isNumber read.y
  have distinct : Members.HaveDistinctNames [("x", n.position.x), ("y", n.position.y)] :=
    .obj (by simp [Members.names]) (by simp [distinctX, distinctY])
  refine ⟨distinct, ?_⟩
  rw [Position.toJson, sorted_obj, Members.sorted, List.map_cons, List.map_cons, List.map_nil,
    sameX, sameY]
  exact congrArg Json.obj (sortMembers_eq_self (List.pairwise_pair.2 (show "x" < "y" by decide)))

theorem toJson : n.toJson = .obj (n.extras ++ n.members) :=
  congrArg Json.obj (Members.update_eq_append
    (fun m hm h ↦ read.apart m.1 h (n.names_members ▸ List.mem_map_of_mem hm))
    (by simp [Members.names]))

theorem haveDistinctNames : Members.HaveDistinctNames (n.extras ++ n.members) := by
  have own : n.members.HaveDistinctNames := by
    refine .obj (by simp [names_members, Body.nodeFields]) ?_
    simp only [members, List.forall_mem_cons, List.not_mem_nil, false_implies, implies_true,
      and_true]
    exact ⟨.str _, .str _, read.position.1, read.data⟩
  exact read.extras.append own read.apart

theorem hasDistinctNames : n.toJson.HasDistinctNames := by
  rw [read.toJson]
  exact read.haveDistinctNames

theorem get?_own {m : String × Json} (h : m ∈ n.members) :
    Members.get? (n.extras ++ n.members) m.1 = some m.2 :=
  Members.get?_append_own read.apart (by simp [names_members, Body.nodeFields]) h

theorem without_own : Members.without (n.extras ++ n.members) Body.nodeFields = n.extras :=
  Members.without_append_own read.apart fun _ h ↦ h

/-- A node is read again as it is. -/
theorem checkNode : record .document (Body.checkNode .document) n.toJson = .sound n := by
  rw [read.toJson]
  exact check_of_members read.id read.type read.x read.y (fun _ ↦ read.get?_own) read.without_own

/-- If names were put in order, so are they in the node that is read. -/
theorem checkNode_sorted :
    record .document (Body.checkNode .document) n.toJson.sorted = .sound n.inOrder := by
  have distinct := read.haveDistinctNames.nodup
  have same : n.inOrder.members = n.members.map fun m ↦ (m.1, m.2.sorted) := by
    rw [members, members, List.map_cons, List.map_cons, List.map_cons, List.map_cons, List.map_nil,
      sorted_obj]
    exact congrArg (fun v ↦ [("id", .str n.id), ("type", .str n.type), ("position", v),
      ("data", .obj n.data.sorted)]) read.position.2.symm
  have own : ∀ m ∈ n.inOrder.members,
      Members.get? (Members.sorted (n.extras ++ n.members)) m.1 = some m.2 := by
    rw [same]
    refine List.forall_mem_map.2 fun m h ↦ ?_
    rw [Members.get?_sorted distinct, read.get?_own h, Option.map_some]
  have rest : Members.without (Members.sorted (n.extras ++ n.members)) Body.nodeFields =
      n.inOrder.extras := by
    rw [Members.without_sorted distinct, read.without_own]
    rfl
  rw [read.toJson, sorted_obj]
  exact check_of_members (n := n.inOrder) read.id read.type read.x read.y own rest

end IsRead

theorem IsSound.isRead (sound : n.IsSound) : n.IsRead where
  id := sound.id
  type := sound.type
  x := sound.x
  y := sound.y
  data := sound.data
  extras := by
    rw [sound.extras]
    exact .obj List.nodup_nil fun _ h ↦ (nomatch h)
  apart := by
    rw [sound.extras]
    exact fun _ h ↦ (nomatch h)

theorem IsSound.inOrder_eq (sound : n.IsSound) : n.inOrder = n.sorted := by
  rw [inOrder, sound.extras]
  exact congrArg (Node.mk n.id n.type n.position n.data.sorted) sound.extras.symm

end Node

/-! ## Edges -/

namespace Edge

variable {e : Edge}

/-- The members of an edge of which nothing else is known. -/
def members (e : Edge) : Members :=
  [("id", .str e.id), ("source", .str e.source), ("target", .str e.target)] ++
    member "sourceHandle" e.sourceHandle ++ member "targetHandle" e.targetHandle ++
    member "label" e.label

theorem haveDistinctNames (e : Edge) : e.members.HaveDistinctNames := by
  rw [members]
  refine .obj ?_ ?_
  · cases e.sourceHandle <;> cases e.targetHandle <;> cases e.label <;>
      simp [member, Members.names]
  · cases e.sourceHandle <;> cases e.targetHandle <;> cases e.label <;>
      simp [member, HasDistinctNames.str]

theorem get?_member (name key : String) (o : Option String) :
    Members.get? (member key o) name = if name = key then o.map .str else none := by
  cases o with
  | none => simp [member, Members.get?_nil]
  | some s => simp [member, Members.get?_cons, Members.get?_nil]

/-- There is nothing in an edge but texts. -/
theorem sorted_of_mem_members (e : Edge) : ∀ m ∈ e.members, m.2.sorted = m.2 := by
  have text (name : String) (o : Option String) : ∀ m ∈ member name o, m.2.sorted = m.2 := by
    cases o with
    | none => exact fun _ h ↦ (nomatch h)
    | some s => exact List.forall_mem_singleton.2 rfl
  simp only [members, List.forall_mem_append, List.forall_mem_cons]
  exact ⟨⟨⟨⟨rfl, rfl, rfl, fun _ h ↦ (nomatch h)⟩, text _ _⟩, text _ _⟩, text _ _⟩

/-- The names of the members that an edge may have. -/
def memberNames : List String := ["id", "source", "target", "sourceHandle", "targetHandle", "label"]

theorem get?_members (e : Edge) (name : String) : Members.get? e.members name =
    if name = "id" then some (.str e.id) else if name = "source" then some (.str e.source)
    else if name = "target" then some (.str e.target)
    else if name = "sourceHandle" then e.sourceHandle.map .str
    else if name = "targetHandle" then e.targetHandle.map .str
    else if name = "label" then e.label.map .str else none := by
  simp only [members, Members.get?_append, Members.get?_cons, Members.get?_nil, get?_member]
  split_ifs <;> simp_all

theorem names_members (e : Edge) : ∀ name ∈ e.members.names, name ∈ memberNames := by
  intro name h
  by_contra other
  refine Members.get?_eq_none_iff.1 ?_ h
  simp only [memberNames, List.mem_cons, List.not_mem_nil, or_false, not_or] at other
  simp [get?_members, other]

/-- What is there under a name that an edge may use is looked up. -/
theorem mem_edgeFields {ms : Members} {name : String} (known : name ∈ memberNames)
    (h : name ∈ ms.names) : name ∈ Body.edgeFields ms := by
  obtain ⟨v, found⟩ : ∃ v, Members.get? ms name = some v :=
    Option.ne_none_iff_exists'.1 fun none ↦ Members.get?_eq_none_iff.1 none h
  simp only [memberNames, List.mem_cons, List.not_mem_nil, or_false] at known
  rcases known with rfl | rfl | rfl | rfl | rfl | rfl <;>
    simp [Body.edgeFields, Body.sourceHandleName, Body.targetHandleName, nameOf_of_some, found]

/-- A text that may be absent is read as it is. -/
theorem optional_text {ms : Members} {name : String} {o : Option String}
    (found : Members.get? ms name = o.map .str) :
    optional ms name none (nullable text) = .sound o := by
  cases o with
  | none => exact optional_of_none found
  | some s => exact optional_of_some found rfl

/-- A handle is found that stands under its first name, or under neither name. -/
theorem optional_handle {ms : Members} {first second : String} {o : Option String}
    (found : Members.get? ms first = o.map .str)
    (plain : o = none → Members.get? ms second = none) :
    optional ms (nameOf ms first second) none (nullable text) = .sound o := by
  refine optional_text ?_
  cases o with
  | none => rw [nameOf_of_none found, plain rfl, Option.map_none]
  | some s => rw [nameOf_of_some found, found]

/-- An edge is read of an object that has its members and beside them what else is known of it, if a
handle that it has not does not stand under the other name either. -/
theorem check_of_members {ms : Members} (id : e.id ≠ "")
    (own : ∀ name ∈ memberNames, Members.get? ms name = Members.get? e.members name)
    (source : e.sourceHandle = none → Members.get? ms "source_handle" = none)
    (target : e.targetHandle = none → Members.get? ms "target_handle" = none)
    (rest : ms.without (Body.edgeFields ms) = e.extras) : Body.checkEdge ms = .sound e := by
  simp only [memberNames, List.forall_mem_cons, get?_members] at own
  obtain ⟨hasId, hasSource, hasTarget, hasFirst, hasSecond, hasLabel, -⟩ := own
  rw [Body.checkEdge, required_of_some hasId (nonemptyText_str id),
    required_of_some hasSource (a := e.source) rfl, required_of_some hasTarget (a := e.target) rfl,
    Body.sourceHandleName, optional_handle hasFirst source, Body.targetHandleName,
    optional_handle hasSecond target, optional_text hasLabel, rest]
  rfl

/-- What an edge is that was read of a document. -/
structure IsRead (e : Edge) : Prop where
  id : e.id ≠ ""
  extras : e.extras.HaveDistinctNames
  apart : ∀ name ∈ e.extras.names, name ∉ memberNames

/-- The edge lacks a handle, and has something under the other name of it. -/
def HidesHandle (e : Edge) : Prop :=
  e.sourceHandle = none ∧ "source_handle" ∈ e.extras.names ∨
    e.targetHandle = none ∧ "target_handle" ∈ e.extras.names

/-- The edge with the names of what else is known of it in order. -/
def inOrder (e : Edge) : Edge := { e with extras := e.extras.sorted }

/-- Where a handle is not hidden, there is nothing under the other name of one that is lacking. -/
theorem get?_second {second : String} {handle : Option String} (new : second ∉ memberNames)
    (plain : ¬(handle = none ∧ second ∈ e.extras.names)) (lacking : handle = none) :
    Members.get? (e.extras ++ e.members) second = none := by
  rw [Members.get?_eq_none_iff, Members.names_append]
  exact List.not_mem_append (fun left ↦ plain ⟨lacking, left⟩)
    fun h ↦ new (e.names_members second h)

theorem edgeFields_sorted {ms : Members} (distinct : ms.names.Nodup) :
    Body.edgeFields ms.sorted = Body.edgeFields ms := by
  have same (first second : String) : nameOf ms.sorted first second = nameOf ms first second := by
    rw [nameOf, nameOf, Members.has, Members.has, Members.get?_sorted distinct, Option.isSome_map]
  rw [Body.edgeFields, Body.edgeFields, Body.sourceHandleName, Body.sourceHandleName,
    Body.targetHandleName, Body.targetHandleName, same, same]

namespace IsRead

variable (read : e.IsRead)
include read

theorem toJson : e.toJson = .obj (e.extras ++ e.members) :=
  congrArg Json.obj (Members.update_eq_append
    (fun m hm h ↦ read.apart m.1 h (e.names_members m.1 (List.mem_map_of_mem hm)))
    e.haveDistinctNames.nodup)

theorem haveDistinctNames : Members.HaveDistinctNames (e.extras ++ e.members) :=
  read.extras.append e.haveDistinctNames fun name left h ↦
    read.apart name left (e.names_members name h)

theorem hasDistinctNames : e.toJson.HasDistinctNames := by
  rw [read.toJson]
  exact read.haveDistinctNames

theorem get?_extras_members (name : String) (h : name ∈ memberNames) :
    Members.get? (e.extras ++ e.members) name = Members.get? e.members name := by
  rw [Members.get?_append, Members.get?_eq_none_iff.2 fun left ↦ read.apart name left h,
    Option.none_or]

/-- Where a handle is not hidden, what else is known of the edge is not taken for it. -/
theorem nameOf_notMem {first second : String} {handle : Option String} (h : first ∈ memberNames)
    (own : Members.get? e.members first = handle.map .str)
    (plain : ¬(handle = none ∧ second ∈ e.extras.names)) :
    nameOf (e.extras ++ e.members) first second ∉ e.extras.names := by
  have found := (read.get?_extras_members first h).trans own
  intro left
  cases handle with
  | none =>
    rw [nameOf_of_none found] at left
    exact plain ⟨rfl, left⟩
  | some s =>
    rw [nameOf_of_some found] at left
    exact read.apart first left h

section Plain

variable (plain : ¬e.HidesHandle)
include plain

/-- What is left of an edge that hides no handle is what else is known of it. -/
theorem without_own : Members.without (e.extras ++ e.members)
    (Body.edgeFields (e.extras ++ e.members)) = e.extras := by
  obtain ⟨source, target⟩ := not_or.1 plain
  refine Members.without_append_own (fun name left declared ↦ ?_) fun name h ↦
    mem_edgeFields (e.names_members name h) (Members.names_append _ _ ▸ List.mem_append_right _ h)
  have other := read.apart name left
  simp only [memberNames, Body.edgeFields, List.mem_cons, List.not_mem_nil, or_false,
    not_or] at other declared
  rcases declared with h | h | h | rfl | rfl | h
  · exact other.1 h
  · exact other.2.1 h
  · exact other.2.2.1 h
  · exact read.nameOf_notMem (by decide) (e.get?_members _) source left
  · exact read.nameOf_notMem (by decide) (e.get?_members _) target left
  · exact other.2.2.2.2.2 h

/-- An edge that hides no handle is read again as it is. -/
theorem checkEdge : record .document Body.checkEdge e.toJson = .sound e := by
  obtain ⟨source, target⟩ := not_or.1 plain
  rw [read.toJson]
  exact check_of_members read.id read.get?_extras_members (get?_second (by decide) source)
    (get?_second (by decide) target) (read.without_own plain)

/-- If names were put in order, so are they in the edge that is read. -/
theorem checkEdge_sorted : record .document Body.checkEdge e.toJson.sorted = .sound e.inOrder := by
  obtain ⟨source, target⟩ := not_or.1 plain
  have distinct := read.haveDistinctNames.nodup
  have found := Members.get?_sorted distinct
  have own : ∀ name ∈ memberNames, Members.get? (Members.sorted (e.extras ++ e.members)) name =
      Members.get? e.members name := by
    intro name h
    rw [found, read.get?_extras_members name h]
    cases hv : Members.get? e.members name with
    | none => rfl
    | some v => exact congrArg some (e.sorted_of_mem_members _ (Members.mem_of_get? hv))
  have rest : Members.without (Members.sorted (e.extras ++ e.members))
      (Body.edgeFields (Members.sorted (e.extras ++ e.members))) = e.inOrder.extras := by
    rw [edgeFields_sorted distinct, Members.without_sorted distinct, read.without_own plain]
    rfl
  rw [read.toJson, sorted_obj]
  refine check_of_members (e := e.inOrder) read.id own (fun lacking ↦ ?_) (fun lacking ↦ ?_) rest
  · rw [found, get?_second (by decide) source lacking, Option.map_none]
  · rw [found, get?_second (by decide) target lacking, Option.map_none]

end Plain

end IsRead

section IsSound

variable (sound : e.IsSound)
include sound

theorem IsSound.isRead : e.IsRead where
  id := sound.id
  extras := by
    rw [sound.extras]
    exact .obj List.nodup_nil fun _ h ↦ (nomatch h)
  apart := by
    rw [sound.extras]
    exact fun _ h ↦ (nomatch h)

theorem IsSound.not_hidesHandle : ¬e.HidesHandle := by
  rw [HidesHandle, sound.extras]
  rintro (⟨-, h⟩ | ⟨-, h⟩) <;> cases h

theorem IsSound.inOrder_eq : e.inOrder = e := by
  rw [inOrder, sound.extras]
  exact congrArg (Edge.mk e.id e.source e.target e.sourceHandle e.targetHandle e.label)
    sound.extras.symm

end IsSound

end Edge

/-! ## Documents -/

namespace Members.IsView

variable {ms : Members} (view : ms.IsView)
include view

/-- A view is read back with all its coordinates. -/
theorem checkViewport : Body.checkViewport ms.sorted = .sound ms.filled := by
  have coordinate {name : String} (default : Json) (h : name ∈ Body.viewportFields) :
      optional ms.sorted name default number = .sound ((get? ms name).getD default) := by
    have found := get?_sorted view.distinct.nodup name
    cases hv : get? ms name with
    | none => exact optional_of_none (by rw [found, hv]; rfl)
    | some v =>
      obtain ⟨sound, same, -⟩ := number_of_isNumber (view.numbers name h v hv)
      refine optional_of_some ?_ sound
      rw [found, hv, Option.map_some, same]
  rw [Body.checkViewport, coordinate _ (by decide), coordinate _ (by decide),
    coordinate _ (by decide)]
  rfl

theorem filled : ms.filled.IsView := by
  have numbers : ∀ k ∈ Body.viewportFields, ∀ v, get? ms.filled k = some v →
      Action.isNumber v = true := by
    intro k hk v hv
    rw [view.get?_filled] at hv
    cases hw : get? ms k with
    | none =>
      rw [hw] at hv
      simp only [Body.viewportFields, List.mem_cons, List.not_mem_nil, or_false] at hk
      rcases hk with rfl | rfl | rfl <;> (cases hv; rfl)
    | some w =>
      have number := view.numbers k hk w hw
      rw [hw, Option.map_some, (number_of_isNumber number).2.1] at hv
      cases hv
      exact number
  have coordinate {k : String} {default : Json} (hk : k ∈ Body.viewportFields)
      (hd : default.HasDistinctNames) : ((get? ms k).getD default).HasDistinctNames := by
    cases hv : get? ms k with
    | none => exact hd
    | some v => exact (number_of_isNumber (view.numbers k hk v hv)).2.2
  exact ⟨haveDistinctNames_view (coordinate (by decide) (.int 0)) (coordinate (by decide) (.int 0))
    (coordinate (by decide) (.int 1)) view.distinct.sorted, numbers⟩

end Members.IsView

namespace Graph

variable {g : Graph}

/-- A graph of which a body document gives back all there is. -/
structure IsStorable (g : Graph) : Prop where
  nodes : ∀ n ∈ g.nodes.rows, n.IsRead
  edges : ∀ e ∈ g.edges.rows, e.IsRead
  handles : ∀ e ∈ g.edges.rows, ¬e.HidesHandle
  viewport : g.viewport.IsView
  apart : ∀ n ∈ g.nodes.rows, ∀ e ∈ g.edges.rows, n.id ≠ e.id

theorem IsSound.isStorable (sound : g.IsSound) : g.IsStorable where
  nodes n hn := (sound.nodes n hn).isRead
  edges e he := (sound.edges e he).isRead
  handles e he := (sound.edges e he).not_hidesHandle
  viewport := sound.viewport
  apart := sound.kept.apart

/-- The members of the body of a graph. -/
def members (g : Graph) : Members :=
  [("nodes", .arr (g.nodes.rows.map Node.toJson)), ("edges", .arr (g.edges.rows.map Edge.toJson)),
    ("viewport", .obj g.viewport)]

/-- What the body of a graph holds once its names are in order. -/
def bodyInOrder (g : Graph) : Body :=
  ⟨g.nodes.rows.map Node.inOrder, g.edges.rows.map Edge.inOrder, some g.viewport.filled⟩

theorem ids_bodyInOrder (g : Graph) : g.bodyInOrder.ids = g.nodes.keys ++ g.edges.keys := by
  rw [Body.ids, bodyInOrder, List.map_map, List.map_map]
  rfl

namespace IsStorable

variable (storable : g.IsStorable)
include storable

theorem haveDistinctNames : g.members.HaveDistinctNames := by
  refine .obj (by simp [members, Members.names]) ?_
  simp only [members, List.forall_mem_cons, List.not_mem_nil, false_implies, implies_true, and_true]
  exact ⟨.arr (List.forall_mem_map.2 fun n hn ↦ (storable.nodes n hn).hasDistinctNames),
    .arr (List.forall_mem_map.2 fun e he ↦ (storable.edges e he).hasDistinctNames),
    storable.viewport.distinct⟩

/-- The body of a graph is checked as what the graph holds. -/
theorem check : Body.check .document g.toJson.sorted = .sound g.bodyInOrder := by
  have distinct := storable.haveDistinctNames
  have own (name : String) (v : Json) (h : (name, v) ∈ g.members) :
      Members.get? g.members.sorted name = some v.sorted := by
    rw [Members.get?_sorted distinct.nodup, (Members.get?_eq_some_iff distinct.nodup).2 h,
      Option.map_some]
  have nodes := own "nodes" (.arr (g.nodes.rows.map Node.toJson)) (by simp [members])
  have edges := own "edges" (.arr (g.edges.rows.map Edge.toJson)) (by simp [members])
  have view := own "viewport" (.obj g.viewport) (by simp [members])
  rw [sorted_arr, List.map_map] at nodes edges
  rw [sorted_obj] at view
  have eachNode : list (record .document (Body.checkNode .document))
      (.arr (g.nodes.rows.map (Json.sorted ∘ Node.toJson))) =
        .sound (g.nodes.rows.map Node.inOrder) :=
    list_map fun n hn ↦ (storable.nodes n hn).checkNode_sorted
  have eachEdge : list (record .document Body.checkEdge)
      (.arr (g.edges.rows.map (Json.sorted ∘ Edge.toJson))) =
        .sound (g.edges.rows.map Edge.inOrder) :=
    list_map fun e he ↦ (storable.edges e he).checkEdge_sorted (storable.handles e he)
  have seen : nullable (record .document Body.checkViewport) (.obj g.viewport.sorted) =
      .sound (some g.viewport.filled) :=
    congrArg (Checked.map some) storable.viewport.checkViewport
  change Body.check .document (Json.obj g.members).sorted = _
  rw [sorted_obj, Body.check, record, optional_of_some nodes eachNode,
    optional_of_some edges eachEdge, optional_of_some view seen]
  rfl

/-- The body of a graph, if it can be read at all, is loaded as the graph, with all names in order
and its view filled up. -/
theorem exists_ofBodyText (readable : (readDocument? (canonical g.toJson)).isSome = true) :
    ∃ g', ofBodyText (canonical g.toJson) = .ok g' ∧ ofBody g.bodyInOrder = .ok g' := by
  obtain ⟨v, hv⟩ := Option.isSome_iff_exists.1 readable
  obtain rfl := readDocument?_canonical (v := g.toJson) storable.haveDistinctNames hv
  have distinct : g.bodyInOrder.ids.Nodup := by
    rw [ids_bodyInOrder, List.nodup_append]
    refine ⟨g.nodes.distinct, g.edges.distinct, fun id hn _ he ↦ ?_⟩
    obtain ⟨n, inNodes, rfl⟩ := List.mem_map.1 hn
    obtain ⟨e, inEdges, rfl⟩ := List.mem_map.1 he
    exact storable.apart n inNodes e inEdges
  obtain ⟨g', made⟩ := exists_ofBody distinct
  refine ⟨g', ?_, made⟩
  rw [ofBodyText, hv]
  change ofBodyJson g.toJson.sorted = _
  rw [ofBodyJson, storable.check]
  exact made

end IsStorable

/-! ## Loading -/

/-- The body of a sound graph, if it can be read at all, is loaded as the graph, with the names of
its data in order and its view filled up. -/
theorem ofBodyText_canonical (sound : g.IsSound)
    (readable : (readDocument? (canonical g.toJson)).isSome = true) :
    ∃ g', ofBodyText (canonical g.toJson) = .ok g' ∧ g.IsSorted g' ∧
      g'.viewport = g.viewport.filled ∧ g'.IsSound := by
  obtain ⟨g', loaded, made⟩ := sound.isStorable.exists_ofBodyText readable
  have loads := (ofBody_eq_ok_iff.1 made).2
  have nodes : g'.nodes.rows = g.nodes.rows.map Node.sorted :=
    loads.nodes.trans (List.map_congr_left fun n hn ↦ (sound.nodes n hn).inOrder_eq)
  have edges : g'.edges.rows = g.edges.rows := loads.edges.trans <|
    (List.map_congr_left fun e he ↦ (sound.edges e he).inOrder_eq).trans (List.map_id _)
  have viewport : g'.viewport = g.viewport.filled := loads.viewport
  refine ⟨g', loaded, ⟨nodes, edges, fun n hn ↦ (sound.nodes n hn).data⟩, viewport, ?_, ?_, ?_,
    isKept_ofBody made⟩
  · rw [nodes]
    refine List.forall_mem_map.2 fun n hn ↦ ?_
    have old := sound.nodes n hn
    exact ⟨old.id, old.type, old.x, old.y, old.data.sorted, old.extras⟩
  · rw [edges]
    exact sound.edges
  · rw [viewport]
    exact sound.viewport.filled

/-- What is loaded was read. -/
theorem isSome_of_ofBodyText {text : String} (h : ofBodyText text = .ok g) :
    (readDocument? text).isSome = true := by
  rw [ofBodyText] at h
  split at h
  · rename_i v hv
    rw [hv]
    rfl
  · cases h

/-- The body of a sound graph can be read if it keeps to the limits of documents. -/
theorem IsSound.isSome_readDocument? (sound : g.IsSound) :
    (readDocument? (canonical g.toJson)).isSome = fits .document g.toJson :=
  isSome_readDocument?_canonical sound.isStorable.haveDistinctNames

end Graph

end CallFlow
