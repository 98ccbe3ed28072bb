import CallFlow.Proofs.Compiled
import CallFlow.Proofs.Script.Stored

/-!
# Scripts without loose ends

The items of a script are those of the nodes that validation does not report as unreachable, each of
them once and the entry first, and no item goes on to anything but an item (`script_isClosed`). The
walk that makes the items and the closure in which validation looks for nodes are told apart by
their order, and by ids of missing nodes, which only the closure comes to.
-/

namespace CallFlow

namespace Script

variable {r : Registry} {g : Graph} {n : Node} {name : String} {type : PolicyType}

/-- The ids of the items, in order. -/
def ids (script : Script) : List String := script.items.map Item.id

/-! ## Ways on -/

/-- Whatever an item of a document goes on to is one of the ids. -/
structure GoesOnAmong (ids : List String) (item : Json) : Prop where
  next : ∀ v, item.member? "next" = some v → v ≠ .null → ∃ t ∈ ids, v = .str t
  branches : ∀ v, item.member? "branches" = some v →
    ∃ bs, v = .arr bs ∧ ∀ b ∈ bs, ∃ t ∈ ids, b.member? "target" = some (.str t)

theorem member?_toJson (i : Item) (name : String) :
    i.toJson.member? name = Members.get? i.members name := rfl

theorem target_branch (b : Branch) : b.toJson.member? "target" = some (.str b.target) := by
  change Members.get? b.members "target" = _
  simp [Branch.members, Members.get?_cons]

theorem get?_next_members {x : Exit} {v : Json} (h : Members.get? x.members "next" = some v)
    (some : v ≠ .null) : ∃ t, x.target? = .some t ∧ v = .str t := by
  cases x with
  | next template target =>
    cases target with
    | none =>
      cases h
      exact absurd rfl some
    | some t =>
      cases h
      exact ⟨t, rfl, rfl⟩
  | branches template bs => cases h
  | inert bs => cases h

theorem get?_branches_members {x : Exit} {v : Json}
    (h : Members.get? x.members "branches" = some v) : v = .arr (x.ways.map Branch.toJson) := by
  cases x with
  | next template target => cases h
  | branches template bs =>
    cases h
    rfl
  | inert bs =>
    cases h
    rfl

/-- An item goes on to where its exit leads. -/
theorem goesOnAmong_of_exit {ids : List String} {i : Item}
    (next : ∀ t, i.exit.target? = some t → t ∈ ids) (ways : ∀ b ∈ i.exit.ways, b.target ∈ ids) :
    GoesOnAmong ids i.toJson := by
  have written (name : String) (other : name ∉ ["id", "name", "type", "enabled", "variables",
      "entry"]) : i.toJson.member? name = Members.get? i.exit.members name :=
    (member?_toJson i name).trans (StoredScript.get?_exit i other)
  constructor
  · intro v hv some
    rw [written "next" (by decide)] at hv
    obtain ⟨t, leads, rfl⟩ := get?_next_members hv some
    exact ⟨t, next t leads, rfl⟩
  · intro v hv
    rw [written "branches" (by decide)] at hv
    refine ⟨_, get?_branches_members hv, List.forall_mem_map.2 fun b hb ↦ ?_⟩
    exact ⟨b.target, ways b hb, target_branch b⟩

/-- The exit of a node leads to where its edges do. -/
theorem exit_leads (edges : List Edge) {P : String → Prop} (h : ∀ e ∈ edges, P e.target) :
    (∀ t, (Exit.plain r n edges).target? = some t → P t) ∧
      ∀ b ∈ (Exit.plain r n edges).ways, P b.target := by
  cases limited : r.maxOutgoing n.type with
  | none =>
    obtain ⟨target, ways⟩ := Exit.plain_of_unlimited limited edges
    rw [target, ways]
    exact ⟨fun t none ↦ absurd none.symm (Option.some_ne_none t), List.forall_mem_map.2 h⟩
  | some limit =>
    rw [Exit.plain_of_limit limited]
    refine ⟨fun t ht ↦ ?_, List.forall_mem_nil _⟩
    obtain ⟨e, he, rfl⟩ := Option.map_eq_some_iff.1 ht
    exact h e (List.mem_of_head? he)

/-! ## Items -/

theorem entry_toJson (i : Item) :
    i.toJson.member? "entry" = some (.bool true) ↔ i.isEntry = true := by
  rw [member?_toJson, StoredScript.get?_entry]
  cases i.isEntry <;> simp

/-- The items of a script are those of the nodes that its entry reaches. -/
theorem mem_ids_iff {entry : Node} {script : Script}
    (items : script.items = (g.preorder entry.id).map (Item.plain r g entry.id)) {id : String} :
    id ∈ script.ids ↔ g.hasNode id = true ∧ g.Reaches entry.id id := by
  rw [ids, items, List.map_map]
  exact Graph.mem_ids_preorder.trans ⟨fun path ↦ ⟨path.hasNode, path⟩, And.right⟩

/-- A script has one item for each node that is not reported as unreachable, and for nothing else.
The entry comes first and is alone marked as such, and every way on leads to an item. -/
theorem script_isClosed {script : Script} (h : ofGraph r g name type = .ok script) :
    script.ids.Nodup ∧
    (∀ id, id ∈ script.ids ↔ g.hasNode id = true ∧ .unreachable id ∉ g.validate r) ∧
    (∃ entry, g.entries r = [entry] ∧ script.ids.head? = some entry.id ∧
      ∀ i ∈ script.items, i.toJson.member? "entry" = some (.bool true) ↔ i.id = entry.id) ∧
    ∀ i ∈ script.items, GoesOnAmong script.ids i.toJson := by
  obtain ⟨entry, he, sound, rfl⟩ := ofGraph_eq_ok_iff.1 h
  obtain ⟨inside, -⟩ := mem_of_entries he
  refine ⟨?_, fun id ↦ ?_, ⟨entry, he, ?_, List.forall_mem_map.2 fun n hn ↦ ?_⟩,
    List.forall_mem_map.2 fun n hn ↦ ?_⟩
  · rw [ids, List.map_map]
    exact g.nodup_preorder entry.id
  · rw [mem_ids_iff rfl, Graph.unreachable_mem_validate_iff, he]
    refine and_congr_right fun there ↦ ?_
    simp [there]
  · obtain ⟨rest, hr⟩ := Graph.preorder_eq_cons (Graph.node?_of_mem inside)
    rw [ids, hr]
    rfl
  · rw [entry_toJson]
    exact beq_iff_eq
  · have leads := exit_leads (r := r) (n := n) (g.outgoing n.id)
      (P := (· ∈ ids ⟨name, type, (g.preorder entry.id).map (Item.plain r g entry.id)⟩)) ?_
    · exact goesOnAmong_of_exit leads.1 leads.2
    · intro e he
      obtain ⟨t, ht, target⟩ := exists_target sound hn he
      rw [ids, List.map_map]
      exact List.mem_map.2 ⟨t, ht, target⟩

/-- A flow that comes back to a menu it was in, and a node to which nothing leads. -/
theorem looping_flow_isClosed :
    let start : Node := { id := "start", type := "init", data := [("name", .str "Start")] }
    let menu (id : String) : Node := { id, type := "voice-menu" }
    let way (id source target : String) : Edge := { id, source, target }
    let g : Graph :=
      { nodes := (((Table.empty.put (menu "lost")).put start).put (menu "a")).put (menu "b")
        edges := (((((Table.empty.put (way "1" "b" "a")).put (way "2" "start" "a")).put
          (way "3" "a" "b")).put (way "4" "a" "b")).put (way "5" "lost" "a")).put
            (way "6" "b" "b") }
    ∃ script, ofGraph Catalog.registry g "Main" .call = .ok script ∧
      (∀ id, id ∈ script.ids ↔
        g.hasNode id = true ∧ .unreachable id ∉ g.validate Catalog.registry) ∧
      .unreachable "lost" ∈ g.validate Catalog.registry ∧
      ∀ i ∈ script.items, GoesOnAmong script.ids i.toJson := by
  intro start menu way g
  have valid : g.IsValid Catalog.registry := (g.areHarmless_validate _).1 (by decide +kernel)
  obtain ⟨script, h⟩ : ∃ script, ofGraph Catalog.registry g "Main" .call = .ok script :=
    Compiled.exists_script_of_isValid Catalog.drawnFrom_registry valid
  have closed := script_isClosed h
  exact ⟨script, h, closed.2.1, by decide +kernel, closed.2.2.2⟩

end Script

end CallFlow
