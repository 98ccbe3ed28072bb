import CallFlow.Proofs.Compiled
import CallFlow.Proofs.Json.Alike
import CallFlow.Proofs.Script.Stored

/-!
# What a script depends on

Graphs may say the same flow and look quite different: their nodes and edges were added in another
order, lie elsewhere on the canvas, have other edge ids, or stand beside others that no edge leads
to. The script does not tell: of two graphs that say the same flow from their entries
(`Graph.SameFlow`) either none has a script, or the scripts are the same text
(`sameText_of_sameFlow`).

For a fault that is found in the one graph is there in the other as well, though not necessarily
found first, and without faults both are walked through the same nodes.
-/

namespace CallFlow

open Json

/-! ## Values -/

namespace Json.Alike

variable {v w : Json}

theorem isUnset_eq (h : v.Alike w) : isUnset (some v) = isUnset (some w) := by
  cases h <;> rfl

theorem eq_null_iff (h : v.Alike w) : v = .null ↔ w = .null := by
  cases h <;> simp

theorem eq_str_iff (h : v.Alike w) (s : String) : v = .str s ↔ w = .str s := by
  cases h <;> simp

theorem eq_bool_iff (h : v.Alike w) (b : Bool) : v = .bool b ↔ w = .bool b := by
  cases h <;> simp

end Json.Alike

namespace Members.Alike

variable {ms ms' : Members}

/-- What is found under a name is found in the other members as well. -/
theorem exists_get? (h : ms.Alike ms') {name : String} {v : Json}
    (found : Members.get? ms name = some v) :
    ∃ v', Members.get? ms' name = some v' ∧ v.Alike v' := by
  obtain _ | _ | _ | _ | _ | _ | ⟨-, names, each⟩ := h
  obtain ⟨v', found'⟩ := mem_names_iff.1 (names.mem_iff.1 (mem_names_iff.2 ⟨v, found⟩))
  exact ⟨v', found', each name v v' found found'⟩

theorem get?_eq_none_iff (h : ms.Alike ms') {name : String} :
    Members.get? ms name = none ↔ Members.get? ms' name = none := by
  rw [← Option.map_eq_none_iff (f := Json.sorted), h.sorted_get?, Option.map_eq_none_iff]

theorem isUnset_eq (h : ms.Alike ms') (name : String) :
    isUnset (Members.get? ms name) = isUnset (Members.get? ms' name) := by
  cases found : Members.get? ms name with
  | none => rw [h.get?_eq_none_iff.1 found]
  | some v =>
    obtain ⟨v', found', alike⟩ := h.exists_get? found
    rw [found', alike.isUnset_eq]

theorem without_sorted_eq (h : ms.Alike ms') (names : List String) :
    (ms.without names).sorted = (ms'.without names).sorted := by
  obtain ⟨distinct, distinct', same⟩ := alike_iff.1 h
  rw [← without_sorted distinct.nodup, same, without_sorted distinct'.nodup]

end Members.Alike

/-! ## The same flow -/

namespace Graph

variable {r : Registry} {g g' : Graph} {start : String} {n n' : Node}

/-- From the start the same existing nodes are reached in both graphs. Each of them has the same
type, the same data but for the order of names, and edges that lead on alike: to the same ids, under
the same labels and from the same handles, one after the other. -/
structure SameFlow (g g' : Graph) (start : String) : Prop where
  reached : ∀ id, g.Reaches start id ↔ g'.Reaches start id
  type : ∀ n ∈ g.nodes.rows, ∀ n' ∈ g'.nodes.rows, g.Reaches start n.id → n'.id = n.id →
    n'.type = n.type
  data : ∀ n ∈ g.nodes.rows, ∀ n' ∈ g'.nodes.rows, g.Reaches start n.id → n'.id = n.id →
    n.data.Alike n'.data
  ways : ∀ id, g.Reaches start id →
    (g'.outgoing id).map Script.Branch.ofEdge = (g.outgoing id).map Script.Branch.ofEdge

namespace SameFlow

theorem symm (h : g.SameFlow g' start) : g'.SameFlow g start where
  reached id := (h.reached id).symm
  type n' hn' n hn path id := (h.type n hn n' hn' (id ▸ (h.reached _).2 path) id.symm).symm
  data n' hn' n hn path id := (h.data n hn n' hn' (id ▸ (h.reached _).2 path) id.symm).symm
  ways id path := (h.ways id ((h.reached id).2 path)).symm

section

variable (h : g.SameFlow g' start)
include h

theorem successors_eq {id : String} (path : g.Reaches start id) :
    g'.successors id = g.successors id := by
  have := congrArg (List.map Script.Branch.target) (h.ways id path)
  rwa [List.map_map, List.map_map] at this

/-- Each edge that leaves a node that is reached leads on like one of the other graph. -/
theorem exists_edge {id : String} (path : g.Reaches start id) {e' : Edge}
    (he' : e' ∈ g'.outgoing id) :
    ∃ e ∈ g.outgoing id, Script.Branch.ofEdge e = Script.Branch.ofEdge e' := by
  have := List.mem_map_of_mem (f := Script.Branch.ofEdge) he'
  rwa [h.ways id path, List.mem_map] at this

/-- To every node that is reached there is one of its id in the other graph. -/
theorem exists_node (hn : n ∈ g.preorder start) :
    ∃ m, g'.node? n.id = some m ∧ m ∈ g'.nodes.rows ∧ m.id = n.id := by
  obtain ⟨m, hm⟩ := exists_node?_of_hasNode ((h.reached n.id).1 (mem_preorder.1 hn).2).hasNode
  exact ⟨m, hm, mem_of_node? hm, node?_id hm⟩

/-- What is wrong with a node in the other graph is wrong with it. -/
theorem faulty (hn : n ∈ g.preorder start) (hn' : n' ∈ g'.nodes.rows) (id : n'.id = n.id)
    (fault : g'.Faulty r n') : g.Faulty r n := by
  obtain ⟨inside, path⟩ := mem_preorder.1 hn
  have type := h.type n inside n' hn' path id
  have data := h.data n inside n' hn' path id
  rcases fault with ⟨f, hf, unset⟩ | ⟨v, hv, notNull, notText⟩ | ⟨v, hv, notNull, notBool⟩ |
    ⟨e, he, missing⟩ | ⟨k, limit, hk, hl, excess⟩ | ⟨k, e, hk, hb, he, unset⟩
  · exact .unset f (type ▸ hf) (data.isUnset_eq f ▸ unset)
  · obtain ⟨w, hw, alike⟩ := data.symm.exists_get? hv
    exact .name w hw (mt alike.eq_null_iff.2 notNull) fun s ↦ mt (alike.eq_str_iff s).2 (notText s)
  · obtain ⟨w, hw, alike⟩ := data.symm.exists_get? hv
    exact .enabled w hw (mt alike.eq_null_iff.2 notNull) fun b ↦
      mt (alike.eq_bool_iff b).2 (notBool b)
  · obtain ⟨d, hd, same⟩ := h.exists_edge path (id ▸ he)
    have target : d.target = e.target := congrArg Script.Branch.target same
    refine .dangling d hd (Bool.eq_false_iff.2 fun there ↦ ?_)
    obtain ⟨mem, source⟩ := List.mem_filter.1 hd
    have leads : g.Leads n.id d.target :=
      ⟨⟨d, mem, beq_iff_eq.1 source, rfl⟩, path.hasNode, there⟩
    have there' := ((h.reached _).1 (path.tail leads)).hasNode
    rw [target, missing] at there'
    cases there'
  · have length := congrArg List.length (h.ways n.id path)
    rw [List.length_map, List.length_map] at length
    exact .overfull k limit (type ▸ hk) hl (length ▸ id ▸ excess)
  · obtain ⟨d, hd, same⟩ := h.exists_edge path (id ▸ he)
    have label : d.label = e.label := congrArg Script.Branch.label same
    exact .unlabelled k d (type ▸ hk) hb hd (label ▸ unset)

/-- If nothing is wrong with what is reached, so it is in the other graph. -/
theorem sound (sound : ∀ n ∈ g.preorder start, ¬g.Faulty r n) :
    ∀ n' ∈ g'.preorder start, ¬g'.Faulty r n' := by
  intro n' hn' fault
  obtain ⟨inside', path'⟩ := mem_preorder.1 hn'
  obtain ⟨n, -, inside, id⟩ := h.symm.exists_node hn'
  have hn : n ∈ g.preorder start :=
    mem_preorder.2 ⟨inside, (h.reached n.id).2 (id ▸ path')⟩
  exact sound n hn (h.faulty hn inside' id.symm fault)

end

end SameFlow

end Graph

/-! ## Scripts -/

namespace Script

variable {r : Registry} {g g' : Graph} {n n' entry entry' : Node}

/-- Nodes of one type with like data give items the same name. -/
theorem Item.name_plain_congr (type : n'.type = n.type) (data : n.data.Alike n'.data)
    (start : String) : (Item.plain r g' start n').name = (Item.plain r g start n).name := by
  rw [plain, plain]
  cases found : Members.get? n.data "name" with
  | none => rw [data.get?_eq_none_iff.1 found, type]
  | some v =>
    obtain ⟨v', found', alike⟩ := data.exists_get? found
    rw [found', type]
    cases alike <;> rfl

/-- Nodes with like data are both enabled, or both not. -/
theorem Item.enabled_plain_congr (data : n.data.Alike n'.data) (start : String) :
    (Item.plain r g' start n').enabled = (Item.plain r g start n).enabled := by
  rw [plain, plain]
  cases found : Members.get? n.data "enabled" with
  | none => rw [data.get?_eq_none_iff.1 found]
  | some v =>
    obtain ⟨v', found', alike⟩ := data.exists_get? found
    rw [found']
    cases alike <;> rfl

/-- Nodes that say the same make the same item, but for the order of names. -/
theorem Item.sorted_plain_congr {start : String} (flow : g.SameFlow g' start)
    (hn : n ∈ g.preorder start) (hn' : n' ∈ g'.nodes.rows) (id : n'.id = n.id) :
    (Item.plain r g' start n').sorted = (Item.plain r g start n).sorted := by
  obtain ⟨inside, path⟩ := Graph.mem_preorder.1 hn
  have type := flow.type n inside n' hn' path id
  have data := flow.data n inside n' hn' path id
  have values := data.without_sorted_eq reservedNames
  have exit : Exit.plain r n' (g'.outgoing n'.id) = Exit.plain r n (g.outgoing n.id) :=
    Exit.plain_congr type (id ▸ flow.ways n.id path)
  change Item.mk n'.id (Item.plain r g' start n').name n'.type (Item.plain r g' start n').enabled
    (Members.sorted (n'.data.without reservedNames)) (n'.id == start)
    (Exit.plain r n' (g'.outgoing n'.id)) = _
  rw [Item.name_plain_congr (g := g) type data, Item.enabled_plain_congr (g := g) data, ← values,
    exit, type, id]
  rfl

section SameFlow

variable (flow : g.SameFlow g' entry.id) (entries : g.entries r = [entry]) {name : String}
  {type : PolicyType}
include flow entries

/-- The values of a script that another graph says as well have distinct names. -/
theorem haveDistinctNames_of_sameFlow {script : Script} (h : ofGraph r g name type = .ok script) :
    ∀ i ∈ script.items, i.values.HaveDistinctNames := by
  obtain ⟨_, he, -, rfl⟩ := ofGraph_eq_ok_iff.1 h
  obtain rfl := List.singleton_inj.1 (entries.symm.trans he)
  refine List.forall_mem_map.2 fun n hn ↦ ?_
  obtain ⟨m, -, inside, same⟩ := flow.exists_node hn
  obtain ⟨mem, path⟩ := Graph.mem_preorder.1 hn
  exact (Members.alike_iff.1 (flow.data n mem m inside path same)).1.without _

/-- If there is a script of the one graph, there is one of the other, and it is the same text. -/
theorem exists_ofGraph_of_sameFlow (entries' : g'.entries r = [entry'])
    (id : entry'.id = entry.id) {script : Script} (h : ofGraph r g name type = .ok script) :
    ∃ script', ofGraph r g' name type = .ok script' ∧
      canonical script'.toJson = canonical script.toJson := by
  have values := haveDistinctNames_of_sameFlow flow entries h
  obtain ⟨_, he, sound, rfl⟩ := ofGraph_eq_ok_iff.1 h
  obtain rfl := List.singleton_inj.1 (entries.symm.trans he)
  have h' : ofGraph r g' name type =
      .ok ⟨name, type, (g'.preorder entry.id).map (Item.plain r g' entry.id)⟩ :=
    ofGraph_eq_ok_iff.2 ⟨entry', entries', id ▸ flow.sound sound, by rw [id]⟩
  have items : ((g'.preorder entry.id).map (Item.plain r g' entry.id)).map Item.sorted =
      ((g.preorder entry.id).map (Item.plain r g entry.id)).map Item.sorted := by
    rw [List.map_map, List.map_map]
    refine map_preorder_eq (mem_of_entries entries).1 sound
      (fun n hn ↦ flow.successors_eq (Graph.mem_preorder.1 hn).2) fun n hn ↦ ?_
    obtain ⟨m, hm, inside, same⟩ := flow.exists_node hn
    exact ⟨m, hm, Item.sorted_plain_congr flow hn inside same⟩
  have back : g'.SameFlow g entry'.id := id ▸ flow.symm
  refine ⟨_, h', ?_⟩
  rw [← canonical_sorted _ values,
    ← canonical_sorted _ (haveDistinctNames_of_sameFlow back entries' h')]
  simp only [Script.sorted, items]

end SameFlow

/-- Layout and what is not reached do not show in a script. Of two graphs whose entries have the
same id, and which say the same flow from there, either none has a script, or both have the same
text. -/
theorem sameText_of_sameFlow (entries : g.entries r = [entry]) (entries' : g'.entries r = [entry'])
    (id : entry'.id = entry.id) (flow : g.SameFlow g' entry.id) (name : String)
    (type : PolicyType) :
    ((∃ e, ofGraph r g name type = .error e) ↔ ∃ e, ofGraph r g' name type = .error e) ∧
      ∀ script script', ofGraph r g name type = .ok script →
        ofGraph r g' name type = .ok script' →
          canonical script'.toJson = canonical script.toJson := by
  have back : g'.SameFlow g entry'.id := id ▸ flow.symm
  have scripts : (∃ script, ofGraph r g name type = .ok script) ↔
      ∃ script', ofGraph r g' name type = .ok script' := by
    constructor
    · rintro ⟨script, h⟩
      exact (exists_ofGraph_of_sameFlow flow entries entries' id h).imp fun _ ↦ And.left
    · rintro ⟨script', h'⟩
      exact (exists_ofGraph_of_sameFlow back entries' entries id.symm h').imp fun _ ↦ And.left
  refine ⟨by rw [Result.exists_error_iff, Result.exists_error_iff, scripts], ?_⟩
  intro script script' h h'
  obtain ⟨_, found, same⟩ := exists_ofGraph_of_sameFlow flow entries entries' id h
  obtain rfl := Except.ok.inj (h'.symm.trans found)
  exact same

/-- Two layouts of one flow that goes round in a circle: the nodes and edges come in another order
and lie elsewhere, the data name their fields in another order, and to each belongs a node to which
nothing leads, once with an edge to nowhere. -/
theorem two_layouts_sameText :
    let start : Node := { id := "start", type := "init", data := [("name", .str "Start")] }
    let menu : Node := { id := "menu", type := "x-menu", data := [("a", .int 1), ("b", .int 2)] }
    let menu' : Node :=
      { menu with position := ⟨.int 7, .int 8⟩, data := [("b", .int 2), ("a", .int 1)] }
    let node (id : String) : Node := { id, type := "x-node" }
    let way (id source target : String) : Edge := { id, source, target }
    let g : Graph :=
      { nodes := (((Table.empty.put start).put menu).put (node "last")).put (node "lost")
        edges := (((Table.empty.put (way "1" "start" "menu")).put (way "2" "menu" "last")).put
          (way "3" "menu" "menu")).put (way "4" "last" "menu") }
    let g' : Graph :=
      { nodes := (((Table.empty.put (node "last")).put (node "alone")).put menu').put start
        edges := ((((Table.empty.put (way "p" "last" "menu")).put (way "q" "menu" "last")).put
          (way "r" "alone" "nowhere")).put
            { way "s" "menu" "menu" with targetHandle := some "in" }).put
              (way "t" "start" "menu")
        viewport := [("zoom", .int 2)] }
    ∃ script script', ofGraph Catalog.registry g "Main" .call = .ok script ∧
      ofGraph Catalog.registry g' "Main" .call = .ok script' ∧
      canonical script'.toJson = canonical script.toJson := by
  intro start menu menu' node way g g'
  have reaches : ∀ id, g.Reaches "start" id ↔ id ∈ ["last", "menu", "start"] := by
    have there : ∀ id ∈ ["last", "menu", "start"], g.hasNode id = true := by decide
    have ids : g.closure ["start"] = ["last", "menu", "start"] := by decide +kernel
    intro id
    rw [Graph.reaches_iff_mem_closure, ids, and_iff_right_of_imp (there id)]
  have reaches' : ∀ id, g'.Reaches "start" id ↔ id ∈ ["last", "menu", "start"] := by
    have there : ∀ id ∈ ["last", "menu", "start"], g'.hasNode id = true := by decide
    have ids : g'.closure ["start"] = ["last", "menu", "start"] := by decide +kernel
    intro id
    rw [Graph.reaches_iff_mem_closure, ids, and_iff_right_of_imp (there id)]
  have type : ∀ n ∈ g.nodes.rows, ∀ n' ∈ g'.nodes.rows, n'.id = n.id → n'.type = n.type := by
    decide
  have data : ∀ n ∈ g.nodes.rows, ∀ n' ∈ g'.nodes.rows, n'.id = n.id → n.data.Alike n'.data := by
    have swapped : menu.data.Alike menu'.data := Members.alike_iff.2 ⟨by decide, by decide, rfl⟩
    refine List.forall_mem_cons.2 ⟨?_, List.forall_mem_cons.2 ⟨?_, List.forall_mem_cons.2 ⟨?_,
      List.forall_mem_singleton.2 ?_⟩⟩⟩
    all_goals
      intro n' hn' id
      have found := Graph.node?_eq_some_iff.2 ⟨hn', id⟩
    · obtain rfl : start = n' := Option.some.inj found
      exact Members.alike_refl (by decide)
    · obtain rfl : menu' = n' := Option.some.inj found
      exact swapped
    · obtain rfl : node "last" = n' := Option.some.inj found
      exact Members.alike_refl (by decide)
    · cases (show none = some n' from found)
  have ways : ∀ id ∈ ["last", "menu", "start"], (g'.outgoing id).map Branch.ofEdge =
      (g.outgoing id).map Branch.ofEdge := by decide
  have flow : g.SameFlow g' "start" :=
    ⟨fun id ↦ (reaches id).trans (reaches' id).symm,
      fun n hn n' hn' _ id ↦ type n hn n' hn' id,
      fun n hn n' hn' _ id ↦ data n hn n' hn' id,
      fun id path ↦ ways id ((reaches id).1 path)⟩
  have valid : g.IsValid Catalog.registry := (g.areHarmless_validate _).1 (by decide +kernel)
  obtain ⟨script, h⟩ : ∃ script, ofGraph Catalog.registry g "Main" .call = .ok script :=
    Compiled.exists_script_of_isValid Catalog.drawnFrom_registry valid
  have entries : g.entries Catalog.registry = [start] := rfl
  have entries' : g'.entries Catalog.registry = [start] := rfl
  obtain ⟨failing, same⟩ := sameText_of_sameFlow entries entries' rfl flow "Main" .call
  cases h' : ofGraph Catalog.registry g' "Main" .call with
  | error e =>
    obtain ⟨_, fails⟩ := failing.2 ⟨e, h'⟩
    cases h.symm.trans fails
  | ok script' => exact ⟨script, script', h, rfl, same script script' h h'⟩

end Script

end CallFlow
