import CallFlow.Proofs.Script.Closed
import CallFlow.Proofs.Script.RoundTrip
import CallFlow.Proofs.Script.Unambiguous

/-!
# What a script keeps of a valid graph

From the script of a valid graph a valid graph is rebuilt, of the nodes that are reached from the
entry, and nothing is said of it but which kinds are not known (`exists_isPreserved_iff`). That
takes a script that can be read: what is written may be nested deeper than a reader goes.
-/

namespace CallFlow

open Json

namespace Script

variable {r : Registry} {s : Settings} {g g' : Graph} {entry n m : Node}

/-! ## Validity -/

/-- The data of a copy are of their types if those of its node are. -/
theorem IsCopy.typed (drawn : r.DrawnFrom Catalog.kinds)
    (copy : IsCopy (Item.plain r g entry.id n) m) (distinct : n.data.HaveDistinctNames)
    (typed : ∀ f ∈ r.declaredFields n.type,
      f.2.admits ((Members.get? n.data f.1).getD .null) = true) :
    ∀ f ∈ r.declaredFields m.type, f.2.admits ((Members.get? m.data f.1).getD .null) = true := by
  have type : m.type = n.type := copy.type
  rw [type]
  intro f hf
  by_cases reserved : f.1 ∈ reservedNames
  · rcases List.mem_cons.1 reserved with name | enabled
    · obtain rfl : f = ("name", .string) :=
        drawn.passThroughFields_unique hf (by simp [passThroughFields]) name
      rw [copy.name]
      rfl
    · have enabled := List.mem_singleton.1 enabled
      obtain rfl : f = ("enabled", .boolean) :=
        drawn.passThroughFields_unique hf (by simp [passThroughFields]) enabled
      rw [copy.enabled]
      rfl
  · have typed := typed f hf
    rw [copy.get? distinct reserved]
    cases value : Members.get? n.data f.1 with
    | none =>
      rw [value] at typed
      exact typed
    | some v =>
      rw [value] at typed
      exact (f.2.admits_sorted v).trans typed

section Mirrored

variable (sound : ∀ n ∈ g.preorder entry.id, ¬g.Faulty r n)
  (somewhere : ∀ n ∈ g.nodes.rows, n.id ≠ "") (mirrors : Mirrors r s g entry g')
include sound somewhere mirrors

/-- A valid graph is mirrored by a valid one. -/
theorem Mirrors.isValid (drawn : r.DrawnFrom Catalog.kinds) (entries : g.entries r = [entry])
    (distinct : ∀ n ∈ g.nodes.rows, n.data.HaveDistinctNames) (valid : g.IsValid r)
    (sources : ∀ e ∈ g'.edges.rows, g'.hasNode e.source = true) : g'.IsValid r := by
  obtain ⟨entry', entries', -⟩ := mirrors.entries entries
  refine isValid_of_not_faulty (by rw [entries']; rfl) (fun m hm ↦ ?_) sources
    fun m hm ↦ mirrors.not_faulty sound somewhere distinct hm
  obtain ⟨n, hn, copy⟩ := mirrors.copies m hm
  have inside := (Graph.mem_preorder.1 hn).1
  exact copy.typed drawn (distinct n inside) (valid.typed n inside)

/-- Nothing is said of the ways on of the item of a node that is reached. -/
theorem Mirrors.wayWarnings_eq_nil (hn : n ∈ g.preorder entry.id) (id : String) :
    (Item.plain r g entry.id n).stored.wayWarnings s g' id = [] := by
  have leads : ∀ e ∈ g.outgoing n.id, e.target ≠ "" ∧ g'.hasNode e.target = true := fun e he ↦
    ⟨target_ne_empty sound somewhere hn e he, mirrors.hasNode_target sound hn e he⟩
  obtain ⟨next, ways⟩ :=
    exit_leads (r := r) (n := n) (P := fun t ↦ t ≠ "" ∧ g'.hasNode t = true) _ leads
  refine List.append_eq_nil_iff.2 ⟨StoredItem.nextWarnings_eq_nil_iff.2 fun t ht _ _ ↦ ?_,
    List.flatMap_eq_nil_iff.2 fun b hb ↦ StoredBranch.warnings_eq_nil_iff.2 ?_⟩
  · rw [next_stored] at ht
    exact (next t ht).2
  · obtain ⟨way, mem, rfl⟩ := List.mem_map.1 hb
    exact ⟨way.target, rfl, ways way mem⟩

end Mirrored

/-! ## Warnings -/

/-- What is said of items of some types: which of them are not known. -/
def unknownTypes (r : Registry) (index : Nat) (types : List String) : List String :=
  (types.zipIdx index).filterMap fun (type, index) ↦
    if r.isKnown type then none
    else some s!"Item {index} has unknown type '{type}'; kept as-is"

theorem warnings_stored {i : Item} (id : i.id ≠ "") (type : i.type ≠ "") (index : Nat)
    (copy : IsCopy i m) : i.stored.warnings r s index m = unknownTypes r index [i.type] := by
  have own : i.stored.idWarnings index m.id = [] :=
    StoredItem.idWarnings_eq_nil_iff.2 ⟨congrArg some copy.id.symm, copy.id ▸ id⟩
  have same : i.stored.type.getD "" = i.type := rfl
  rw [StoredItem.warnings, own, List.nil_append, StoredItem.tag]
  split
  · rename_i empty
    exact absurd (same.symm.trans empty) type
  · rw [same, unknownTypes]
    cases known : r.isKnown i.type <;> simp [known]

/-- Of items that are rebuilt under their own ids nothing is said but which types are not known. -/
theorem itemWarnings_stored {items : List Item} {nodes : List Node} (index : Nat)
    (copies : List.Forall₂ IsCopy items nodes)
    (each : ∀ i ∈ items, i.id ≠ "" ∧ i.type ≠ "") :
    itemWarnings r s index (items.map Item.stored) nodes =
      unknownTypes r index (items.map Item.type) := by
  induction copies generalizing index with
  | nil => rfl
  | @cons i m items nodes copy others ih =>
    obtain ⟨⟨id, type⟩, each⟩ := List.forall_mem_cons.1 each
    have first := warnings_stored (r := r) (s := s) id type index copy
    have split : unknownTypes r index (i.type :: items.map Item.type) =
        unknownTypes r index [i.type] ++ unknownTypes r (index + 1) (items.map Item.type) := by
      rw [unknownTypes, List.zipIdx_cons, ← List.singleton_append, List.filterMap_append]
      rfl
    rw [List.map_cons, List.map_cons, split, ← first, ← ih (index + 1) each]
    rfl

/-- Only the item of the entry is marked. -/
theorem countP_isEntry_le_one (g : Graph) (start : String) :
    (((g.preorder start).map (Item.plain r g start)).map Item.stored).countP (·.isEntry) ≤ 1 := by
  have distinct := g.nodup_preorder start
  rw [List.countP_map, List.countP_map]
  have marked : ((·.isEntry) ∘ Item.stored) ∘ Item.plain r g start = (· == start) ∘ Node.id := rfl
  rw [marked, ← List.countP_map]
  exact List.nodup_iff_count_le_one.1 distinct start

/-- Copies have the ids and the types of their items. -/
theorem map_of_copies {items : List Item} {nodes : List Node}
    (copies : List.Forall₂ IsCopy items nodes) :
    (nodes.map fun n ↦ (n.id, n.type)) = items.map fun i ↦ (i.id, i.type) := by
  induction copies with
  | nil => rfl
  | cons copy _ ih => rw [List.map_cons, List.map_cons, ih, copy.id, copy.type]

/-! ## What is kept -/

/-- What is rebuilt of the script of a graph keeps of the nodes that are reached: it is valid, has
these nodes in order, and nothing is said of it but which of their types are not known. -/
structure IsPreserved (r : Registry) (reached : List Node) (g' : Graph) : Prop where
  harmless : Finding.areHarmless (g'.validate r) = true
  nodes : (g'.nodes.rows.map fun n ↦ (n.id, n.type)) = reached.map fun n ↦ (n.id, n.type)
  warnings : g'.warnings = unknownTypes r 0 (reached.map Node.type)

/-- What is rebuilt of the script of a valid graph keeps of it what is reached. -/
theorem isPreserved_of_rebuild {ids ids' : IdStream} (drawn : r.DrawnFrom Catalog.kinds)
    (entries : g.entries r = [entry]) (somewhere : ∀ n ∈ g.nodes.rows, n.id ≠ "")
    (types : ∀ n ∈ g.nodes.rows, n.type ≠ "")
    (distinct : ∀ n ∈ g.nodes.rows, n.data.HaveDistinctNames) (valid : g.IsValid r)
    (h : StoredScript.rebuild r s
      ⟨((g.preorder entry.id).map (Item.plain r g entry.id)).map Item.stored⟩ ids =
        (.ok g', ids')) :
    IsPreserved r (g.preorder entry.id) g' := by
  obtain ⟨⟨nodes, starts, leads, rebuilt⟩, -⟩ := StoredScript.rebuild_spec h
  have inside : ∀ n ∈ g.preorder entry.id, n ∈ g.nodes.rows :=
    fun n hn ↦ (Graph.mem_preorder.1 hn).1
  have sound : ∀ n ∈ g.preorder entry.id, ¬g.Faulty r n :=
    fun n hn ↦ not_faulty_of_isValid drawn valid (inside n hn)
  have mirrors := mirrors_of_isRebuilt entries somewhere types rebuilt
  obtain ⟨rfl, copies⟩ := copies_of_isRebuilt entries somewhere types rebuilt
  have rows : g'.nodes.rows = nodes := by rw [rebuilt.rows, List.append_nil]
  refine ⟨(g'.areHarmless_validate r).2 ?_, ?_, ?_⟩
  · exact mirrors.isValid sound somewhere drawn entries distinct valid rebuilt.hasNode_source
  · rw [rows, map_of_copies copies, List.map_map]
    rfl
  · have ofItems := itemWarnings_stored (r := r) (s := s) 0 copies
      (List.forall_mem_map.2 fun n hn ↦ ⟨somewhere n (inside n hn), types n (inside n hn)⟩)
    have ofStart := startWarnings_eq_nil_iff.2
      ⟨countP_isEntry_le_one (r := r) g entry.id, rebuilt.start.exists_entry⟩
    have ofWays : (((g.preorder entry.id).map (Item.plain r g entry.id)).map Item.stored
        |>.zip nodes).flatMap (fun p ↦ p.1.wayWarnings s g' p.2.id) = [] := by
      refine List.flatMap_eq_nil_iff.2 fun p hp ↦ ?_
      obtain ⟨_, made, stored⟩ := List.mem_map.1 (List.of_mem_zip hp).1
      obtain ⟨n, hn, rfl⟩ := List.mem_map.1 made
      rw [← stored]
      exact mirrors.wayWarnings_eq_nil sound somewhere hn p.2.id
    rw [StoredScript.warnings_rebuild h, StoredScript.warnings, rebuilt.take_rows, ofItems, ofStart,
      ofWays, List.append_nil, List.append_nil, List.map_map]
    rfl

theorem isSome_of_ofText {text : String} {stored : StoredScript}
    (h : StoredScript.ofText text = .ok stored) : (readDocument? text).isSome = true := by
  rw [StoredScript.ofText] at h
  cases found : readDocument? text with
  | none =>
    rw [found] at h
    cases h
  | some v => rfl

/-- A valid graph has a script, and what is rebuilt of it keeps of the graph what is reached, if and
only if the text of the script can be read. -/
theorem exists_isPreserved_iff (drawn : r.DrawnFrom Catalog.kinds)
    (ids : ∀ n ∈ g.nodes.rows, n.id ≠ "") (types : ∀ n ∈ g.nodes.rows, n.type ≠ "")
    (distinct : ∀ n ∈ g.nodes.rows, n.data.HaveDistinctNames)
    (harmless : Finding.areHarmless (g.validate r) = true) (name : String) (type : PolicyType)
    (stream : IdStream) :
    ∃ entry script, g.entries r = [entry] ∧ ofGraph r g name type = .ok script ∧
      script.items.map Item.id = (g.preorder entry.id).map Node.id ∧
      (∀ n, n ∈ g.preorder entry.id ↔ n ∈ g.nodes.rows ∧ g.Reaches entry.id n.id) ∧
      ((readDocument? (canonical script.toJson)).isSome = true ↔
        ∃ stored g' after, StoredScript.ofText (canonical script.toJson) = .ok stored ∧
          stored.rebuild r s stream = (.ok g', after) ∧
          IsPreserved r (g.preorder entry.id) g') := by
  have valid := (g.areHarmless_validate r).1 harmless
  obtain ⟨script, hs⟩ : ∃ script, ofGraph r g name type = .ok script :=
    Compiled.exists_script_of_isValid drawn valid
  obtain ⟨entry, entries, -, rfl⟩ := ofGraph_eq_ok_iff.1 hs
  obtain ⟨-, isEntry⟩ := mem_of_entries entries
  refine ⟨entry, _, entries, hs, ?_, fun _ ↦ Graph.mem_preorder, fun readable ↦ ?_, ?_⟩
  · rw [List.map_map]
    rfl
  · let script : Script := ⟨name, type, (g.preorder entry.id).map (Item.plain r g entry.id)⟩
    have values : ∀ i ∈ script.items, i.values.HaveDistinctNames :=
      Compiled.haveDistinctNames_values fun n hn ↦
        (distinct n (Graph.mem_preorder.1 hn).1).without reservedNames
    obtain ⟨g', _, rebuilt⟩ :=
      script.stored.exists_rebuild_of_isKnown s stream (drawn.isKnown_initTag isEntry)
    exact ⟨_, g', _, StoredScript.ofText_canonical values readable, rebuilt,
      isPreserved_of_rebuild drawn entries ids types distinct valid rebuilt⟩
  · rintro ⟨stored, -, -, read, -⟩
    exact isSome_of_ofText read

/-- From the script of an entry that goes on to a node of an unknown kind the two nodes are rebuilt,
and the kind is said to be unknown. -/
theorem entry_and_opaque_isPreserved :
    let start : Node := { id := "start", type := "init", data := [("name", .str "Start")] }
    let menu : Node := { id := "menu", type := "voice-menu" }
    let g : Graph :=
      { nodes := (Table.empty.put menu).put start
        edges := Table.empty.put { id := "way", source := "start", target := "menu" } }
    ∃ script stored g' after, ofGraph Catalog.registry g "Main" .call = .ok script ∧
      StoredScript.ofText (canonical script.toJson) = .ok stored ∧
      stored.rebuild Catalog.registry {} ⟨.listed [], 0⟩ = (.ok g', after) ∧
      IsPreserved Catalog.registry [start, menu] g' ∧
      g'.warnings = ["Item 1 has unknown type 'voice-menu'; kept as-is"] := by
  intro start menu g
  have distinct : ∀ n ∈ g.nodes.rows, n.data.HaveDistinctNames := by decide
  obtain ⟨entry, script, entries, hs, -, -, kept⟩ := exists_isPreserved_iff (s := {})
    Catalog.drawnFrom_registry (by decide) (by decide) distinct (by decide +kernel) "Main" .call
    ⟨.listed [], 0⟩
  obtain rfl : start = entry := (List.cons.inj entries).1
  have walked : g.preorder "start" = [start, menu] :=
    Graph.preorder_eq_pair (n := start) (m := menu) rfl rfl (by decide) (by decide) (by decide)
  obtain ⟨_, he, -, made⟩ := ofGraph_eq_ok_iff.1 hs
  obtain rfl := (List.cons.inj (entries.symm.trans he)).1
  have readable : (readDocument? (canonical script.toJson)).isSome = true := by
    rw [made, walked]
    let script : Script :=
      ⟨"Main", .call, [start, menu].map (Item.plain Catalog.registry g "start")⟩
    have distinct : script.toJson.HasDistinctNames := by decide +kernel
    exact (isSome_readDocument?_canonical distinct).trans (by decide +kernel)
  obtain ⟨stored, g', after, read, rebuilt, preserved⟩ := kept.1 readable
  rw [walked] at preserved
  refine ⟨script, stored, g', after, hs, read, rebuilt, preserved, ?_⟩
  rw [preserved.warnings]
  decide +kernel

/-- No script of a value in 200 lists is read, so nothing is kept of its graph. -/
theorem deeply_nested_flow_is_not_preserved :
    let menu := Nat.repeat (fun v ↦ Json.arr [v]) 200 (.int 0)
    let start : Node :=
      { id := "start", type := "init", data := [("name", .str "Start"), ("menu", menu)] }
    let g : Graph := { nodes := Table.empty.put start }
    (∀ n ∈ g.nodes.rows, n.id ≠ "" ∧ n.type ≠ "") ∧
      Finding.areHarmless (g.validate Catalog.registry) = true ∧
      ∃ script, ofGraph Catalog.registry g "Main" .call = .ok script ∧
        ¬∃ stored, StoredScript.ofText (canonical script.toJson) = .ok stored := by
  intro menu start g
  have valid : Finding.areHarmless (g.validate Catalog.registry) = true := by decide +kernel
  obtain ⟨script, hs⟩ : ∃ script, ofGraph Catalog.registry g "Main" .call = .ok script :=
    Compiled.exists_script_of_isValid Catalog.drawnFrom_registry
      ((g.areHarmless_validate _).1 valid)
  refine ⟨by decide, valid, script, hs, fun ⟨stored, read⟩ ↦ ?_⟩
  obtain ⟨entry, he, -, rfl⟩ := ofGraph_eq_ok_iff.1 hs
  obtain rfl : start = entry := (List.cons.inj he).1
  have walked : g.preorder "start" = [start] :=
    Graph.preorder_eq_singleton (n := start) rfl (by decide)
  have readable := isSome_of_ofText read
  rw [walked] at readable
  let script : Script := ⟨"Main", .call, [start].map (Item.plain Catalog.registry g "start")⟩
  have distinct : script.toJson.HasDistinctNames := by decide +kernel
  have deep : fits .document script.toJson = false := by decide +kernel
  exact absurd readable (by rw [isSome_readDocument?_canonical distinct, deep]; exact nofun)

end Script

end CallFlow
