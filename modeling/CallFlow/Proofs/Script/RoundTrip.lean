import CallFlow.Proofs.Script.Mirror

/-!
# Scripts that are rebuilt and made again

From the script of a graph a graph is rebuilt of which there is a script again. It is the same text
if and only if no item goes on to the one that is named by the finish word.
-/

namespace CallFlow

open Json

variable {r : Registry} {s : Settings} {g : Graph} {name : String} {type : PolicyType}

/-- Where a registry of the catalog knows an entry, it knows the kind at which flows start. -/
theorem Registry.DrawnFrom.isKnown_initTag (drawn : r.DrawnFrom Catalog.kinds) {tag : String}
    (entry : r.isEntry tag = true) : r.isKnown Kind.initTag = true := by
  obtain ⟨k, hk, isEntry⟩ := (Option.any_eq_true _ _).1 entry
  obtain ⟨mem, rfl⟩ := drawn.get?_mem hk
  rw [Catalog.tag_of_isEntry k mem isEntry] at hk
  simp [isKnown, hk]

namespace Compiled

open Script

section Rebuilt

variable {entry : Node} {g' : Graph} {source : IdSource} {nodes starts : List Node}
  {leads : List Edge} {numbers : List String}

/-- The items of a graph have values with distinct names, if its nodes have such data. -/
theorem haveDistinctNames_values {g : Graph} {start : String}
    (distinct : ∀ n ∈ g.preorder start, (Members.without n.data reservedNames).HaveDistinctNames) :
    ∀ i ∈ (g.preorder start).map (Item.plain r g start), i.values.HaveDistinctNames :=
  List.forall_mem_map.2 distinct

/-- What mirrors a graph that compiles compiles as well. -/
theorem exists_ofGraph_of_mirrors (name : String) (type : PolicyType)
    (mirrors : Mirrors r s g entry g')
    (entries : g.entries r = [entry]) (sound : ∀ n ∈ g.preorder entry.id, ¬g.Faulty r n)
    (numbers : g.phoneNumbers = .ok numbers) (ids : ∀ n ∈ g.nodes.rows, n.id ≠ "")
    (distinct : ∀ n ∈ g.nodes.rows, n.data.HaveDistinctNames) :
    ∃ c', ofGraph r g' name type = .ok c' ∧ c'.script =
      canonical (Script.toJson
        ⟨name, type, (g'.preorder entry.id).map (Item.plain r g' entry.id)⟩) := by
  obtain ⟨entry', he, same⟩ := mirrors.entries entries
  have inside {n : Node} {id : String} (hn : n ∈ g'.preorder id) : n ∈ g'.nodes.rows :=
    (Graph.mem_preorder.1 hn).1
  have script : Script.ofGraph r g' name type = .ok _ := Script.ofGraph_eq_ok_iff.2
    ⟨entry', he, fun m hm ↦ mirrors.not_faulty sound ids distinct (inside hm), rfl⟩
  obtain ⟨numbers', hn⟩ := Graph.exists_phoneNumbers_iff.2 fun m hm input ↦
    mirrors.isIterable distinct (Graph.exists_phoneNumbers_iff.1 ⟨_, numbers⟩) hm input
  exact ⟨_, ofGraph_eq_ok_iff.2 ⟨_, numbers', script, hn, rfl⟩, by rw [same]⟩

end Rebuilt

/-- A graph that has a script is rebuilt from it, and the rebuilt graph has a script again. It is
the same text if and only if no item goes on to the one that is named by the finish word. -/
theorem script_round_trip (drawn : r.DrawnFrom Catalog.kinds) {c : Compiled}
    (ids : ∀ n ∈ g.nodes.rows, n.id ≠ "") (types : ∀ n ∈ g.nodes.rows, n.type ≠ "")
    (distinct : ∀ n ∈ g.nodes.rows, n.data.HaveDistinctNames)
    (compiled : ofGraph r g name type = .ok c)
    (readable : (readDocument? c.script).isSome = true) (stream : IdStream) :
    ∃ stored g' after c', StoredScript.ofText c.script = .ok stored ∧
      stored.rebuild r s stream = (.ok g', after) ∧ ofGraph r g' name type = .ok c' ∧
      (c'.script = c.script ↔ ∀ i ∈ stored.items, i.next ≠ some s.finishWord) := by
  obtain ⟨script, numbers, hs, hn, rfl⟩ := ofGraph_eq_ok_iff.1 compiled
  obtain ⟨entry, he, sound, rfl⟩ := Script.ofGraph_eq_ok_iff.1 hs
  obtain ⟨inside, isEntry⟩ := mem_of_entries he
  let script : Script := ⟨name, type, (g.preorder entry.id).map (Item.plain r g entry.id)⟩
  have values : ∀ i ∈ script.items, i.values.HaveDistinctNames :=
    haveDistinctNames_values fun n hn ↦
      (distinct n (Graph.mem_preorder.1 hn).1).without reservedNames
  have read := StoredScript.ofText_canonical values readable
  obtain ⟨g', hg⟩ := (script.stored.rebuild_fst_eq_ok_iff r s stream).2
    (.inr (drawn.isKnown_initTag isEntry))
  have rebuilt :
      script.stored.rebuild r s stream = (.ok g', (script.stored.rebuild r s stream).2) :=
    Prod.ext hg rfl
  obtain ⟨⟨nodes, starts, leads, h⟩, -⟩ := StoredScript.rebuild_spec rebuilt
  have mirrors := mirrors_of_isRebuilt he ids types h
  obtain ⟨c', hc, text⟩ := exists_ofGraph_of_mirrors name type mirrors he sound
    hn ids distinct
  refine ⟨_, g', _, c', read, rebuilt, hc, ?_⟩
  rw [text]
  constructor
  · intro same i hi finish
    let script' : Script := ⟨name, type, (g'.preorder entry.id).map (Item.plain r g' entry.id)⟩
    have values' : ∀ i ∈ script'.items, i.values.HaveDistinctNames := by
      refine haveDistinctNames_values fun m hm ↦ ?_
      obtain ⟨n, hn, copy⟩ := mirrors.copies m (Graph.mem_preorder.1 hm).1
      rw [copy.values]
      exact Members.HaveDistinctNames.sorted (values _ (List.mem_map_of_mem hn))
    have read' := StoredScript.ofText_canonical values' (by rw [same]; exact readable)
    rw [same, read] at read'
    rw [Except.ok.inj read'] at hi
    obtain ⟨_, made, rfl⟩ := List.mem_map.1 hi
    obtain ⟨m, hm, rfl⟩ := List.mem_map.1 made
    exact mirrors.target?_ne_finishWord sound ids (Graph.mem_preorder.1 hm).1 finish
  · intro unfinished
    have items := mirrors.items_eq sound ids drawn
      (fun n hn ↦ unfinished _ (List.mem_map_of_mem (List.mem_map_of_mem hn))) inside
    rw [items]
    exact script.canonical_sorted values

/-- An entry that goes on to a node of an unknown kind, made into a script, rebuilt and made into a
script again. -/
theorem entry_and_opaque_round_trip :
    let start : Node := { id := "start", type := "init", data := [("name", .str "Start")] }
    let menu : Node := { id := "menu", type := "voice-menu" }
    let g : Graph :=
      { nodes := (Table.empty.put start).put menu
        edges := Table.empty.put { id := "way", source := "start", target := "menu" } }
    ∃ c, ofGraph Catalog.registry g "Main" .call = .ok c ∧
      ∃ stored g' after c', StoredScript.ofText c.script = .ok stored ∧
        stored.rebuild Catalog.registry {} ⟨.listed [], 0⟩ = (.ok g', after) ∧
        ofGraph Catalog.registry g' "Main" .call = .ok c' ∧
        (c'.script = c.script ↔ ∀ i ∈ stored.items, i.next ≠ some "finish") := by
  intro start menu g
  have valid : g.IsValid Catalog.registry := (g.areHarmless_validate _).1 (by decide +kernel)
  obtain ⟨c, compiled⟩ :=
    exists_ofGraph_of_isValid "Main" .call Catalog.drawnFrom_registry (by decide) valid
  have walked : g.preorder "start" = [start, menu] := by
    have first : g.successors "start" = ["menu"] := by decide
    have second : g.successors "menu" = [] := by decide
    rw [Graph.preorder, Graph.walk_new (n := start) rfl rfl, first,
      show ["menu"].filter (!Graph.among · [start]) ++ [] = ["menu"] by decide,
      Graph.walk_new (n := menu) rfl rfl, second, List.filter_nil, List.nil_append, Graph.walk]
    rfl
  have readable : (readDocument? c.script).isSome = true := by
    obtain ⟨script, numbers, hs, -, rfl⟩ := ofGraph_eq_ok_iff.1 compiled
    obtain ⟨entry, he, -, rfl⟩ := Script.ofGraph_eq_ok_iff.1 hs
    obtain rfl : start = entry := (List.cons.inj he).1
    rw [walked]
    let script : Script :=
      ⟨"Main", .call, [start, menu].map (Item.plain Catalog.registry g "start")⟩
    have distinct : script.toJson.HasDistinctNames := by decide +kernel
    exact (isSome_readDocument?_canonical distinct).trans (by decide +kernel)
  have distinct : ∀ n ∈ g.nodes.rows, n.data.HaveDistinctNames := by decide
  exact ⟨c, compiled, script_round_trip (s := {}) Catalog.drawnFrom_registry (by decide) (by decide)
    distinct compiled readable _⟩

end Compiled

end CallFlow
