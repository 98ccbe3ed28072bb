import CallFlow.Proofs.Body
import CallFlow.Proofs.Service.Answers

/-!
# What is stored is one flow

The two documents of a record are those of one graph, whatever happened to the service. So the body
of a record loads as a graph of which the script of the record is the script, and what is loaded
right after a save is what was saved.
-/

namespace CallFlow

open Json

variable {r : Registry} {s : Settings}

/-! ## Records -/

/-- The documents of a record are those of a graph that a document can hold. -/
structure Policy.IsMadeOf (r : Registry) (p : Policy) (g : Graph) : Prop where
  sound : g.IsSound
  documents : ∃ c, Compiled.ofGraph r g p.name p.type = .ok c ∧ p.body = some c.body ∧
    p.script = some c.script

/-- Either nothing was ever saved in a record, or its documents are those of one graph. -/
def Policy.IsConsistent (r : Registry) (p : Policy) : Prop :=
  p.body = none ∨ ∃ g, p.IsMadeOf r g

namespace Policy

variable {p : Policy} {g : Graph}

theorem IsMadeOf.body (made : p.IsMadeOf r g) : p.body = some (canonical g.toJson) := by
  obtain ⟨c, compiled, body, -⟩ := made.documents
  obtain ⟨_, _, -, -, rfl⟩ := Compiled.ofGraph_eq_ok_iff.1 compiled
  exact body

/-- A record whose body can be read is loaded as the graph that was saved, and its script is that of
the graph that is loaded. -/
theorem IsMadeOf.load (made : p.IsMadeOf r g)
    (readable : (readDocument? (canonical g.toJson)).isSome = true) :
    ∃ g' c, Graph.ofBodyText (canonical g.toJson) = .ok g' ∧ g.IsSorted g' ∧
      g'.viewport = g.viewport.filled ∧ g'.IsSound ∧
      Compiled.ofGraph r g' p.name p.type = .ok c ∧ p.script = some c.script := by
  obtain ⟨g', loaded, sorted, viewport, sound⟩ := Graph.ofBodyText_canonical made.sound readable
  obtain ⟨c, compiled, -, script⟩ := made.documents
  obtain ⟨c', compiled', same⟩ := sorted.exists_ofGraph compiled
  exact ⟨g', c', loaded, sorted, viewport, sound, compiled', script.trans (congrArg some same.symm)⟩

theorem isMadeOf_of_body (consistent : p.IsConsistent r) (some : p.body.getD "" ≠ "") :
    ∃ g, p.IsMadeOf r g := by
  rcases consistent with none | made
  · rw [none] at some
    exact absurd rfl some
  · exact made

/-- The graph of a consistent record is sound. -/
theorem HasGraph.isSound (kinds : r.IsSound) (opaqueTag : s.opaqueTag ≠ "") {ids ids' : IdStream}
    (named : ∀ k, ids.source.supply k ≠ "") (consistent : p.IsConsistent r)
    (h : p.HasGraph r s ids g ids') : g.IsSound := by
  cases h with
  | body some loaded =>
    obtain ⟨g₀, made⟩ := isMadeOf_of_body consistent some
    rw [made.body, Option.getD_some] at loaded
    obtain ⟨g', _, loaded', -, -, sound, -⟩ := made.load (Graph.isSome_of_ofBodyText loaded)
    rw [loaded] at loaded'
    exact Except.ok.inj loaded' ▸ sound
  | script none some read rebuilt =>
    obtain ⟨⟨nodes, starts, leads, rebuilt⟩, -⟩ := StoredScript.rebuild_spec rebuilt
    exact rebuilt.isSound kinds opaqueTag named (StoredScript.values_of_ofText read)
  | fresh none none' made => exact isSound_fresh kinds named made

end Policy

/-! ## Labels -/

namespace Service

variable {before after service : Service}

/-- The labels that are in use, of records and of sessions. -/
def labels (service : Service) : List (String × String × PolicyType) :=
  service.storage.records.rows.map Policy.label ++ service.sessions.rows.map (·.policy.label)

theorem label_mem_of_record {p : Policy} (h : p ∈ service.storage.records.rows) :
    p.label ∈ service.labels := List.mem_append_left _ (List.mem_map_of_mem h)

theorem label_mem_of_session {session : Session} (h : session ∈ service.sessions.rows) :
    session.policy.label ∈ service.labels :=
  List.mem_append_right _ (List.mem_map_of_mem (f := fun x : Session ↦ x.policy.label) h)

/-- Whatever is there under one id has one name and type. -/
def HasOneLabel (service : Service) : Prop :=
  ∀ l ∈ service.labels, ∀ l' ∈ service.labels, l.1 = l'.1 → l = l'

namespace Step

theorem label_session (step : Step r s before after) {session : Session}
    (h : session ∈ after.sessions.rows) : session.policy.label ∈ before.labels := by
  cases step.sessions session h with
  | kept there => exact label_mem_of_session there
  | opened there => exact label_mem_of_record there
  | edited there =>
    have old := label_mem_of_session there
    exact old
  | noted there label => exact label ▸ label_mem_of_session there

/-- A record has a label that was in use, or its id was not. -/
theorem label_record (step : Step r s before after) {p : Policy}
    (h : p ∈ after.storage.records.rows) :
    p.label ∈ before.labels ∨ ∀ l ∈ before.labels, l.1 ≠ p.id := by
  cases step.records p h with
  | kept there | saved there | moved there =>
    have old := label_mem_of_record there
    exact .inl old
  | created unused =>
    refine .inr fun l hl same ↦ ?_
    rcases List.mem_append.1 hl with hl | hl
    · obtain ⟨q, hq, rfl⟩ := List.mem_map.1 hl
      exact unused.1 (List.mem_map.2 ⟨q, hq, same⟩)
    · obtain ⟨session, hs, rfl⟩ := List.mem_map.1 hl
      exact unused.2 (List.mem_map.2 ⟨session, hs, same⟩)

theorem hasOneLabel (step : Step r s before after) (h : before.HasOneLabel) :
    after.HasOneLabel := by
  have old : ∀ l ∈ after.labels, l ∈ before.labels ∨
      (∀ l' ∈ before.labels, l'.1 ≠ l.1) ∧ ∃ p ∈ after.storage.records.rows, p.label = l := by
    intro l hl
    rcases List.mem_append.1 hl with hl | hl
    · obtain ⟨p, hp, rfl⟩ := List.mem_map.1 hl
      exact (step.label_record hp).imp_right fun new ↦ ⟨new, p, hp, rfl⟩
    · obtain ⟨session, hs, rfl⟩ := List.mem_map.1 hl
      exact .inl (step.label_session hs)
  intro l hl l' hl' same
  rcases old l hl with hl | ⟨new, p, hp, rfl⟩
  · rcases old l' hl' with hl' | ⟨new', -⟩
    · exact h l hl l' hl' same
    · exact absurd same (new' l hl)
  · rcases old l' hl' with hl' | ⟨-, p', hp', rfl⟩
    · exact absurd same.symm (new l' hl')
    · exact congrArg Policy.label (Table.eq_of_key_eq hp hp' same)

end Step

/-! ## The invariant -/

/-- What a run of the service keeps: records are consistent, sessions hold sound graphs, and
whatever is there under one id has one name and type. -/
structure IsConsistent (r : Registry) (source : IdSource) (service : Service) : Prop where
  records : ∀ p ∈ service.storage.records.rows, p.IsConsistent r
  graphs : ∀ session ∈ service.sessions.rows, session.graph.IsSound
  labels : service.HasOneLabel
  source : service.ids.source = source

/-- A record is made of the graph of the session that is saved in it. -/
theorem IsConsistent.isMadeOf_saved {source : IdSource} (h : before.IsConsistent r source)
    {p : Policy} {session : Session} {c : Compiled} (there : p ∈ before.storage.records.rows)
    (opened : session ∈ before.sessions.rows) (same : p.id = session.policy.id)
    (compiled : Compiled.ofGraph r session.graph session.policy.name session.policy.type = .ok c)
    (user : String) : Policy.IsMadeOf r
      { p with body := c.body, script := c.script, updatedBy := user } session.graph := by
  have label := h.labels _ (label_mem_of_record there) _ (label_mem_of_session opened) same
  obtain ⟨-, name, type⟩ : _ ∧ _ ∧ _ := by simpa [Policy.label] using label
  rw [← name, ← type] at compiled
  exact ⟨h.graphs session opened, c, compiled, rfl, rfl⟩

section Runs

variable {source : IdSource} (kinds : r.IsSound) (opaqueTag : s.opaqueTag ≠ "")
  (named : ∀ k, source.supply k ≠ "")
include kinds opaqueTag named

/-- One step keeps the service consistent. -/
theorem Step.isConsistent (step : Step r s before after) (h : before.IsConsistent r source) :
    after.IsConsistent r source where
  records p hp := by
    cases step.records p hp with
    | kept there => exact h.records p there
    | created _ same fresh compiled body script =>
      have sound := isSound_fresh kinds (by rw [same, h.source]; exact named) fresh
      exact .inr ⟨_, sound, _, compiled, body, script⟩
    | saved there opened same _ compiled user =>
      exact .inr ⟨_, h.isMadeOf_saved there opened same compiled user⟩
    | moved there =>
      rcases h.records _ there with unsaved | ⟨g, sound, documents⟩
      · exact .inl unsaved
      · exact .inr ⟨g, sound, documents⟩
  graphs := step.graphs_isSound h.graphs fun p there _ _ graph ↦
    graph.isSound kinds opaqueTag (by rw [h.source]; exact named) (h.records p there)
  labels := step.hasOneLabel h.labels
  source := step.source.trans h.source

/-- So does a run. -/
theorem Reaches.isConsistent {start : Service} (reached : Reaches r s start service)
    (h : start.IsConsistent r source) : service.IsConsistent r source := by
  refine reached.keeps (fun fair h ↦ ?_) h
  exact (Event.step kinds (h.source ▸ named) h.graphs fair).isConsistent kinds opaqueTag named h

end Runs

/-- A service whose records were never saved is consistent. -/
theorem isConsistent_of_unsaved (unsaved : ∀ p ∈ service.storage.records.rows, p.body = none)
    (closed : service.sessions = .empty) : service.IsConsistent r service.ids.source where
  records p hp := .inl (unsaved p hp)
  graphs session hs := by
    rw [closed] at hs
    cases hs
  labels l hl l' hl' same := by
    rw [labels, closed, Table.rows_empty, List.map_nil, List.append_nil] at hl hl'
    obtain ⟨p, hp, rfl⟩ := List.mem_map.1 hl
    obtain ⟨p', hp', rfl⟩ := List.mem_map.1 hl'
    exact congrArg Policy.label (Table.eq_of_key_eq hp hp' same)
  source := rfl

/-! ## One flow -/

/-- A save that is answered stores the documents of the graph of a session. -/
theorem savePolicy_isMadeOf {source : IdSource} (h : service.IsConsistent r source)
    {id user : String} {c : Compiled}
    (saved : (savePolicy r id user).exec service = (.ok c, after)) :
    ∃ session p, after.sessions.get? id = some session ∧ after.storage.record? id = some p ∧
      p.body = some c.body ∧ p.IsMadeOf r session.graph := by
  rcases savePolicy_cases saved with ⟨_, ⟨⟩, -⟩ |
    ⟨session, p, c', answer, hs, -, compiled, hp, rfl⟩
  obtain rfl := Except.ok.inj answer
  obtain rfl : session.key = id := Table.key_of_get? hs
  have same : p.id = session.key := Table.key_of_get? hp
  have made := h.isMadeOf_saved (Table.mem_of_get? hp) (Table.mem_of_get? hs) same compiled user
  have stored : (service.storage.put
      { p with body := c.body, script := c.script, updatedBy := user }).record? session.key =
      some { p with body := c.body, script := c.script, updatedBy := user } :=
    same ▸ Table.get?_put_self
  exact ⟨_, _, Table.get?_put_self, stored, rfl, made⟩

/-- The documents of a record describe one flow in every state that a service comes to whose records
had no body at first: the body loads, if it is read at all, as a graph with the script of the
record. Right after a save the graph that is loaded has the nodes of the session, with the names of
their data in order, its edges, and its view, filled up with that of a canvas that nobody has moved.
-/
theorem documents_describe_one_flow (kinds : r.IsSound) (opaqueTag : s.opaqueTag ≠ "")
    {start : Service} (named : ∀ k, start.ids.source.supply k ≠ "")
    (unsaved : ∀ p ∈ start.storage.records.rows, p.body = none) (closed : start.sessions = .empty)
    (reached : Reaches r s start service) :
    (∀ p ∈ service.storage.records.rows, ∀ body, p.body = some body →
      (readDocument? body).isSome = true →
      ∃ g c, Graph.ofBodyText body = .ok g ∧ Compiled.ofGraph r g p.name p.type = .ok c ∧
        p.script = some c.script) ∧
    ∀ id user c after, (savePolicy r id user).exec service = (.ok c, after) →
      (readDocument? c.body).isSome = true →
      ∃ session p g, after.sessions.get? id = some session ∧
        after.storage.record? id = some p ∧ (graphOf r s p).exec after = (.ok g, after) ∧
        g.nodes.rows = session.graph.nodes.rows.map Node.sorted ∧
        g.edges.rows = session.graph.edges.rows ∧
        ∀ name, Members.get? g.viewport name =
          ((Members.get? session.graph.viewport name).map Json.sorted).or
            (Members.get? defaultViewport name) := by
  have h := reached.isConsistent kinds opaqueTag named (isConsistent_of_unsaved unsaved closed)
  refine ⟨fun p hp body hb readable ↦ ?_, fun id user c after saved readable ↦ ?_⟩
  · rcases h.records p hp with none | ⟨g, made⟩
    · rw [none] at hb
      cases hb
    · obtain rfl : canonical g.toJson = body := Option.some.inj (made.body.symm.trans hb)
      obtain ⟨g', c, loaded, -, -, -, compiled, script⟩ := made.load readable
      exact ⟨g', c, loaded, compiled, script⟩
  · obtain ⟨session, p, hs, hp, hb, made⟩ := savePolicy_isMadeOf h saved
    have text : canonical session.graph.toJson = c.body := Option.some.inj (made.body.symm.trans hb)
    rw [← text] at readable
    obtain ⟨g, -, loaded, sorted, viewport, -⟩ := made.load readable
    have body : p.body.getD "" = canonical session.graph.toJson := by
      rw [made.body, Option.getD_some]
    have graph : p.HasGraph r s after.ids g after.ids :=
      .body (body ▸ canonical_ne_empty _) (body ▸ loaded)
    refine ⟨session, p, g, hs, hp, exec_graphOf_eq_ok_iff.2 ⟨_, graph, rfl⟩, sorted.nodes,
      sorted.edges, fun name ↦ ?_⟩
    rw [viewport]
    exact made.sound.viewport.get?_filled name

/-- A draft of which one number was added to the entry is stored as one flow. -/
theorem saved_draft_is_one_flow : ∃ edited c saved p g c' session p' g',
    (savePolicy Catalog.registry "main" "").exec edited = (.ok c, saved) ∧
    p ∈ saved.storage.records.rows ∧ Graph.ofBodyText c.body = .ok g ∧
    Compiled.ofGraph Catalog.registry g p.name p.type = .ok c' ∧ p.script = some c'.script ∧
    saved.sessions.get? "main" = some session ∧
    (graphOf Catalog.registry {} p').exec saved = (.ok g', saved) ∧
    g'.nodes.rows = session.graph.nodes.rows.map Node.sorted := by
  obtain ⟨edited, c, saved, p, reached, save, reached', hp, -, hb, text⟩ :=
    exists_saved_draft (.int 0)
  have readable : (readDocument? c.body).isSome = true := by
    rw [text, (isSound_drawing (.int 0)).isSome_readDocument?]
    decide +kernel
  have kinds := Catalog.drawnFrom_registry.isSound
  have flow :=
    documents_describe_one_flow kinds (by decide) named_oneDraft (by decide) rfl reached
  have flow' :=
    documents_describe_one_flow kinds (by decide) named_oneDraft (by decide) rfl reached'
  obtain ⟨g, c', loaded, compiled, script⟩ := flow'.1 p hp _ hb readable
  obtain ⟨session, p', g', hs, -, found, nodes, -⟩ := flow.2 _ _ _ _ save readable
  exact ⟨edited, c, saved, p, g, c', session, p', g', save, hp, loaded, compiled, script, hs, found,
    nodes⟩

end Service

end CallFlow
