import CallFlow.Proofs.Canvas.History
import CallFlow.Proofs.Service.Enabled

/-!
# Sessions and what is stored of them

A session has a copy of the record that it was opened for. The copy says the same as the record for
as long as that exists, and if nothing was edited since the policy was opened or last saved, the
body of the record is that of the graph of the session. So nothing that is not saved is lost with a
session that is not marked as edited, if only the body can be read
(`Service.clean_session_is_stored`).
-/

namespace CallFlow

open Json

variable {r : Registry} {s : Settings}

/-! ## Graphs that are saved -/

/-- What is loaded of a graph that was saved: its nodes with the names of their data in order, its
edges, and its view, filled up with that of a canvas that nobody has moved. -/
structure Graph.IsSavedAs (g g' : Graph) : Prop where
  nodes : g'.nodes.rows = g.nodes.rows.map Node.sorted
  edges : g'.edges.rows = g.edges.rows
  viewport : ∀ name, Members.get? g'.viewport name =
    ((Members.get? g.viewport name).map Json.sorted).or (Members.get? defaultViewport name)

/-- The ids that were issued do not matter for what is saved. -/
theorem Graph.IsSavedAs.congr {g g' h : Graph} (saved : g.IsSavedAs h) (nodes : g'.nodes = g.nodes)
    (edges : g'.edges = g.edges) (viewport : g'.viewport = g.viewport) : g'.IsSavedAs h :=
  ⟨nodes ▸ saved.nodes, edges ▸ saved.edges, viewport ▸ saved.viewport⟩

namespace Policy.IsMadeOf

variable {p : Policy} {g g' : Graph}

/-- What is loaded of a record is what was saved, and is sound. -/
theorem isSavedAs (made : p.IsMadeOf r g) (loaded : Graph.ofBodyText (p.body.getD "") = .ok g') :
    g.IsSavedAs g' ∧ g.IsSorted g' ∧ g'.IsSound := by
  rw [made.body, Option.getD_some] at loaded
  obtain ⟨_, _, again, sorted, viewport, sound, -⟩ := made.load (Graph.isSome_of_ofBodyText loaded)
  obtain rfl := Except.ok.inj (again.symm.trans loaded)
  refine ⟨⟨sorted.nodes, sorted.edges, fun name ↦ ?_⟩, sorted, sound⟩
  rw [viewport]
  exact made.sound.viewport.get?_filled name

/-- What was loaded is saved as it is. -/
theorem isSavedAs_loaded (made : p.IsMadeOf r g)
    (loaded : Graph.ofBodyText (p.body.getD "") = .ok g') : g'.IsSavedAs g' := by
  obtain ⟨saved, sorted, -⟩ := made.isSavedAs loaded
  refine ⟨?_, rfl, fun name ↦ ?_⟩
  · rw [saved.nodes, List.map_map]
    refine List.map_congr_left fun n hn ↦ ?_
    exact congrArg (fun data ↦ { n with data }) (Members.sorted_sorted (sorted.distinct n hn)).symm
  · have given : (Members.get? defaultViewport name).map Json.sorted =
        Members.get? defaultViewport name := (Members.get?_map Json.sorted name).symm
    rw [saved.viewport]
    cases found : Members.get? g.viewport name with
    | none => rw [Option.map_none, Option.none_or, given, Option.or_self]
    | some v =>
      have distinct : v.HasDistinctNames :=
        made.sound.viewport.distinct.each _ (Members.mem_of_get? found)
      rw [Option.map_some, Option.some_or, Option.map_some, Option.some_or, sorted_sorted distinct]

end Policy.IsMadeOf

/-! ## Sessions and records -/

/-- A session says of its policy what the record says, and if nothing was edited, the body of the
record is that of its graph. -/
structure Session.Agrees (session : Session) (p : Policy) : Prop where
  name : session.policy.name = p.name
  type : session.policy.type = p.type
  status : session.policy.status = p.status
  body : session.policy.body = p.body
  script : session.policy.script = p.script
  clean : session.dirty = false → ∀ g, Graph.ofBodyText (p.body.getD "") = .ok g →
    session.graph.IsSavedAs g

/-- Every session agrees with the record of its policy. -/
def AllAgree (sessions : Table Session Session.key) (records : Table Policy Policy.id) : Prop :=
  ∀ session ∈ sessions.rows, ∀ p ∈ records.rows, p.id = session.policy.id → session.Agrees p

namespace AllAgree

variable {sessions sessions' : Table Session Session.key}
  {records records' : Table Policy Policy.id} {session : Session} {p : Policy}

section

variable (h : AllAgree sessions records)
include h

theorem of_subset (fewer : sessions'.rows ⊆ sessions.rows) (fewer' : records'.rows ⊆ records.rows) :
    AllAgree sessions' records' :=
  fun session hs p hp same ↦ h session (fewer hs) p (fewer' hp) same

/-- A session is put in that agrees with its record. -/
theorem put_session (agrees : ∀ p ∈ records.rows, p.id = session.policy.id → session.Agrees p) :
    AllAgree (sessions.put session) records := by
  intro x hx p hp same
  rcases Table.mem_rows_put_iff.1 hx with rfl | ⟨hx, -⟩
  · exact agrees p hp same
  · exact h x hx p hp same

/-- A record is put in for which no session is open. -/
theorem put_record (closed : ∀ session ∈ sessions.rows, session.policy.id ≠ p.id) :
    AllAgree sessions (records.put p) := by
  intro x hx q hq same
  rcases Table.mem_rows_put_iff.1 hq with rfl | ⟨hq, -⟩
  · exact absurd same.symm (closed x hx)
  · exact h x hx q hq same

/-- A session and its record are put in. -/
theorem put_both (own : p.id = session.policy.id) (agrees : session.Agrees p) :
    AllAgree (sessions.put session) (records.put p) := by
  intro x hx q hq same
  rcases Table.mem_rows_put_iff.1 hx with rfl | ⟨hx, other⟩ <;>
    rcases Table.mem_rows_put_iff.1 hq with rfl | ⟨hq, other'⟩
  · exact agrees
  · exact absurd (same.trans own.symm) other'
  · exact absurd (same.symm.trans own) other
  · exact h x hx q hq same

end

end AllAgree

namespace Service

open Operation

variable {before after service : Service} {source : IdSource}

/-! ## The invariant -/

/-- What a run of the service keeps of records that it made: each is made of a graph, sessions hold
sound graphs, and each agrees with its record. -/
structure IsCurrent (r : Registry) (source : IdSource) (service : Service) : Prop where
  records : ∀ p ∈ service.storage.records.rows, ∃ g, p.IsMadeOf r g
  graphs : ∀ session ∈ service.sessions.rows, session.graph.IsSound
  agree : AllAgree service.sessions service.storage.records
  source : service.ids.source = source

namespace IsCurrent

variable (h : before.IsCurrent r source)
include h

/-- A record is made of the graph of the session that is saved in it. -/
theorem isMadeOf_saved {p : Policy} {session : Session} {c : Compiled}
    (there : p ∈ before.storage.records.rows) (opened : session ∈ before.sessions.rows)
    (same : p.id = session.policy.id)
    (compiled : Compiled.ofGraph r session.graph session.policy.name session.policy.type = .ok c)
    (user : String) : Policy.IsMadeOf r
      { p with body := c.body, script := c.script, updatedBy := user } session.graph := by
  have agrees := h.agree session opened p there same
  rw [agrees.name, agrees.type] at compiled
  exact ⟨h.graphs session opened, c, compiled, rfl, rfl⟩

/-! ## Steps -/

theorem agree_of_fades (fades : Fades before after) :
    AllAgree after.sessions after.storage.records :=
  fades.sessions ▸ h.agree.of_subset (List.Subset.refl _) fades.rows_subset

theorem agree_createPolicy {name description : String} {type : PolicyType} {source : PolicySource}
    {createdBy : String} {result : Except Error Policy}
    (unused : before.ids.draw.1 ∉ before.sessions.keys)
    (made : (createPolicy r s name description type source createdBy).exec before =
      (result, after)) : AllAgree after.sessions after.storage.records := by
  rcases createPolicy_cases made with ⟨e, -, fades⟩ |
    ⟨canvas, c, p, storage, -, -, -, rfl, fades, rfl⟩
  · exact h.agree_of_fades fades
  · exact (h.agree_of_fades fades).put_record fun session hs same ↦
      unused (List.mem_map.2 ⟨session, hs, same⟩)

/-- The graph of an opened session has its names in order and its view filled up already. -/
theorem agree_openPolicy {id : String} {result : Except Error Session}
    (made : (openPolicy r s id).exec before = (result, after)) :
    AllAgree after.sessions after.storage.records := by
  rcases openPolicy_cases made with ⟨e, -, fades⟩ | ⟨p, g, ids, -, hp, graph, rfl⟩
  · exact h.agree_of_fades fades
  · refine h.agree.put_session fun q hq same ↦ ?_
    obtain rfl : q = p := Table.eq_of_key_eq hq (Table.mem_of_get? hp) same
    obtain ⟨g₀, of⟩ := h.records q hq
    have loaded := of.loaded_of_hasGraph graph
    refine ⟨rfl, rfl, rfl, rfl, rfl, fun _ g' loaded' ↦ ?_⟩
    obtain rfl := Except.ok.inj (loaded.symm.trans loaded')
    exact of.isSavedAs_loaded loaded

theorem agree_closePolicy {id : String} {result : Except Error Unit}
    (made : (closePolicy id).exec before = (result, after)) :
    AllAgree after.sessions after.storage.records := by
  rcases closePolicy_cases made with ⟨e, -, rfl⟩ | ⟨session, -, -, rfl⟩
  · exact h.agree
  · exact h.agree.of_subset (List.filter_subset_self _) (List.Subset.refl _)

/-- A batch that is performed marks the session, and one that fails leaves its graph as it was. -/
theorem agree_applyActions {id : String} {actions : List Action}
    {result : Except Error (List Performed)}
    (made : (applyActions r s id actions).exec before = (result, after)) :
    AllAgree after.sessions after.storage.records := by
  rcases applyActions_cases made with ⟨e, -, rfl⟩ | ⟨session, c, hs, performed, rfl⟩
  · exact h.agree
  · refine h.agree.put_session fun p hp same ↦ ?_
    have old := h.agree session (Table.mem_of_get? hs) p hp same
    refine ⟨old.name, old.type, old.status, old.body, old.script, fun clean g loaded ↦ ?_⟩
    cases result with
    | ok past => simp [Except.toBool] at clean
    | error e =>
      obtain ⟨nodes, edges, viewport⟩ := Canvas.performAll_eq_error performed
      have clean : session.dirty = false := by simpa [Except.toBool] using clean
      exact (old.clean clean g loaded).congr nodes edges viewport

/-- The body that is stored is that of the graph of the session, whatever the old one was. -/
theorem agree_savePolicy {id user : String} {result : Except Error Compiled}
    (made : (savePolicy r id user).exec before = (result, after)) :
    AllAgree after.sessions after.storage.records := by
  rcases savePolicy_cases made with ⟨e, -, fades, -⟩ |
    ⟨session, p, c, -, hs, -, compiled, hp, rfl⟩
  · exact h.agree_of_fades fades
  · have there := Table.mem_of_get? hp
    have opened := Table.mem_of_get? hs
    have same : p.id = session.policy.id := (Table.key_of_get? hp).trans (Table.key_of_get? hs).symm
    have old := h.agree session opened p there same
    have of := h.isMadeOf_saved there opened same compiled user
    exact h.agree.put_both same
      ⟨old.name, old.type, old.status, rfl, rfl, fun _ g loaded ↦ (of.isSavedAs loaded).1⟩

theorem agree_changeStatus {id user : String} {target : PolicyStatus}
    {result : Except Error Policy}
    (made : (changeStatus r s id target user).exec before = (result, after)) :
    AllAgree after.sessions after.storage.records := by
  rcases changeStatus_cases made with fades | ⟨p, status, ids, -, -, hp, -, -, rfl⟩
  · exact h.agree_of_fades fades
  · have own : p.id = id := Table.key_of_get? hp
    cases hs : before.sessions.get? id with
    | none =>
      refine h.agree.put_record fun session opened same ↦ ?_
      cases hs.symm.trans (Table.get?_eq_some_iff.2 ⟨opened, same.trans own⟩)
    | some session =>
      have same : p.id = session.policy.id := own.trans (Table.key_of_get? hs).symm
      have old := h.agree session (Table.mem_of_get? hs) p (Table.mem_of_get? hp) same
      exact h.agree.put_both same ⟨old.name, old.type, rfl, old.body, old.script, old.clean⟩

/-- Every event leaves sessions that agree with their records. -/
theorem agree_after {event : Event} (fair : event.IsFair before) :
    AllAgree (event.after r s before).sessions (event.after r s before).storage.records := by
  cases event with
  | createPolicy => exact h.agree_createPolicy fair.2 (Prod.ext rfl rfl)
  | getPolicy => exact h.agree_of_fades (getPolicy_fades (Prod.ext rfl rfl))
  | listPolicies => exact h.agree_of_fades (listPolicies_fades (Prod.ext rfl rfl))
  | openPolicy => exact h.agree_openPolicy (Prod.ext rfl rfl)
  | closePolicy => exact h.agree_closePolicy (Prod.ext rfl rfl)
  | applyActions => exact h.agree_applyActions (Prod.ext rfl rfl)
  | savePolicy => exact h.agree_savePolicy (Prod.ext rfl rfl)
  | changeStatus => exact h.agree_changeStatus (Prod.ext rfl rfl)
  | timeOut | lose => exact h.agree
  | erase => exact h.agree.of_subset (List.Subset.refl _) (List.filter_subset_self _)

end IsCurrent

section Runs

variable (kinds : r.IsSound) (named : ∀ k, source.supply k ≠ "")
include kinds named

/-- One event keeps every session in agreement with its record. -/
theorem IsCurrent.next (h : before.IsCurrent r source) {event : Event}
    (fair : event.IsFair before) : (event.after r s before).IsCurrent r source := by
  have step : Step r s before _ := event.step kinds (h.source ▸ named) h.graphs fair
  refine ⟨fun p hp ↦ ?_, step.graphs_isSound h.graphs fun p there _ _ graph ↦ ?_,
    h.agree_after fair, step.source.trans h.source⟩
  · cases step.records p hp with
    | kept there => exact h.records p there
    | created _ same fresh compiled body script =>
      have sound := isSound_fresh kinds (by rw [same, h.source]; exact named) fresh
      exact ⟨_, sound, _, compiled, body, script⟩
    | saved there opened same _ compiled user =>
      exact ⟨_, h.isMadeOf_saved there opened same compiled user⟩
    | moved there =>
      obtain ⟨g, sound, documents⟩ := h.records _ there
      exact ⟨g, sound, documents⟩
  · obtain ⟨_, of⟩ := h.records p there
    exact (of.isSavedAs (of.loaded_of_hasGraph graph)).2.2

/-- So does a run. -/
theorem Reaches.isCurrent {start : Service} (reached : Reaches r s start service)
    (h : start.IsCurrent r source) : service.IsCurrent r source :=
  reached.keeps (fun fair h ↦ h.next kinds named fair) h

end Runs

theorem isCurrent_of_empty (unmade : service.storage.records = .empty)
    (closed : service.sessions = .empty) : service.IsCurrent r service.ids.source where
  records p hp := by
    rw [unmade] at hp
    cases hp
  graphs session hs := by
    rw [closed] at hs
    cases hs
  agree session hs := by
    rw [closed] at hs
    cases hs
  source := rfl

/-! ## Clean sessions -/

/-- In every state that a service comes to which had no policies at first, an open session has its
policy as it is stored. If nothing was edited in it since it was opened or saved, the stored body is
loaded, exactly if it can be read, as the graph of the session: with its nodes, its edges and its
view. -/
theorem clean_session_is_stored (kinds : r.IsSound) {start : Service}
    (named : ∀ k, start.ids.source.supply k ≠ "") (unmade : start.storage.records = .empty)
    (closed : start.sessions = .empty) (reached : Reaches r s start service) {session : Session}
    (opened : session ∈ service.sessions.rows) {p : Policy}
    (stored : service.storage.record? session.policy.id = some p) :
    (session.policy.name = p.name ∧ session.policy.type = p.type ∧
      session.policy.status = p.status ∧ session.policy.body = p.body ∧
      session.policy.script = p.script) ∧
    (session.dirty = false → ∃ body, p.body = some body ∧
      ((∃ g, Graph.ofBodyText body = .ok g ∧
          g.nodes.rows = session.graph.nodes.rows.map Node.sorted ∧
          g.edges.rows = session.graph.edges.rows ∧
          ∀ name, Members.get? g.viewport name =
            ((Members.get? session.graph.viewport name).map Json.sorted).or
              (Members.get? defaultViewport name)) ↔
        (readDocument? body).isSome = true)) := by
  have h := reached.isCurrent kinds named (isCurrent_of_empty unmade closed)
  have there := Table.mem_of_get? stored
  have agrees := h.agree session opened p there (Table.key_of_get? stored)
  refine ⟨⟨agrees.name, agrees.type, agrees.status, agrees.body, agrees.script⟩, fun clean ↦ ?_⟩
  obtain ⟨g₀, made⟩ := h.records p there
  refine ⟨_, made.body, fun ⟨g, loaded, _⟩ ↦ Graph.isSome_of_ofBodyText loaded, fun readable ↦ ?_⟩
  obtain ⟨g, -, loaded, -⟩ := made.load readable
  have loaded' : Graph.ofBodyText (p.body.getD "") = .ok g := by
    rwa [made.body, Option.getD_some]
  have saved := agrees.clean clean g loaded'
  exact ⟨g, loaded, saved.nodes, saved.edges, saved.viewport⟩

/-! ## A policy that is created, edited and saved -/

/-- A service without policies. -/
def vacant : Service where
  ids := ⟨.listed ["main", "start"], 0⟩

theorem named_vacant : ∀ k, vacant.ids.source.supply k ≠ "" :=
  supply_listed_ne_empty (by decide)

/-- The graph of a new policy as it is loaded, with more members in the data of its entry. -/
def reloaded (more : Members) : Graph :=
  { Canvas.lone {} Catalog.start "start" with
    nodes := Table.empty.put { Canvas.entry {} Catalog.start "start" with
      data := ("enabled", .bool true) :: ("name", .str "Start") :: more } }

theorem isValid_reloaded (more : Members) : (reloaded more).IsValid Catalog.registry :=
  isValid_of_start rfl rfl rfl rfl rfl

theorem ofBodyText_lone : Graph.ofBodyText
    (canonical (Canvas.lone {} Catalog.start "start").toJson) = .ok (reloaded []) := by
  have sound : (Canvas.lone {} Catalog.start "start").IsSound :=
    isSound_of_start (.obj (show ["name", "enabled"].Nodup by decide)
      (List.forall_mem_cons.2 ⟨.str "Start", List.forall_mem_singleton.2 (.bool true)⟩))
  have readable : (readDocument?
      (canonical (Canvas.lone {} Catalog.start "start").toJson)).isSome = true :=
    sound.isSome_readDocument?.trans (by decide +kernel)
  obtain ⟨g, loaded, made⟩ := sound.isStorable.exists_ofBodyText readable
  obtain rfl : reloaded [] = g := Except.ok.inj made
  exact loaded

theorem performAll_reloaded (v : Json) (ids : IdStream) :
    Canvas.performAll Catalog.registry {} [addMenu v] ⟨reloaded [], ids⟩ =
      (.ok [⟨.updateNode, .done⟩], ⟨reloaded [("menu", v)], ids⟩) := by
  rfl

/-- A policy is created with the documents of a fresh graph. -/
theorem exists_created : ∃ main created, Reaches Catalog.registry {} vacant created ∧
    created.storage = vacant.storage.put main ∧ main.id = "main" ∧
    main.body.getD "" = canonical (Canvas.lone {} Catalog.start "start").toJson := by
  have fresh : Canvas.fresh Catalog.registry {} vacant.ids.draw.2 =
      .ok ⟨Canvas.lone {} Catalog.start "start", vacant.ids.draw.2.draw.2⟩ := fresh_start _
  obtain ⟨c, compiled⟩ := Compiled.exists_ofGraph_of_isValid "Main" .call Catalog.drawnFrom_registry
    (by decide) (isValid_of_start (g := Canvas.lone {} Catalog.start "start") rfl rfl rfl rfl rfl)
  let main : Policy := { id := "main", name := "Main", body := c.body, script := c.script }
  let created : Service :=
    { vacant with ids := vacant.ids.draw.2.draw.2, storage := vacant.storage.put main }
  have creates : (createPolicy Catalog.registry {} "Main" "" .call .inbound "").exec vacant =
      (.ok main, created) := exec_createPolicy ⟨rfl, rfl⟩ fresh compiled rfl
  refine ⟨main, created, .single ⟨.createPolicy "Main" "" .call .inbound "",
    ⟨List.not_mem_nil, List.not_mem_nil⟩, (congrArg Prod.snd creates).symm⟩, rfl, rfl, ?_⟩
  obtain ⟨_, _, -, -, rfl⟩ := Compiled.ofGraph_eq_ok_iff.1 compiled
  rfl

section Distinct

variable {v : Json} (distinct : v.HasDistinctNames)
include distinct

theorem isSound_reloaded : (reloaded [("menu", v)]).IsSound := by
  refine isSound_of_start (.obj (show ["enabled", "name", "menu"].Nodup by decide) ?_)
  exact List.forall_mem_cons.2 ⟨.bool true,
    List.forall_mem_cons.2 ⟨.str "Start", List.forall_mem_singleton.2 distinct⟩⟩

/-- A new policy is opened, edited and saved, whatever is added to it; its session is clean then. -/
theorem exists_clean : ∃ service session p, Reaches Catalog.registry {} vacant service ∧
    session ∈ service.sessions.rows ∧ service.storage.record? session.policy.id = some p ∧
    session.dirty = false ∧ p.body = some (canonical (reloaded [("menu", v)]).toJson) := by
  obtain ⟨main, created, reached, storage, id, body⟩ := exists_created
  have stored : created.storage.record? "main" = some main := by
    rw [storage, ← id]
    exact Table.get?_put_self
  obtain ⟨opened, reached, storage', hs⟩ := exists_opened (storage ▸ ⟨rfl, rfl⟩) reached stored
    (.body (body ▸ canonical_ne_empty _) (body ▸ ofBodyText_lone))
  obtain ⟨edited, reached, storage'', hs⟩ := exists_edited reached hs
    (haveDistinctNames_addMenu distinct) (performAll_reloaded v _)
  rw [storage', storage] at storage''
  rw [storage, ← storage''] at stored
  obtain ⟨c, saved, -, reached, stored, hs, body⟩ := exists_saved (storage'' ▸ ⟨rfl, rfl⟩)
    Catalog.drawnFrom_registry (by decide) reached hs stored (isValid_reloaded _) ""
  exact ⟨saved, _, _, reached, Table.mem_of_get? hs,
    (congrArg saved.storage.record? id).trans stored, rfl, congrArg some body⟩

end Distinct

/-- If a number was added to the entry of a new policy, then what is loaded of the policy is the
graph of its session. -/
theorem clean_session_is_loaded : ∃ service session p body g,
    Reaches Catalog.registry {} vacant service ∧ session ∈ service.sessions.rows ∧
    service.storage.record? session.policy.id = some p ∧ session.policy.body = p.body ∧
    session.dirty = false ∧ p.body = some body ∧ Graph.ofBodyText body = .ok g ∧
    g.nodes.rows = session.graph.nodes.rows.map Node.sorted ∧
    g.edges.rows = session.graph.edges.rows := by
  obtain ⟨service, session, p, reached, opened, stored, clean, text⟩ := exists_clean (.int 0)
  obtain ⟨⟨-, -, -, same, -⟩, loads⟩ := clean_session_is_stored
    Catalog.drawnFrom_registry.isSound named_vacant rfl rfl reached opened stored
  obtain ⟨body, hb, reads⟩ := loads clean
  have readable : (readDocument? body).isSome = true := by
    rw [Option.some.inj (hb.symm.trans text), (isSound_reloaded (.int 0)).isSome_readDocument?]
    decide +kernel
  obtain ⟨g, loaded, nodes, edges, -⟩ := reads.2 readable
  exact ⟨service, session, p, body, g, reached, opened, stored, same, clean, hb, loaded, nodes,
    edges⟩

/-- If a deeply nested value was added instead, then the session is clean and nothing is loaded of
its policy: the condition on the body cannot be dropped. -/
theorem deeply_nested_session_is_not_loaded :
    (∀ k, vacant.ids.source.supply k ≠ "") ∧ vacant.storage.records = .empty ∧
    vacant.sessions = .empty ∧
    ∃ service session p body, Reaches Catalog.registry {} vacant service ∧
      session ∈ service.sessions.rows ∧ service.storage.record? session.policy.id = some p ∧
      session.dirty = false ∧ p.body = some body ∧ ¬∃ g, Graph.ofBodyText body = .ok g := by
  have distinct := hasDistinctNames_nested 200
  obtain ⟨service, session, p, reached, opened, stored, clean, text⟩ := exists_clean distinct
  refine ⟨named_vacant, rfl, rfl, service, session, p, _, reached, opened, stored, clean, text, ?_⟩
  rintro ⟨g, loaded⟩
  have readable := Graph.isSome_of_ofBodyText loaded
  have deep : fits .document (reloaded [("menu", nested 200)]).toJson = false := by decide +kernel
  rw [(isSound_reloaded distinct).isSome_readDocument?, deep] at readable
  cases readable

end Service

end CallFlow
