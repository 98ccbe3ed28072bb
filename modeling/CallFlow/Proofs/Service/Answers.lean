import CallFlow.Proofs.Compiled
import CallFlow.Proofs.Service.Events

/-!
# Answered operations

No call to a calm storage fails. On a service with such a storage an operation is answered as soon
as what it asks for is there, and the state after it is known. So a draft can be enabled, edited and
saved, whatever is put into it.
-/

namespace CallFlow

open Json

/-- No failure is to come. -/
structure Storage.IsCalm (storage : Storage) : Prop where
  timeOuts : storage.timeOuts = []
  losses : storage.losses = []

theorem Storage.IsCalm.reach {storage : Storage} (calm : storage.IsCalm) (c : StorageCall) :
    storage.reach c = (true, storage) := by
  rw [Storage.reach, calm.timeOuts, calm.losses]
  rfl

namespace Service

open Operation

variable {r : Registry} {s : Settings} {service : Service} {id user : String} {p : Policy}
  {session : Session}

/-- A batch of actions is performed on the graph of an open session. -/
theorem exec_applyActions (hs : service.sessions.get? id = some session) {actions : List Action}
    {past : List Performed} {c : Canvas}
    (performed : Canvas.performAll r s actions ⟨session.graph, service.ids⟩ = (.ok past, c)) :
    (applyActions r s id actions).exec service = (.ok past, { service with
      ids := c.ids
      sessions := service.sessions.put { session with graph := c.graph, dirty := true } }) := by
  simp only [applyActions, exec_bind, exec_session, hs, exec_get, performed, exec_set,
    exec_ofResult]
  cases session.dirty <;> rfl

section Calm

variable (calm : service.storage.IsCalm)
include calm

theorem exec_call_of_isCalm (c : StorageCall) : exec (call c) service = (.ok ⟨⟩, service) := by
  rw [exec_call, calm.reach]
  rfl

/-- A policy is created if a fresh graph compiles. -/
theorem exec_createPolicy {name description : String} {type : PolicyType} {source : PolicySource}
    {createdBy : String} {canvas : Canvas}
    (fresh : Canvas.fresh r s service.ids.draw.2 = .ok canvas) {c : Compiled}
    (compiled : Compiled.ofGraph r canvas.graph name type = .ok c) {p : Policy}
    (record : p = {
      id := service.ids.draw.1, name, description, source, type, createdBy
      updatedBy := createdBy
      body := c.body
      script := c.script }) :
    (createPolicy r s name description type source createdBy).exec service =
      (.ok p, { service with ids := canvas.ids, storage := service.storage.put p }) := by
  have calm' : ({ service with ids := canvas.ids } : Service).storage.IsCalm := calm
  simp only [createPolicy, exec_bind, exec_withIds, exec_freshGraph, fresh, exec_ofResult, compiled,
    Result.mapError_ok, exec_call_of_isCalm calm', exec_store, exec_pure, record]

/-- A policy is opened if there is a graph of it. -/
theorem exec_openPolicy (hp : service.storage.record? id = some p) {g : Graph} {ids : IdStream}
    (graph : p.HasGraph r s service.ids g ids) :
    (openPolicy r s id).exec service = (.ok { policy := p, graph := g },
      { service with ids, sessions := service.sessions.put { policy := p, graph := g } }) := by
  have found := exec_graphOf_eq_ok_iff.2 ⟨ids, graph, rfl⟩
  simp only [openPolicy, load, exec_bind, exec_call_of_isCalm calm, exec_record, hp, found,
    exec_putSession, exec_pure]

/-- An open session is saved if its graph is valid and compiles. -/
theorem exec_savePolicy (hs : service.sessions.get? id = some session)
    (hp : service.storage.record? id = some p)
    (harmless : Finding.areHarmless (session.graph.validate r) = true) {c : Compiled}
    (compiled : Compiled.ofGraph r session.graph session.policy.name session.policy.type = .ok c) :
    (savePolicy r id user).exec service = (.ok c, { service with
      storage := service.storage.put
        { p with body := c.body, script := c.script, updatedBy := user }
      sessions := service.sessions.put { session with
        policy := { session.policy with body := c.body, script := c.script }
        dirty := false } }) := by
  simp only [savePolicy, exec_bind, exec_session, hs, harmless, Bool.not_true,
    Bool.false_eq_true, if_false, exec_ofResult, compiled, Result.mapError_ok,
    exec_call_of_isCalm calm, exec_record, hp, exec_store, exec_putSession, exec_pure]

/-- A policy that is not enabled becomes so if there is a valid graph of it. -/
theorem exec_changeStatus_enabled (hp : service.storage.record? id = some p)
    (inactive : p.status ≠ .enabled) {g : Graph} {ids : IdStream}
    (graph : p.HasGraph r s service.ids g ids)
    (harmless : Finding.areHarmless (g.validate r) = true)
    (closed : service.sessions.get? id = none) :
    (changeStatus r s id .enabled user).exec service = (.ok { p with status := .enabled },
      { service with
        ids
        storage := service.storage.put { p with status := .enabled, updatedBy := user } }) := by
  have found := exec_graphOf_eq_ok_iff.2 ⟨ids, graph, rfl⟩
  have changed : p.status.change .enabled (some (g.validate r)) = .ok .enabled := by
    cases hp : p.status with
    | enabled => exact absurd hp inactive
    | draft | disabled =>
      simp only [PolicyStatus.change, harmless]
      rfl
  have moved : (PolicyStatus.enabled == p.status) = false := by
    cases hp : p.status with
    | enabled => exact absurd hp inactive
    | draft | disabled => rfl
  have calm' : ({ service with ids } : Service).storage.IsCalm := calm
  simp only [changeStatus_eq, load, exec_bind, exec_call_of_isCalm calm, exec_record, hp,
    findingsFor, PolicyStatus.isGated, if_true, exec_map, found, Except.map, exec_ofResult, changed,
    Result.mapError_ok, moved, Bool.false_eq_true, if_false, setStatus, exec_call_of_isCalm calm',
    exec_store, exec_get, closed, exec_pure]

/-! ## Runs on a calm storage -/

/-- A policy is opened. -/
theorem exists_opened {start : Service} (reached : Reaches r s start service)
    (hp : service.storage.record? id = some p) {g : Graph} {ids : IdStream}
    (graph : p.HasGraph r s service.ids g ids) :
    ∃ opened, Reaches r s start opened ∧ opened.storage = service.storage ∧
      opened.sessions.get? id = some { policy := p, graph := g } := by
  have opens := exec_openPolicy calm hp graph
  obtain rfl : p.id = id := Table.key_of_get? hp
  exact ⟨_, reached.tail ⟨.openPolicy p.id, trivial, (congrArg Prod.snd opens).symm⟩, rfl,
    Table.get?_put_self⟩

omit calm in
/-- An open policy is edited. -/
theorem exists_edited {start : Service} (reached : Reaches r s start service)
    (hs : service.sessions.get? id = some session) {actions : List Action}
    (fair : ∀ a ∈ actions, a.payload.HaveDistinctNames) {past : List Performed} {g : Graph}
    {ids : IdStream}
    (performed : Canvas.performAll r s actions ⟨session.graph, service.ids⟩ =
      (.ok past, ⟨g, ids⟩)) :
    ∃ edited, Reaches r s start edited ∧ edited.storage = service.storage ∧
      edited.sessions.get? id = some { session with graph := g, dirty := true } := by
  have edits := exec_applyActions hs performed
  obtain rfl : session.key = id := Table.key_of_get? hs
  exact ⟨_, reached.tail ⟨.applyActions session.key actions, fair,
    (congrArg Prod.snd edits).symm⟩, rfl, Table.get?_put_self⟩

/-- An open policy whose graph is valid is saved. -/
theorem exists_saved (drawn : r.DrawnFrom Catalog.kinds)
    (known : r.isKnown Kind.inputTag = true) {start : Service} (reached : Reaches r s start service)
    (hs : service.sessions.get? id = some session) (hp : service.storage.record? id = some p)
    (valid : session.graph.IsValid r) (user : String) :
    ∃ c saved, (savePolicy r id user).exec service = (.ok c, saved) ∧ Reaches r s start saved ∧
      saved.storage.record? id =
        some { p with body := c.body, script := c.script, updatedBy := user } ∧
      saved.sessions.get? id = some { session with
        policy := { session.policy with body := c.body, script := c.script }
        dirty := false } ∧
      c.body = canonical session.graph.toJson := by
  obtain ⟨c, compiled⟩ :=
    Compiled.exists_ofGraph_of_isValid session.policy.name session.policy.type drawn known valid
  have saves : (savePolicy r id user).exec service = (.ok c, _) :=
    exec_savePolicy calm hs hp ((Graph.areHarmless_validate ..).2 valid) compiled
  refine ⟨c, _, saves, reached.tail ⟨.savePolicy id user, trivial, (congrArg Prod.snd saves).symm⟩,
    ?_, ?_, ?_⟩
  · obtain rfl : p.id = id := Table.key_of_get? hp
    exact Table.get?_put_self
  · obtain rfl : session.key = id := Table.key_of_get? hs
    exact Table.get?_put_self
  · obtain ⟨_, _, -, -, rfl⟩ := Compiled.ofGraph_eq_ok_iff.1 compiled
    rfl

end Calm

/-! ## A draft that is enabled, edited and saved -/

/-- A service that holds one draft without documents. -/
def oneDraft : Service where
  storage := { records := Table.empty.put { id := "main", name := "Main" } }
  ids := ⟨.listed ["unused", "start"], 0⟩

/-- The graph of the draft, with one more member in the data of its entry. -/
def drawing (v : Json) : Graph :=
  { Canvas.lone {} Catalog.start "start" with
    nodes := Table.empty.put { Canvas.entry {} Catalog.start "start" with
      data := [("name", .str "Start"), ("enabled", .bool true), ("menu", v)] } }

/-- The action that adds the member. -/
def addMenu (v : Json) : Action :=
  ⟨.updateNode, [("node_id", .str "start"), ("data", .obj [("menu", v)])]⟩

/-- Ids that are listed are not empty if none of the list is. -/
theorem supply_listed_ne_empty {given : List String} (named : "" ∉ given) (k : Nat) :
    (IdSource.listed given).supply k ≠ "" := by
  change (given[k]?).getD (IdSource.numberedId (k - given.length)) ≠ ""
  cases h : given[k]? with
  | some id => exact fun empty ↦ named (empty ▸ List.mem_of_getElem? h)
  | none =>
    intro empty
    have length := congrArg String.length empty
    simp [IdSource.numberedId] at length

theorem named_oneDraft : ∀ k, oneDraft.ids.source.supply k ≠ "" :=
  supply_listed_ne_empty (by decide)

/-- A graph of one start node is valid if the node has its name and its switch. -/
theorem isValid_of_start {g : Graph} {n : Node} (rows : g.nodes.rows = [n])
    (edges : g.edges.rows = []) (type : n.type = "init")
    (name : Members.get? n.data "name" = some (.str "Start"))
    (enabled : Members.get? n.data "enabled" = some (.bool true)) :
    g.IsValid Catalog.registry where
  soleEntry := by
    rw [Graph.entries, rows, List.filter_cons_of_pos (by rw [type]; rfl)]
    rfl
  filledIn := by
    rw [rows, List.forall_mem_singleton, type]
    refine List.forall_mem_singleton.2 ?_
    rw [name]
    rfl
  typed := by
    rw [rows, List.forall_mem_singleton, type]
    refine List.forall_mem_cons.2 ⟨?_, List.forall_mem_singleton.2 ?_⟩
    · rw [name]
      rfl
    · rw [enabled]
      rfl
  withinLimit := by
    rw [rows, List.forall_mem_singleton, Graph.outgoing, edges]
    exact fun _ _ ↦ Nat.zero_le _
  endpoints e he := by
    rw [edges] at he
    cases he
  labelled e he := by
    rw [edges] at he
    cases he

theorem isValid_drawing (v : Json) : (drawing v).IsValid Catalog.registry :=
  isValid_of_start rfl rfl rfl rfl rfl

theorem performAll_addMenu (v : Json) (ids : IdStream) :
    Canvas.performAll Catalog.registry {} [addMenu v] ⟨Canvas.lone {} Catalog.start "start", ids⟩ =
      (.ok [⟨.updateNode, .done⟩], ⟨drawing v, ids⟩) := by
  rfl

/-- A graph of one start node is sound if no name is twice in the data of the node. -/
theorem isSound_of_start {data : Members} (distinct : data.HaveDistinctNames) :
    Graph.IsSound { Canvas.lone {} Catalog.start "start" with
      nodes := Table.empty.put { Canvas.entry {} Catalog.start "start" with data } } where
  nodes := List.forall_mem_singleton.2
    ⟨show "start" ≠ "" by decide, show "init" ≠ "" by decide, rfl, rfl, distinct, rfl⟩
  edges _ he := nomatch he
  viewport := isView_blank
  kept := ⟨List.forall_mem_singleton.2 List.mem_cons_self, fun _ h ↦ (nomatch h),
    fun _ _ _ h ↦ (nomatch h)⟩

theorem fresh_start (ids : IdStream) : Canvas.fresh Catalog.registry {} ids =
    .ok ⟨Canvas.lone {} Catalog.start ids.draw.1, ids.draw.2⟩ :=
  Canvas.fresh_eq_ok_iff.2 ⟨Catalog.start, rfl, by decide, rfl⟩

/-- The draft as it is when it was enabled. -/
def enabledDraft : Policy := { id := "main", name := "Main", status := .enabled }

/-- The draft is enabled as it is stored. -/
theorem exists_enabled_draft : ∃ enabled, Reaches Catalog.registry {} oneDraft enabled ∧
    enabled.storage = oneDraft.storage.put enabledDraft ∧ enabled.ids = oneDraft.ids.draw.2 := by
  have harmless : Finding.areHarmless
      ((Canvas.lone {} Catalog.start "unused").validate Catalog.registry) = true := by
    decide +kernel
  have enables : (changeStatus Catalog.registry {} "main" .enabled "").exec oneDraft =
      (.ok enabledDraft, _) :=
    exec_changeStatus_enabled (p := { id := "main", name := "Main" }) ⟨rfl, rfl⟩ rfl (by decide)
      (.fresh rfl rfl (fresh_start _)) harmless rfl
  exact ⟨_, .single ⟨.changeStatus "main" .enabled "", trivial, (congrArg Prod.snd enables).symm⟩,
    rfl, rfl⟩

section Distinct

variable {v : Json} (distinct : v.HasDistinctNames)
include distinct

theorem isSound_drawing : (drawing v).IsSound := by
  refine isSound_of_start (.obj (show ["name", "enabled", "menu"].Nodup by decide) ?_)
  exact List.forall_mem_cons.2 ⟨.str "Start",
    List.forall_mem_cons.2 ⟨.bool true, List.forall_mem_singleton.2 distinct⟩⟩

theorem haveDistinctNames_addMenu : ∀ a ∈ [addMenu v], a.payload.HaveDistinctNames := by
  refine List.forall_mem_singleton.2 (.obj (show ["node_id", "data"].Nodup by decide)
    (List.forall_mem_cons.2 ⟨.str "start", List.forall_mem_singleton.2 ?_⟩))
  exact .obj (List.nodup_singleton _) (List.forall_mem_singleton.2 distinct)

/-- The draft is enabled, edited and saved, whatever is added to it. -/
theorem exists_saved_draft : ∃ edited c saved p, Reaches Catalog.registry {} oneDraft edited ∧
    (savePolicy Catalog.registry "main" "").exec edited = (.ok c, saved) ∧
    Reaches Catalog.registry {} oneDraft saved ∧
    p ∈ saved.storage.records.rows ∧ p.status = .enabled ∧ p.body = some c.body ∧
    c.body = canonical (drawing v).toJson := by
  obtain ⟨enabled, reached, storage, ids⟩ := exists_enabled_draft
  have stored : enabled.storage.record? "main" = some enabledDraft := by
    rw [storage]
    rfl
  obtain ⟨opened, reached, storage', hs⟩ := exists_opened (storage ▸ ⟨rfl, rfl⟩) reached stored
    (.fresh rfl rfl (fresh_start _))
  have start : enabled.ids.draw.1 = "start" := by rw [ids]; rfl
  rw [start] at hs
  obtain ⟨edited, reached, storage'', hs⟩ := exists_edited reached hs
    (haveDistinctNames_addMenu distinct) (performAll_addMenu v _)
  rw [storage', storage] at storage''
  rw [storage, ← storage''] at stored
  obtain ⟨c, saved, saves, reached', hp, -, body⟩ := exists_saved (storage'' ▸ ⟨rfl, rfl⟩)
    Catalog.drawnFrom_registry (by decide) reached hs stored (isValid_drawing v) ""
  exact ⟨edited, c, saved, _, reached, saves, reached', Table.mem_of_get? hp, rfl, rfl, body⟩

end Distinct

end Service

end CallFlow
