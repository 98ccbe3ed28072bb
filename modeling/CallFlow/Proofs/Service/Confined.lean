import CallFlow.Proofs.Canvas.History
import CallFlow.Proofs.Service.Steps

/-!
# What requests leave alone

A request that is refused changes nothing, wherever it fails, but that ids which it drew stay issued
(`Service.IsUntouched`). A request that is answered changes at most the record and the session of
the policy that it is about (`Service.OthersUntouched`).
-/

namespace CallFlow

/-! ## Requests -/

namespace Service

/-- What may be asked of the service that changes it. -/
inductive Request where
  | createPolicy (name description : String) (type : PolicyType) (source : PolicySource)
    (createdBy : String)
  | openPolicy (id : String)
  | closePolicy (id : String)
  | applyActions (id : String) (actions : List Action)
  | savePolicy (id user : String)
  | changeStatus (id : String) (target : PolicyStatus) (user : String)

namespace Request

/-- The policy that a request is about: the one of which the id is given, or a new one under the
next id. -/
def subject (service : Service) : Request → String
  | createPolicy .. => service.ids.draw.1
  | openPolicy id | closePolicy id | applyActions id _ | savePolicy id _ | changeStatus id .. => id

/-- Does what is asked for. Only whether it is refused matters here, not the answer. -/
def perform (r : Registry) (s : Settings) : Request → Operation Unit
  | createPolicy name description type source createdBy =>
    (fun _ ↦ ⟨⟩) <$> Service.createPolicy r s name description type source createdBy
  | openPolicy id => (fun _ ↦ ⟨⟩) <$> Service.openPolicy r s id
  | closePolicy id => Service.closePolicy id
  | applyActions id actions => (fun _ ↦ ⟨⟩) <$> Service.applyActions r s id actions
  | savePolicy id user => (fun _ ↦ ⟨⟩) <$> Service.savePolicy r id user
  | changeStatus id target user => (fun _ ↦ ⟨⟩) <$> Service.changeStatus r s id target user

end Request

end Service

/-! ## What is left alone -/

/-- A session before and after something that was refused: the same but for ids that were drawn in
between, which stay issued. -/
structure Session.IsUntouched (before after : IdStream) (x y : Session) : Prop where
  policy : y.policy = x.policy
  dirty : y.dirty = x.dirty
  nodes : y.graph.nodes = x.graph.nodes
  edges : y.graph.edges = x.graph.edges
  viewport : y.graph.viewport = x.graph.viewport
  issued : x.graph.IsKept → y.graph.warnings = x.graph.warnings ∧
    x.graph.issued ⊆ y.graph.issued ∧ ∀ id ∈ y.graph.issued, id ∈ x.graph.issued ∨
      ∃ k, before.drawn ≤ k ∧ k < after.drawn ∧ id = before.source.supply k

theorem Session.IsUntouched.refl (before after : IdStream) (x : Session) :
    x.IsUntouched before after x :=
  ⟨rfl, rfl, rfl, rfl, rfl, fun _ ↦ ⟨rfl, List.Subset.refl _, fun _ h ↦ .inl h⟩⟩

namespace Service

/-- The records are as before, and the same sessions are open, each as before. -/
structure IsUntouched (before after : Service) : Prop where
  records : before.storage.KeepsRecords after.storage
  sessions : List.Forall₂ (Session.IsUntouched before.ids after.ids) before.sessions.rows
    after.sessions.rows

/-- The records and sessions of all policies but one are as before. -/
structure OthersUntouched (id : String) (before after : Service) : Prop where
  records : (before.storage.erase id).KeepsRecords (after.storage.erase id)
  sessions : after.sessions.erase id = before.sessions.erase id

/-- What may change with a result: nothing if it is a refusal, and one policy otherwise. -/
def IsConfined {α : Type} (id : String) (before : Service) : Except Error α → Service → Prop
  | .error _, after => before.IsUntouched after
  | .ok _, after => before.OthersUntouched id after

end Service

theorem Storage.KeepsRecords.erase {before after : Storage} (h : before.KeepsRecords after)
    (id : String) : (before.erase id).KeepsRecords (after.erase id) := by
  rcases h with same | ⟨lossy, lost⟩
  · exact .inl (congrArg (·.erase id) same)
  · exact .inr ⟨lossy, congrArg (·.erase id) lost⟩

theorem Storage.keepsRecords_put (storage : Storage) (p : Policy) :
    (storage.erase p.id).KeepsRecords ((storage.put p).erase p.id) := .inl Table.erase_put

namespace Service

open Operation

variable {r : Registry} {s : Settings} {before after : Service} {id user : String} {α : Type}

namespace Fades

theorem isUntouched (h : Fades before after) : before.IsUntouched after where
  records := h.records
  sessions := by
    rw [h.sessions]
    exact List.forall₂_same.2 fun x _ ↦ .refl _ _ x

theorem othersUntouched (h : Fades before after) (id : String) : before.OthersUntouched id after :=
  ⟨h.records.erase id, congrArg (·.erase id) h.sessions⟩

theorem isConfined (h : Fades before after) (id : String) (result : Except Error α) :
    IsConfined id before result after := by
  cases result with
  | error e => exact h.isUntouched
  | ok a => exact h.othersUntouched id

end Fades

theorem IsConfined.map {β : Type} {result : Except Error α} (h : IsConfined id before result after)
    (f : α → β) : IsConfined id before (result.map f) after := by
  cases result with
  | error e => exact h
  | ok a => exact h

/-! ## Request by request -/

theorem createPolicy_isConfined {name description : String} {type : PolicyType}
    {source : PolicySource} {createdBy : String} {result : Except Error Policy}
    (h : (createPolicy r s name description type source createdBy).exec before = (result, after)) :
    IsConfined before.ids.draw.1 before result after := by
  rcases createPolicy_cases h with ⟨e, rfl, fades⟩ |
    ⟨canvas, c, p, storage, rfl, -, -, made, fades, rfl⟩
  · exact fades.isUntouched
  · have new : p.id = before.ids.draw.1 := by rw [made]
    refine ⟨?_, rfl⟩
    have records := fades.records.erase p.id
    rcases records with same | ⟨lossy, lost⟩
    · exact .inl (new ▸ (Table.erase_put.trans same))
    · exact .inr ⟨lossy, new ▸ (Table.erase_put.trans lost)⟩

/-- A session that is put in is that of one policy. -/
theorem sessions_put_erase (sessions : Table Session Session.key) {session : Session}
    (same : session.policy.id = id) : (sessions.put session).erase id = sessions.erase id := by
  obtain rfl : session.key = id := same
  exact Table.erase_put

theorem openPolicy_isConfined {result : Except Error Session}
    (h : (openPolicy r s id).exec before = (result, after)) :
    IsConfined id before result after := by
  rcases openPolicy_cases h with ⟨e, rfl, fades⟩ | ⟨p, g, ids, rfl, hp, -, rfl⟩
  · exact fades.isUntouched
  · exact ⟨.inl rfl, sessions_put_erase _ (Table.key_of_get? hp)⟩

theorem closePolicy_isConfined {result : Except Error Unit}
    (h : (closePolicy id).exec before = (result, after)) :
    IsConfined id before result after := by
  rcases closePolicy_cases h with ⟨e, rfl, rfl⟩ | ⟨session, rfl, -, rfl⟩
  · exact (Fades.refl _).isUntouched
  · exact ⟨.inl rfl, Table.erase_erase id⟩

/-- A batch that fails leaves the session of its canvas as it was, but for ids. -/
theorem isUntouched_of_performAll {session : Session} {ids : IdStream} {actions : List Action}
    {c : Canvas} {e : Error} {dirty : Bool} (same : dirty = session.dirty)
    (h : Canvas.performAll r s actions ⟨session.graph, ids⟩ = (.error e, c)) :
    session.IsUntouched ids c.ids { session with graph := c.graph, dirty } := by
  obtain ⟨nodes, edges, viewport⟩ := Canvas.performAll_eq_error h
  refine ⟨rfl, same, nodes, edges, viewport, fun kept ↦ ?_⟩
  have later := (Canvas.performAll_continues (c := ⟨session.graph, ids⟩) (r := r) (s := s) kept
    actions).1
  rw [h] at later
  exact ⟨later.warnings, later.issued, later.supplied⟩

theorem applyActions_isConfined {actions : List Action} {result : Except Error (List Performed)}
    (h : (applyActions r s id actions).exec before = (result, after)) :
    IsConfined id before result after := by
  rcases applyActions_cases h with ⟨e, rfl, rfl⟩ | ⟨session, c, hs, performed, rfl⟩
  · exact (Fades.refl _).isUntouched
  · have key : session.key = id := Table.key_of_get? hs
    cases result with
    | error e =>
      have untouched := isUntouched_of_performAll (Bool.or_false session.dirty) performed
      exact ⟨.inl rfl, Table.forall₂_rows_put (Session.IsUntouched.refl before.ids c.ids)
        (Table.mem_of_get? hs) rfl untouched⟩
    | ok past => exact ⟨.inl rfl, sessions_put_erase _ key⟩

theorem savePolicy_isConfined {result : Except Error Compiled}
    (h : (savePolicy r id user).exec before = (result, after)) :
    IsConfined id before result after := by
  rcases savePolicy_cases h with ⟨e, rfl, fades, -⟩ | ⟨session, p, c, rfl, hs, -, -, hp, rfl⟩
  · exact fades.isUntouched
  · obtain rfl : p.id = id := Table.key_of_get? hp
    have key : session.key = p.id := Table.key_of_get? hs
    exact ⟨before.storage.keepsRecords_put _, sessions_put_erase _ key⟩

theorem changeStatus_isConfined {target : PolicyStatus} {result : Except Error Policy}
    (h : (changeStatus r s id target user).exec before = (result, after)) :
    IsConfined id before result after := by
  rcases changeStatus_cases h with fades | ⟨p, status, ids, answer, rfl, hp, -, -, rfl⟩
  · exact fades.isConfined id result
  · obtain rfl : p.id = id := Table.key_of_get? hp
    refine ⟨before.storage.keepsRecords_put _, ?_⟩
    cases hs : before.sessions.get? p.id with
    | none => rfl
    | some session =>
      have key : session.key = p.id := Table.key_of_get? hs
      exact sessions_put_erase _ key

/-- Whatever is asked of the service in whatever state, and whichever calls time out: nothing
changes if it is refused, and if it is answered, nothing but what it is about. -/
theorem perform_isConfined (r : Registry) (s : Settings) (service : Service) (request : Request) :
    IsConfined (request.subject service) service ((request.perform r s).exec service).1
      ((request.perform r s).exec service).2 := by
  cases request with
  | createPolicy name description type source createdBy =>
    rw [Request.perform, exec_map]
    exact (createPolicy_isConfined (Prod.ext rfl rfl)).map _
  | openPolicy id =>
    rw [Request.perform, exec_map]
    exact (openPolicy_isConfined (Prod.ext rfl rfl)).map _
  | closePolicy id => exact closePolicy_isConfined (Prod.ext rfl rfl)
  | applyActions id actions =>
    rw [Request.perform, exec_map]
    exact (applyActions_isConfined (Prod.ext rfl rfl)).map _
  | savePolicy id user =>
    rw [Request.perform, exec_map]
    exact (savePolicy_isConfined (Prod.ext rfl rfl)).map _
  | changeStatus id target user =>
    rw [Request.perform, exec_map]
    exact (changeStatus_isConfined (Prod.ext rfl rfl)).map _

end Service

end CallFlow
