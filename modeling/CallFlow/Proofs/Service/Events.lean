import CallFlow.Proofs.Script.Sound
import CallFlow.Proofs.Service.Steps
import Mathlib.Logic.Relation

/-!
# Runs of the service

What can happen to the service: operations in any order, and failures of the storage. Whatever it
is, the records and sessions after it come from those before it in one of a few ways (`Event.step`),
and every invariant of runs is shown from these.
-/

namespace CallFlow

namespace Service

/-! ## Events -/

/-- An operation that is asked for, or a failure of the storage. -/
inductive Event where
  | createPolicy (name description : String) (type : PolicyType) (source : PolicySource)
    (createdBy : String)
  | getPolicy (id : String)
  | listPolicies
  | openPolicy (id : String)
  | closePolicy (id : String)
  | applyActions (id : String) (actions : List Action)
  | savePolicy (id user : String)
  | changeStatus (id : String) (target : PolicyStatus) (user : String)
  /-- The next call of a sort will time out. -/
  | timeOut (call : StorageCall)
  /-- All records will be lost before any call of a sort. -/
  | lose (call : StorageCall)
  /-- A record gets lost. -/
  | erase (id : String)

namespace Event

open Operation

/-- The state after an event. -/
def after (r : Registry) (s : Settings) (service : Service) : Event → Service
  | createPolicy name description type source createdBy =>
    ((Service.createPolicy r s name description type source createdBy).exec service).2
  | getPolicy id => ((Service.getPolicy id).exec service).2
  | listPolicies => (Service.listPolicies.exec service).2
  | openPolicy id => ((Service.openPolicy r s id).exec service).2
  | closePolicy id => ((Service.closePolicy id).exec service).2
  | applyActions id actions => ((Service.applyActions r s id actions).exec service).2
  | savePolicy id user => ((Service.savePolicy r id user).exec service).2
  | changeStatus id target user => ((Service.changeStatus r s id target user).exec service).2
  | timeOut call =>
    { service with
      storage := { service.storage with timeOuts := call :: service.storage.timeOuts } }
  | lose call =>
    { service with storage := { service.storage with losses := call :: service.storage.losses } }
  | erase id => { service with storage := service.storage.erase id }

/-- The id of a new policy is not in use, and in the objects of an action no name stands twice. -/
def IsFair (service : Service) : Event → Prop
  | createPolicy .. =>
    service.ids.draw.1 ∉ service.storage.records.keys ∧ service.ids.draw.1 ∉ service.sessions.keys
  | applyActions _ actions => ∀ a ∈ actions, a.payload.HaveDistinctNames
  | _ => True

end Event

/-- One event leads from one state to another. -/
def Next (r : Registry) (s : Settings) (before after : Service) : Prop :=
  ∃ event : Event, event.IsFair before ∧ after = event.after r s before

/-- Events lead from one state to another. -/
def Reaches (r : Registry) (s : Settings) : Service → Service → Prop :=
  Relation.ReflTransGen (Next r s)

/-- What every event keeps is kept by every run. -/
theorem Reaches.keeps {r : Registry} {s : Settings} {P : Service → Prop}
    (next : ∀ {before : Service} {event : Event}, event.IsFair before → P before →
      P (event.after r s before)) {before after : Service} (reached : Reaches r s before after)
    (h : P before) : P after := by
  induction reached with
  | refl => exact h
  | tail _ last ih =>
    obtain ⟨event, fair, rfl⟩ := last
    exact next fair ih

end Service

/-- What of a record never changes. -/
def Policy.label (p : Policy) : String × String × PolicyType := (p.id, p.name, p.type)

namespace Service

/-! ## Where records and sessions come from -/

variable {r : Registry} {s : Settings} {before after : Service}

/-- Where a record comes from that is there after an event. -/
inductive RecordAfter (r : Registry) (s : Settings) (before : Service) : Policy → Prop
  | kept {p : Policy} (there : p ∈ before.storage.records.rows) : RecordAfter r s before p
  | created {p : Policy} {ids : IdStream} {canvas : Canvas} {c : Compiled}
    (unused : p.id ∉ before.storage.records.keys ∧ p.id ∉ before.sessions.keys)
    (source : ids.source = before.ids.source) (fresh : Canvas.fresh r s ids = .ok canvas)
    (compiled : Compiled.ofGraph r canvas.graph p.name p.type = .ok c) (body : p.body = some c.body)
    (script : p.script = some c.script) (draft : p.status = .draft) : RecordAfter r s before p
  | saved {p : Policy} {session : Session} {c : Compiled} (there : p ∈ before.storage.records.rows)
    (opened : session ∈ before.sessions.rows) (same : p.id = session.policy.id)
    (harmless : Finding.areHarmless (session.graph.validate r) = true)
    (compiled : Compiled.ofGraph r session.graph session.policy.name session.policy.type = .ok c)
    (user : String) :
    RecordAfter r s before { p with body := c.body, script := c.script, updatedBy := user }
  | moved {p : Policy} {status : PolicyStatus} (there : p ∈ before.storage.records.rows)
    (gate : status = .enabled → ∃ g ids, p.HasGraph r s before.ids g ids ∧
      Finding.areHarmless (g.validate r) = true)
    (user : String) : RecordAfter r s before { p with status, updatedBy := user }

/-- Where a session comes from that is there after an event. -/
inductive SessionAfter (r : Registry) (s : Settings) (before : Service) : Session → Prop
  | kept {session : Session} (there : session ∈ before.sessions.rows) :
    SessionAfter r s before session
  | opened {p : Policy} {g : Graph} {ids : IdStream} (there : p ∈ before.storage.records.rows)
    (graph : p.HasGraph r s before.ids g ids) : SessionAfter r s before { policy := p, graph := g }
  | edited {session : Session} {graph : Graph} {dirty : Bool}
    (there : session ∈ before.sessions.rows) (sound : graph.IsSound) :
    SessionAfter r s before { session with graph, dirty }
  | noted {session : Session} {policy : Policy} {dirty : Bool}
    (there : session ∈ before.sessions.rows) (label : policy.label = session.policy.label) :
    SessionAfter r s before { session with policy, dirty }

/-- Everything that is there after an event comes from what was there before. -/
structure Step (r : Registry) (s : Settings) (before after : Service) : Prop where
  records : ∀ p ∈ after.storage.records.rows, RecordAfter r s before p
  sessions : ∀ session ∈ after.sessions.rows, SessionAfter r s before session
  source : after.ids.source = before.ids.source

theorem Fades.step (h : Fades before after) : Step r s before after :=
  ⟨fun _ hp ↦ .kept (h.rows_subset hp), fun _ hx ↦ .kept (h.sessions ▸ hx), h.source⟩

namespace Step

open Operation

variable {id user : String}

/-- The graphs of sessions stay sound, if what is loaded of a record is sound. -/
theorem graphs_isSound (step : Step r s before after)
    (graphs : ∀ session ∈ before.sessions.rows, session.graph.IsSound)
    (loaded : ∀ p ∈ before.storage.records.rows, ∀ g ids,
      p.HasGraph r s before.ids g ids → g.IsSound) :
    ∀ session ∈ after.sessions.rows, session.graph.IsSound := by
  intro session hs
  cases step.sessions session hs with
  | kept there => exact graphs _ there
  | opened there graph => exact loaded _ there _ _ graph
  | edited _ sound => exact sound
  | noted there =>
    have sound := graphs _ there
    exact sound

theorem createPolicy {name description : String} {type : PolicyType} {source : PolicySource}
    {createdBy : String} {result : Except Error Policy}
    (unused : before.ids.draw.1 ∉ before.storage.records.keys ∧
      before.ids.draw.1 ∉ before.sessions.keys)
    (h : (createPolicy r s name description type source createdBy).exec before = (result, after)) :
    Step r s before after := by
  rcases createPolicy_cases h with ⟨e, -, fades⟩ |
    ⟨canvas, c, p, storage, -, fresh, compiled, rfl, fades, rfl⟩
  · exact fades.step
  · have source := (Canvas.source_fresh fresh).trans before.ids.source_draw
    refine ⟨fun p hp ↦ ?_, fun _ hx ↦ .kept hx, source⟩
    rcases Table.mem_rows_put_iff.1 hp with rfl | ⟨hp, -⟩
    · exact .created unused before.ids.source_draw fresh compiled rfl rfl rfl
    · exact .kept (fades.rows_subset hp)

theorem openPolicy {result : Except Error Session}
    (h : (openPolicy r s id).exec before = (result, after)) : Step r s before after := by
  rcases openPolicy_cases h with ⟨e, -, fades⟩ | ⟨p, g, ids, -, hp, graph, rfl⟩
  · exact fades.step
  · refine ⟨fun _ hp ↦ .kept hp, fun x hx ↦ ?_, graph.source⟩
    rcases Table.mem_rows_put_iff.1 hx with rfl | ⟨hx, -⟩
    · exact .opened (Table.mem_of_get? hp) graph
    · exact .kept hx

theorem closePolicy {result : Except Error Unit}
    (h : (closePolicy id).exec before = (result, after)) : Step r s before after := by
  rcases closePolicy_cases h with ⟨e, -, rfl⟩ | ⟨session, -, -, rfl⟩
  · exact (Fades.refl _).step
  · exact ⟨fun _ hp ↦ .kept hp, fun _ hx ↦ .kept (List.mem_filter.1 hx).1, rfl⟩

theorem applyActions {actions : List Action} {result : Except Error (List Performed)}
    (kinds : r.IsSound) (named : ∀ k, before.ids.source.supply k ≠ "")
    (graphs : ∀ session ∈ before.sessions.rows, session.graph.IsSound)
    (distinct : ∀ a ∈ actions, a.payload.HaveDistinctNames)
    (h : (applyActions r s id actions).exec before = (result, after)) : Step r s before after := by
  rcases applyActions_cases h with ⟨e, -, rfl⟩ | ⟨session, c, hs, performed, rfl⟩
  · exact (Fades.refl _).step
  · have there := Table.mem_of_get? hs
    have keeps := Canvas.performAll_keeps kinds named distinct (graphs session there) performed
    refine ⟨fun _ hp ↦ .kept hp, fun x hx ↦ ?_, keeps.source⟩
    rcases Table.mem_rows_put_iff.1 hx with rfl | ⟨hx, -⟩
    · exact .edited there keeps.sound
    · exact .kept hx

theorem savePolicy {result : Except Error Compiled}
    (h : (savePolicy r id user).exec before = (result, after)) : Step r s before after := by
  rcases savePolicy_cases h with ⟨e, -, fades, -⟩ |
    ⟨session, p, c, -, hs, harmless, compiled, hp, rfl⟩
  · exact fades.step
  · have opened := Table.mem_of_get? hs
    have same : p.id = session.policy.id := (Table.key_of_get? hp).trans (Table.key_of_get? hs).symm
    refine ⟨fun q hq ↦ ?_, fun x hx ↦ ?_, rfl⟩
    · rcases Table.mem_rows_put_iff.1 hq with rfl | ⟨hq, -⟩
      · exact .saved (Table.mem_of_get? hp) opened same harmless compiled user
      · exact .kept hq
    · rcases Table.mem_rows_put_iff.1 hx with rfl | ⟨hx, -⟩
      · exact .noted opened rfl
      · exact .kept hx

theorem changeStatus {target : PolicyStatus} {result : Except Error Policy}
    (h : (changeStatus r s id target user).exec before = (result, after)) :
    Step r s before after := by
  rcases changeStatus_cases h with fades | ⟨p, status, ids, -, -, hp, source, gate, rfl⟩
  · exact fades.step
  · refine ⟨fun q hq ↦ ?_, fun x hx ↦ ?_, source⟩
    · rcases Table.mem_rows_put_iff.1 hq with rfl | ⟨hq, -⟩
      · exact .moved (Table.mem_of_get? hp) gate user
      · exact .kept hq
    · cases hs : before.sessions.get? id with
      | none =>
        rw [hs] at hx
        exact .kept hx
      | some session =>
        rw [hs] at hx
        rcases Table.mem_rows_put_iff.1 hx with rfl | ⟨hx, -⟩
        · exact .noted (Table.mem_of_get? hs) rfl
        · exact .kept hx

end Step

/-- Every event is a step. -/
theorem Event.step (kinds : r.IsSound) (named : ∀ k, before.ids.source.supply k ≠ "")
    (graphs : ∀ session ∈ before.sessions.rows, session.graph.IsSound) {event : Event}
    (fair : event.IsFair before) : Step r s before (event.after r s before) := by
  cases event with
  | createPolicy => exact .createPolicy fair (Prod.ext rfl rfl)
  | getPolicy => exact (getPolicy_fades (Prod.ext rfl rfl)).step
  | listPolicies => exact (listPolicies_fades (Prod.ext rfl rfl)).step
  | openPolicy => exact .openPolicy (Prod.ext rfl rfl)
  | closePolicy => exact .closePolicy (Prod.ext rfl rfl)
  | applyActions => exact .applyActions kinds named graphs fair (Prod.ext rfl rfl)
  | savePolicy => exact .savePolicy (Prod.ext rfl rfl)
  | changeStatus => exact .changeStatus (Prod.ext rfl rfl)
  | timeOut | lose => exact ⟨fun _ hp ↦ .kept hp, fun _ hx ↦ .kept hx, rfl⟩
  | erase => exact ⟨fun _ hp ↦ .kept (List.mem_filter.1 hp).1, fun _ hx ↦ .kept hx, rfl⟩

end Service

end CallFlow
