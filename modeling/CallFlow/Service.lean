import CallFlow.Session

/-!
# The service

The stored records of all policies and the sessions that are open. Every operation is answered or
refused. What a refused one leaves behind is at most that ids are issued; what the storage loses by
itself is lost all the same.
-/

namespace CallFlow

/-! ## State -/

/-- The state of the service. -/
structure Service where
  storage : Storage := {}
  sessions : Table Session Session.key := .empty
  ids : IdStream

/-- A request to the service. -/
abbrev Operation (α : Type) := ExceptT Error (StateM Service) α

/-- The value of a result, or a refusal for its error. -/
def Operation.ofResult {ε α : Type} (refusal : ε → Error) : Except ε α → Operation α
  | .ok a => return a
  | .error e => throw (refusal e)

namespace Service

/-! ## Storage -/

/-- Calls the storage. -/
def call (c : StorageCall) : Operation Unit := do
  let service ← get
  let (reached, storage) := service.storage.reach c
  set { service with storage }
  if !reached then
    throw (.timeOut c)

/-- The record of a policy, after a call. -/
def record (id : String) : Operation Policy := do
  match (← get).storage.record? id with
  | some p => return p
  | none => throw (.noSuchPolicy id)

/-- The record of a policy. -/
def getPolicy (id : String) : Operation Policy := do
  call .get
  record id

/-- All records. -/
def listPolicies : Operation (List Policy) := do
  call .list
  return (← get).storage.records.rows

/-- The record of a policy with its documents. -/
def load (id : String) : Operation Policy := do
  call .load
  record id

/-- Stores a record, after a call. -/
def store (p : Policy) : Operation Unit :=
  modify fun service ↦ { service with storage := service.storage.put p }

/-! ## Graphs -/

variable (r : Registry) (s : Settings)

/-- An operation on the source of ids. -/
def withIds {α : Type} (f : IdStream → Except Error α × IdStream) : Operation α := do
  let service ← get
  let (result, ids) := f service.ids
  set { service with ids }
  Operation.ofResult (fun e ↦ e) result

/-- A graph that holds only its entry. -/
def freshGraph : Operation Graph :=
  withIds fun ids ↦
    match Canvas.fresh r s ids with
    | .ok c => (.ok c.graph, c.ids)
    | .error e => (.error (.edit e), ids)

/-- The graph of a stored script. -/
def rebuiltGraph (text : String) : Operation Graph := do
  let script ← Operation.ofResult .document (StoredScript.ofText text)
  withIds fun ids ↦
    let (graph, ids) := script.rebuild r s ids
    (graph.mapError .edit, ids)

/-- The graph of a record: that of its body, else that of its script, else a fresh one. Empty
documents count as none. -/
def graphOf (p : Policy) : Operation Graph :=
  match p.body.getD "", p.script.getD "" with
  | "", "" => freshGraph r s
  | "", script => rebuiltGraph r s script
  | body, _ => .ofResult .document (Graph.ofBodyText body)

/-! ## Sessions -/

/-- The open session of a policy. -/
def session (id : String) : Operation Session := do
  match (← get).sessions.get? id with
  | some session => return session
  | none => throw (.noSession id)

def putSession (session : Session) : Operation Unit :=
  modify fun service ↦ { service with sessions := service.sessions.put session }

/-- What is shown of a session. -/
def view (session : Session) : Json := session.toJson (session.graph.validate r)

/-- Opens a policy for editing. A session that is open for it is replaced. -/
def openPolicy (id : String) : Operation Session := do
  let policy ← load id
  let graph ← graphOf r s policy
  let session : Session := { policy, graph }
  putSession session
  return session

/-- Closes a session; what was not saved is lost. -/
def closePolicy (id : String) : Operation Unit := do
  let _ ← session id
  modify fun service ↦ { service with sessions := service.sessions.erase id }

/-- Performs a batch of actions on the graph of a session. -/
def applyActions (id : String) (actions : List Action) : Operation (List Performed) := do
  let session ← session id
  let service ← get
  let (result, c) := Canvas.performAll r s actions ⟨session.graph, service.ids⟩
  let dirty := session.dirty || result.toBool
  set { service with
    ids := c.ids
    sessions := service.sessions.put { session with graph := c.graph, dirty } }
  Operation.ofResult (fun e ↦ e) result

/-! ## Policies -/

/-- Creates a draft whose graph holds only its entry. -/
def createPolicy (name description : String) (type : PolicyType) (source : PolicySource)
    (createdBy : String) : Operation Policy := do
  let id ← withIds fun ids ↦ let (id, ids) := ids.draw; (.ok id, ids)
  let graph ← freshGraph r s
  let compiled ← Operation.ofResult .compile (Compiled.ofGraph r graph name type)
  let policy : Policy := {
    id, name, description, source, type, createdBy
    updatedBy := createdBy
    body := compiled.body
    script := compiled.script }
  call .create
  store policy
  return policy

/-- Validates and compiles the graph of a session and stores the documents. -/
def savePolicy (id user : String) : Operation Compiled := do
  let session ← session id
  let findings := session.graph.validate r
  if !Finding.areHarmless findings then
    throw (.invalidGraph id (Finding.fatalOnes findings))
  let compiled ← Operation.ofResult .compile
    (Compiled.ofGraph r session.graph session.policy.name session.policy.type)
  call .save
  let stored ← record id
  store { stored with body := compiled.body, script := compiled.script, updatedBy := user }
  putSession { session with
    policy := { session.policy with body := compiled.body, script := compiled.script }
    dirty := false }
  return compiled

/-- Changes the status of a policy. Only the stored documents count for whether it may be enabled,
not what an open session holds. The answer is the record as it was loaded, in its new status. -/
def changeStatus (id : String) (target : PolicyStatus) (user : String) : Operation Policy := do
  let policy ← load id
  let findings ← if target.isGated then
      (fun g : Graph ↦ some (g.validate r)) <$> graphOf r s policy
    else pure none
  let status ← Operation.ofResult .status (policy.status.change target findings)
  if status == policy.status then
    return policy
  call .setStatus
  let stored ← record id
  store { stored with status, updatedBy := user }
  if let some session := (← get).sessions.get? id then
    putSession { session with policy.status := status }
  return { policy with status }

end Service

end CallFlow
