import CallFlow.Error

/-!
# Sessions

A policy that is open for editing: its record as it was when it was opened or last saved, and the
graph as it is now. Actions come in batches, of which all are made or none.
-/

namespace CallFlow

/-- A policy that is open for editing. -/
structure Session where
  policy : Policy
  graph : Graph
  /-- Something was edited since the policy was opened or last saved. -/
  dirty : Bool := false

/-- The id of the policy that a session is for. -/
def Session.key (s : Session) : String := s.policy.id

/-- What is shown of a session. -/
def Session.toJson (s : Session) (findings : List Finding) : Json :=
  .obj [("policy_id", .str s.policy.id), ("graph", s.graph.toJson),
    ("validation", .obj (Finding.report findings)),
    ("reconstruction_warnings", Json.ofStrings s.graph.warnings), ("dirty", .bool s.dirty)]

/-! ## Batches -/

/-- What came of an action. -/
structure Performed where
  verb : Verb
  outcome : Outcome

def Performed.toJson (p : Performed) : Json :=
  .obj [("action", .str p.verb.name), ("result", p.outcome.toJson)]

namespace Canvas

variable (r : Registry) (s : Settings)

/-- Does what an action asks for. -/
def perform (c : Canvas) (a : Action) : Except Error (Outcome × Canvas) := do
  let edit ← a.edit.mapError .payload
  (edit.apply r s c).mapError .edit

/-- What came of earlier actions, shown with the data that new nodes have by now. -/
def refreshAll (c : Canvas) (past : List Performed) : List Performed :=
  past.map fun p ↦ ⟨p.verb, p.outcome.refresh c.graph⟩

/-- Performs actions after others, up to the first that fails. -/
def performAfter : List Performed → List Action → Canvas → Except Error (List Performed) × Canvas
  | past, [], c => (.ok past, c)
  | past, a :: rest, c =>
    match c.perform r s a with
    | .error e => (.error e, c)
    | .ok (outcome, c) => performAfter (c.refreshAll past ++ [⟨a.verb, outcome⟩]) rest c

/-- Performs a batch of actions. If one fails, the graph is as before, but for the ids that were
issued. -/
def performAll (actions : List Action) (c : Canvas) : Except Error (List Performed) × Canvas :=
  match performAfter r s [] actions c with
  | (.ok past, c') => (.ok past, c')
  | (.error e, c') => (.error e, { c' with graph := c'.graph.restore c.graph })

end Canvas

end CallFlow
