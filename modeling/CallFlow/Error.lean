import CallFlow.Compiled
import CallFlow.Edit.Action
import CallFlow.Policy.Status
import CallFlow.Script.Rebuild
import CallFlow.Storage

/-!
# Errors

Everything that a request can be refused for.
-/

namespace CallFlow

/-- Why a request is refused. -/
inductive Error where
  | edit (e : EditError)
  | payload (e : PayloadError)
  | document (e : DocumentError)
  | compile (e : CompileError)
  | status (e : StatusError)
  /-- A graph has fatal findings; of a stored policy, its id is given. -/
  | invalidGraph (policy : Option String) (fatal : List Finding)
  | noSuchPolicy (id : String)
  | noSession (policy : String)
  | timeOut (call : StorageCall)

namespace Error

/-- The stable word for an error. -/
def code : Error → String
  | edit e => e.code
  | payload _ | document _ => "POLICY_BODY_ERROR"
  | compile _ => "COMPILATION_ERROR"
  | status _ => "STATUS_TRANSITION_ERROR"
  | invalidGraph .. => "POLICY_VALIDATION_ERROR"
  | noSuchPolicy _ => "POLICY_NOT_FOUND"
  | noSession _ => "SESSION_NOT_FOUND"
  | timeOut _ => "REPOSITORY_ERROR"

def message : Error → String
  | edit e => e.message
  | payload e => e.message
  | document e => e.message
  | compile e => e.message
  | status e => e.message
  | invalidGraph (some policy) fatal => s!"Policy {policy} has {fatal.length} fatal issue(s)"
  | invalidGraph none _ => "Graph has fatal issues"
  | noSuchPolicy id => s!"Policy not found: {id}"
  | noSession policy => s!"No editor session open for policy: {policy}"
  | timeOut call => s!"Repository {call.name} timed out"

def details : Error → Members
  | edit e => e.details
  | payload e => e.details
  | document e => e.details
  | compile e => e.details
  | status e => e.details
  | invalidGraph _ fatal => [("issues", .arr (fatal.map Finding.toJson))]
  | noSuchPolicy id | noSession id => [("policy_id", .str id)]
  | timeOut _ => []

/-- An error in an answer. -/
def toJson (e : Error) : Json :=
  .obj [("code", .str e.code), ("message", .str e.message), ("details", .obj e.details)]

end Error

end CallFlow
