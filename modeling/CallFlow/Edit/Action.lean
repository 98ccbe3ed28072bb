import CallFlow.Edit
import CallFlow.Schema.Scalar

/-!
# Actions

What a client asks for: a verb with a payload. The payload must name all that the edit needs, and
only texts, objects and numbers where they belong; what the edit does with them is not judged here.
-/

namespace CallFlow

/-! ## Verbs -/

/-- What an action does. -/
inductive Verb where
  | addNode
  | updateNode
  | moveNode
  | removeNode
  | connect
  | disconnect
  | setViewport
deriving DecidableEq, Repr

namespace Verb

def all : List Verb :=
  [.addNode, .updateNode, .moveNode, .removeNode, .connect, .disconnect, .setViewport]

def name : Verb → String
  | addNode => "add_node"
  | updateNode => "update_node"
  | moveNode => "move_node"
  | removeNode => "remove_node"
  | connect => "connect"
  | disconnect => "disconnect"
  | setViewport => "set_viewport"

def ofName? (s : String) : Option Verb := all.find? (·.name == s)

end Verb

/-- An action of a client. -/
structure Action where
  verb : Verb
  payload : Members

namespace Action

open Schema

/-- Checks an action. Who asks for it is checked, but not kept. -/
def check (origin : Origin) : Json → Checked Action :=
  record origin fun ms ↦
    (fun verb payload _user ↦ ⟨verb, payload⟩) <$>
      required ms "action" (choice Verb.ofName?) <*> optional ms "payload" [] object <*>
      optional ms "user_id" none (nullable text)

/-- Checks a request for a batch of actions. -/
def checkBatch (origin : Origin) : Json → Checked (List Action) :=
  record origin fun ms ↦ required ms "actions" (nonemptyList (check origin))

end Action

/-! ## Payloads -/

/-- What is wrong with a payload. -/
inductive PayloadError where
  | missing (verb : Verb) (key : String)
  | wrongType (verb : Verb) (key : String) (found : Json)
  | noCoordinates (verb : Verb) (keys : List String)
  | noNumber (verb : Verb) (key : String)
  | noObject (verb : Verb) (key : String)
deriving BEq, Repr

namespace PayloadError

def message : PayloadError → String
  | missing verb key => s!"'{verb.name}' payload is missing '{key}'"
  | wrongType verb key _ => s!"'{verb.name}' payload '{key}' has the wrong type"
  | noCoordinates verb keys =>
    let keys := ", ".intercalate keys
    s!"'{verb.name}' expects an object of {keys}"
  | noNumber verb key => s!"'{verb.name}' coordinate '{key}' must be a number"
  | noObject verb key => s!"'{verb.name}' payload '{key}' must be an object"

def details : PayloadError → Members
  | missing _ key | noNumber _ key | noObject _ key => [("key", .str key)]
  | wrongType _ key found => [("key", .str key), ("type", .str found.kindName)]
  | noCoordinates .. => []

end PayloadError

namespace Action

/-- A value that the payload must have. -/
def get (a : Action) (key : String) : Except PayloadError Json :=
  match Members.get? a.payload key with
  | some v => .ok v
  | none => .error (.missing a.verb key)

/-- A text that the payload must have. -/
def text (a : Action) (key : String) : Except PayloadError String := do
  match ← a.get key with
  | .str s => return s
  | v => throw (.wrongType a.verb key v)

/-- An object that the payload must have. -/
def object (a : Action) (key : String) : Except PayloadError Members := do
  match ← a.get key with
  | .obj ms => return ms
  | v => throw (.wrongType a.verb key v)

/-- Whether a value is a number. -/
def isNumber : Json → Bool
  | .int _ | .float _ => true
  | _ => false

/-- An object in which every coordinate that is given is a number. -/
def coordinates (a : Action) (keys : List String) : Json → Except PayloadError Members
  | .obj ms =>
    match keys.find? fun k ↦ !isNumber ((Members.get? ms k).getD (.int 0)) with
    | some k => .error (.noNumber a.verb k)
    | none => .ok ms
  | _ => .error (.noCoordinates a.verb keys)

/-- A position on the canvas. -/
def position (a : Action) (v : Json) : Except PayloadError Position := do
  return .ofJson (.obj (← a.coordinates ["x", "y"] v))

/-- A value that the payload may have under one of two names; the first one counts. -/
def either (a : Action) (first second : String) : Json :=
  ((Members.get? a.payload first).or (Members.get? a.payload second)).getD .null

/-- The edit that an action asks for. -/
def edit (a : Action) : Except PayloadError Edit := do
  match a.verb with
  | .addNode =>
    let tag ← a.text "kind"
    let position ← match (Members.get? a.payload "position").getD .null with
      | .null => .ok {}
      | v => a.position v
    match (Members.get? a.payload "data").getD .null with
    | .null => return .addNode tag position []
    | .obj data => return .addNode tag position data
    | _ => throw (.noObject a.verb "data")
  | .updateNode => return .updateNode (← a.text "node_id") (← a.object "data")
  | .moveNode => return .moveNode (← a.text "node_id") (← a.position (← a.get "position"))
  | .removeNode => return .removeNode (← a.text "node_id")
  | .connect =>
    return .connect (← a.text "source") (← a.text "target")
      ((Members.get? a.payload "label").getD .null) (a.either "source_handle" "sourceHandle")
      (a.either "target_handle" "targetHandle")
  | .disconnect => return .disconnect (← a.text "edge_id")
  | .setViewport =>
    let v := (Members.get? a.payload "viewport").getD (.obj a.payload)
    return .setViewport (← a.coordinates ["x", "y", "zoom"] v)

end Action

end CallFlow
