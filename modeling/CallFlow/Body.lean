import CallFlow.Graph
import CallFlow.Json.Reader
import CallFlow.Schema.Scalar

/-!
# Body documents

The document from which a graph is loaded. Members that are not declared stay with their node,
edge or view, except in a position, which has its two coordinates only. A document that passes the
check still fails to load if one id occurs twice in it.
-/

namespace CallFlow

/-- A checked body document. -/
structure Body where
  nodes : List Node
  edges : List Edge
  viewport : Option Members

namespace Body

open Schema

/-! ## The check -/

def checkPosition (ms : Members) : Checked Position :=
  Position.mk <$> optional ms "x" (.int 0) number <*> optional ms "y" (.int 0) number

/-- The declared members of a node. -/
def nodeFields : List String := ["id", "type", "position", "data"]

def checkNode (origin : Origin) (ms : Members) : Checked Node :=
  (fun id type position data ↦ ⟨id, type, position, data, Members.without ms nodeFields⟩) <$>
    required ms "id" nonemptyText <*> required ms "type" nonemptyText <*>
    optional ms "position" {} (record origin checkPosition) <*> optional ms "data" [] object

/-- The name under which an edge has its handle at the source. -/
def sourceHandleName (ms : Members) : String := nameOf ms "sourceHandle" "source_handle"

/-- The name under which an edge has its handle at the target. -/
def targetHandleName (ms : Members) : String := nameOf ms "targetHandle" "target_handle"

/-- The declared members of an edge, under the names that it has them. -/
def edgeFields (ms : Members) : List String :=
  ["id", "source", "target", sourceHandleName ms, targetHandleName ms, "label"]

def checkEdge (ms : Members) : Checked Edge :=
  (fun id source target sourceHandle targetHandle label ↦
    ⟨id, source, target, sourceHandle, targetHandle, label,
      Members.without ms (edgeFields ms)⟩) <$>
    required ms "id" nonemptyText <*> required ms "source" text <*>
    required ms "target" text <*>
    optional ms (sourceHandleName ms) none (nullable text) <*>
    optional ms (targetHandleName ms) none (nullable text) <*>
    optional ms "label" none (nullable text)

/-- The declared members of a view. -/
def viewportFields : List String := ["x", "y", "zoom"]

def checkViewport (ms : Members) : Checked Members :=
  (fun x y zoom ↦
    [("x", x), ("y", y), ("zoom", zoom)] ++ Members.without ms viewportFields) <$>
    optional ms "x" (.int 0) number <*> optional ms "y" (.int 0) number <*>
    optional ms "zoom" (.int 1) number

/-- Checks a body document. -/
def check (origin : Origin) : Json → Checked Body :=
  record origin fun ms ↦
    mk <$> optional ms "nodes" [] (list (record origin (checkNode origin))) <*>
      optional ms "edges" [] (list (record origin checkEdge)) <*>
      optional ms "viewport" none (nullable (record origin checkViewport))

end Body

/-! ## Loading -/

/-- Why a stored document cannot be loaded. -/
inductive DocumentError where
  | malformedBody (faults : List Schema.Fault)
  | malformedScript (faults : List Schema.Fault)
  | duplicateId (id : String)
deriving DecidableEq, Repr

namespace DocumentError

def message : DocumentError → String
  | malformedBody _ => "Malformed policy body"
  | malformedScript _ => "Malformed legacy policy"
  | duplicateId id => s!"Duplicate id in policy body: {id}"

def details : DocumentError → Members
  | malformedBody faults | malformedScript faults =>
    [("errors", .arr (faults.map Schema.Fault.toJson))]
  | duplicateId id => [("id", .str id)]

end DocumentError

namespace Graph

/-- Fails if the id is issued. -/
def requireUnissued (g : Graph) (id : String) : Except DocumentError Unit :=
  if g.isIssued id then .error (.duplicateId id) else .ok ()

/-- Adds a node of a document. -/
def loadNode (g : Graph) (n : Node) : Except DocumentError Graph := do
  g.requireUnissued n.id
  return g.insertNode n

/-- Adds an edge of a document. -/
def loadEdge (g : Graph) (e : Edge) : Except DocumentError Graph := do
  g.requireUnissued e.id
  return g.insertEdge e

/-- The graph of a checked body document. -/
def ofBody (body : Body) : Except DocumentError Graph := do
  let g : Graph := { viewport := body.viewport.getD defaultViewport }
  let g ← body.nodes.foldlM loadNode g
  body.edges.foldlM loadEdge g

/-- The graph of a body document. -/
def ofBodyJson (v : Json) : Except DocumentError Graph :=
  match Body.check .document v with
  | .sound body => ofBody body
  | .faulty faults => .error (.malformedBody faults)

/-- The graph of the text of a body document. -/
def ofBodyText (text : String) : Except DocumentError Graph :=
  match Json.readDocument? text with
  | some v => ofBodyJson v
  | none => .error (.malformedBody [⟨.jsonText, []⟩])

end Graph

end CallFlow
