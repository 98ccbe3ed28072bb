import CallFlow.Graph.Walk
import CallFlow.Kind.Registry

/-!
# Validation

What is wrong with a graph, in a fixed order: faults of the entry, of required fields, of field
types, of reachability, of edge counts, of edges that end nowhere, of branch labels, of kinds.
A graph without fatal findings is *valid*: it can be saved and run.
-/

namespace CallFlow

/-- Fatal findings forbid saving and enabling; warnings do not. -/
inductive Severity where
  | fatal
  | warning
deriving DecidableEq, Repr

def Severity.name : Severity → String
  | .fatal => "fatal"
  | .warning => "warning"

/-- Something wrong with a graph. Nodes and edges are named by their ids. -/
inductive Finding where
  | noEntry
  | extraEntry (node first : String)
  | unsetField (node field : String)
  | wrongType (node field : String) (declared : DataType) (found : String)
  | unreachable (node : String)
  | tooManyEdges (node : String) (count limit : Nat)
  | missingNode (edge node : String)
  | unlabelledBranch (node edge : String)
  | unknownKind (node type : String)
deriving DecidableEq, Repr

namespace Finding

/-- The word for the kind of a finding. -/
def code : Finding → String
  | noEntry => "MissingEntryNode"
  | extraEntry .. => "MultipleEntryNodes"
  | unsetField .. => "MissingRequiredField"
  | wrongType .. => "InvalidFieldType"
  | unreachable _ => "UnreachableNode"
  | tooManyEdges .. => "TooManyOutgoingEdges"
  | missingNode .. => "NodeNotFound"
  | unlabelledBranch .. => "UnlabeledBranch"
  | unknownKind .. => "UnknownNodeKind"

def severity : Finding → Severity
  | unreachable _ | unknownKind .. => .warning
  | _ => .fatal

def isFatal (f : Finding) : Bool := f.severity == .fatal

def message : Finding → String
  | noEntry => "Graph has no entry node"
  | extraEntry _ first => s!"Extra entry node; graph already starts at {first}"
  | unsetField _ field => s!"Required field '{field}' is not set"
  | wrongType _ field declared found => s!"Field '{field}' must be {declared.name}, got {found}"
  | unreachable _ => "Node is not reachable from the entry node"
  | tooManyEdges _ count limit => s!"Node has {count} outgoing edges, at most {limit} allowed"
  | missingNode _ node => s!"Edge references missing node {node}"
  | unlabelledBranch .. => "Branch edge has no label"
  | unknownKind _ type => s!"Unknown node kind '{type}' is passed through as-is"

/-- The node that a finding is about. -/
def node? : Finding → Option String
  | noEntry => none
  | extraEntry node _ | unsetField node _ | wrongType node .. | unreachable node
  | tooManyEdges node .. | missingNode _ node | unlabelledBranch node _ | unknownKind node _ =>
    some node

/-- The edge that a finding is about. -/
def edge? : Finding → Option String
  | missingNode edge _ | unlabelledBranch _ edge => some edge
  | _ => none

/-- The field that a finding is about. -/
def field? : Finding → Option String
  | unsetField _ field | wrongType _ field .. => some field
  | _ => none

def toJson (f : Finding) : Json :=
  .obj [("kind", .str f.code), ("severity", .str f.severity.name), ("message", .str f.message),
    ("node_id", Json.ofOption f.node?), ("edge_id", Json.ofOption f.edge?),
    ("field", Json.ofOption f.field?)]

end Finding

/-! ## The checks -/

/-- The fields that every node hands on to the runtime, whatever its kind. -/
def passThroughFields : List (String × DataType) := [("name", .string), ("enabled", .boolean)]

namespace Registry

/-- The fields that the data of a node of the tag is declared to have, with their types. -/
def declaredFields (r : Registry) (tag : String) : List (String × DataType) :=
  match r.get? tag with
  | some k => k.declared
  | none => passThroughFields

/-- The fields that a node of the tag must have. -/
def requiredFields (r : Registry) (tag : String) : List String :=
  match r.get? tag with
  | some k => k.requiredFields
  | none => []

end Registry

namespace Graph

variable (r : Registry) (g : Graph)

/-- The nodes at which the flow may start. -/
def entries : List Node := g.nodes.rows.filter fun n ↦ r.isEntry n.type

def entryFindings : List Finding :=
  match g.entries r with
  | [] => [.noEntry]
  | first :: extra => extra.map fun n ↦ .extraEntry n.id first.id

def requiredFindings : List Finding :=
  g.nodes.rows.flatMap fun n ↦
    (r.requiredFields n.type).filter (fun f ↦ isUnset (Members.get? n.data f))
      |>.map fun f ↦ .unsetField n.id f

def typeFindings : List Finding :=
  g.nodes.rows.flatMap fun n ↦
    (r.declaredFields n.type).filterMap fun (f, type) ↦
      let v := (Members.get? n.data f).getD .null
      if type.admits v then none else some (.wrongType n.id f type v.kindName)

/-- Nodes count as unreachable from the first entry; without one there is nothing to say. -/
def reachabilityFindings : List Finding :=
  match g.entries r with
  | [] => []
  | entry :: _ =>
    let seen := g.closure [entry.id]
    g.nodes.rows.filter (!seen.contains ·.id) |>.map fun n ↦ .unreachable n.id

def countFindings : List Finding :=
  g.nodes.rows.filterMap fun n ↦
    match r.maxOutgoing n.type with
    | none => none
    | some limit =>
      let count := (g.outgoing n.id).length
      if limit < count then some (.tooManyEdges n.id count limit) else none

def endpointFindings : List Finding :=
  g.edges.rows.flatMap fun e ↦
    [e.source, e.target].filter (!g.hasNode ·) |>.map fun id ↦ .missingNode e.id id

def labelFindings : List Finding :=
  g.edges.rows.filterMap fun e ↦
    match g.node? e.source with
    | none => none
    | some n =>
      if r.isBranching n.type && isUnset (e.label.map .str) then
        some (.unlabelledBranch n.id e.id)
      else none

def kindFindings : List Finding :=
  g.nodes.rows.filter (!r.isKnown ·.type) |>.map fun n ↦ .unknownKind n.id n.type

/-- Everything wrong with a graph. -/
def validate : List Finding :=
  g.entryFindings r ++ g.requiredFindings r ++ g.typeFindings r ++ g.reachabilityFindings r ++
    g.countFindings r ++ g.endpointFindings ++ g.labelFindings r ++ g.kindFindings r

end Graph

/-! ## Reports -/

namespace Finding

/-- The findings that make a graph invalid. -/
def fatalOnes (fs : List Finding) : List Finding := fs.filter isFatal

/-- No finding is fatal. -/
def areHarmless (fs : List Finding) : Bool := (fatalOnes fs).isEmpty

/-- The report of a validation. -/
def report (fs : List Finding) : Members :=
  [("valid", .bool (areHarmless fs)), ("issues", .arr (fs.map toJson))]

end Finding

end CallFlow
