import CallFlow.Settings
import CallFlow.Validation

/-!
# The canvas

A graph as somebody edits it, with the source of ids for what they add. Every edit either is made
or fails before anything is changed. Edits keep a graph in order: it has one entry, edges end at
nodes, no edge leads back to its own node, and no node has more edges than its kind allows.
-/

namespace CallFlow

/-! ## Failures -/

/-- Why an edit is refused. -/
inductive EditError where
  | unknownKind (tag : String)
  | entryExists (existing : String)
  | tooManyNodes (limit : Int)
  | noSuchNode (id : String)
  | noSuchEdge (id : String)
  | onlyEntry (id : String)
  | selfLoop (id : String)
  | notText (name : String) (found : Json)
  | noOutgoing (node type : String)
deriving BEq, Repr

namespace EditError

/-- The stable word for an error. -/
def code : EditError → String
  | unknownKind _ => "UNKNOWN_NODE_KIND"
  | entryExists _ => "ENTRY_NODE_EXISTS"
  | tooManyNodes _ => "GRAPH_LIMIT_EXCEEDED"
  | noSuchNode _ => "NODE_NOT_FOUND"
  | noSuchEdge _ => "EDGE_NOT_FOUND"
  | onlyEntry _ => "CANNOT_REMOVE_ENTRY_NODE"
  | selfLoop _ => "SELF_LOOP"
  | notText .. => "INVALID_EDGE_ATTRIBUTE"
  | noOutgoing .. => "OUTGOING_EDGE_LIMIT"

def message : EditError → String
  | unknownKind tag => s!"Unknown node kind: {tag}"
  | entryExists existing => s!"Graph already has an entry node: {existing}"
  | tooManyNodes limit => s!"Graph cannot have more than {limit} nodes"
  | noSuchNode id => s!"Node not found: {id}"
  | noSuchEdge id => s!"Edge not found: {id}"
  | onlyEntry id => s!"Cannot remove the only entry node: {id}"
  | selfLoop id => s!"Cannot connect node {id} to itself"
  | notText name found => s!"Edge {name} must be a string, got {found.kindName}"
  | noOutgoing node type => s!"Node {node} of kind {type} cannot have outgoing edges"

def details : EditError → Members
  | unknownKind tag => [("kind", .str tag)]
  | entryExists existing => [("existing_id", .str existing)]
  | tooManyNodes limit => [("limit", .int limit)]
  | noSuchEdge id => [("edge_id", .str id)]
  | noSuchNode id | onlyEntry id | selfLoop id => [("node_id", .str id)]
  | notText name _ => [("attribute", .str name)]
  | noOutgoing node type => [("node_id", .str node), ("kind", .str type)]

end EditError

/-! ## Edits that issue no id -/

namespace Graph

/-- The node of an id, which must exist. -/
def getNode (g : Graph) (id : String) : Except EditError Node :=
  match g.node? id with
  | some n => .ok n
  | none => .error (.noSuchNode id)

/-- Puts members into the data of a node and keeps all others. -/
def updateNode (g : Graph) (id : String) (changes : Members) : Except EditError Graph := do
  let n ← g.getNode id
  return g.insertNode { n with data := Members.update n.data changes }

def moveNode (g : Graph) (id : String) (position : Position) : Except EditError Graph := do
  let n ← g.getNode id
  return g.insertNode { n with position }

/-- Removes a node and every edge that touches it. The only entry stays. -/
def removeNode (r : Registry) (g : Graph) (id : String) : Except EditError Graph := do
  let n ← g.getNode id
  if r.isEntry n.type && (g.entries r).length == 1 then
    throw (.onlyEntry id)
  return { g with
    nodes := g.nodes.erase id
    edges := g.edges.filter fun e ↦ e.source != id && e.target != id }

/-- Removes an edge. -/
def disconnect (g : Graph) (id : String) : Except EditError Graph :=
  match g.edge? id with
  | some _ => .ok { g with edges := g.edges.erase id }
  | none => .error (.noSuchEdge id)

def setViewport (g : Graph) (viewport : Members) : Graph := { g with viewport }

/-- Removes the edges that leave a node. -/
def dropOutgoing (g : Graph) (id : String) : Graph :=
  { g with edges := g.edges.filter (·.source != id) }

end Graph

/-! ## Edits that issue ids -/

/-- A graph and the source of its ids. -/
structure Canvas where
  graph : Graph
  ids : IdStream

/-- An attribute of an edge, a text or null. -/
def textAttribute (name : String) : Json → Except EditError (Option String)
  | .null => .ok none
  | .str s => .ok (some s)
  | v => .error (.notText name v)

namespace Canvas

/-- Issues an id. -/
def newId (c : Canvas) : String × Canvas :=
  let (id, graph, ids) := c.graph.newId c.ids
  (id, ⟨graph, ids⟩)

def insertNode (c : Canvas) (n : Node) : Canvas := { c with graph := c.graph.insertNode n }

def insertEdge (c : Canvas) (e : Edge) : Canvas := { c with graph := c.graph.insertEdge e }

/-- Adds a node of a known kind with the data of a fresh one. -/
def addNode (r : Registry) (s : Settings) (c : Canvas) (tag : String) (position : Position) :
    Except EditError (Node × Canvas) := do
  let some k := r.get? tag | throw (.unknownKind tag)
  if k.isEntry then
    if let entry :: _ := c.graph.entries r then
      throw (.entryExists entry.id)
  if s.maxNodes ≤ c.graph.nodes.size then
    throw (.tooManyNodes s.maxNodes)
  let (id, c) := c.newId
  let n : Node := { id, type := k.tag, position, data := k.initialData }
  return (n, c.insertNode n)

/-- Connects two nodes. From a node with one way on, the new edge replaces the old ones. -/
def connect (r : Registry) (c : Canvas) (source target : String)
    (label sourceHandle targetHandle : Json) : Except EditError (Edge × Canvas) := do
  let n ← c.graph.getNode source
  let _ ← c.graph.getNode target
  if source == target then
    throw (.selfLoop source)
  let label ← textAttribute "label" label
  let sourceHandle ← textAttribute "source_handle" sourceHandle
  let targetHandle ← textAttribute "target_handle" targetHandle
  let limit := r.maxOutgoing n.type
  if limit == some 0 then
    throw (.noOutgoing source n.type)
  let graph := if limit == some 1 then c.graph.dropOutgoing source else c.graph
  let (id, c) := { c with graph }.newId
  let e : Edge := { id, source, target, sourceHandle, targetHandle, label }
  return (e, c.insertEdge e)

/-- The canvas of a new policy: a graph that holds only its entry. -/
def fresh (r : Registry) (s : Settings) (ids : IdStream) : Except EditError Canvas := do
  let viewport := [("x", .int 0), ("y", .int 0), ("zoom", .float s.zoom)]
  let (_, c) ← addNode r s ⟨{ viewport }, ids⟩ Kind.initTag ⟨.float s.entryX, .float s.entryY⟩
  return c

end Canvas

end CallFlow
