import CallFlow.IdSource
import CallFlow.Json
import CallFlow.Table

/-!
# Call flow graphs

A routing policy as it is drawn: nodes and edges in the order in which they were added, each under
its own id, and the part of the canvas in view. The graph also remembers every id that was ever
issued in it, so that an id is not used twice even after its node or edge is gone.

Nothing here keeps a graph meaningful. Edges may end nowhere, kinds may be unknown, and there may
be any number of entries; that is judged by `CallFlow.Validation` and kept by `CallFlow.Canvas`.
-/

namespace CallFlow

/-! ## Nodes and edges -/

/-- A place on the canvas. Coordinates are numbers, but nothing depends on it. -/
structure Position where
  x : Json := .int 0
  y : Json := .int 0
deriving Inhabited, BEq, Repr

namespace Position

/-- The place that an object names; an absent coordinate is zero. -/
def ofJson (v : Json) : Position :=
  ⟨(v.member? "x").getD (.int 0), (v.member? "y").getD (.int 0)⟩

def toJson (p : Position) : Json := .obj [("x", p.x), ("y", p.y)]

end Position

/-- A step of a call flow. -/
structure Node where
  id : String
  /-- The tag of the kind, not necessarily a known one. -/
  type : String
  position : Position := {}
  data : Members := []
  /-- What a document says of the node beside the declared members. -/
  extras : Members := []
deriving Inhabited, BEq, Repr

def Node.toJson (n : Node) : Json :=
  .obj (Members.update n.extras [("id", .str n.id), ("type", .str n.type),
    ("position", n.position.toJson), ("data", .obj n.data)])

/-- A way from one step to the next. -/
structure Edge where
  id : String
  source : String
  target : String
  sourceHandle : Option String := none
  targetHandle : Option String := none
  /-- The name of the branch, for nodes that branch. -/
  label : Option String := none
  /-- What a document says of the edge beside the declared members. -/
  extras : Members := []
deriving Inhabited, BEq, Repr

namespace Edge

/-- A member for a text that is there. -/
def member (name : String) : Option String → Members
  | some s => [(name, .str s)]
  | none => []

def toJson (e : Edge) : Json :=
  .obj (Members.update e.extras
    ([("id", .str e.id), ("source", .str e.source), ("target", .str e.target)] ++
      member "sourceHandle" e.sourceHandle ++ member "targetHandle" e.targetHandle ++
      member "label" e.label))

end Edge

/-! ## Graphs -/

/-- The view of a canvas that nobody has moved. -/
def defaultViewport : Members := [("x", .int 0), ("y", .int 0), ("zoom", .int 1)]

/-- A call flow graph. -/
structure Graph where
  nodes : Table Node Node.id := .empty
  edges : Table Edge Edge.id := .empty
  viewport : Members := defaultViewport
  /-- What had to be guessed when the graph was rebuilt from a script. -/
  warnings : List String := []
  /-- Every id that was ever given to a node or an edge, the last one first. -/
  issued : List String := []

namespace Graph

def node? (g : Graph) (id : String) : Option Node := g.nodes.get? id

def edge? (g : Graph) (id : String) : Option Edge := g.edges.get? id

def hasNode (g : Graph) (id : String) : Bool := g.nodes.has id

def isIssued (g : Graph) (id : String) : Bool := g.issued.contains id

/-- The edges that leave a node, in order. -/
def outgoing (g : Graph) (id : String) : List Edge := g.edges.rows.filter (·.source == id)

/-- The edges that touch a node, in order. -/
def incident (g : Graph) (id : String) : List Edge :=
  g.edges.rows.filter fun e ↦ e.source == id || e.target == id

/-! ## Changes without checks -/

/-- Remembers that an id was given away. -/
def issue (g : Graph) (id : String) : Graph :=
  if g.isIssued id then g else { g with issued := id :: g.issued }

/-- Issues an id: the next one of the source that was never issued in the graph. -/
def newId (g : Graph) (ids : IdStream) : String × Graph × IdStream :=
  let (id, ids) := ids.drawOutside g.issued
  (id, g.issue id, ids)

/-- Adds a node, or puts it in the place of the one with its id. -/
def insertNode (g : Graph) (n : Node) : Graph := { g.issue n.id with nodes := g.nodes.put n }

/-- Adds an edge, or puts it in the place of the one with its id. -/
def insertEdge (g : Graph) (e : Edge) : Graph := { g.issue e.id with edges := g.edges.put e }

def warn (g : Graph) (message : String) : Graph := { g with warnings := g.warnings ++ [message] }

/-- The nodes, edges and view of an earlier state; what was issued since stays issued. -/
def restore (g earlier : Graph) : Graph :=
  { g with nodes := earlier.nodes, edges := earlier.edges, viewport := earlier.viewport }

/-! ## The document -/

/-- The body document of a graph. -/
def toJson (g : Graph) : Json :=
  .obj [("nodes", .arr (g.nodes.rows.map Node.toJson)),
    ("edges", .arr (g.edges.rows.map Edge.toJson)), ("viewport", .obj g.viewport)]

end Graph

end CallFlow
