import CallFlow.Canvas
import CallFlow.Script.Stored

/-!
# Graphs rebuilt from scripts

The graph of a policy that has a script but no body. There is one node for every item, in a row
across the canvas, and one edge for every way on. Whatever the script leaves open is decided in
some way, and every such decision is written down as a warning.
-/

namespace CallFlow

namespace StoredItem

/-- The next item by its name, in the newer form or the older one. -/
def nextTarget (i : StoredItem) : Option String := i.next <|> i.connectedTo

/-- The tag of the kind of an item, and the warning if it is not plain. -/
def tag (r : Registry) (s : Settings) (index : Nat) (i : StoredItem) : String × Option String :=
  match i.type.getD "" with
  | "" =>
    match i.templateId.bind r.ofTemplate? with
    | some k => (k.tag, none)
    | none =>
      let template := i.templateId.elim "None" toString
      (s.opaqueTag, some (s!"Item {index} has no recognizable type (templateId={template}); " ++
        s!"kept as '{s.opaqueTag}'"))
  | type =>
    (type, if r.isKnown type then none
      else some s!"Item {index} has unknown type '{type}'; kept as-is")

/-- The data of the node of an item: its values, a name, and whether it is enabled. -/
def data (r : Registry) (tag : String) (i : StoredItem) : Members :=
  let named := match i.name <|> (r.get? tag).map (·.title) with
    | some name => Members.set i.values "name" (.str name)
    | none => i.values
  Members.set named "enabled" (.bool i.enabled)

end StoredItem

/-- The places of a rebuilt graph, from left to right. -/
def Settings.place (s : Settings) (column : Nat) : Position :=
  ⟨.float (s.entryX + .ofInt column * s.spacing), .float s.entryY⟩

namespace Canvas

def warn (c : Canvas) (message : String) : Canvas := { c with graph := c.graph.warn message }

/-! ## Nodes -/

/-- The id of the node of an item: the one of the item, or a new one if that is empty or taken. -/
def itemId (c : Canvas) (index : Nat) (i : StoredItem) : String × Canvas :=
  match i.id.getD "" with
  | "" =>
    let (id, c) := c.newId
    (id, c.warn s!"Item {index} has no id; assigned {id}")
  | own =>
    if c.graph.isIssued own then
      let (id, c) := c.newId
      (id, c.warn (s!"Item {index} reuses id {own}; assigned {id}, " ++
        s!"targets named {own} resolve to the first item"))
    else (own, c)

/-- Adds the node of an item. -/
def addItem (r : Registry) (s : Settings) (c : Canvas) (index : Nat) (i : StoredItem) :
    Node × Canvas :=
  let (id, c) := c.itemId index i
  let (tag, warning) := i.tag r s index
  let c := warning.elim c c.warn
  let n : Node := { id, type := tag, position := s.place (index + 1), data := i.data r tag }
  (n, c.insertNode n)

/-- Adds the nodes of the items from a position on. -/
def addItems (r : Registry) (s : Settings) : Nat → List StoredItem → Canvas → List Node × Canvas
  | _, [], c => ([], c)
  | index, i :: rest, c =>
    let (n, c) := c.addItem r s index i
    let (ns, c) := addItems r s (index + 1) rest c
    (n :: ns, c)

/-! ## The entry -/

/-- Adds a start node and, if there is a node to start at, an edge to it. The id of the node is
drawn even if the registry has no start kind. -/
def addStart (r : Registry) (s : Settings) (c : Canvas) (target : Option String) :
    Except EditError Unit × Canvas :=
  let (id, c) := c.newId
  match r.get? Kind.initTag with
  | none => (.error (.unknownKind Kind.initTag), c)
  | some k =>
    let c := c.insertNode
      { id, type := Kind.initTag, position := s.place 0, data := k.initialData }
    match target with
    | none => (.ok (), c)
    | some target =>
      let (edge, c) := c.newId
      (.ok (), c.insertEdge { id := edge, source := id, target })

/-- The positions of the items that are marked as the entry. -/
def markedItems (items : List StoredItem) : List Nat :=
  (items.zipIdx.filter (·.1.isEntry)).map (·.2)

/-- The node at which the flow starts: that of the first marked item, else the first of an entry
kind, else the first. -/
def startNode? (r : Registry) (items : List StoredItem) (nodes : List Node) : Option Node :=
  match markedItems items with
  | i :: _ => nodes[i]?
  | [] => nodes.find? (r.isEntry ·.type) <|> nodes.head?

/-- Makes the flow start somewhere. -/
def ensureEntry (r : Registry) (s : Settings) (items : List StoredItem) (nodes : List Node)
    (c : Canvas) : Except EditError Unit × Canvas :=
  match startNode? r items nodes with
  | none => (c.warn "Legacy policy has no items; created an empty flow").addStart r s none
  | some n =>
    let marked := markedItems items
    let c := match marked with
      | first :: _ :: _ =>
        c.warn s!"{marked.length} items are marked as entry; using item {first}"
      | _ => c
    if r.isEntry n.type then (.ok (), c)
    else
      let c := c.warn s!"Entry item {n.id} is not a start node; added a start node before it"
      c.addStart r s n.id

/-! ## Edges -/

/-- Adds a way on to the item of a name. -/
def addWay (c : Canvas) (source target : String) (label sourceHandle : Option String) : Canvas :=
  let c := if c.graph.hasNode target then c
    else c.warn s!"Item {source} points at missing item {target}"
  let (id, c) := c.newId
  c.insertEdge { id, source, target, label, sourceHandle }

/-- Adds the edge of a branch, unless it leads nowhere. -/
def addBranch (source : String) (c : Canvas) (b : StoredBranch) : Canvas :=
  match b.target.getD "" with
  | "" =>
    let label := b.label.getD "None"
    c.warn s!"Branch '{label}' of item {source} has no target; skipped"
  | target => c.addWay source target b.label b.handle

/-- Adds the edges of an item at its node. -/
def addWays (s : Settings) (c : Canvas) (i : StoredItem) (n : Node) : Canvas :=
  let c := match i.nextTarget with
    | some target =>
      if target == "" || target == s.finishWord then c else c.addWay n.id target none none
    | none => c
  i.branches.foldl (addBranch n.id) c

end Canvas

/-! ## The graph -/

/-- The graph of a stored script, and the source of ids after it. -/
def StoredScript.rebuild (r : Registry) (s : Settings) (script : StoredScript) (ids : IdStream) :
    Except EditError Graph × IdStream :=
  let viewport := [("x", .int 0), ("y", .int 0), ("zoom", .float s.zoom)]
  let (nodes, c) := Canvas.addItems r s 0 script.items ⟨{ viewport }, ids⟩
  match c.ensureEntry r s script.items nodes with
  | (.error e, c) => (.error e, c.ids)
  | (.ok (), c) =>
    let c := (script.items.zip nodes).foldl (fun c (i, n) ↦ c.addWays s i n) c
    (.ok c.graph, c.ids)

end CallFlow
