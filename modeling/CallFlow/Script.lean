import CallFlow.Graph.Walk
import CallFlow.Policy
import CallFlow.Validation

/-!
# Scripts

The flat form of a call flow that the telephony runtime executes: one item for every node that is
reachable from the entry, in depth-first order, with the edges turned into the names of the items
that come next.

A script is made of any graph that has what the runtime needs; the first thing that is missing,
in the order of the walk, is the error.
-/

namespace CallFlow

/-- Why there is no script of a graph. -/
inductive ScriptError where
  | entryCount (entries : List String)
  | missingTarget (edge target : String)
  | unsetField (node field : String)
  | wrongType (node field : String) (declared : DataType)
  | unlabelledBranch (node edge : String)
  | tooManyEdges (node : String) (count limit : Nat)
deriving DecidableEq, Repr

namespace ScriptError

def message : ScriptError → String
  | entryCount entries => s!"Graph must have exactly one entry node, found {entries.length}"
  | missingTarget edge target => s!"Edge {edge} points at missing node {target}"
  | unsetField node field => s!"Node {node} is missing required field '{field}'"
  | wrongType node field declared => s!"Node {node} field '{field}' must be {declared.name}"
  | unlabelledBranch node edge => s!"Branch edge {edge} out of node {node} has no label"
  | tooManyEdges node count limit =>
    s!"Node {node} has {count} outgoing edges, at most {limit} allowed"

def details : ScriptError → Members
  | entryCount entries => [("entry_nodes", Json.ofStrings entries)]
  | missingTarget edge target => [("edge_id", .str edge), ("target", .str target)]
  | unsetField node field | wrongType node field _ =>
    [("node_id", .str node), ("field", .str field)]
  | unlabelledBranch node edge => [("node_id", .str node), ("edge_id", .str edge)]
  | tooManyEdges node .. => [("node_id", .str node)]

end ScriptError

namespace Script

/-! ## Items -/

/-- A named way on. -/
structure Branch where
  label : Option String
  target : String
  handle : Option String
deriving DecidableEq, Repr

def Branch.ofEdge (e : Edge) : Branch := ⟨e.label, e.target, e.sourceHandle⟩

def Branch.toJson (b : Branch) : Json :=
  .obj ([("label", Json.ofOption b.label), ("target", .str b.target)] ++
    Edge.member "handle" b.handle)

/-- How the runtime goes on after an item: to the next one, by the name of a branch, or, where it
does not know the kind, in no way of its own. -/
inductive Exit where
  | next (template : Option Int) (target : Option String)
  | branches (template : Option Int) (branches : List Branch)
  | inert (branches : List Branch)
deriving DecidableEq, Repr

def Exit.members : Exit → Members
  | .next template target =>
    [("templateId", template.elim .null .int), ("next", Json.ofOption target)]
  | .branches template bs =>
    [("templateId", template.elim .null .int), ("branches", .arr (bs.map Branch.toJson))]
  | .inert bs => [("inert", .bool true), ("branches", .arr (bs.map Branch.toJson))]

/-- One step of a script. -/
structure Item where
  id : String
  name : String
  type : String
  enabled : Bool
  /-- The data of the node but for its name and whether it is enabled. -/
  values : Members
  /-- The script starts here. -/
  isEntry : Bool
  exit : Exit

def Item.toJson (i : Item) : Json :=
  .obj ([("id", .str i.id), ("name", .str i.name), ("type", .str i.type),
      ("enabled", .bool i.enabled), ("variables", .obj i.values)] ++
    (if i.isEntry then [("entry", .bool true)] else []) ++ i.exit.members)

end Script

/-- A script document. -/
structure Script where
  name : String
  type : PolicyType
  items : List Script.Item

def Script.toJson (s : Script) : Json :=
  .obj [("name", .str s.name), ("enabled", .bool true), ("type", .str s.type.scriptName),
    ("items", .arr (s.items.map Script.Item.toJson))]

namespace Script

/-! ## Making an item -/

/-- The members of the data that do not go into the values of an item. -/
def reservedNames : List String := ["name", "enabled"]

/-- Fails with the error of the first item that has one. -/
def checkAll {α : Type} (fault : α → Option ScriptError) (items : List α) :
    Except ScriptError Unit :=
  match items.findSome? fault with
  | some e => .error e
  | none => .ok ()

def targetFault (g : Graph) (e : Edge) : Option ScriptError :=
  if g.hasNode e.target then none else some (.missingTarget e.id e.target)

def requiredFault (n : Node) (field : String) : Option ScriptError :=
  if isUnset (Members.get? n.data field) then some (.unsetField n.id field) else none

def passThroughFault (n : Node) (field : String × DataType) : Option ScriptError :=
  if field.2.admits ((Members.get? n.data field.1).getD .null) then none
  else some (.wrongType n.id field.1 field.2)

def labelFault (n : Node) (e : Edge) : Option ScriptError :=
  if isUnset (e.label.map .str) then some (.unlabelledBranch n.id e.id) else none

/-- The way on from a node with the given outgoing edges. -/
def Exit.ofNode (r : Registry) (n : Node) (edges : List Edge) : Except ScriptError Exit :=
  match r.get? n.type with
  | none => .ok (.inert (edges.map Branch.ofEdge))
  | some k =>
    match k.maxOutgoing with
    | none => do
      checkAll (labelFault n) edges
      return .branches k.templateId (edges.map Branch.ofEdge)
    | some limit =>
      if limit < edges.length then .error (.tooManyEdges n.id edges.length limit)
      else .ok (.next k.templateId (edges.head?.map (·.target)))

/-- The item of a node of a graph that starts at `entry`. -/
def Item.ofNode (r : Registry) (g : Graph) (entry : String) (n : Node) :
    Except ScriptError Item := do
  let edges := g.outgoing n.id
  checkAll (targetFault g) edges
  checkAll (requiredFault n) (r.requiredFields n.type)
  checkAll (passThroughFault n) passThroughFields
  return {
    id := n.id
    name := match Members.get? n.data "name" with
      | some (.str s) => s
      | _ => n.type
    type := n.type
    enabled := match Members.get? n.data "enabled" with
      | some (.bool b) => b
      | _ => true
    values := Members.without n.data reservedNames
    isEntry := n.id == entry
    exit := ← Exit.ofNode r n edges }

/-! ## Making a script -/

/-- The only entry of a graph. -/
def soleEntry (r : Registry) (g : Graph) : Except ScriptError Node :=
  match g.entries r with
  | [n] => .ok n
  | ns => .error (.entryCount (ns.map (·.id)))

/-- The items of all nodes reachable from an entry. -/
def itemsFrom (r : Registry) (g : Graph) (entry : String) : Except ScriptError (List Item) :=
  (g.preorder entry).mapM (Item.ofNode r g entry)

/-- The script of a graph. -/
def ofGraph (r : Registry) (g : Graph) (name : String) (type : PolicyType) :
    Except ScriptError Script := do
  let entry ← soleEntry r g
  return ⟨name, type, ← itemsFrom r g entry.id⟩

end Script

end CallFlow
