import CallFlow.Canvas

/-!
# Edits

The edits of a canvas as values, with what is answered to whoever makes one.
-/

namespace CallFlow

/-- An edit of a canvas. -/
inductive Edit where
  | addNode (tag : String) (position : Position) (data : Members)
  | updateNode (id : String) (changes : Members)
  | moveNode (id : String) (position : Position)
  | removeNode (id : String)
  | connect (source target : String) (label sourceHandle targetHandle : Json)
  | disconnect (id : String)
  | setViewport (viewport : Members)

/-- What comes of an edit. -/
inductive Outcome where
  | done
  | node (n : Node)
  | edge (e : Edge)

namespace Outcome

def toJson : Outcome → Json
  | done => .null
  | node n => n.toJson
  | edge e => e.toJson

/-- The outcome with the data that a new node has by now, if it still exists. -/
def refresh (g : Graph) : Outcome → Outcome
  | node n => node { n with data := (g.node? n.id).elim n.data (·.data) }
  | o => o

end Outcome

/-- Makes an edit. -/
def Edit.apply (r : Registry) (s : Settings) (c : Canvas) :
    Edit → Except EditError (Outcome × Canvas)
  | addNode tag position data => do
    let (n, c) ← c.addNode r s tag position
    let graph ← c.graph.updateNode n.id data
    return (.refresh graph (.node n), { c with graph })
  | updateNode id changes => do
    return (.done, { c with graph := ← c.graph.updateNode id changes })
  | moveNode id position => do
    return (.done, { c with graph := ← c.graph.moveNode id position })
  | removeNode id => do
    return (.done, { c with graph := ← c.graph.removeNode r id })
  | connect source target label sourceHandle targetHandle => do
    let (e, c) ← c.connect r source target label sourceHandle targetHandle
    return (.edge e, c)
  | disconnect id => do
    return (.done, { c with graph := ← c.graph.disconnect id })
  | setViewport viewport => .ok (.done, { c with graph := c.graph.setViewport viewport })

end CallFlow
