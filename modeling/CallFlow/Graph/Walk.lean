import CallFlow.Graph

/-!
# Walks over a graph

Two ways of following the edges of a graph from a node: `Graph.preorder` lists the nodes in the
order in which a depth-first walk comes to them, and `Graph.closure` collects the ids that edges
lead to. Both end on every graph, for each of their steps uses up a node or an edge.
-/

namespace CallFlow.Graph

/-- Fewer items pass a sharper test, if one item tells the tests apart. -/
theorem length_filter_lt {α : Type} {p q : α → Bool} {l : List α} (sharper : ∀ a, p a → q a)
    {a : α} (mem : a ∈ l) (passes : q a = true) (fails : p a = false) :
    (l.filter p).length < (l.filter q).length := by
  have le : ∀ l : List α, (l.filter p).length ≤ (l.filter q).length := fun l ↦ by
    rw [← List.countP_eq_length_filter, ← List.countP_eq_length_filter]
    exact List.countP_mono_left fun b _ ↦ sharper b
  induction l with
  | nil => simp at mem
  | cons b rest ih =>
    rcases List.mem_cons.1 mem with rfl | mem
    · simp only [List.filter_cons, passes, fails]
      exact Nat.lt_succ_of_le (le rest)
    · have := ih mem
      simp only [List.filter_cons]
      cases hp : p b
      · cases q b <;> simp <;> omega
      · simp [sharper b hp]; omega

/-! ## Depth first -/

/-- The ids that edges lead to from a node, in order. -/
def successors (g : Graph) (id : String) : List String := (g.outgoing id).map (·.target)

/-- Whether a list of nodes holds one with the id. -/
def among (id : String) (nodes : List Node) : Bool := nodes.any (·.id == id)

/-- The nodes met by a walk that has met some and still has to go to the ids on the stack, the
last one met first. -/
def walk (g : Graph) : (met : List Node) → (stack : List String) → List Node
  | met, [] => met
  | met, id :: stack =>
    match _found : g.node? id with
    | none => g.walk met stack
    | some n =>
      if _seen : among id met then g.walk met stack
      else g.walk (n :: met) ((g.successors id).filter (!among · (n :: met)) ++ stack)
termination_by met stack => ((g.nodes.rows.filter (!among ·.id met)).length, stack.length)
decreasing_by
  · exact Prod.Lex.right _ (Nat.lt_succ_self _)
  · exact Prod.Lex.right _ (Nat.lt_succ_self _)
  · refine Prod.Lex.left _ _ (length_filter_lt (a := n) ?_ (Table.mem_of_get? _found) ?_ ?_)
    · intro a
      simp only [among, List.any_cons, Bool.not_or, Bool.and_eq_true]
      exact And.right
    · rw [Table.key_of_get? _found]
      simpa using _seen
    · simp [among]

/-- The nodes in the order in which a depth-first walk from a node meets them. From each node the
edges are followed in order, and edges to nodes that do not exist are left out. -/
def preorder (g : Graph) (start : String) : List Node := (g.walk [] [start]).reverse

/-! ## Reachability -/

/-- Whether an edge leads from an existing node that was seen to an id that was not. -/
def leadsOut (g : Graph) (seen : List String) (e : Edge) : Bool :=
  seen.contains e.source && g.hasNode e.source && !seen.contains e.target

/-- The ids that were seen, and all to which edges lead from them through existing nodes. -/
def closure (g : Graph) (seen : List String) : List String :=
  match _found : g.edges.rows.find? (g.leadsOut seen) with
  | none => seen
  | some e => g.closure (e.target :: seen)
termination_by (g.edges.rows.filter (!seen.contains ·.target)).length
decreasing_by
  refine length_filter_lt (a := e) ?_ (List.mem_of_find?_eq_some _found) ?_ ?_
  · intro a
    simp only [List.contains_cons, Bool.not_or, Bool.and_eq_true]
    exact And.right
  · have := List.find?_some _found
    simp only [leadsOut, Bool.and_eq_true] at this
    exact this.2
  · simp

end CallFlow.Graph
