import CallFlow.Graph.Walk
import Mathlib.Data.List.Nodup
import Mathlib.Logic.Relation

/-!
# What a walk meets

A depth-first walk meets exactly the nodes to which a path of edges leads from its start, through
nodes that exist, and each of them once.

The walk is determined by what it can see: two graphs that agree, node by node, on a set of ids
which edges do not leave are walked alike (`walk_map`).

The closure comes to the same nodes in another order, and to ids of no node besides
(`mem_closure_iff`).
-/

namespace CallFlow

namespace Graph

variable {g : Graph}

/-! ## Looking up nodes -/

theorem node?_id {id : String} {n : Node} (h : g.node? id = some n) : n.id = id :=
  Table.key_of_get? h

theorem mem_of_node? {id : String} {n : Node} (h : g.node? id = some n) : n ∈ g.nodes.rows :=
  Table.mem_of_get? h

theorem hasNode_of_node? {id : String} {n : Node} (h : g.node? id = some n) :
    g.hasNode id = true := by
  simp only [hasNode, Table.has]
  exact Option.isSome_iff_exists.2 ⟨n, h⟩

theorem exists_node?_of_hasNode {id : String} (h : g.hasNode id = true) :
    ∃ n, g.node? id = some n := Option.isSome_iff_exists.1 h

theorem hasNode_iff {id : String} : g.hasNode id = true ↔ ∃ n ∈ g.nodes.rows, n.id = id := by
  simp [hasNode, Table.has_iff, Table.keys]

theorem node?_eq_some_iff {id : String} {n : Node} :
    g.node? id = some n ↔ n ∈ g.nodes.rows ∧ n.id = id := Table.get?_eq_some_iff

/-- A node of a graph is the one that is found under its id. -/
theorem node?_of_mem {n : Node} (h : n ∈ g.nodes.rows) : g.node? n.id = some n :=
  node?_eq_some_iff.2 ⟨h, rfl⟩

theorem mem_successors {a b : String} :
    b ∈ g.successors a ↔ ∃ e ∈ g.edges.rows, e.source = a ∧ e.target = b := by
  simp [successors, outgoing, and_assoc]

/-! ## Paths -/

/-- An edge leads from one existing node to another. -/
def Leads (g : Graph) (a b : String) : Prop :=
  (∃ e ∈ g.edges.rows, e.source = a ∧ e.target = b) ∧ g.hasNode a = true ∧ g.hasNode b = true

/-- A path of edges leads through existing nodes from one of them to another. -/
def Reaches (g : Graph) (a b : String) : Prop :=
  g.hasNode a = true ∧ Relation.ReflTransGen g.Leads a b

theorem Reaches.hasNode {a b : String} (h : g.Reaches a b) : g.hasNode b = true := by
  rcases h.2.cases_tail with rfl | ⟨c, _, hc⟩
  · exact h.1
  · exact hc.2.2

theorem Reaches.refl {a : String} (h : g.hasNode a = true) : g.Reaches a a := ⟨h, .refl⟩

theorem Reaches.tail {a b c : String} (h : g.Reaches a b) (hc : g.Leads b c) : g.Reaches a c :=
  ⟨h.1, h.2.tail hc⟩

theorem Leads.congr {g' : Graph} (nodes : ∀ id, g'.hasNode id = g.hasNode id)
    (edges : g'.edges.rows = g.edges.rows) : g'.Leads = g.Leads := by
  funext a b
  rw [Leads, Leads, edges, nodes, nodes]

/-- Graphs with the same edges between nodes of the same ids have the same paths. -/
theorem Reaches.congr {g' : Graph} (nodes : ∀ id, g'.hasNode id = g.hasNode id)
    (edges : g'.edges.rows = g.edges.rows) (a b : String) : g.Reaches a b ↔ g'.Reaches a b := by
  rw [Reaches, Reaches, nodes, Leads.congr nodes edges]

/-! ## Nodes met -/

theorem among_iff {id : String} {nodes : List Node} :
    among id nodes = true ↔ ∃ n ∈ nodes, n.id = id := by
  simp [among]

/-- What was met stays met. -/
theorem subset_walk (g : Graph) (met : List Node) (stack : List String) :
    met ⊆ g.walk met stack := by
  fun_induction walk g met stack with
  | case1 met => exact fun _ h ↦ h
  | case2 met id stack hid ih => exact ih
  | case3 met id stack n hn seen ih => exact ih
  | case4 met id stack n hn new ih => exact fun m hm ↦ ih (List.mem_cons_of_mem n hm)

/-- A walk meets only nodes that were met before or are reached from its stack. -/
theorem reaches_of_mem_walk {met : List Node} {stack : List String} {n : Node}
    (h : n ∈ g.walk met stack) :
    n ∈ met ∨ n ∈ g.nodes.rows ∧ ∃ a ∈ stack, g.Reaches a n.id := by
  fun_induction walk g met stack with
  | case1 met => exact .inl h
  | case2 met id stack hid ih =>
    exact (ih h).imp_right fun ⟨hn, a, ha, r⟩ ↦ ⟨hn, a, List.mem_cons_of_mem id ha, r⟩
  | case3 met id stack m hm seen ih =>
    exact (ih h).imp_right fun ⟨hn, a, ha, r⟩ ↦ ⟨hn, a, List.mem_cons_of_mem id ha, r⟩
  | case4 met id stack m hm new ih =>
    have here : g.Reaches id id := .refl (hasNode_of_node? hm)
    rcases ih h with hn | ⟨hn, a, ha, r⟩
    · rcases List.mem_cons.1 hn with rfl | hn
      · exact .inr ⟨mem_of_node? hm, id, List.mem_cons_self, node?_id hm ▸ here⟩
      · exact .inl hn
    · refine .inr ⟨hn, ?_⟩
      rcases List.mem_append.1 ha with ha | ha
      · obtain ⟨e, he, hs, rfl⟩ := mem_successors.1 (List.mem_filter.1 ha).1
        exact ⟨id, List.mem_cons_self, here.1, r.2.head ⟨⟨e, he, hs, rfl⟩, here.1, r.1⟩⟩
      · exact ⟨a, List.mem_cons_of_mem id ha, r⟩

/-- Everything on the stack that exists is met. -/
theorem among_walk_of_mem_stack {met : List Node} {stack : List String} {a : String}
    (ha : a ∈ stack) (h : g.hasNode a = true) : among a (g.walk met stack) = true := by
  fun_induction walk g met stack with
  | case1 met => simp at ha
  | case2 met id stack hid ih =>
    rcases List.mem_cons.1 ha with rfl | ha
    · obtain ⟨n, hn⟩ := exists_node?_of_hasNode h
      simp [hid] at hn
    · exact ih ha
  | case3 met id stack n hn seen ih =>
    rcases List.mem_cons.1 ha with rfl | ha
    · obtain ⟨m, hm, rfl⟩ := among_iff.1 seen
      exact among_iff.2 ⟨m, subset_walk g met stack hm, rfl⟩
    · exact ih ha
  | case4 met id stack n hn new ih =>
    rcases List.mem_cons.1 ha with rfl | ha
    · exact among_iff.2 ⟨n, subset_walk g _ _ List.mem_cons_self, node?_id hn⟩
    · exact ih (List.mem_append_right _ ha)

/-- Edges from the nodes of a list lead to nodes of the list, or to the stack. -/
def ClosedUpTo (g : Graph) (nodes : List Node) (stack : List String) : Prop :=
  ∀ n ∈ nodes, ∀ t ∈ g.successors n.id, g.hasNode t = true → among t nodes = true ∨ t ∈ stack

/-- The edges of everything that is met were followed. -/
theorem closedUpTo_walk {met : List Node} {stack : List String} (h : g.ClosedUpTo met stack) :
    g.ClosedUpTo (g.walk met stack) [] := by
  fun_induction walk g met stack with
  | case1 met => exact h
  | case2 met id stack hid ih =>
    refine ih fun n hn t ht ex ↦ (h n hn t ht ex).imp_right fun ht ↦ ?_
    rcases List.mem_cons.1 ht with rfl | ht
    · obtain ⟨m, hm⟩ := exists_node?_of_hasNode ex
      simp [hid] at hm
    · exact ht
  | case3 met id stack m hm seen ih =>
    refine ih fun n hn t ht ex ↦ ?_
    rcases h n hn t ht ex with ht | ht
    · exact .inl ht
    · rcases List.mem_cons.1 ht with rfl | ht
      · exact .inl seen
      · exact .inr ht
  | case4 met id stack m hm new ih =>
    refine ih fun n hn t ht ex ↦ ?_
    by_cases seen : among t (m :: met) = true
    · exact .inl seen
    refine .inr (List.mem_append.2 ?_)
    rcases List.mem_cons.1 hn with rfl | hn
    · exact .inl (List.mem_filter.2 ⟨node?_id hm ▸ ht, by simpa using seen⟩)
    · rcases h n hn t ht ex with met' | ht
      · obtain ⟨k, hk, rfl⟩ := among_iff.1 met'
        exact absurd (among_iff.2 ⟨k, List.mem_cons_of_mem m hk, rfl⟩) seen
      · rcases List.mem_cons.1 ht with rfl | ht
        · exact absurd (among_iff.2 ⟨m, List.mem_cons_self, node?_id hm⟩) seen
        · exact .inr ht

/-- No id is met twice. -/
theorem nodup_walk {met : List Node} {stack : List String} (h : (met.map Node.id).Nodup) :
    ((g.walk met stack).map Node.id).Nodup := by
  fun_induction walk g met stack with
  | case1 met => exact h
  | case2 met id stack hid ih => exact ih h
  | case3 met id stack n hn seen ih => exact ih h
  | case4 met id stack n hn new ih =>
    refine ih (List.nodup_cons.2 ⟨fun hm ↦ new ?_, h⟩)
    obtain ⟨m, hm, e⟩ := List.mem_map.1 hm
    exact among_iff.2 ⟨m, hm, e.trans (node?_id hn)⟩

/-! ## Preorder -/

/-- The nodes of a preorder are those that are reached from its start. -/
theorem mem_preorder {start : String} {n : Node} :
    n ∈ g.preorder start ↔ n ∈ g.nodes.rows ∧ g.Reaches start n.id := by
  rw [preorder, List.mem_reverse]
  constructor
  · intro h
    obtain h | ⟨hn, a, ha, r⟩ := reaches_of_mem_walk h
    · simp at h
    · exact ⟨hn, List.mem_singleton.1 ha ▸ r⟩
  · rintro ⟨hn, r⟩
    -- every id on the path is met, for the walk leaves no edge of what it met unfollowed
    have closed : g.ClosedUpTo (g.walk [] [start]) [] := closedUpTo_walk fun n hn ↦ by simp at hn
    have met : ∀ b, Relation.ReflTransGen g.Leads start b → among b (g.walk [] [start]) = true := by
      intro b path
      induction path with
      | refl => exact among_walk_of_mem_stack List.mem_cons_self r.1
      | tail _ hc ih =>
        obtain ⟨m, hm, rfl⟩ := among_iff.1 ih
        exact (closed m hm _ (mem_successors.2 hc.1) hc.2.2).resolve_right (by simp)
    obtain ⟨m, hm, e⟩ := among_iff.1 (met n.id r.2)
    obtain h | ⟨hm', -⟩ := reaches_of_mem_walk hm
    · simp at h
    · rwa [← Table.eq_of_key_eq hm' hn e]

/-- The ids in a preorder are those that are reached from its start. -/
theorem mem_ids_preorder {start id : String} :
    id ∈ (g.preorder start).map Node.id ↔ g.Reaches start id := by
  constructor
  · intro h
    obtain ⟨n, hn, rfl⟩ := List.mem_map.1 h
    exact (mem_preorder.1 hn).2
  · intro path
    obtain ⟨n, hn, rfl⟩ := hasNode_iff.1 path.hasNode
    exact List.mem_map_of_mem (mem_preorder.2 ⟨hn, path⟩)

theorem nodup_preorder (g : Graph) (start : String) : ((g.preorder start).map Node.id).Nodup := by
  rw [preorder, List.map_reverse, List.nodup_reverse]
  exact nodup_walk (by simp)

/-! ## One step -/

theorem walk_missing {id : String} (h : g.node? id = none) (met : List Node)
    (stack : List String) : g.walk met (id :: stack) = g.walk met stack := by
  rw [walk]
  split
  · rfl
  · simp_all

theorem walk_seen {id : String} {met : List Node} (seen : among id met = true)
    (stack : List String) : g.walk met (id :: stack) = g.walk met stack := by
  rw [walk]
  split
  · rfl
  · rw [dif_pos seen]

theorem walk_new {id : String} {n : Node} (h : g.node? id = some n) {met : List Node}
    (new : among id met = false) (stack : List String) :
    g.walk met (id :: stack) =
      g.walk (n :: met) ((g.successors id).filter (!among · (n :: met)) ++ stack) := by
  rw [walk]
  split
  · simp_all
  · rename_i m hm
    obtain rfl : n = m := Option.some.inj (h.symm.trans hm)
    rw [dif_neg (by simp [new])]

/-- Where no edge leads on, the walk stays at its start. -/
theorem preorder_eq_singleton {n : Node} (hn : g.node? n.id = some n)
    (last : g.successors n.id = []) : g.preorder n.id = [n] := by
  rw [preorder, walk_new hn rfl, last, List.filter_nil, List.nil_append, walk]
  rfl

/-- Where one edge leads on and then none, the walk comes to two nodes. -/
theorem preorder_eq_pair {n m : Node} (hn : g.node? n.id = some n) (hm : g.node? m.id = some m)
    (other : n.id ≠ m.id) (first : g.successors n.id = [m.id]) (last : g.successors m.id = []) :
    g.preorder n.id = [n, m] := by
  have new : among m.id [n] = false := by simpa [among] using other
  rw [preorder, walk_new hn rfl, first, List.append_nil, List.filter_cons, new, Bool.not_false,
    if_pos rfl, List.filter_nil, walk_new hm new, last, List.filter_nil, List.nil_append, walk]
  rfl

/-- The start comes first. -/
theorem preorder_eq_cons {start : String} {n : Node} (h : g.node? start = some n) :
    ∃ rest, g.preorder start = n :: rest := by
  have last : ∀ met stack, met ≠ [] → (g.walk met stack).getLast? = met.getLast? := by
    intro met stack
    fun_induction walk g met stack with
    | case1 met => exact fun _ ↦ rfl
    | case2 met id stack hid ih => exact ih
    | case3 met id stack n hn seen ih => exact ih
    | case4 met id stack n hn new ih =>
      intro some
      rw [ih (by simp), List.getLast?_cons_of_ne_nil some]
  obtain ⟨front, hf⟩ := List.getLast?_eq_some_iff.1 ((last [n] _ (by simp)).trans rfl)
  rw [preorder, walk_new h rfl, hf, List.reverse_append]
  exact ⟨front.reverse, rfl⟩

/-! ## Graphs walked alike -/

/-- Two graphs are walked alike from ids on which they agree: the node of each id is that of the
first graph changed by `f`, and the same ids come next, on which they agree again. -/
theorem walk_map {g' : Graph} {f : Node → Node} (keeps : ∀ n, (f n).id = n.id)
    {agree : String → Prop} (nodes : ∀ id, agree id → g'.node? id = (g.node? id).map f)
    (edges : ∀ id, agree id → g'.successors id = g.successors id)
    (closed : ∀ id, agree id → ∀ t ∈ g.successors id, agree t)
    {met : List Node} {stack : List String} (start : ∀ id ∈ stack, agree id) :
    g'.walk (met.map f) stack = (g.walk met stack).map f := by
  have same : ∀ id met, among id (met.map f) = among id met := fun id met ↦ by
    simp [among, Function.comp_def, keeps]
  fun_induction walk g met stack with
  | case1 met => rw [walk]
  | case2 met id stack hid ih =>
    rw [walk_missing (by simp [nodes id (start id List.mem_cons_self), hid])]
    exact ih fun a ha ↦ start a (List.mem_cons_of_mem id ha)
  | case3 met id stack n hn seen ih =>
    rw [walk_seen ((same id met).trans seen)]
    exact ih fun a ha ↦ start a (List.mem_cons_of_mem id ha)
  | case4 met id stack n hn new ih =>
    have here := start id List.mem_cons_self
    rw [walk_new (n := f n) (by simp [nodes id here, hn])
        ((same id met).trans (by simpa using new)),
      edges id here, ← List.map_cons]
    simp only [same]
    refine ih fun a ha ↦ ?_
    rcases List.mem_append.1 ha with ha | ha
    · exact closed id here a (List.mem_filter.1 ha).1
    · exact start a (List.mem_cons_of_mem id ha)

theorem preorder_map {g' : Graph} {f : Node → Node} (keeps : ∀ n, (f n).id = n.id)
    {agree : String → Prop} (nodes : ∀ id, agree id → g'.node? id = (g.node? id).map f)
    (edges : ∀ id, agree id → g'.successors id = g.successors id)
    (closed : ∀ id, agree id → ∀ t ∈ g.successors id, agree t)
    {start : String} (h : agree start) : g'.preorder start = (g.preorder start).map f := by
  have same : g'.walk (List.map f []) [start] = (g.walk [] [start]).map f :=
    walk_map keeps nodes edges closed (List.forall_mem_singleton.2 h)
  rw [preorder, preorder, List.map_reverse, ← same, List.map_nil]

/-- The node of another graph that has the same id, if there is one. -/
def counterpart (g' : Graph) (n : Node) : Node := (g'.node? n.id).getD n

theorem counterpart_eq {g' : Graph} {n m : Node} (h : g'.node? n.id = some m) :
    g'.counterpart n = m := by
  rw [counterpart, h, Option.getD_some]

theorem counterpart_id (g' : Graph) (n : Node) : (g'.counterpart n).id = n.id := by
  cases h : g'.node? n.id with
  | none => rw [counterpart, h, Option.getD_none]
  | some m => rw [counterpart_eq h, node?_id h]

/-- If edges lead on alike from all that is met in one graph, and nowhere else, the other is walked
through the nodes of the same ids. -/
theorem preorder_counterpart {g' : Graph} {start : String} (there : g.hasNode start = true)
    (known : ∀ n ∈ g.preorder start, g'.hasNode n.id = true)
    (edges : ∀ n ∈ g.preorder start, g'.successors n.id = g.successors n.id)
    (closed : ∀ n ∈ g.preorder start, ∀ t ∈ g.successors n.id, ∃ m ∈ g.preorder start, m.id = t) :
    g'.preorder start = (g.preorder start).map g'.counterpart := by
  have nodes : ∀ id, (∃ n ∈ g.preorder start, n.id = id) →
      g'.node? id = (g.node? id).map g'.counterpart := by
    rintro _ ⟨n, hn, rfl⟩
    obtain ⟨m, hm⟩ := exists_node?_of_hasNode (known n hn)
    rw [node?_of_mem (mem_preorder.1 hn).1, Option.map_some, counterpart_eq hm, hm]
  refine preorder_map g'.counterpart_id nodes ?_ ?_ ?_
  · rintro _ ⟨n, hn, rfl⟩
    exact edges n hn
  · rintro _ ⟨n, hn, rfl⟩
    exact closed n hn
  · exact List.mem_map.1 (mem_ids_preorder.2 (.refl there))

/-! ## Closure -/

theorem subset_closure (g : Graph) (seen : List String) : seen ⊆ g.closure seen := by
  fun_induction closure g seen with
  | case1 seen none => exact List.Subset.refl seen
  | case2 seen e found ih => exact fun id h ↦ ih (List.mem_cons_of_mem e.target h)

/-- No edge from an existing node leads out of the closure. -/
theorem target_mem_closure {seen : List String} {e : Edge} (he : e ∈ g.edges.rows)
    (source : e.source ∈ g.closure seen) (there : g.hasNode e.source = true) :
    e.target ∈ g.closure seen := by
  fun_induction closure g seen with
  | case1 seen none =>
    by_contra outside
    refine List.find?_eq_none.1 none e he ?_
    simp [leadsOut, source, there, outside]
  | case2 seen d found ih => exact ih source

/-- The nodes of the closure are reached from what was seen. -/
theorem reaches_of_mem_closure {seen : List String} {id : String} (h : id ∈ g.closure seen)
    (there : g.hasNode id = true) : ∃ a ∈ seen, g.Reaches a id := by
  fun_induction closure g seen with
  | case1 seen none => exact ⟨id, h, .refl there⟩
  | case2 seen e found ih =>
    obtain ⟨a, ha, path⟩ := ih h
    rcases List.mem_cons.1 ha with rfl | ha
    · have leads := List.find?_some found
      simp only [leadsOut, Bool.and_eq_true, List.contains_iff_mem] at leads
      obtain ⟨⟨source, known⟩, -⟩ := leads
      have edge : g.Leads e.source e.target :=
        ⟨⟨e, List.mem_of_find?_eq_some found, rfl, rfl⟩, known, path.1⟩
      exact ⟨e.source, source, known, path.2.head edge⟩
    · exact ⟨a, ha, path⟩

/-- A node is in the closure of another one exactly if it is reached from it. -/
theorem mem_closure_iff {start id : String} (there : g.hasNode id = true) :
    id ∈ g.closure [start] ↔ g.Reaches start id := by
  constructor
  · intro h
    obtain ⟨a, ha, path⟩ := reaches_of_mem_closure h there
    exact List.mem_singleton.1 ha ▸ path
  · rintro ⟨-, path⟩
    induction path with
    | refl => exact subset_closure g [start] List.mem_cons_self
    | tail _ leads ih =>
      obtain ⟨⟨e, he, rfl, rfl⟩, known, -⟩ := leads
      exact target_mem_closure he (ih known) known

/-- What is reached are the nodes in the closure. -/
theorem reaches_iff_mem_closure {start id : String} :
    g.Reaches start id ↔ g.hasNode id = true ∧ id ∈ g.closure [start] :=
  ⟨fun path ↦ ⟨path.hasNode, (mem_closure_iff path.hasNode).2 path⟩,
    fun ⟨there, mem⟩ ↦ (mem_closure_iff there).1 mem⟩

end Graph

end CallFlow
