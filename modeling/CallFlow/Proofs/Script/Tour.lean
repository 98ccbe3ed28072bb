import CallFlow.Proofs.Compiled
import CallFlow.Proofs.Graph.DepthFirst

/-!
# Items made one at a time

The items of a script can be made while the graph is walked: a tour takes an id from its stack,
makes the item of the node, and puts the ids that come next on the stack. A tour ends on every graph
after at most one turn more than there are edges, with the items that are made after the walk, or
with the same fault (`itemsFrom_isDepthFirst`). The items come in the order of the depth-first
search.
-/

namespace CallFlow.Script

/-- How far a tour has come. -/
structure Tour where
  /-- The items made so far, in order. -/
  items : List Item
  /-- The ids of the nodes whose items were made. -/
  visited : List String
  /-- The ids to go to, the next one first. One may be there several times. -/
  stack : List String

namespace Tour

/-- A tour that has not begun. -/
def start (entry : String) : Tour := ⟨[], [], [entry]⟩

section Turn

variable (r : Registry) (g : Graph) (entry : String)

/-- One turn of a tour: what comes of going to the id that was on top of the stack. Only the start
can be missing, for an item with an edge that leads nowhere is a fault. -/
def turn (t : Tour) (id : String) (stack : List String) : Except ScriptError Tour :=
  if id ∈ t.visited then .ok { t with stack }
  else match g.node? id with
    | none => .ok { t with stack }
    | some n => (Item.ofNode r g entry n).map fun i ↦
      ⟨t.items ++ [i], id :: t.visited,
        (g.successors id).filter (fun a ↦ decide (a ∉ id :: t.visited)) ++ stack⟩

/-- What a tour ends with, if it ends within a number of turns. -/
def run : (turns : Nat) → Tour → Option (Except ScriptError (List Item))
  | 0, t => if t.stack.isEmpty then some (.ok t.items) else none
  | turns + 1, t => match t.stack with
    | [] => some (.ok t.items)
    | id :: stack => match t.turn r g entry id stack with
      | .ok t => run turns t
      | .error e => some (.error e)

end Turn

variable {r : Registry} {g : Graph} {entry id : String} {t t' : Tour} {stack : List String}
  {n : Node}

/-! ## One turn -/

theorem turn_visited (h : id ∈ t.visited) : t.turn r g entry id stack = .ok { t with stack } :=
  if_pos h

theorem turn_missing (new : id ∉ t.visited) (h : g.node? id = none) :
    t.turn r g entry id stack = .ok { t with stack } := by
  rw [turn, if_neg new, h]

theorem turn_new (new : id ∉ t.visited) (h : g.node? id = some n) :
    t.turn r g entry id stack = (Item.ofNode r g entry n).map fun i ↦
      ⟨t.items ++ [i], id :: t.visited,
        (g.successors id).filter (fun a ↦ decide (a ∉ id :: t.visited)) ++ stack⟩ := by
  rw [turn, if_neg new, h]

/-! ## Turns left -/

/-- How many edges leave nodes that were not visited. -/
def unfollowed (g : Graph) (visited : List String) : Nat :=
  g.edges.rows.countP fun e ↦ decide (e.source ∉ visited)

/-- The turns that may be left: one for each id on the stack, and one for each edge out of a node
that was not visited. -/
def pending (g : Graph) (t : Tour) : Nat := t.stack.length + unfollowed g t.visited

/-- A visit follows the edges that leave the node. -/
theorem unfollowed_eq_add {visited : List String} (new : id ∉ visited) :
    unfollowed g visited = (g.outgoing id).length + unfollowed g (id :: visited) := by
  rw [unfollowed, unfollowed, Graph.outgoing, ← List.countP_eq_length_filter]
  induction g.edges.rows with
  | nil => rfl
  | cons e rest ih =>
    rw [List.countP_cons, List.countP_cons, List.countP_cons, ih]
    by_cases own : e.source = id
    · simp [own, new]
      omega
    · simp [own]
      omega

/-- Each turn leaves fewer. -/
theorem pending_turn_lt (top : t.stack = id :: stack) (h : t.turn r g entry id stack = .ok t') :
    t'.pending g < t.pending g := by
  have shorter : pending g { t with stack } < t.pending g := by
    rw [pending, pending, top]
    exact Nat.add_lt_add_right (Nat.lt_succ_self _) _
  by_cases visited : id ∈ t.visited
  · rw [turn_visited visited] at h
    exact Except.ok.inj h ▸ shorter
  · cases found : g.node? id with
    | none =>
      rw [turn_missing visited found] at h
      exact Except.ok.inj h ▸ shorter
    | some n =>
      rw [turn_new visited found] at h
      cases made : Item.ofNode r g entry n with
      | error e =>
        rw [made] at h
        cases h
      | ok i =>
        rw [made] at h
        obtain rfl := (Except.ok.inj h).symm
        have followed := (g.successors id).length_filter_le fun a ↦ decide (a ∉ id :: t.visited)
        rw [Graph.successors, List.length_map] at followed
        simp only [pending, top, unfollowed_eq_add (g := g) visited, List.length_append,
          List.length_cons, Graph.successors]
        omega

/-! ## The walk of a tour -/

/-- A tour has made the items of the nodes that a walk has met. -/
structure Follows (r : Registry) (g : Graph) (entry : String) (t : Tour) (met : List Node) :
    Prop where
  visited : t.visited = met.map Node.id
  items : met.reverse.mapM (Item.ofNode r g entry) = .ok t.items

theorem follows_start (r : Registry) (g : Graph) (entry : String) :
    (start entry).Follows r g entry [] := ⟨rfl, rfl⟩

/-- Among the first nodes that a walk meets are those that it has met. -/
theorem exists_walk_eq (g : Graph) (met : List Node) (stack : List String) :
    ∃ others, (g.walk met stack).reverse = met.reverse ++ others := by
  fun_induction Graph.walk g met stack with
  | case1 met => exact ⟨[], (List.append_nil _).symm⟩
  | case2 met id stack missing ih => exact ih
  | case3 met id stack n found seen ih => exact ih
  | case4 met id stack n found new ih =>
    obtain ⟨others, h⟩ := ih
    exact ⟨n :: others, by rw [h, List.reverse_cons, List.append_assoc, List.singleton_append]⟩

/-- A turn that makes an item follows the walk to the node, and a fault stops the tour where it
stops the items of the walk. -/
theorem Follows.turn_new {met : List Node} (h : t.Follows r g entry met) (new : id ∉ t.visited)
    (found : g.node? id = some n) (stack : List String) :
    (∃ t', t.turn r g entry id stack = .ok t' ∧ t'.Follows r g entry (n :: met) ∧
      t'.stack = (g.successors id).filter (!Graph.among · (n :: met)) ++ stack) ∨
    ∃ e, t.turn r g entry id stack = .error e ∧
      ∀ others, (met.reverse ++ n :: others).mapM (Item.ofNode r g entry) = .error e := by
  rw [Tour.turn_new new found]
  cases made : Item.ofNode r g entry n with
  | error e =>
    refine .inr ⟨e, rfl, fun others ↦ ?_⟩
    rw [List.mapM_append, h.items, List.mapM_cons, made]
    rfl
  | ok i =>
    refine .inl ⟨_, rfl, ⟨?_, ?_⟩, ?_⟩
    · rw [h.visited, List.map_cons, Graph.node?_id found]
    · rw [List.reverse_cons, List.mapM_append, h.items, List.mapM_cons, made]
      rfl
    · rw [Graph.filter_among, List.map_cons, Graph.node?_id found, h.visited]

/-- A tour ends as soon as no turns are left, and has then made the items of the walk that it
follows, up to the first fault. -/
theorem Follows.run_eq {met : List Node} (h : t.Follows r g entry met) {turns : Nat}
    (enough : t.pending g ≤ turns) :
    t.run r g entry turns = some ((g.walk met t.stack).reverse.mapM (Item.ofNode r g entry)) := by
  induction turns generalizing t met with
  | zero =>
    have done : t.stack = [] := List.length_eq_zero_iff.1 (by rw [pending] at enough; omega)
    rw [run, done, Graph.walk, h.items]
    rfl
  | succ turns ih =>
    rw [run]
    split
    · rename_i done
      rw [done, Graph.walk, h.items]
    · rename_i id stack top
      have less {t' : Tour} (made : t.turn r g entry id stack = .ok t') : t'.pending g ≤ turns :=
        Nat.le_of_lt_succ (Nat.lt_of_lt_of_le (pending_turn_lt top made) enough)
      have same (made : t.turn r g entry id stack = .ok { t with stack }) :
          run r g entry turns { t with stack } =
            some ((g.walk met stack).reverse.mapM (Item.ofNode r g entry)) :=
        ih (t := { t with stack }) ⟨h.visited, h.items⟩ (less made)
      rw [top]
      by_cases visited : id ∈ t.visited
      · have seen : Graph.among id met = true := by
          rw [Graph.among_eq, ← h.visited, decide_eq_true visited]
        have made : t.turn r g entry id stack = .ok { t with stack } := turn_visited visited
        rw [Graph.walk_seen seen, made]
        exact same made
      · cases found : g.node? id with
        | none =>
          have made : t.turn r g entry id stack = .ok { t with stack } := turn_missing visited found
          rw [Graph.walk_missing found, made]
          exact same made
        | some n =>
          have new : Graph.among id met = false := by
            rw [Graph.among_eq, ← h.visited, decide_eq_false visited]
          rw [Graph.walk_new found new]
          have turned := h.turn_new visited found stack
          rcases turned with ⟨t', made, h', top'⟩ | ⟨e, made, fault⟩
          · rw [made, ← top']
            exact ih h' (less made)
          · obtain ⟨others, front⟩ := exists_walk_eq g (n :: met)
              ((g.successors id).filter (!Graph.among · (n :: met)) ++ stack)
            rw [made, front, List.reverse_cons, List.append_assoc, List.singleton_append,
              fault others]

end Tour

/-! ## The order of the items -/

/-- The items of a script are those that a tour makes, which ends on every graph after at most one
turn more than there are edges. They stand in the order of the depth-first search. -/
theorem itemsFrom_isDepthFirst (r : Registry) (g : Graph) (entry : String) :
    (∃ turns ≤ g.edges.rows.length + 1,
      (Tour.start entry).run r g entry turns = some (itemsFrom r g entry)) ∧
    ∀ items, itemsFrom r g entry = .ok items → items.map Item.id = g.depthFirst entry := by
  constructor
  · have enough : (Tour.start entry).pending g ≤ g.edges.rows.length + 1 := by
      have unfollowed : Tour.unfollowed g [] ≤ g.edges.rows.length := List.countP_le_length
      change 1 + Tour.unfollowed g [] ≤ _
      omega
    exact ⟨_, Nat.le_refl _, (Tour.follows_start r g entry).run_eq enough⟩
  · intro items made
    obtain ⟨-, rfl⟩ := (Result.mapM_eq_ok_iff fun _ _ ↦ Item.ofNode_eq_ok_iff).1 made
    rw [List.map_map]
    exact g.ids_preorder entry

/-- A flow with ways back, a way to the same menu, and two ways to one menu. The walk puts `c` on
its stack twice, and goes to it from `b`. -/
theorem crossing_flow_isDepthFirst :
    let start : Node := { id := "start", type := "init", data := [("name", .str "Start")] }
    let menu (id : String) : Node := { id, type := "voice-menu" }
    let way (id source target : String) : Edge := { id, source, target }
    let g : Graph :=
      { nodes := (((Table.empty.put (menu "c")).put (menu "b")).put (menu "a")).put start
        edges := ((((((Table.empty.put (way "1" "start" "a")).put (way "2" "a" "b")).put
          (way "3" "a" "c")).put (way "4" "b" "b")).put (way "5" "b" "c")).put
            (way "6" "c" "a")).put (way "7" "a" "b") }
    ∃ items, itemsFrom Catalog.registry g "start" = .ok items ∧
      items.map Item.id = g.depthFirst "start" ∧
      g.depthFirst "start" = ["start", "a", "b", "c"] := by
  intro start menu way g
  have valid : g.IsValid Catalog.registry := (g.areHarmless_validate _).1 (by decide +kernel)
  obtain ⟨script, h⟩ : ∃ script, ofGraph Catalog.registry g "Main" .call = .ok script :=
    Compiled.exists_script_of_isValid Catalog.drawnFrom_registry valid
  obtain ⟨entry, entries, sound, rfl⟩ := ofGraph_eq_ok_iff.1 h
  obtain rfl : start = entry := (List.cons.inj entries).1
  have made : itemsFrom Catalog.registry g "start" = .ok _ :=
    (Result.mapM_eq_ok_iff fun _ _ ↦ Item.ofNode_eq_ok_iff).2 ⟨sound, rfl⟩
  refine ⟨_, made, (itemsFrom_isDepthFirst Catalog.registry g "start").2 _ made, ?_⟩
  have fromStart : g.successors "start" = ["a"] := by decide
  have fromA : g.successors "a" = ["b", "c", "b"] := by decide
  have fromB : g.successors "b" = ["b", "c"] := by decide
  have fromC : g.successors "c" = ["a"] := by decide
  simp (disch := decide) only [Graph.depthFirst, Graph.search_new, Graph.search_pass,
    Graph.search_nil, fromStart, fromA, fromB, fromC, List.nil_append, List.cons_append]

end CallFlow.Script
