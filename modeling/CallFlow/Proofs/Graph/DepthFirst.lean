import CallFlow.Proofs.Graph.Walk

/-!
# Depth-first search by recursion

A walk keeps the ids that it still has to go to on a stack, where one id may lie several times. The
search that it carries out is the recursive one: to go to an id is to go to all ids that edges lead
to from it, one after the other, before anything else (`ids_preorder`).
-/

namespace CallFlow.Graph

variable {g : Graph} {seen ids : List String} {id : String}

/-! ## The search -/

/-- How many nodes a search has not seen yet. -/
def unseen (g : Graph) (seen : List String) : Nat :=
  (g.nodes.rows.filter fun n ↦ decide (n.id ∉ seen)).length

theorem unseen_lt {seen' : List String} (more : seen ⊆ seen') (there : g.hasNode id = true)
    (new : id ∉ seen) (old : id ∈ seen') : g.unseen seen' < g.unseen seen := by
  obtain ⟨n, hn, rfl⟩ := hasNode_iff.1 there
  refine length_filter_lt (fun m hm ↦ ?_) hn (by simpa using new) (by simpa using old)
  simp only [decide_eq_true_eq] at hm ⊢
  exact fun h ↦ hm (more h)

theorem of_not_pass (h : ¬(id ∈ seen ∨ g.hasNode id = false)) :
    id ∉ seen ∧ g.hasNode id = true := by simpa using h

/-- All ids that are seen once a search has gone to the given ids in order, in the order in which
they were seen. An id that was seen before or has no node is passed over. From any other the search
first goes to all ids that edges lead to. -/
def searchFrom (g : Graph) (seen : List String) :
    (ids : List String) → { all : List String // seen <+: all }
  | [] => ⟨seen, List.prefix_rfl⟩
  | id :: ids =>
    if _pass : id ∈ seen ∨ g.hasNode id = false then g.searchFrom seen ids
    else
      let below := g.searchFrom (seen ++ [id]) (g.successors id)
      let all := g.searchFrom below.1 ids
      ⟨all.1, ((List.prefix_append seen [id]).trans below.2).trans all.2⟩
termination_by ids => (g.unseen seen, ids.length)
decreasing_by
  · exact Prod.Lex.right _ (Nat.lt_succ_self _)
  · obtain ⟨new, there⟩ := of_not_pass _pass
    exact Prod.Lex.left _ _ (unseen_lt (List.subset_append_left _ _) there new (by simp))
  · -- what was seen below stays seen, so the id itself does not come up again
    obtain ⟨new, there⟩ := of_not_pass _pass
    have more := (List.prefix_append seen [id]).trans below.2
    exact Prod.Lex.left _ _ (unseen_lt more.subset there new (below.2.subset (by simp)))

def search (g : Graph) (seen ids : List String) : List String := (g.searchFrom seen ids).1

/-- The ids of the nodes in the order in which a depth-first search from one of them sees them. -/
def depthFirst (g : Graph) (start : String) : List String := g.search [] [start]

/-! ## One id after the other -/

theorem subset_search (g : Graph) (seen ids : List String) : seen ⊆ g.search seen ids :=
  (g.searchFrom seen ids).2.subset

theorem search_nil (g : Graph) (seen : List String) : g.search seen [] = seen := by
  rw [search, searchFrom]

theorem search_pass (pass : id ∈ seen ∨ g.hasNode id = false) (ids : List String) :
    g.search seen (id :: ids) = g.search seen ids := by
  rw [search, searchFrom, dif_pos pass]
  rfl

theorem search_new (there : g.hasNode id = true) (new : id ∉ seen) (ids : List String) :
    g.search seen (id :: ids) = g.search (g.search (seen ++ [id]) (g.successors id)) ids := by
  rw [search, searchFrom, dif_neg (by simp [there, new])]
  rfl

theorem search_append (g : Graph) (seen ids ids' : List String) :
    g.search seen (ids ++ ids') = g.search (g.search seen ids) ids' := by
  induction ids generalizing seen with
  | nil => rw [List.nil_append, search_nil]
  | cons id ids ih =>
    rw [List.cons_append]
    by_cases pass : id ∈ seen ∨ g.hasNode id = false
    · rw [search_pass pass, search_pass pass, ih]
    · obtain ⟨new, there⟩ := of_not_pass pass
      rw [search_new there new, search_new there new, ih]

/-- Ids that were seen can be left out, since they stay seen. -/
theorem search_filter {old : List String} (h : old ⊆ seen) (ids : List String) :
    g.search seen (ids.filter fun id ↦ decide (id ∉ old)) = g.search seen ids := by
  induction ids generalizing seen with
  | nil => rfl
  | cons id ids ih =>
    by_cases passed : id ∈ old
    · rw [List.filter_cons_of_neg (by simpa using passed), search_pass (.inl (h passed)), ih h]
    · rw [List.filter_cons_of_pos (by simpa using passed)]
      by_cases pass : id ∈ seen ∨ g.hasNode id = false
      · rw [search_pass pass, search_pass pass, ih h]
      · obtain ⟨new, there⟩ := of_not_pass pass
        rw [search_new there new, search_new there new]
        exact ih fun a ha ↦ g.subset_search _ _ (List.mem_append_left _ (h ha))

/-! ## The walk -/

theorem among_eq (id : String) (nodes : List Node) :
    among id nodes = decide (id ∈ nodes.map Node.id) := by
  rw [Bool.eq_iff_iff, among_iff, decide_eq_true_eq, List.mem_map]

theorem filter_among (nodes : List Node) (ids : List String) :
    ids.filter (!among · nodes) = ids.filter fun a ↦ decide (a ∉ nodes.map Node.id) :=
  List.filter_congr fun a _ ↦ by rw [among_eq, decide_not]

/-- What is on the stack of a walk are the ids to which searches under way still have to go. -/
theorem ids_walk (g : Graph) (met : List Node) (stack : List String) :
    (g.walk met stack).reverse.map Node.id = g.search (met.reverse.map Node.id) stack := by
  fun_induction walk g met stack with
  | case1 met => rw [search_nil]
  | case2 met id stack missing ih =>
    have nowhere : g.hasNode id = false := congrArg Option.isSome missing
    rw [ih, search_pass (.inr nowhere)]
  | case3 met id stack n found seen ih =>
    rw [ih, search_pass (.inl (by simpa [among_eq] using seen))]
  | case4 met id stack n found new ih =>
    have there := hasNode_of_node? found
    have new : id ∉ met.reverse.map Node.id := by simpa [among_eq] using new
    have old : (n :: met).map Node.id ⊆ met.reverse.map Node.id ++ [id] := by
      rw [List.map_cons, node?_id found]
      exact List.cons_subset.2 ⟨by simp, fun a ha ↦ by simpa using Or.inl ha⟩
    rw [ih, search_new there new, search_append, filter_among, List.reverse_cons, List.map_append,
      List.map_singleton, node?_id found, search_filter old]

/-- A walk meets the nodes in the order of the depth-first search. -/
theorem ids_preorder (g : Graph) (start : String) :
    (g.preorder start).map Node.id = g.depthFirst start := g.ids_walk [] [start]

end CallFlow.Graph
