import CallFlow.Proofs.Graph.Sorted
import CallFlow.Proofs.Script.Rebuild
import Mathlib.Data.List.Forall2

/-!
# Mirrored graphs

The graph that is rebuilt from the script of another one has a copy of every node that is reached
from the entry, and of no other (`mirrors_of_isRebuilt`). What is known of the one graph is known of
the other: nothing is wrong with a copy, and if no item goes on to the finish word, the items of the
copies are those of the nodes.
-/

namespace CallFlow

open Json

namespace Script

variable {r : Registry} {s : Settings} {g g' : Graph} {entry n m : Node}

/-! ## Copies of nodes -/

/-- The node says of itself what the item says. -/
structure IsCopy (i : Item) (m : Node) : Prop where
  id : m.id = i.id
  type : m.type = i.type
  name : Members.get? m.data "name" = some (.str i.name)
  enabled : Members.get? m.data "enabled" = some (.bool i.enabled)
  values : Members.without m.data reservedNames = i.values.sorted

theorem kindTag_stored {i : Item} (type : i.type ≠ "") : i.stored.kindTag r s = i.type := by
  have same : i.stored.type.getD "" = i.type := rfl
  rw [StoredItem.kindTag, StoredItem.tag]
  split
  · rename_i empty
    exact absurd (same.symm.trans empty) type
  · exact same

/-- The node that is rebuilt of an item is a copy of it. -/
theorem isCopy_node {i : Item} (type : i.type ≠ "")
    (others : ∀ f ∈ i.values.names, f ∉ reservedNames) (index : Nat) :
    IsCopy i (i.stored.node r s index i.id) := by
  have data : (i.stored.node r s index i.id).data =
      Members.set (Members.set i.values.sorted "name" (.str i.name)) "enabled" (.bool i.enabled) :=
    rfl
  refine ⟨rfl, kindTag_stored type, ?_, ?_, ?_⟩
  · rw [data, Members.get?_set, if_neg (by decide), Members.get?_set, if_pos rfl]
  · rw [data, Members.get?_set, if_pos rfl]
  · rw [data, Members.without_set _ (by decide), Members.without_set _ (by decide)]
    exact Members.without_eq_self fun f hf ↦ others f (i.values.names_sorted_perm.mem_iff.1 hf)

/-- Items with ids of their own are rebuilt under these. -/
theorem forall₂_isCopy {source : IdSource} {taken : List String} {index : Nat} {items : List Item}
    {nodes : List Node} (distinct : (items.map Item.id).Nodup)
    (own : ∀ i ∈ items, i.id ≠ "" ∧ i.id ∉ taken)
    (each : ∀ i ∈ items, i.type ≠ "" ∧ ∀ f ∈ i.values.names, f ∉ reservedNames)
    (h : AreItemNodes r s source taken index (items.map Item.stored) nodes) :
    List.Forall₂ IsCopy items nodes := by
  induction items generalizing taken index nodes with
  | nil =>
    cases h
    exact .nil
  | cons i rest ih =>
    obtain ⟨first, distinct⟩ := List.nodup_cons.1 distinct
    obtain ⟨some, free⟩ := own i List.mem_cons_self
    obtain ⟨type, others⟩ := each i List.mem_cons_self
    cases h with
    | @cons _ _ _ _ id nodes named nodesOfRest =>
      obtain rfl : i.id = id := by
        cases named with
        | own own _ _ => exact own
        | drawn k without _ => exact (without.elim some free).elim
      refine .cons (isCopy_node type others index) (ih distinct (fun j hj ↦ ?_)
        (fun j hj ↦ each j (List.mem_cons_of_mem i hj)) nodesOfRest)
      obtain ⟨some', free'⟩ := own j (List.mem_cons_of_mem i hj)
      refine ⟨some', fun mem ↦ ?_⟩
      rcases List.mem_cons.1 mem with same | mem
      · exact first (List.mem_map.2 ⟨j, hj, same⟩)
      · exact free' mem

/-! ## Edges -/

/-- The edge of a way on, but for its id. -/
def Branch.edge (source : String) (b : Branch) : Edge where
  id := ""
  source := source
  target := b.target
  label := b.label
  sourceHandle := b.handle

theorem next_stored (i : Item) : (i.stored.next <|> i.stored.connectedTo) = i.exit.target? := by
  change (i.exit.target? <|> none) = _
  cases i.exit.target? <;> rfl

theorem edge?_stored (source : String) (b : Branch) :
    b.stored.edge? source = if b.target = "" then none else some (b.edge source) := rfl

/-- The edges that are rebuilt of an item whose ways on all lead somewhere. -/
theorem edges_stored {i : Item} (next : ∀ t, i.exit.target? = some t → t ≠ "")
    (ways : ∀ b ∈ i.exit.ways, b.target ≠ "") (source : String) :
    i.stored.edges s source =
      ((i.exit.target?.filter (· != s.finishWord)).toList.map fun target ↦
        { id := "", source, target }) ++ i.exit.ways.map (Branch.edge source) := by
  have branches : (i.exit.ways.map Branch.stored).filterMap (·.edge? source) =
      i.exit.ways.map (Branch.edge source) := by
    rw [List.filterMap_map]
    refine List.filterMap_eq_map_iff_forall_eq_some.2 fun b hb ↦ ?_
    exact (edge?_stored source b).trans (if_neg (ways b hb))
  rw [StoredItem.edges, next_stored]
  change _ ++ (i.exit.ways.map Branch.stored).filterMap (·.edge? source) = _
  rw [branches]
  cases ht : i.exit.target? with
  | none => rfl
  | some t =>
    have somewhere : (t == "") = false := by simpa using next t ht
    by_cases finish : t = s.finishWord <;> simp [somewhere, finish, Option.filter]

section Edges

variable (somewhere : ∀ e ∈ g.outgoing n.id, e.target ≠ "")
include somewhere

/-- Of limited edges the first is rebuilt, unless it leads to the finish word. -/
theorem edges_stored_of_limit {limit : Nat} (h : r.maxOutgoing n.type = some limit) :
    (Item.plain r g entry.id n).stored.edges s n.id =
      (((g.outgoing n.id).head?.map (·.target)).filter (· != s.finishWord)).toList.map fun target ↦
        { id := "", source := n.id, target } := by
  have exit : (Item.plain r g entry.id n).exit = _ := Exit.plain_of_limit h (g.outgoing n.id)
  have next :
      (Item.plain r g entry.id n).exit.target? = (g.outgoing n.id).head?.map (·.target) := by
    rw [exit]
    rfl
  have ways : (Item.plain r g entry.id n).exit.ways = [] := by
    rw [exit]
    rfl
  rw [edges_stored (fun t ht ↦ ?_) (by simp [ways]), next, ways, List.map_nil, List.append_nil]
  rw [next, Option.map_eq_some_iff] at ht
  obtain ⟨e, he, rfl⟩ := ht
  exact somewhere e (List.mem_of_head? he)

/-- Of unlimited edges all are rebuilt. -/
theorem edges_stored_of_unlimited (h : r.maxOutgoing n.type = none) :
    (Item.plain r g entry.id n).stored.edges s n.id =
      (g.outgoing n.id).map fun e ↦ (Branch.ofEdge e).edge n.id := by
  obtain ⟨next, ways⟩ := Exit.plain_of_unlimited h (g.outgoing n.id)
  have ways : (Item.plain r g entry.id n).exit.ways = (g.outgoing n.id).map Branch.ofEdge := ways
  have next : (Item.plain r g entry.id n).exit.target? = none := next
  rw [edges_stored (by simp [next]) (by rw [ways]; exact List.forall_mem_map.2 somewhere), next,
    ways, List.map_map]
  rfl

end Edges

/-! ## Mirrored graphs -/

/-- The graph has a copy of every node that is reached from the entry of another and of no other
node, with the edges that are rebuilt of their items. -/
structure Mirrors (r : Registry) (s : Settings) (g : Graph) (entry : Node) (g' : Graph) : Prop where
  copied : ∀ n ∈ g.preorder entry.id, ∃ m ∈ g'.nodes.rows, IsCopy (Item.plain r g entry.id n) m
  copies : ∀ m ∈ g'.nodes.rows, ∃ n ∈ g.preorder entry.id, IsCopy (Item.plain r g entry.id n) m
  edges : ∀ n ∈ g.preorder entry.id,
    (g'.outgoing n.id).map Edge.unnamed = (Item.plain r g entry.id n).stored.edges s n.id

theorem markedItems_cons {i : StoredItem} (marked : i.isEntry = true) (rest : List StoredItem) :
    ∃ others, Canvas.markedItems (i :: rest) = 0 :: others := by
  refine ⟨(rest.zipIdx 1 |>.filter (·.1.isEntry)).map (·.2), ?_⟩
  simp [Canvas.markedItems, List.zipIdx_cons, marked]

theorem notMem_reservedNames {ms : Members} :
    ∀ f ∈ (Members.without ms reservedNames).names, f ∉ reservedNames := by
  intro f hf
  obtain ⟨member, hm, rfl⟩ := List.mem_map.1 hf
  simpa using (List.mem_filter.1 hm).2

section Rebuilt

variable {source : IdSource} {nodes starts : List Node} {leads : List Edge}
  (entries : g.entries r = [entry]) (ids : ∀ n ∈ g.nodes.rows, n.id ≠ "")
  (types : ∀ n ∈ g.nodes.rows, n.type ≠ "")
  (h : IsRebuilt r s source
    ⟨((g.preorder entry.id).map (Item.plain r g entry.id)).map Item.stored⟩ nodes starts leads g')
include entries ids types h

/-- What is rebuilt of the script of a graph are copies of the nodes that are reached, in order, and
no start. -/
theorem copies_of_isRebuilt : starts = [] ∧
    List.Forall₂ IsCopy ((g.preorder entry.id).map (Item.plain r g entry.id)) nodes := by
  have inside : ∀ n ∈ g.preorder entry.id, n ∈ g.nodes.rows :=
    fun n hn ↦ (Graph.mem_preorder.1 hn).1
  obtain ⟨entryInside, isEntry⟩ := mem_of_entries entries
  have copies :
      List.Forall₂ IsCopy ((g.preorder entry.id).map (Item.plain r g entry.id)) nodes := by
    refine forall₂_isCopy ?_ (List.forall_mem_map.2 fun n hn ↦ ?_)
      (List.forall_mem_map.2 fun n hn ↦ ?_) h.items
    · rw [List.map_map]
      exact g.nodup_preorder entry.id
    · exact ⟨ids n (inside n hn), by simp⟩
    · exact ⟨types n (inside n hn), notMem_reservedNames⟩
  refine ⟨?_, copies⟩
  obtain ⟨rest, hr⟩ := Graph.preorder_eq_cons (Graph.node?_of_mem entryInside)
  have start := h.start
  rw [hr, List.map_cons] at copies start
  cases copies with
  | @cons _ m _ others copy =>
    obtain ⟨marked, hm⟩ := markedItems_cons (i := (Item.plain r g entry.id entry).stored)
      (beq_self_eq_true entry.id) (rest.map (Item.plain r g entry.id) |>.map Item.stored)
    rw [List.map_cons, Canvas.startNode?, hm] at start
    exact (start.eq_nil (copy.type ▸ isEntry)).1

/-- A graph is mirrored by what is rebuilt of its script. -/
theorem mirrors_of_isRebuilt : Mirrors r s g entry g' := by
  obtain ⟨start, copies⟩ := copies_of_isRebuilt entries ids types h
  have rows : g'.nodes.rows = nodes := by rw [h.rows, start, List.append_nil]
  obtain ⟨length, each⟩ := List.forall₂_iff_zip.1 copies
  refine ⟨fun n hn ↦ ?_, fun m hm ↦ ?_, fun n hn ↦ ?_⟩
  · have hn := List.mem_map_of_mem (f := Item.plain r g entry.id) hn
    rw [← List.map_fst_zip (Nat.le_of_eq length)] at hn
    obtain ⟨⟨i, m⟩, hp, rfl⟩ := List.mem_map.1 hn
    exact ⟨m, rows ▸ (List.of_mem_zip hp).2, each hp⟩
  · rw [rows, ← List.map_snd_zip (Nat.le_of_eq length.symm)] at hm
    obtain ⟨⟨i, m⟩, hp, rfl⟩ := List.mem_map.1 hm
    obtain ⟨n, hn, rfl⟩ := List.mem_map.1 (List.of_mem_zip hp).1
    exact ⟨n, hn, each hp⟩
  · have hn := List.mem_map_of_mem (f := Item.plain r g entry.id) hn
    rw [← List.map_fst_zip (Nat.le_of_eq length)] at hn
    obtain ⟨⟨i, m⟩, hp, rfl⟩ := List.mem_map.1 hn
    have copy := each hp
    have := h.outgoing_item (p := ((Item.plain r g entry.id n).stored, m))
      (List.zip_map_left ▸ List.mem_map_of_mem hp)
    rwa [copy.id] at this

end Rebuilt

/-! ## What a mirrored graph shares -/

/-- What a copy has under other names than those that an item sets is what the node has. -/
theorem IsCopy.get? (copy : IsCopy (Item.plain r g entry.id n) m)
    (distinct : n.data.HaveDistinctNames) {f : String} (other : f ∉ reservedNames) :
    Members.get? m.data f = (Members.get? n.data f).map Json.sorted := by
  have values := congrArg (Members.get? · f) copy.values
  change Members.get? (Members.without m.data reservedNames) f =
    Members.get? (Members.sorted (Members.without n.data reservedNames)) f at values
  rwa [Members.get?_sorted (distinct.without _).nodup, Members.get?_without,
    Members.get?_without, if_neg other, if_neg other] at values

/-- Whatever is missing in the copy of a sound node is missing in the node: the name is a text in
both, or the node has no name. -/
theorem IsCopy.isUnset (copy : IsCopy (Item.plain r g entry.id n) m)
    (distinct : n.data.HaveDistinctNames) (sound : ¬g.Faulty r n) {f : String}
    (unset : isUnset (Members.get? m.data f) = true) :
    isUnset (Members.get? n.data f) = true := by
  by_cases reserved : f ∈ reservedNames
  · rcases List.mem_cons.1 reserved with rfl | enabled
    · rw [copy.name] at unset
      rcases hv : Members.get? n.data "name" with _ | v
      · rfl
      · have text : v = .null ∨ ∃ s, v = .str s := by
          by_contra h
          rw [not_or, not_exists] at h
          exact sound (.name v hv h.1 h.2)
        rcases text with rfl | ⟨name, rfl⟩
        · rfl
        · simpa only [Item.plain, hv] using unset
    · rw [List.mem_singleton.1 enabled, copy.enabled] at unset
      simp [CallFlow.isUnset] at unset
  · rwa [copy.get? distinct reserved, isUnset_sorted] at unset

/-- A graph with one entry is mirrored by one with one entry, of the same id. -/
theorem Mirrors.entries (mirrors : Mirrors r s g entry g') (entries : g.entries r = [entry]) :
    ∃ entry', g'.entries r = [entry'] ∧ entry'.id = entry.id := by
  obtain ⟨inside, isEntry⟩ := mem_of_entries entries
  have same : ∀ m ∈ g'.entries r, m.id = entry.id := fun m hm ↦ by
    obtain ⟨hm, entry'⟩ := List.mem_filter.1 hm
    obtain ⟨n, hn, copy⟩ := mirrors.copies m hm
    have : n ∈ g.entries r := List.mem_filter.2
      ⟨(Graph.mem_preorder.1 hn).1, by rw [copy.type] at entry'; exact entry'⟩
    rw [entries, List.mem_singleton] at this
    rw [copy.id, ← this]
    rfl
  obtain ⟨m, hm, copy⟩ := mirrors.copied entry (entry_mem_preorder inside)
  have found : m ∈ g'.entries r := List.mem_filter.2 ⟨hm, by rw [copy.type]; exact isEntry⟩
  have distinct : ((g'.entries r).map Node.id).Nodup :=
    g'.nodes.distinct.sublist (List.filter_sublist.map _)
  rcases he : g'.entries r with _ | ⟨a, _ | ⟨b, rest⟩⟩
  · simp [he] at found
  · exact ⟨a, rfl, same a (by simp [he])⟩
  · rw [he] at distinct
    have equal : a.id = b.id := (same a (by simp [he])).trans (same b (by simp [he])).symm
    simp [equal] at distinct

/-- The phone numbers of a copy can be listed if those of its node can. -/
theorem Mirrors.isIterable (mirrors : Mirrors r s g entry g')
    (distinct : ∀ n ∈ g.nodes.rows, n.data.HaveDistinctNames)
    (iterable : ∀ n ∈ g.nodes.rows, n.type = Kind.inputTag → (Graph.numbersOf n).IsIterable)
    (hm : m ∈ g'.nodes.rows) (input : m.type = Kind.inputTag) :
    (Graph.numbersOf m).IsIterable := by
  obtain ⟨n, hn, copy⟩ := mirrors.copies m hm
  have inside := (Graph.mem_preorder.1 hn).1
  have type : m.type = n.type := copy.type
  have numbers : Graph.numbersOf m = (Graph.numbersOf n).sorted := by
    rw [Graph.numbersOf, copy.get? (distinct n inside) (by decide), Graph.numbersOf]
    cases Members.get? n.data "phoneNumbers" <;> rfl
  rw [numbers]
  exact (iterable n inside (type ▸ input)).sorted

section Mirrored

variable (sound : ∀ n ∈ g.preorder entry.id, ¬g.Faulty r n)
include sound

theorem target_ne_empty (somewhere : ∀ n ∈ g.nodes.rows, n.id ≠ "")
    (hn : n ∈ g.preorder entry.id) : ∀ e ∈ g.outgoing n.id, e.target ≠ "" := by
  intro e he
  obtain ⟨t, ht, target⟩ := exists_target sound hn he
  exact target ▸ somewhere t (Graph.mem_preorder.1 ht).1

variable (somewhere : ∀ n ∈ g.nodes.rows, n.id ≠ "") (mirrors : Mirrors r s g entry g')
include mirrors

/-- Edges lead from what is reached to nodes of the mirrored graph. -/
theorem Mirrors.hasNode_target (hn : n ∈ g.preorder entry.id) :
    ∀ e ∈ g.outgoing n.id, g'.hasNode e.target = true := by
  intro e he
  obtain ⟨t, reached, target⟩ := exists_target sound hn he
  obtain ⟨m, hm, copy⟩ := mirrors.copied t reached
  exact Graph.hasNode_iff.2 ⟨m, hm, copy.id.trans target⟩

include somewhere

/-- Of limited edges the target of the first is kept, unless it is the finish word. -/
theorem Mirrors.targets_of_limit (hn : n ∈ g.preorder entry.id) {limit : Nat}
    (h : r.maxOutgoing n.type = some limit) : g'.successors n.id =
      (((g.outgoing n.id).head?.map (·.target)).filter (· != s.finishWord)).toList := by
  have targets := congrArg (List.map Edge.target) (mirrors.edges n hn)
  rw [edges_stored_of_limit (target_ne_empty sound somewhere hn) h, List.map_map, List.map_map]
    at targets
  exact targets.trans (List.map_id _)

/-- Of unlimited edges all that an item says is kept. -/
theorem Mirrors.ways_of_unlimited (hn : n ∈ g.preorder entry.id) (h : r.maxOutgoing n.type = none) :
    (g'.outgoing n.id).map Branch.ofEdge = (g.outgoing n.id).map Branch.ofEdge := by
  have ways := congrArg (List.map Branch.ofEdge) (mirrors.edges n hn)
  rwa [edges_stored_of_unlimited (target_ne_empty sound somewhere hn) h, List.map_map, List.map_map]
    at ways

theorem Mirrors.targets_of_unlimited (hn : n ∈ g.preorder entry.id)
    (h : r.maxOutgoing n.type = none) : g'.successors n.id = g.successors n.id := by
  have targets := congrArg (List.map Branch.target) (mirrors.ways_of_unlimited sound somewhere hn h)
  rwa [List.map_map, List.map_map] at targets

/-- What edges lead to is what edges led to before. -/
theorem Mirrors.successors_subset (hn : n ∈ g.preorder entry.id) :
    g'.successors n.id ⊆ g.successors n.id := by
  cases h : r.maxOutgoing n.type with
  | some limit =>
    rw [mirrors.targets_of_limit sound somewhere hn h]
    intro t ht
    rw [Option.mem_toList, Option.filter_eq_some_iff, Option.map_eq_some_iff] at ht
    obtain ⟨⟨e, he, rfl⟩, -⟩ := ht
    exact List.mem_map_of_mem (List.mem_of_head? he)
  | none => rw [mirrors.targets_of_unlimited sound somewhere hn h]; exact fun t ht ↦ ht

/-- There are not more edges than before. -/
theorem Mirrors.length_outgoing_le (hn : n ∈ g.preorder entry.id) :
    (g'.outgoing n.id).length ≤ (g.outgoing n.id).length := by
  cases h : r.maxOutgoing n.type with
  | some limit =>
    have targets := congrArg List.length (mirrors.targets_of_limit sound somewhere hn h)
    rw [Graph.successors, List.length_map] at targets
    rw [targets]
    rcases g.outgoing n.id with _ | ⟨e, rest⟩
    · exact Nat.le_refl 0
    · refine Nat.le_trans ?_ (Nat.succ_le_succ (Nat.zero_le rest.length))
      exact Option.length_toList_le
  | none =>
    have ways := congrArg List.length (mirrors.ways_of_unlimited sound somewhere hn h)
    rw [List.length_map, List.length_map] at ways
    exact Nat.le_of_eq ways

/-- Nothing is wrong with a copy. -/
theorem Mirrors.not_faulty (distinct : ∀ n ∈ g.nodes.rows, n.data.HaveDistinctNames)
    (hm : m ∈ g'.nodes.rows) : ¬g'.Faulty r m := by
  obtain ⟨n, hn, copy⟩ := mirrors.copies m hm
  have distinct := distinct n (Graph.mem_preorder.1 hn).1
  have type : m.type = n.type := copy.type
  have id : m.id = n.id := copy.id
  rintro (⟨f, hf, unset⟩ | ⟨v, hv, -, notText⟩ | ⟨v, hv, -, notBool⟩ | ⟨e, he, missing⟩ |
    ⟨k, limit, hk, hl, excess⟩ | ⟨k, e, hk, hb, he, unset⟩)
  · exact sound n hn (.unset f (type ▸ hf) (copy.isUnset distinct (sound n hn) unset))
  · rw [copy.name] at hv
    exact notText _ (Option.some.inj hv).symm
  · rw [copy.enabled] at hv
    exact notBool _ (Option.some.inj hv).symm
  · rw [id] at he
    have target : e.target ∈ g.successors n.id :=
      mirrors.successors_subset sound somewhere hn (List.mem_map_of_mem he)
    obtain ⟨d, hd, ht⟩ := List.mem_map.1 target
    have := mirrors.hasNode_target sound hn d hd
    rw [ht] at this
    simp [this] at missing
  · rw [type] at hk
    rw [id] at excess
    have less := mirrors.length_outgoing_le sound somewhere hn
    exact sound n hn (.overfull k limit hk hl (by omega))
  · rw [type] at hk
    rw [id] at he
    have unlimited : r.maxOutgoing n.type = none := by simp [Registry.maxOutgoing, hk, hb]
    have way := List.mem_map_of_mem (f := Branch.ofEdge) he
    rw [mirrors.ways_of_unlimited sound somewhere hn unlimited] at way
    obtain ⟨d, hd, same⟩ := List.mem_map.1 way
    have label : d.label = e.label := congrArg Branch.label same
    exact sound n hn (.unlabelled k d hk hb hd (label ▸ unset))

/-- No copy goes on to the finish word: that word ends a stored script. -/
theorem Mirrors.target?_ne_finishWord (hm : m ∈ g'.nodes.rows) :
    (Item.plain r g' entry.id m).exit.target? ≠ some s.finishWord := by
  obtain ⟨n, hn, copy⟩ := mirrors.copies m hm
  have id : m.id = n.id := copy.id
  have type : m.type = n.type := copy.type
  change (Exit.plain r m (g'.outgoing m.id)).target? ≠ _
  cases h : r.maxOutgoing n.type with
  | none => simp [(Exit.plain_of_unlimited (type ▸ h) (g'.outgoing m.id)).1]
  | some limit =>
    have next := congrArg List.head? (mirrors.targets_of_limit sound somewhere hn h)
    rw [Graph.successors, List.head?_map, Option.head?_toList] at next
    rw [Exit.plain_of_limit (type ▸ h), id]
    change (g'.outgoing n.id).head?.map (·.target) ≠ _
    rw [next, ne_eq, Option.filter_eq_some_iff]
    simp

variable (drawn : r.DrawnFrom Catalog.kinds)
  (unfinished : ∀ n ∈ g.preorder entry.id,
    (Item.plain r g entry.id n).exit.target? ≠ some s.finishWord)
include drawn unfinished

/-- If no item goes on to the finish word, edges lead to the same nodes as before. -/
theorem Mirrors.successors_eq (hn : n ∈ g.preorder entry.id) :
    g'.successors n.id = g.successors n.id := by
  cases h : r.maxOutgoing n.type with
  | none => exact mirrors.targets_of_unlimited sound somewhere hn h
  | some limit =>
    rw [mirrors.targets_of_limit sound somewhere hn h]
    have next : (g.outgoing n.id).head?.map (·.target) ≠ some s.finishWord := by
      have := unfinished n hn
      rwa [show (Item.plain r g entry.id n).exit = _ from Exit.plain_of_limit h _] at this
    have single : (g.outgoing n.id).length ≤ 1 := by
      obtain ⟨k, hk, hl⟩ := Option.bind_eq_some_iff.1 h
      by_contra excess
      have := drawn.limit_le_one hk hl
      exact sound n hn (.overfull k limit hk hl (by omega))
    rw [Graph.successors]
    rcases out : g.outgoing n.id with _ | ⟨e, _ | ⟨_, _⟩⟩
    · rfl
    · have other : e.target ≠ s.finishWord := by simpa [out] using next
      simp [Option.filter, other]
    · simp [out] at single

/-- The edges that leave a copy say the same as those of its node. -/
theorem Mirrors.exit_eq (hn : n ∈ g.preorder entry.id) (type : m.type = n.type) :
    Exit.plain r m (g'.outgoing n.id) = Exit.plain r n (g.outgoing n.id) := by
  cases h : r.maxOutgoing n.type with
  | some limit =>
    have next := congrArg List.head? (mirrors.successors_eq sound somewhere drawn unfinished hn)
    rw [Graph.successors, Graph.successors, List.head?_map, List.head?_map] at next
    rw [Exit.plain_of_limit (type ▸ h), Exit.plain_of_limit h, type, next]
  | none => exact Exit.plain_congr type (mirrors.ways_of_unlimited sound somewhere hn h)

/-- The item of a copy is that of its node, with the names in order. -/
theorem Mirrors.item_eq (hn : n ∈ g.preorder entry.id)
    (copy : IsCopy (Item.plain r g entry.id n) m) :
    Item.plain r g' entry.id m = (Item.plain r g entry.id n).sorted := by
  have id : m.id = n.id := copy.id
  have type : m.type = n.type := copy.type
  have exit := mirrors.exit_eq sound somewhere drawn unfinished hn type
  have values : Members.without m.data reservedNames = _ := copy.values
  rw [Item.plain, copy.name, copy.enabled, values, id, exit, type]
  rfl

/-- If no item goes on to the finish word, the script of a mirrored graph is as before. -/
theorem Mirrors.items_eq (inside : entry ∈ g.nodes.rows) :
    (g'.preorder entry.id).map (Item.plain r g' entry.id) =
      ((g.preorder entry.id).map (Item.plain r g entry.id)).map Item.sorted := by
  rw [List.map_map]
  refine map_preorder_eq inside sound
    (fun n hn ↦ mirrors.successors_eq sound somewhere drawn unfinished hn) fun n hn ↦ ?_
  obtain ⟨m, hm, copy⟩ := mirrors.copied n hn
  exact ⟨m, Graph.node?_eq_some_iff.2 ⟨hm, copy.id⟩,
    mirrors.item_eq sound somewhere drawn unfinished hn copy⟩

end Mirrored

end Script

end CallFlow
