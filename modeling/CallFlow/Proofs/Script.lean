import CallFlow.Proofs.Graph.Walk
import CallFlow.Proofs.Kind.Registry
import CallFlow.Proofs.Result
import CallFlow.Proofs.Validation
import CallFlow.Script

/-!
# When there is a script

A graph has a script exactly if it has one entry and no node that is reached from it is `Faulty`
(`ofGraph_eq_ok_iff`). The walk stops at its first fault, but it meets every node that is reached,
so the fault that it stops at does not matter for whether there is one.

What the items of the script are does not depend on faults at all: `Item.plain` is the item of a
node in which nothing is missing.
-/

namespace CallFlow

namespace Graph

/-! ## Faults -/

/-- Something that a script must say of a node is not there. -/
inductive Faulty (r : Registry) (g : Graph) (n : Node) : Prop
  /-- A required field is absent, null or blank. -/
  | unset (field : String) (required : field ∈ r.requiredFields n.type)
      (unset : isUnset (Members.get? n.data field) = true)
  /-- The name is neither null nor a text. -/
  | name (v : Json) (found : Members.get? n.data "name" = some v) (notNull : v ≠ .null)
      (notText : ∀ s, v ≠ .str s)
  /-- The switch is neither null nor a truth value. -/
  | enabled (v : Json) (found : Members.get? n.data "enabled" = some v) (notNull : v ≠ .null)
      (notBool : ∀ b, v ≠ .bool b)
  /-- An edge leads to a node that does not exist. -/
  | dangling (e : Edge) (mem : e ∈ g.outgoing n.id) (missing : g.hasNode e.target = false)
  /-- More edges leave the node than its kind admits. -/
  | overfull (k : Kind) (limit : Nat) (kind : r.get? n.type = some k)
      (bounded : k.maxOutgoing = some limit) (excess : limit < (g.outgoing n.id).length)
  /-- The node branches, and an edge has no label or a blank one. -/
  | unlabelled (k : Kind) (e : Edge) (kind : r.get? n.type = some k)
      (branching : k.maxOutgoing = none) (mem : e ∈ g.outgoing n.id)
      (unset : isUnset (e.label.map .str) = true)

end Graph

namespace Script

variable {r : Registry} {g : Graph} {n : Node}

theorem checkAll_eq_ok_iff {α : Type} {fault : α → Option ScriptError} {items : List α} :
    checkAll fault items = .ok () ↔ ∀ a ∈ items, fault a = none := by
  rw [checkAll]
  split
  · rename_i e he
    obtain ⟨a, ha, h⟩ := List.exists_of_findSome?_eq_some he
    exact ⟨fun h ↦ (nomatch h), fun sound ↦ by simp [sound a ha] at h⟩
  · rename_i sound
    exact iff_of_true rfl (List.findSome?_eq_none_iff.1 sound)

/-! ## Items -/

namespace Exit

/-- The template of the kind, if the runtime knows it. -/
def template : Exit → Option Int
  | .next template _ | .branches template _ => template
  | .inert _ => none

/-- The item that comes next, if there is one way on. -/
def target? : Exit → Option String
  | .next _ target => target
  | .branches .. | .inert _ => none

/-- The ways on that have names. -/
def ways : Exit → List Branch
  | .next .. => []
  | .branches _ bs | .inert bs => bs

end Exit

/-- The way on from a node with the given edges, whatever is wrong with them. -/
def Exit.plain (r : Registry) (n : Node) (edges : List Edge) : Exit :=
  match r.get? n.type with
  | none => .inert (edges.map Branch.ofEdge)
  | some k =>
    match k.maxOutgoing with
    | none => .branches k.templateId (edges.map Branch.ofEdge)
    | some _ => .next k.templateId (edges.head?.map (·.target))

/-- The item of a node, whatever is wrong with it. -/
def Item.plain (r : Registry) (g : Graph) (entry : String) (n : Node) : Item where
  id := n.id
  name := match Members.get? n.data "name" with
    | some (.str s) => s
    | _ => n.type
  type := n.type
  enabled := match Members.get? n.data "enabled" with
    | some (.bool b) => b
    | _ => true
  values := Members.without n.data reservedNames
  isEntry := n.id == entry
  exit := Exit.plain r n (g.outgoing n.id)

theorem Exit.ofNode_eq_ok_iff {edges : List Edge} {x : Exit} :
    Exit.ofNode r n edges = .ok x ↔
      (∀ k, r.get? n.type = some k → k.maxOutgoing = none →
        ∀ e ∈ edges, isUnset (e.label.map .str) = false) ∧
      (∀ k limit, r.get? n.type = some k → k.maxOutgoing = some limit → edges.length ≤ limit) ∧
      x = Exit.plain r n edges := by
  rw [ofNode, plain]
  cases hk : r.get? n.type with
  | none => exact ⟨fun h ↦ ⟨by simp, by simp, (Except.ok.inj h).symm⟩, fun h ↦ h.2.2 ▸ rfl⟩
  | some k =>
    cases hl : k.maxOutgoing with
    | none =>
      have labels : checkAll (labelFault n) edges = .ok () ↔
          ∀ e ∈ edges, isUnset (e.label.map .str) = false := by
        rw [checkAll_eq_ok_iff]
        simp [labelFault]
      simp only [hl, Result.bind_eq_ok_iff, Result.pure_eq_ok_iff, labels]
      constructor
      · rintro ⟨⟨⟩, hl', rfl⟩
        exact ⟨fun _ _ _ ↦ hl', fun k' limit h h' ↦ by simp_all, rfl⟩
      · exact fun h ↦ ⟨(), h.1 k rfl hl, h.2.2⟩
    | some limit =>
      simp only [hl]
      by_cases excess : limit < edges.length
      · rw [if_pos excess]
        exact ⟨fun h ↦ (nomatch h), fun h ↦ absurd (h.2.1 k limit rfl hl) (Nat.not_le_of_lt excess)⟩
      · rw [if_neg excess]
        constructor
        · intro h
          refine ⟨fun k' h h' ↦ by simp_all, fun k' limit' h h' ↦ ?_, (Except.ok.inj h).symm⟩
          obtain rfl := Option.some.inj h
          obtain rfl := Option.some.inj (hl.symm.trans h')
          exact Nat.le_of_not_lt excess
        · exact fun h ↦ h.2.2 ▸ rfl

/-- A node whose edges are limited goes on by the first of them. -/
theorem Exit.plain_of_limit {limit : Nat} (h : r.maxOutgoing n.type = some limit)
    (edges : List Edge) : Exit.plain r n edges =
      .next ((r.get? n.type).bind (·.templateId)) (edges.head?.map (·.target)) := by
  rw [Registry.maxOutgoing] at h
  rw [plain]
  cases hk : r.get? n.type with
  | none => simp [hk] at h
  | some k =>
    rw [hk] at h
    simp only [Option.bind_some] at h ⊢
    rw [h]

/-- A node whose edges are not limited goes on by all of them. -/
theorem Exit.plain_of_unlimited (h : r.maxOutgoing n.type = none) (edges : List Edge) :
    (Exit.plain r n edges).target? = none ∧
      (Exit.plain r n edges).ways = edges.map Branch.ofEdge := by
  rw [Registry.maxOutgoing] at h
  rw [plain]
  cases hk : r.get? n.type with
  | none => exact ⟨rfl, rfl⟩
  | some k =>
    rw [hk] at h
    simp only [Option.bind_some] at h ⊢
    rw [h]
    exact ⟨rfl, rfl⟩

/-- The way on from a node depends on its type and on where its edges lead. -/
theorem Exit.plain_congr {n' : Node} {edges edges' : List Edge} (type : n'.type = n.type)
    (ways : edges'.map Branch.ofEdge = edges.map Branch.ofEdge) :
    Exit.plain r n' edges' = Exit.plain r n edges := by
  have next : edges'.head?.map (·.target) = edges.head?.map (·.target) := by
    have := congrArg (fun bs ↦ bs.head?.map Branch.target) ways
    rwa [List.head?_map, List.head?_map, Option.map_map, Option.map_map] at this
  rw [plain, plain, type, ways, next]

theorem admits_string_iff {v : Json} :
    DataType.string.admits v = true ↔ v = .null ∨ ∃ s, v = .str s := by
  cases v <;> simp [DataType.admits]

theorem admits_boolean_iff {v : Json} :
    DataType.boolean.admits v = true ↔ v = .null ∨ ∃ b, v = .bool b := by
  cases v <;> simp [DataType.admits]

/-- The fields that go on to the runtime are of their types. -/
theorem checkAll_passThroughFault :
    checkAll (passThroughFault n) passThroughFields = .ok () ↔
      (∀ v, Members.get? n.data "name" = some v → v = .null ∨ ∃ s, v = .str s) ∧
      ∀ v, Members.get? n.data "enabled" = some v → v = .null ∨ ∃ b, v = .bool b := by
  rw [checkAll_eq_ok_iff]
  simp only [passThroughFields, passThroughFault, List.forall_mem_cons, List.not_mem_nil,
    false_implies, implies_true, and_true, ite_eq_left_iff, reduceCtorEq, imp_false,
    Classical.not_not, admits_string_iff, admits_boolean_iff]
  refine and_congr ?_ ?_ <;> cases Members.get? n.data _ <;> simp

/-- The item of a node is there exactly if nothing is wrong with it. -/
theorem Item.ofNode_eq_ok_iff {entry : String} {i : Item} :
    Item.ofNode r g entry n = .ok i ↔ ¬g.Faulty r n ∧ i = Item.plain r g entry n := by
  simp only [Item.ofNode, Result.bind_eq_ok_iff, Result.pure_eq_ok_iff,
    Exit.ofNode_eq_ok_iff]
  have targets : checkAll (targetFault g) (g.outgoing n.id) = .ok () ↔
      ∀ e ∈ g.outgoing n.id, g.hasNode e.target = true := by
    rw [checkAll_eq_ok_iff]
    simp [targetFault]
  have required : checkAll (requiredFault n) (r.requiredFields n.type) = .ok () ↔
      ∀ f ∈ r.requiredFields n.type, isUnset (Members.get? n.data f) = false := by
    rw [checkAll_eq_ok_iff]
    simp [requiredFault]
  constructor
  · rintro ⟨⟨⟩, ht, ⟨⟩, hr, ⟨⟩, hp, x, ⟨hl, hn, rfl⟩, rfl⟩
    refine ⟨?_, rfl⟩
    rintro (⟨f, hf, h⟩ | ⟨v, hv, h, h'⟩ | ⟨v, hv, h, h'⟩ | ⟨e, he, h⟩ | ⟨k, limit, hk, hm, h⟩ |
      ⟨k, e, hk, hm, he, h⟩)
    · simp [required.1 hr f hf] at h
    · exact ((checkAll_passThroughFault.1 hp).1 v hv).elim h fun ⟨s, hs⟩ ↦ h' s hs
    · exact ((checkAll_passThroughFault.1 hp).2 v hv).elim h fun ⟨b, hb⟩ ↦ h' b hb
    · simp [targets.1 ht e he] at h
    · exact absurd (hn k limit hk hm) (Nat.not_le_of_lt h)
    · simp [hl k hk hm e he] at h
  · rintro ⟨sound, rfl⟩
    refine ⟨(), targets.2 ?_, (), required.2 ?_, (), checkAll_passThroughFault.2 ⟨?_, ?_⟩, _,
      ⟨?_, ?_, rfl⟩, rfl⟩
    · exact fun e he ↦ by_contra fun h ↦ sound (.dangling e he (by simpa using h))
    · exact fun f hf ↦ by_contra fun h ↦ sound (.unset f hf (by simpa using h))
    · intro v hv
      by_contra h
      rw [not_or, not_exists] at h
      exact sound (.name v hv h.1 h.2)
    · intro v hv
      by_contra h
      rw [not_or, not_exists] at h
      exact sound (.enabled v hv h.1 h.2)
    · exact fun k hk hm e he ↦ by_contra fun h ↦ sound (.unlabelled k e hk hm he (by simpa using h))
    · exact fun k limit hk hm ↦ by_contra fun h ↦ sound (.overfull k limit hk hm (by omega))

/-! ## Scripts -/

theorem soleEntry_eq_ok_iff {entry : Node} :
    soleEntry r g = .ok entry ↔ g.entries r = [entry] := by
  rw [soleEntry]
  split
  · rename_i n hn
    simp [hn]
  · rename_i other
    exact ⟨fun h ↦ (nomatch h), fun h ↦ absurd h (other entry)⟩

/-- There is a script of a graph exactly if it has one entry and nothing is wrong with the nodes
that are reached from it. The script then lists their items. -/
theorem ofGraph_eq_ok_iff {name : String} {type : PolicyType} {script : Script} :
    ofGraph r g name type = .ok script ↔ ∃ entry, g.entries r = [entry] ∧
      (∀ n ∈ g.preorder entry.id, ¬g.Faulty r n) ∧
      script = ⟨name, type, (g.preorder entry.id).map (Item.plain r g entry.id)⟩ := by
  simp only [ofGraph, itemsFrom, Result.bind_eq_ok_iff, Result.pure_eq_ok_iff, soleEntry_eq_ok_iff,
    Result.mapM_eq_ok_iff fun _ _ ↦ Item.ofNode_eq_ok_iff]
  constructor
  · rintro ⟨entry, he, _, ⟨sound, rfl⟩, rfl⟩
    exact ⟨entry, he, sound, rfl⟩
  · rintro ⟨entry, he, sound, rfl⟩
    exact ⟨entry, he, _, ⟨sound, rfl⟩, rfl⟩

/-- In a valid graph nothing is wrong with any node. -/
theorem not_faulty_of_isValid (drawn : r.DrawnFrom Catalog.kinds) (valid : g.IsValid r)
    (hn : n ∈ g.nodes.rows) : ¬g.Faulty r n := by
  have typed := fun f hf ↦ valid.typed n hn f (drawn.passThroughFields_subset n.type f hf)
  rintro (⟨f, hf, h⟩ | ⟨v, hv, h, h'⟩ | ⟨v, hv, h, h'⟩ | ⟨e, he, h⟩ | ⟨k, limit, hk, hm, h⟩ |
    ⟨k, e, hk, hm, he, h⟩)
  · simp [valid.filledIn n hn f hf] at h
  · have := typed ("name", .string) (by simp [passThroughFields])
    rw [hv] at this
    exact (admits_string_iff.1 this).elim h fun ⟨s, hs⟩ ↦ h' s hs
  · have := typed ("enabled", .boolean) (by simp [passThroughFields])
    rw [hv] at this
    exact (admits_boolean_iff.1 this).elim h fun ⟨b, hb⟩ ↦ h' b hb
  · simp [(valid.endpoints e (List.mem_filter.1 he).1).2] at h
  · exact absurd (valid.withinLimit n hn limit (by simp [Registry.maxOutgoing, hk, hm]))
      (Nat.not_le_of_lt h)
  · obtain ⟨he, hs⟩ := List.mem_filter.1 he
    have source : g.node? e.source = some n := by
      rw [beq_iff_eq.1 hs]
      exact Graph.node?_of_mem hn
    have branching : r.isBranching n.type = true := by
      simp [Registry.isBranching, hk, Kind.isBranching, hm]
    simp [valid.labelled e he n source branching] at h

/-- A graph with one entry is valid if nothing is wrong with any node, data are of their types and
edges leave nodes. -/
theorem isValid_of_not_faulty (sole : (g.entries r).length = 1)
    (typed : ∀ n ∈ g.nodes.rows, ∀ f ∈ r.declaredFields n.type,
      f.2.admits ((Members.get? n.data f.1).getD .null) = true)
    (sources : ∀ e ∈ g.edges.rows, g.hasNode e.source = true)
    (sound : ∀ n ∈ g.nodes.rows, ¬g.Faulty r n) : g.IsValid r where
  soleEntry := sole
  filledIn n hn f hf := by_contra fun h ↦ sound n hn (.unset f hf (by simpa using h))
  typed := typed
  withinLimit n hn limit hl := by
    obtain ⟨k, hk, hm⟩ := Option.bind_eq_some_iff.1 hl
    by_contra excess
    exact sound n hn (.overfull k limit hk hm (Nat.lt_of_not_le excess))
  endpoints e he := by
    refine ⟨sources e he, ?_⟩
    obtain ⟨n, hn, source⟩ := Graph.hasNode_iff.1 (sources e he)
    by_contra missing
    have out : e ∈ g.outgoing n.id := List.mem_filter.2 ⟨he, beq_iff_eq.2 source.symm⟩
    exact sound n hn (.dangling e out (by simpa using missing))
  labelled e he n hn branching := by
    obtain ⟨hn, source⟩ := Graph.node?_eq_some_iff.1 hn
    obtain ⟨k, hk, hm⟩ := (Option.any_eq_true _ _).1 branching
    by_contra unset
    have out : e ∈ g.outgoing n.id := List.mem_filter.2 ⟨he, beq_iff_eq.2 source.symm⟩
    have unlimited : k.maxOutgoing = none := Option.isNone_iff_eq_none.1 hm
    exact sound n hn (.unlabelled k e hk unlimited out (by simpa using unset))

/-! ## What is reached from the entry -/

section Reached

variable {entry : Node}

theorem mem_of_entries (entries : g.entries r = [entry]) :
    entry ∈ g.nodes.rows ∧ r.isEntry entry.type = true := by
  have : entry ∈ g.entries r := by simp [entries]
  exact List.mem_filter.1 this

theorem entry_mem_preorder (inside : entry ∈ g.nodes.rows) : entry ∈ g.preorder entry.id :=
  Graph.mem_preorder.2 ⟨inside, .refl (Graph.hasNode_iff.2 ⟨entry, inside, rfl⟩)⟩

/-- Edges lead from nodes that are reached to nodes that are reached. -/
theorem exists_target (sound : ∀ n ∈ g.preorder entry.id, ¬g.Faulty r n)
    (hn : n ∈ g.preorder entry.id) {e : Edge} (he : e ∈ g.outgoing n.id) :
    ∃ t ∈ g.preorder entry.id, t.id = e.target := by
  obtain ⟨hn', reached⟩ := Graph.mem_preorder.1 hn
  have exists' : g.hasNode e.target = true := by
    by_contra missing
    exact sound n hn (.dangling e he (by simpa using missing))
  obtain ⟨t, ht, target⟩ := Graph.hasNode_iff.1 exists'
  have leads : g.Leads n.id t.id := by
    obtain ⟨he, source⟩ := List.mem_filter.1 he
    exact ⟨⟨e, he, beq_iff_eq.1 source, target.symm⟩, reached.hasNode, target ▸ exists'⟩
  exact ⟨t, Graph.mem_preorder.2 ⟨ht, reached.tail leads⟩, target⟩

/-- Another graph, in which edges lead on alike from all that is reached, is walked alike: what is
told of nodes of the same ids is told in the same order. -/
theorem map_preorder_eq {β : Type} {f f' : Node → β} {g' : Graph} (inside : entry ∈ g.nodes.rows)
    (sound : ∀ n ∈ g.preorder entry.id, ¬g.Faulty r n)
    (successors : ∀ n ∈ g.preorder entry.id, g'.successors n.id = g.successors n.id)
    (told : ∀ n ∈ g.preorder entry.id, ∃ m, g'.node? n.id = some m ∧ f' m = f n) :
    (g'.preorder entry.id).map f' = (g.preorder entry.id).map f := by
  have walked : g'.preorder entry.id = (g.preorder entry.id).map g'.counterpart := by
    refine Graph.preorder_counterpart (Graph.hasNode_iff.2 ⟨entry, inside, rfl⟩) (fun n hn ↦ ?_)
      successors fun n hn t ht ↦ ?_
    · obtain ⟨m, hm, -⟩ := told n hn
      exact Graph.hasNode_of_node? hm
    · obtain ⟨e, he, rfl⟩ := List.mem_map.1 ht
      exact exists_target sound hn he
  rw [walked, List.map_map]
  refine List.map_congr_left fun n hn ↦ ?_
  obtain ⟨m, hm, same⟩ := told n hn
  rw [Function.comp_apply, Graph.counterpart_eq hm, same]

end Reached

end Script

end CallFlow
