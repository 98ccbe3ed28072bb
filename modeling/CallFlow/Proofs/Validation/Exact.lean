import CallFlow.Proofs.Graph.Issued
import CallFlow.Proofs.Validation
import Mathlib.Data.List.Induction

/-!
# Reports are exact

What a validation is to find, said of nodes and edges, of the kinds that the registry has for them
and of paths, but not through the checks: graphs that are well drawn (`Graph.IsWellDrawn`) and nodes
that are stranded (`Graph.IsStranded`). A report is free of fatal findings exactly for the graphs
that are well drawn, and it names each stranded node once and no other (`Graph.validate_isExact`).
-/

namespace CallFlow

/-! ## Values -/

/-- The values of a type. -/
def DataType.Has : DataType → Json → Prop
  | .string, v | .select, v => ∃ s, v = .str s
  | .number, v => (∃ i, v = .int i) ∨ ∃ x, v = .float x
  | .boolean, v => ∃ b, v = .bool b
  | .object, v => ∃ members, v = .obj members
  | .array, v => ∃ items, v = .arr items
  | .any, _ => True

theorem DataType.admits_iff {type : DataType} {v : Json} :
    type.admits v = true ↔ v = .null ∨ type.Has v := by
  cases type <;> cases v <;> simp [admits, Has]

/-- A value is there, and it is neither null nor a blank text. -/
def IsFilledIn (v : Option Json) : Prop :=
  ∃ w, v = some w ∧ w ≠ .null ∧ ∀ s, w = .str s → ∃ c ∈ s.toList, Text.isBlank c = false

theorem isFilledIn_iff {v : Option Json} : IsFilledIn v ↔ isUnset v = false := by
  constructor
  · rintro ⟨w, rfl, some, text⟩
    cases w with
    | null => exact absurd rfl some
    | str s =>
      obtain ⟨c, hc, ink⟩ := text s rfl
      exact List.all_eq_false.2 ⟨c, hc, by simp [ink]⟩
    | _ => rfl
  · intro set
    cases v with
    | none => cases set
    | some w =>
      refine ⟨w, rfl, ?_, ?_⟩
      · rintro rfl
        cases set
      · rintro s rfl
        obtain ⟨c, hc, ink⟩ := List.all_eq_false.1 set
        exact ⟨c, hc, by simpa using ink⟩

/-! ## Declarations -/

/-- The last field of the name has the type. -/
def Kind.Declares (k : Kind) (name : String) (type : DataType) : Prop :=
  ∃ f, (k.fields.filter (·.name == name)).getLast? = some f ∧ f.type = type

theorem Kind.mem_declared_iff {k : Kind} {name : String} {type : DataType} :
    (name, type) ∈ k.declared ↔ k.Declares name type := by
  rw [declared, Declares]
  -- the fields are put in from the first to the last, so the last of a name decides
  induction k.fields using List.reverseRecOn with
  | nil => simp
  | append_singleton fields f ih =>
    rw [List.foldl_append, List.foldl_cons, List.foldl_nil, Table.mem_rows_put_iff, ih,
      List.filter_append, List.getLast?_append]
    by_cases same : f.name = name
    · subst same
      simp [eq_comm]
    · simp [same, Ne.symm same]

namespace Registry

variable {r : Registry} {tag name : String} {type : DataType}

/-- The kind of the tag gives the type to the field. Nodes of unknown kinds have a name, which is a
text, and a switch, which is a truth value. -/
inductive Declares (r : Registry) (tag : String) : String → DataType → Prop
  | known {k : Kind} {name : String} {type : DataType} (found : r.get? tag = some k)
    (declared : k.Declares name type) : Declares r tag name type
  | name (unknown : r.get? tag = none) : Declares r tag "name" .string
  | enabled (unknown : r.get? tag = none) : Declares r tag "enabled" .boolean

theorem mem_declaredFields_iff :
    (name, type) ∈ r.declaredFields tag ↔ r.Declares tag name type := by
  rw [declaredFields]
  cases found : r.get? tag with
  | some k =>
    refine Kind.mem_declared_iff.trans ⟨.known found, fun h ↦ ?_⟩
    cases h with
    | known found' declared => exact Option.some.inj (found'.symm.trans found) ▸ declared
    | name unknown | enabled unknown => cases unknown.symm.trans found
  | none =>
    constructor
    · intro h
      rcases List.mem_cons.1 h with h | h
      · cases h
        exact .name found
      · cases List.mem_singleton.1 h
        exact .enabled found
    · intro h
      cases h with
      | known found' => cases found'.symm.trans found
      | name => simp [passThroughFields]
      | enabled => simp [passThroughFields]

/-- A flow may start at nodes of the tag. -/
def StartsAt (r : Registry) (tag : String) : Prop := ∃ k, r.get? tag = some k ∧ k.isEntry = true

theorem isEntry_iff : r.isEntry tag = true ↔ r.StartsAt tag := by
  rw [isEntry, StartsAt, Option.any_eq_true]

theorem maxOutgoing_eq_some_iff {limit : Nat} :
    r.maxOutgoing tag = some limit ↔ ∃ k, r.get? tag = some k ∧ k.maxOutgoing = some limit := by
  rw [maxOutgoing, Option.bind_eq_some_iff]

theorem isBranching_iff :
    r.isBranching tag = true ↔ ∃ k, r.get? tag = some k ∧ k.maxOutgoing = none := by
  simp [isBranching, Option.any_eq_true, Kind.isBranching]

theorem mem_requiredFields_iff : name ∈ r.requiredFields tag ↔
    ∃ k, r.get? tag = some k ∧ ∃ f ∈ k.fields, f.required = true ∧ f.name = name := by
  rw [requiredFields]
  cases r.get? tag with
  | some k => simp [Kind.requiredFields, and_assoc]
  | none => simp

end Registry

/-! ## Graphs -/

namespace Graph

/-- A graph as it has to be drawn to be run. -/
structure IsWellDrawn (r : Registry) (g : Graph) : Prop where
  entry : ∃! n, n ∈ g.nodes.rows ∧ r.StartsAt n.type
  required : ∀ n ∈ g.nodes.rows, ∀ k, r.get? n.type = some k → ∀ f ∈ k.fields, f.required = true →
    IsFilledIn (Members.get? n.data f.name)
  typed : ∀ n ∈ g.nodes.rows, ∀ name type, r.Declares n.type name type →
    ∀ v, Members.get? n.data name = some v → v = .null ∨ type.Has v
  bounded : ∀ n ∈ g.nodes.rows, ∀ k, r.get? n.type = some k → ∀ limit, k.maxOutgoing = some limit →
    g.edges.rows.countP (·.source == n.id) ≤ limit
  anchored : ∀ e ∈ g.edges.rows, (∃ n ∈ g.nodes.rows, n.id = e.source) ∧
    ∃ n ∈ g.nodes.rows, n.id = e.target
  labelled : ∀ e ∈ g.edges.rows, ∀ n ∈ g.nodes.rows, n.id = e.source →
    ∀ k, r.get? n.type = some k → k.maxOutgoing = none → IsFilledIn (e.label.map .str)

/-- The node of an id is not reached from the first entry, which there is. -/
def IsStranded (r : Registry) (g : Graph) (id : String) : Prop :=
  (∃ n ∈ g.nodes.rows, n.id = id) ∧ ∃ before entry after,
    g.nodes.rows = before ++ entry :: after ∧ r.StartsAt entry.type ∧
    (∀ n ∈ before, ¬r.StartsAt n.type) ∧ ¬g.Reaches entry.id id

variable {r : Registry} {g : Graph}

theorem length_entries_eq_one_iff :
    (g.entries r).length = 1 ↔ ∃! n, n ∈ g.nodes.rows ∧ r.StartsAt n.type := by
  have mem {n : Node} : n ∈ g.nodes.rows ∧ r.StartsAt n.type ↔ n ∈ g.entries r := by
    rw [entries, List.mem_filter, Registry.isEntry_iff]
  have distinct : (g.entries r).Nodup := g.nodes.distinct.of_map.filter _
  simp only [mem]
  constructor
  · intro one
    obtain ⟨n, hn⟩ := List.length_eq_one_iff.1 one
    rw [hn]
    exact ⟨n, List.mem_singleton_self n, fun m hm ↦ List.mem_singleton.1 hm⟩
  · rintro ⟨n, hn, sole⟩
    have only : g.entries r = [n] :=
      List.perm_singleton.1 ((List.perm_ext_iff_of_nodup distinct (List.nodup_singleton n)).2
        fun m ↦ ⟨fun hm ↦ List.mem_singleton.2 (sole m hm), fun hm ↦ List.mem_singleton.1 hm ▸ hn⟩)
    rw [only, List.length_singleton]

/-- The conditions of the checks are those on nodes, edges and kinds. -/
theorem isValid_iff_isWellDrawn : g.IsValid r ↔ g.IsWellDrawn r := by
  constructor
  · intro valid
    refine ⟨length_entries_eq_one_iff.1 valid.soleEntry, ?_, ?_, ?_, ?_, ?_⟩
    · intro n hn k known f hf needed
      exact isFilledIn_iff.2 <| valid.filledIn n hn f.name
        (Registry.mem_requiredFields_iff.2 ⟨k, known, f, hf, needed, rfl⟩)
    · intro n hn name type declared v hv
      have admits := valid.typed n hn (name, type) (Registry.mem_declaredFields_iff.2 declared)
      rw [hv] at admits
      exact DataType.admits_iff.1 admits
    · intro n hn k known limit bound
      rw [List.countP_eq_length_filter]
      exact valid.withinLimit n hn limit (Registry.maxOutgoing_eq_some_iff.2 ⟨k, known, bound⟩)
    · exact fun e he ↦ (valid.endpoints e he).imp hasNode_iff.1 hasNode_iff.1
    · intro e he n hn source k known unlimited
      exact isFilledIn_iff.2 <| valid.labelled e he n (node?_eq_some_iff.2 ⟨hn, source⟩)
        (Registry.isBranching_iff.2 ⟨k, known, unlimited⟩)
  · intro drawn
    refine ⟨length_entries_eq_one_iff.2 drawn.entry, ?_, ?_, ?_, ?_, ?_⟩
    · intro n hn name needed
      obtain ⟨k, known, f, hf, required, rfl⟩ := Registry.mem_requiredFields_iff.1 needed
      exact isFilledIn_iff.1 (drawn.required n hn k known f hf required)
    · rintro n hn ⟨name, type⟩ declared
      refine DataType.admits_iff.2 ?_
      cases hv : Members.get? n.data name with
      | none => exact .inl rfl
      | some v =>
        exact drawn.typed n hn name type (Registry.mem_declaredFields_iff.1 declared) v hv
    · intro n hn limit bound
      obtain ⟨k, known, bound⟩ := Registry.maxOutgoing_eq_some_iff.1 bound
      rw [outgoing, ← List.countP_eq_length_filter]
      exact drawn.bounded n hn k known limit bound
    · exact fun e he ↦ (drawn.anchored e he).imp hasNode_iff.2 hasNode_iff.2
    · intro e he n found branching
      obtain ⟨k, known, unlimited⟩ := Registry.isBranching_iff.1 branching
      obtain ⟨hn, source⟩ := node?_eq_some_iff.1 found
      exact isFilledIn_iff.1 (drawn.labelled e he n hn source k known unlimited)

theorem isStranded_iff {id : String} : g.IsStranded r id ↔ g.hasNode id = true ∧
    ∃ entry rest, g.entries r = entry :: rest ∧ ¬g.Reaches entry.id id := by
  rw [IsStranded, hasNode_iff]
  refine and_congr_right fun _ ↦ ⟨?_, ?_⟩
  · rintro ⟨before, entry, after, rows, starts, first, unreached⟩
    refine ⟨entry, _, List.filter_eq_cons_iff.2 ⟨before, after, rows, fun n hn ↦ ?_,
      Registry.isEntry_iff.2 starts, rfl⟩, unreached⟩
    exact mt Registry.isEntry_iff.1 (first n hn)
  · rintro ⟨entry, rest, entries, unreached⟩
    obtain ⟨before, after, rows, first, starts, -⟩ := List.filter_eq_cons_iff.1 entries
    exact ⟨before, entry, after, rows, Registry.isEntry_iff.1 starts,
      fun n hn ↦ mt Registry.isEntry_iff.2 (first n hn), unreached⟩

/-- No node is reported twice as unreachable. -/
theorem count_unreachable_le_one (r : Registry) (g : Graph) (id : String) :
    (g.validate r).count (.unreachable id) ≤ 1 := by
  rw [count_unreachable]
  refine List.nodup_iff_count_le_one.1 ?_ _
  rw [reachabilityFindings]
  split
  · exact List.nodup_nil
  · refine (g.nodes.distinct.of_map.filter _).map_on fun n hn m hm same ↦ ?_
    exact Table.eq_of_key_eq (List.mem_filter.1 hn).1 (List.mem_filter.1 hm).1
      (Finding.unreachable.inj same)

/-- A report has no fatal finding exactly if the graph is well drawn. It names every node once that
the first entry, if there is one, does not reach, and no other node. -/
theorem validate_isExact (r : Registry) (g : Graph) :
    (Finding.areHarmless (g.validate r) = true ↔ g.IsWellDrawn r) ∧
      ∀ id, ((g.validate r).count (.unreachable id) = 1 ↔ g.IsStranded r id) ∧
        ((g.validate r).count (.unreachable id) = 0 ↔ ¬g.IsStranded r id) := by
  refine ⟨(g.areHarmless_validate r).trans isValid_iff_isWellDrawn, fun id ↦ ?_⟩
  have none : (g.validate r).count (.unreachable id) = 0 ↔ ¬g.IsStranded r id := by
    rw [isStranded_iff, ← unreachable_mem_validate_iff, List.count_eq_zero]
  have once := count_unreachable_le_one r g id
  refine ⟨?_, none⟩
  rw [← not_iff_not, ← none]
  omega

end Graph

end CallFlow
