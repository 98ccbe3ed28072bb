import CallFlow.Proofs.Script.Faithful

/-!
# What is warned of

Where a script leaves something open, the graph that is rebuilt from it says so: its warnings are
told by the script and the graph (`warnings_rebuild`).
-/

namespace CallFlow

variable {r : Registry} {s : Settings} {ids ids' : IdStream} {script : StoredScript} {g : Graph}

/-! ## Messages -/

namespace StoredItem

/-- What is said of the id that the node of an item got. -/
def idWarnings (index : Nat) (given : String) (i : StoredItem) : List String :=
  let own := i.id.getD ""
  if own = "" then [s!"Item {index} has no id; assigned {given}"]
  else if own = given then []
  else [s!"Item {index} reuses id {own}; assigned {given}, " ++
    s!"targets named {own} resolve to the first item"]

/-- What is said of an item and its node. -/
def warnings (r : Registry) (s : Settings) (index : Nat) (i : StoredItem) (n : Node) :
    List String :=
  i.idWarnings index n.id ++ (i.tag r s index).2.toList

end StoredItem

/-- What is said of the items from a position on, and their nodes. -/
def itemWarnings (r : Registry) (s : Settings) (index : Nat) (items : List StoredItem)
    (nodes : List Node) : List String :=
  ((items.zip nodes).zipIdx index).flatMap fun p ↦ p.1.1.warnings r s p.2 p.1.2

/-- What is said of the positions of the items that are marked as the entry. -/
def markedWarnings (marked : List Nat) : List String :=
  match marked with
  | first :: _ :: _ => [s!"{marked.length} items are marked as entry; using item {first}"]
  | _ => []

/-- What is said of where the flow starts. -/
def startWarnings (r : Registry) (items : List StoredItem) (nodes : List Node) : List String :=
  match Canvas.startNode? r items nodes with
  | none => ["Legacy policy has no items; created an empty flow"]
  | some n =>
    markedWarnings (Canvas.markedItems items) ++ if r.isEntry n.type then []
      else [s!"Entry item {n.id} is not a start node; added a start node before it"]

/-- What is said of a way on. -/
def Graph.wayWarnings (g : Graph) (source target : String) : List String :=
  if g.hasNode target then [] else [s!"Item {source} points at missing item {target}"]

/-- What is said of a branch. -/
def StoredBranch.warnings (g : Graph) (source : String) (b : StoredBranch) : List String :=
  let target := b.target.getD ""
  let label := b.label.getD "None"
  if target = "" then [s!"Branch '{label}' of item {source} has no target; skipped"]
  else g.wayWarnings source target

/-- What is said of the next item of an item. -/
def StoredItem.nextWarnings (s : Settings) (g : Graph) (source : String) (i : StoredItem) :
    List String :=
  match i.next <|> i.connectedTo with
  | some target =>
    if target == "" || target == s.finishWord then [] else g.wayWarnings source target
  | none => []

/-- What is said of the ways on of an item. -/
def StoredItem.wayWarnings (s : Settings) (g : Graph) (source : String) (i : StoredItem) :
    List String :=
  i.nextWarnings s g source ++ i.branches.flatMap (·.warnings g source)

/-- All that is said of a script, of which a graph was rebuilt. -/
def StoredScript.warnings (r : Registry) (s : Settings) (g : Graph) (script : StoredScript) :
    List String :=
  let nodes := g.nodes.rows.take script.items.length
  itemWarnings r s 0 script.items nodes ++ startWarnings r script.items nodes ++
    (script.items.zip nodes).flatMap fun p ↦ p.1.wayWarnings s g p.2.id

/-! ## Nodes -/

namespace Canvas

variable {c c' : Canvas}

@[simp] theorem warnings_newId (c : Canvas) : c.newId.2.graph.warnings = c.graph.warnings :=
  c.graph.warnings_issue _

@[simp] theorem nodes_newId (c : Canvas) : c.newId.2.graph.nodes = c.graph.nodes :=
  c.graph.nodes_issue _

@[simp] theorem warnings_warn (c : Canvas) (message : String) :
    (c.warn message).graph.warnings = c.graph.warnings ++ [message] := rfl

@[simp] theorem nodes_warn (c : Canvas) (message : String) :
    (c.warn message).graph.nodes = c.graph.nodes := rfl

theorem warnings_itemId (c : Canvas) (index : Nat) (i : StoredItem) :
    (c.itemId index i).2.graph.warnings =
      c.graph.warnings ++ i.idWarnings index (c.itemId index i).1 := by
  rw [StoredItem.idWarnings, itemId]
  split
  · rename_i none
    rw [if_pos none]
    simp
  · rename_i own some
    rw [if_neg some]
    split
    · rename_i taken
      have other : i.id.getD "" ≠ c.newId.1 := fun same ↦
        c.offers_newId.new (same ▸ Graph.isIssued_iff.1 taken)
      simp [other]
    · simp

theorem warnings_addItem (r : Registry) (s : Settings) (c : Canvas) (index : Nat) (i : StoredItem) :
    (c.addItem r s index i).2.graph.warnings =
      c.graph.warnings ++ i.warnings r s index (c.addItem r s index i).1 := by
  have said : ∀ (d : Canvas) (warning : Option String),
      (warning.elim d d.warn).graph.warnings = d.graph.warnings ++ warning.toList := by
    rintro d (_ | message)
    · exact (List.append_nil _).symm
    · rfl
  have node : (c.addItem r s index i).1.id = (c.itemId index i).1 := rfl
  rw [StoredItem.warnings, node, ← List.append_assoc, ← c.warnings_itemId, ← said]
  exact Graph.warnings_insertNode _ _

theorem warnings_addItems (r : Registry) (s : Settings) (index : Nat) (items : List StoredItem)
    (c : Canvas) : (addItems r s index items c).2.graph.warnings =
      c.graph.warnings ++ itemWarnings r s index items (addItems r s index items c).1 := by
  induction items generalizing index c with
  | nil => exact (List.append_nil _).symm
  | cons i rest ih =>
    have others := ih (index + 1) (c.addItem r s index i).2
    rw [warnings_addItem, List.append_assoc] at others
    exact others

/-! ## The start -/

theorem warnings_addStart {target : Option String} (h : c.addStart r s target = (.ok (), c')) :
    c'.graph.warnings = c.graph.warnings := by
  rw [addStart] at h
  cases known : r.get? Kind.initTag with
  | none =>
    rw [known] at h
    cases h
  | some k =>
    simp only [known] at h
    cases target <;>
    · cases h
      simp [insertNode, insertEdge]

theorem warnings_ensureEntry {items : List StoredItem} {nodes : List Node}
    (h : c.ensureEntry r s items nodes = (.ok (), c')) :
    c'.graph.warnings = c.graph.warnings ++ startWarnings r items nodes := by
  rw [ensureEntry] at h
  rw [startWarnings]
  cases found : startNode? r items nodes with
  | none =>
    rw [found] at h
    rw [warnings_addStart h, warnings_warn]
  | some n =>
    rw [found] at h
    obtain ⟨d, marked, h⟩ : ∃ d : Canvas,
        d.graph.warnings = c.graph.warnings ++ markedWarnings (markedItems items) ∧
        (if r.isEntry n.type then (.ok (), d) else
          (d.warn s!"Entry item {n.id} is not a start node; added a start node before it").addStart
            r s n.id) = (.ok (), c') := by
      dsimp only at h
      generalize markedItems items = marked at h ⊢
      rcases marked with _ | ⟨first, _ | ⟨second, rest⟩⟩
      · exact ⟨c, (List.append_nil _).symm, h⟩
      · exact ⟨c, (List.append_nil _).symm, h⟩
      · exact ⟨_, rfl, h⟩
    dsimp only
    rw [← List.append_assoc, ← marked]
    split at h
    · rename_i entry
      cases h
      rw [if_pos entry, List.append_nil]
    · rename_i other
      rw [if_neg other, warnings_addStart h, warnings_warn]

/-! ## Ways on -/

/-- The canvas has the nodes of a graph, as it had them before, and some messages more. -/
structure Says (g : Graph) (c : Canvas) (messages : List String) (c' : Canvas) : Prop where
  nodes : c'.graph.nodes = g.nodes
  warnings : c'.graph.warnings = c.graph.warnings ++ messages

theorem Says.refl (same : c.graph.nodes = g.nodes) : Says g c [] c :=
  ⟨same, (List.append_nil _).symm⟩

theorem Says.trans {c'' : Canvas} {messages messages' : List String} (h : Says g c messages c')
    (h' : Says g c' messages' c'') : Says g c (messages ++ messages') c'' :=
  ⟨h'.nodes, by rw [h'.warnings, h.warnings, List.append_assoc]⟩

/-- What is said at each step of a fold is said one after the other. -/
theorem says_foldl {α : Type} {step : Canvas → α → Canvas} {said : α → List String}
    (each : ∀ c a, c.graph.nodes = g.nodes → Says g c (said a) (step c a)) (as : List α)
    (same : c.graph.nodes = g.nodes) : Says g c (as.flatMap said) (as.foldl step c) := by
  induction as generalizing c with
  | nil => exact .refl same
  | cons a rest ih =>
    have first := each c a same
    exact first.trans (ih first.nodes)

section Ways

variable (same : c.graph.nodes = g.nodes)
include same

theorem says_addWay (source target : String) (label sourceHandle : Option String) :
    Says g c (g.wayWarnings source target) (c.addWay source target label sourceHandle) := by
  have there : c.graph.hasNode target = g.hasNode target := congrArg (Table.has · target) same
  rw [addWay, Graph.wayWarnings, there]
  cases g.hasNode target with
  | true => exact ⟨by simpa [insertEdge] using same, by simp [insertEdge]⟩
  | false => exact ⟨by simpa [insertEdge] using same, by simp [insertEdge]⟩

theorem says_addBranch (source : String) (b : StoredBranch) :
    Says g c (b.warnings g source) (c.addBranch source b) := by
  rw [addBranch]
  split
  · rename_i none
    rw [StoredBranch.warnings, if_pos none]
    exact ⟨same, rfl⟩
  · rename_i some
    rw [StoredBranch.warnings, if_neg some]
    exact says_addWay same source _ b.label b.handle

theorem says_addWays (i : StoredItem) (n : Node) :
    Says g c (i.wayWarnings s g n.id) (c.addWays s i n) := by
  have next : ∃ d, Says g c (i.nextWarnings s g n.id) d ∧
      c.addWays s i n = i.branches.foldl (addBranch n.id) d := by
    rw [addWays, StoredItem.nextWarnings, StoredItem.nextTarget]
    cases i.next <|> i.connectedTo with
    | none => exact ⟨c, .refl same, rfl⟩
    | some target =>
      dsimp only
      split
      · exact ⟨c, .refl same, rfl⟩
      · exact ⟨_, says_addWay same n.id target none none, rfl⟩
  obtain ⟨d, said, ways⟩ := next
  rw [ways]
  exact said.trans (says_foldl (fun _ b same ↦ says_addBranch same n.id b) i.branches said.nodes)

end Ways

/-- While edges are added the nodes stay as they are, so each item is told what the rebuilt graph
says of it. -/
theorem warnings_foldl_addWays (s : Settings) (pairs : List (StoredItem × Node)) (c : Canvas) :
    let d := pairs.foldl (fun c (i, n) ↦ c.addWays s i n) c
    d.graph.nodes = c.graph.nodes ∧ d.graph.warnings = c.graph.warnings ++
      pairs.flatMap fun p ↦ p.1.wayWarnings s d.graph p.2.id := by
  intro d
  have said {g : Graph} (same : c.graph.nodes = g.nodes) :
      Says g c (pairs.flatMap fun p ↦ p.1.wayWarnings s g p.2.id) d :=
    says_foldl (fun _ p same ↦ says_addWays same p.1 p.2) pairs same
  have nodes := (said rfl).nodes
  exact ⟨nodes, (said nodes.symm).warnings⟩

end Canvas

/-! ## The graph -/

/-- The nodes of the items come first in a rebuilt graph. -/
theorem IsRebuilt.take_rows {source : IdSource} {nodes starts : List Node} {leads : List Edge}
    (h : IsRebuilt r s source script nodes starts leads g) :
    g.nodes.rows.take script.items.length = nodes := by
  rw [h.rows, ← h.items.length_eq, List.take_left]

/-- The warnings of a rebuilt graph are what is said of its script. -/
theorem StoredScript.warnings_rebuild (h : script.rebuild r s ids = (.ok g, ids')) :
    g.warnings = script.warnings r s g := by
  obtain ⟨items, first⟩ := Canvas.addItems_spec (r := r) (s := s) (c := .blank s ids)
    Canvas.isKept_blank 0 script.items
  have ofItems := Canvas.warnings_addItems r s 0 script.items (.blank s ids)
  rw [rebuild_eq] at h
  rcases start : script.entered r s ids with ⟨e | ⟨⟩, c⟩
  · rw [start] at h
    cases h
  · rw [start] at h
    obtain ⟨starts, _, -, second⟩ := Canvas.ensureEntry_spec first.kept start
    have ofStart := Canvas.warnings_ensureEntry start
    generalize Canvas.addItems r s 0 script.items (.blank s ids) = added at *
    obtain ⟨kept, ofWays⟩ := Canvas.warnings_foldl_addWays s (script.items.zip added.1) c
    obtain rfl := Except.ok.inj (congrArg Prod.fst h)
    have taken : c.graph.nodes.rows.take script.items.length = added.1 := by
      rw [second.nodes, first.nodes, ← items.length_eq]
      exact List.take_left
    rw [StoredScript.warnings, kept, taken, ofWays, ofStart, ofItems]
    rfl

end CallFlow
