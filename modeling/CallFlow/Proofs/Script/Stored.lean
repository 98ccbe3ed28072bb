import CallFlow.Proofs.Json.RoundTrip
import CallFlow.Proofs.Schema
import CallFlow.Proofs.Script
import CallFlow.Script.Stored

/-!
# Scripts read back from storage

A script that is stored and read again is found item by item as it was made, but for the order of
the names in the values of its items (`ofText_canonical`).
-/

namespace CallFlow

open Json

/-! ## Names -/

namespace Script

/-- The members of a branch. -/
def Branch.members (b : Branch) : Members :=
  [("label", Json.ofOption b.label), ("target", .str b.target)] ++ Edge.member "handle" b.handle

/-- The members of an item. -/
def Item.members (i : Item) : Members :=
  [("id", .str i.id), ("name", .str i.name), ("type", .str i.type),
      ("enabled", .bool i.enabled), ("variables", .obj i.values)] ++
    (if i.isEntry then [("entry", .bool true)] else []) ++ i.exit.members

theorem hasDistinctNames_ofOption (o : Option String) : (Json.ofOption o).HasDistinctNames := by
  cases o with
  | none => exact .null
  | some s => exact .str s

theorem Branch.haveDistinctNames (b : Branch) : b.members.HaveDistinctNames := by
  refine .obj ?_ ?_
  · cases h : b.handle <;> simp [members, h, Edge.member, Members.names]
  · cases h : b.handle <;>
      simp [members, h, Edge.member, hasDistinctNames_ofOption, HasDistinctNames.str]

theorem hasDistinctNames_branches (bs : List Branch) :
    (Json.arr (bs.map Branch.toJson)).HasDistinctNames :=
  .arr (List.forall_mem_map.2 fun b _ ↦ b.haveDistinctNames)

theorem hasDistinctNames_template (t : Option Int) :
    (t.elim Json.null Json.int).HasDistinctNames := by
  cases t with
  | none => exact .null
  | some i => exact .int i

theorem Item.nodup_names (i : Item) : i.members.names.Nodup := by
  rw [Item.members]
  cases i.isEntry <;> cases i.exit <;> simp [Exit.members, Members.names]

theorem Item.haveDistinctNames {i : Item} (values : i.values.HaveDistinctNames) :
    i.members.HaveDistinctNames := by
  refine .obj i.nodup_names fun m hm ↦ ?_
  rcases List.mem_append.1 hm with hm | hm
  · rcases List.mem_append.1 hm with hm | hm
    · simp only [List.mem_cons, List.not_mem_nil, or_false] at hm
      rcases hm with rfl | rfl | rfl | rfl | rfl
      · exact .str _
      · exact .str _
      · exact .str _
      · exact .bool _
      · exact values
    · split at hm
      · rw [List.mem_singleton.1 hm]
        exact .bool true
      · cases hm
  · cases hx : i.exit with
    | next template target =>
      simp only [hx, Exit.members, List.mem_cons, List.not_mem_nil, or_false] at hm
      rcases hm with rfl | rfl
      · exact hasDistinctNames_template template
      · exact hasDistinctNames_ofOption target
    | branches template bs =>
      simp only [hx, Exit.members, List.mem_cons, List.not_mem_nil, or_false] at hm
      rcases hm with rfl | rfl
      · exact hasDistinctNames_template template
      · exact hasDistinctNames_branches bs
    | inert bs =>
      simp only [hx, Exit.members, List.mem_cons, List.not_mem_nil, or_false] at hm
      rcases hm with rfl | rfl
      · exact .bool true
      · exact hasDistinctNames_branches bs

end Script

/-- The members of a script. -/
def Script.members (script : Script) : Members :=
  [("name", .str script.name), ("enabled", .bool true), ("type", .str script.type.scriptName),
    ("items", .arr (script.items.map Item.toJson))]

theorem Script.haveDistinctNames {script : Script}
    (values : ∀ i ∈ script.items, i.values.HaveDistinctNames) :
    script.members.HaveDistinctNames := by
  refine .obj (by simp [members, Members.names]) ?_
  simp only [members, List.forall_mem_cons, List.not_mem_nil, false_implies, implies_true, and_true]
  refine ⟨.str _, .bool true, .str _, .arr fun v hv ↦ ?_⟩
  obtain ⟨i, hi, rfl⟩ := List.mem_map.1 hv
  exact Script.Item.haveDistinctNames (values i hi)

/-! ## Names in order -/

namespace Script

/-- The item with the names of its values in order. -/
def Item.sorted (i : Item) : Item := { i with values := i.values.sorted }

/-- The text of an item does not tell in which order the names of its values were. -/
theorem Item.sorted_toJson {i : Item} (values : i.values.HaveDistinctNames) :
    i.sorted.toJson.sorted = i.toJson.sorted := by
  have same : (Json.obj i.values.sorted).sorted = (Json.obj i.values).sorted := by
    rw [sorted_obj, sorted_obj, Members.sorted_sorted values]
  change (Json.obj i.sorted.members).sorted = (Json.obj i.members).sorted
  rw [sorted_obj, sorted_obj, Members.sorted, Members.sorted, members, members]
  simp only [Item.sorted, List.map_append, List.map_cons, same]
  rfl

/-- The script with the names of all values in order. -/
def sorted (script : Script) : Script := { script with items := script.items.map Item.sorted }

theorem canonical_sorted (script : Script)
    (values : ∀ i ∈ script.items, i.values.HaveDistinctNames) :
    canonical script.sorted.toJson = canonical script.toJson := by
  have items : (Json.arr (script.sorted.items.map Item.toJson)).sorted =
      (Json.arr (script.items.map Item.toJson)).sorted := by
    rw [sorted_arr, sorted_arr, sorted, List.map_map, List.map_map, List.map_map]
    exact congrArg Json.arr (List.map_congr_left fun i hi ↦ Item.sorted_toJson (values i hi))
  have same : script.sorted.toJson.sorted = script.toJson.sorted := by
    change (Json.obj script.sorted.members).sorted = (Json.obj script.members).sorted
    rw [sorted_obj, sorted_obj, Members.sorted, Members.sorted, members, members]
    simp only [List.map_cons, items]
    rfl
  rw [canonical, canonical, same]

end Script

/-! ## Items -/

namespace Script

/-- A branch as it is found in storage. -/
def Branch.stored (b : Branch) : StoredBranch := ⟨b.label, some b.target, b.handle⟩

/-- An item as it is found in storage. -/
def Item.stored (i : Item) : StoredItem where
  id := i.id
  name := i.name
  type := i.type
  templateId := i.exit.template
  enabled := i.enabled
  isEntry := i.isEntry
  values := i.values.sorted
  next := i.exit.target?
  connectedTo := none
  branches := i.exit.ways.map Branch.stored

end Script

/-- A script as it is found in storage. -/
def Script.stored (s : Script) : StoredScript := ⟨s.items.map Item.stored⟩

namespace StoredScript

open Schema Script

/-! ## The check -/

theorem checkBranch_sorted (b : Branch) : checkBranch b.members.sorted = .sound b.stored := by
  have found := Members.get?_sorted b.haveDistinctNames.nodup
  have label : Members.get? b.members.sorted "label" = some (Json.ofOption b.label) := by
    rw [found]
    simp [Branch.members, Members.get?_cons, sorted_ofOption]
  have target : Members.get? b.members.sorted "target" = some (.str b.target) := by
    rw [found]
    simp [Branch.members, Members.get?_cons, Json.sorted]
  have handle : optional b.members.sorted "handle" none (nullable text) = .sound b.handle := by
    cases h : b.handle with
    | none =>
      refine optional_of_none ?_
      rw [found]
      simp [Branch.members, h, Edge.member, Members.get?_cons, Members.get?_nil]
    | some s =>
      refine optional_of_some (v := .str s) ?_ rfl
      rw [found]
      simp [Branch.members, h, Edge.member, Members.get?_cons, Json.sorted]
  rw [checkBranch, optional_of_some label (nullable_ofOption (fun _ ↦ rfl) b.label),
    optional_of_some target (a := some b.target) rfl, handle]
  rfl

/-- Under other names than those of the item itself stands its way on. -/
theorem get?_exit (i : Item) {name : String}
    (other : name ∉ ["id", "name", "type", "enabled", "variables", "entry"]) :
    Members.get? i.members name = Members.get? i.exit.members name := by
  simp only [List.mem_cons, List.not_mem_nil, or_false, not_or] at other
  obtain ⟨h₁, h₂, h₃, h₄, h₅, h₆⟩ := other
  cases h : i.isEntry <;>
    simp [Item.members, Members.get?_cons, h, h₁, h₂, h₃, h₄, h₅, h₆]

theorem get?_entry (i : Item) :
    Members.get? i.members "entry" = if i.isEntry then some (.bool true) else none := by
  have exit : Members.get? i.exit.members "entry" = none := by
    cases i.exit <;> simp [Exit.members, Members.get?_cons, Members.get?_nil]
  rw [Item.members, Members.get?_append, exit]
  cases i.isEntry <;> simp [Members.get?_cons, Members.get?_nil]

theorem nullable_template (t : Option Int) :
    nullable whole (t.elim Json.null Json.int) = .sound t := by
  cases t <;> rfl

theorem sorted_template (t : Option Int) :
    (t.elim Json.null Json.int).sorted = t.elim Json.null Json.int := by
  cases t <;> rfl

theorem list_checkBranch (bs : List Branch) :
    list (record .document checkBranch) (Json.arr (bs.map Branch.toJson)).sorted =
      .sound (bs.map Branch.stored) := by
  rw [sorted_arr, List.map_map]
  refine list_map fun b _ ↦ ?_
  change record .document checkBranch (Json.obj b.members).sorted = _
  rw [sorted_obj]
  exact checkBranch_sorted b

section Exit

variable {i : Item} (values : i.values.HaveDistinctNames)
include values

theorem get?_sorted_exit (name : String)
    (other : name ∉ ["id", "name", "type", "enabled", "variables", "entry"]) :
    Members.get? i.members.sorted name = (Members.get? i.exit.members name).map Json.sorted := by
  rw [Members.get?_sorted (Item.haveDistinctNames values).nodup, get?_exit i other]

theorem check_template :
    optional i.members.sorted (templateName i.members.sorted) none (nullable whole) =
      .sound i.exit.template := by
  have found := get?_sorted_exit values "templateId" (by decide)
  have found' := get?_sorted_exit values "template_id" (by decide)
  cases hx : i.exit with
  | next template target =>
    have here : Members.get? i.members.sorted "templateId" = some (template.elim .null .int) := by
      simp [found, hx, Exit.members, Members.get?_cons, sorted_template]
    rw [templateName, nameOf_of_some here]
    exact optional_of_some here (nullable_template template)
  | branches template bs =>
    have here : Members.get? i.members.sorted "templateId" = some (template.elim .null .int) := by
      simp [found, hx, Exit.members, Members.get?_cons, sorted_template]
    rw [templateName, nameOf_of_some here]
    exact optional_of_some here (nullable_template template)
  | inert bs =>
    rw [templateName, nameOf_of_none (by simp [found, hx, Exit.members, Members.get?_cons,
      Members.get?_nil])]
    exact optional_of_none (by simp [found', hx, Exit.members, Members.get?_cons, Members.get?_nil])

theorem check_inert : ∃ b, optional i.members.sorted "inert" false bool = .sound b := by
  have found := get?_sorted_exit values "inert" (by decide)
  cases hx : i.exit with
  | next template target =>
    exact ⟨_, optional_of_none (by simp [found, hx, Exit.members, Members.get?_cons,
      Members.get?_nil])⟩
  | branches template bs =>
    exact ⟨_, optional_of_none (by simp [found, hx, Exit.members, Members.get?_cons,
      Members.get?_nil])⟩
  | inert bs =>
    exact ⟨true, optional_of_some (v := .bool true) (by simp [found, hx, Exit.members,
      Members.get?_cons, Json.sorted]) rfl⟩

theorem check_next :
    optional i.members.sorted "next" none (nullable label) = .sound i.exit.target? := by
  have found := get?_sorted_exit values "next" (by decide)
  cases hx : i.exit with
  | next template target =>
    exact optional_of_some (v := Json.ofOption target) (by simp [found, hx, Exit.members,
      Members.get?_cons, sorted_ofOption]) (nullable_ofOption (fun _ ↦ rfl) target)
  | branches template bs =>
    exact optional_of_none (by simp [found, hx, Exit.members, Members.get?_cons, Members.get?_nil])
  | inert bs =>
    exact optional_of_none (by simp [found, hx, Exit.members, Members.get?_cons, Members.get?_nil])

theorem check_connected :
    optional i.members.sorted (connectedName i.members.sorted) none (nullable label) =
      .sound none := by
  have missing {name : String} (h : name = "connectedTo" ∨ name = "connected_to") :
      Members.get? i.members.sorted name = none := by
    rw [get?_sorted_exit values name (by rcases h with rfl | rfl <;> decide)]
    rcases h with rfl | rfl <;> cases i.exit <;>
      simp [Exit.members, Members.get?_cons, Members.get?_nil]
  rw [connectedName, nameOf_of_none (missing (.inl rfl))]
  exact optional_of_none (missing (.inr rfl))

theorem check_branches :
    optional i.members.sorted "branches" [] (list (record .document checkBranch)) =
      .sound (i.exit.ways.map Branch.stored) := by
  have found := get?_sorted_exit values "branches" (by decide)
  cases hx : i.exit with
  | next template target =>
    exact optional_of_none (by simp [found, hx, Exit.members, Members.get?_cons, Members.get?_nil])
  | branches template bs =>
    exact optional_of_some (v := (Json.arr (bs.map Branch.toJson)).sorted)
      (by simp [found, hx, Exit.members, Members.get?_cons]) (list_checkBranch bs)
  | inert bs =>
    exact optional_of_some (v := (Json.arr (bs.map Branch.toJson)).sorted)
      (by simp [found, hx, Exit.members, Members.get?_cons]) (list_checkBranch bs)

end Exit

theorem checkItem_sorted {i : Item} (values : i.values.HaveDistinctNames) :
    checkItem i.members.sorted = .sound i.stored := by
  have distinct := (Item.haveDistinctNames values).nodup
  have found := Members.get?_sorted distinct
  have own (name : String) (v : Json) (h : (name, v) ∈ i.members) :
      Members.get? i.members.sorted name = some v.sorted := by
    rw [found, (Members.get?_eq_some_iff distinct).2 h, Option.map_some]
  have id := own "id" (.str i.id) (by simp [Item.members])
  have name := own "name" (.str i.name) (by simp [Item.members])
  have type := own "type" (.str i.type) (by simp [Item.members])
  have enabled := own "enabled" (.bool i.enabled) (by simp [Item.members])
  have data := own "variables" (.obj i.values) (by simp [Item.members])
  have entry : optional i.members.sorted "entry" false bool = .sound i.isEntry := by
    cases h : i.isEntry with
    | false => exact optional_of_none (by rw [found, get?_entry, h]; rfl)
    | true => exact optional_of_some (v := .bool true) (by rw [found, get?_entry, h]; rfl) rfl
  obtain ⟨inert, hi⟩ := check_inert values
  rw [sorted_obj] at data
  rw [checkItem, optional_of_some id (a := some i.id) rfl,
    optional_of_some name (a := some i.name) rfl, optional_of_some type (a := some i.type) rfl,
    check_template values, optional_of_some enabled (a := i.enabled) rfl, entry, hi,
    optional_of_some data (a := i.values.sorted) rfl, check_next values, check_connected values,
    check_branches values]
  rfl

/-! ## Scripts -/

/-- A script that was stored and read is found as it was made, but for the order of names. -/
theorem ofJson_sorted {script : Script} (values : ∀ i ∈ script.items, i.values.HaveDistinctNames) :
    ofJson script.toJson.sorted = .ok script.stored := by
  have distinct := (Script.haveDistinctNames values).nodup
  have own (name : String) (v : Json) (h : (name, v) ∈ script.members) :
      Members.get? script.members.sorted name = some v.sorted := by
    rw [Members.get?_sorted distinct, (Members.get?_eq_some_iff distinct).2 h, Option.map_some]
  have name := own "name" (.str script.name) (by simp [Script.members])
  have enabled := own "enabled" (.bool true) (by simp [Script.members])
  have type := own "type" (.str script.type.scriptName) (by simp [Script.members])
  have items := own "items" (.arr (script.items.map Item.toJson))
    (by simp [Script.members])
  have each : list (record .document checkItem) (Json.arr (script.items.map Item.toJson)).sorted =
      .sound (script.items.map Item.stored) := by
    rw [sorted_arr, List.map_map]
    refine list_map fun i hi ↦ ?_
    change record .document checkItem (Json.obj i.members).sorted = _
    rw [sorted_obj]
    exact checkItem_sorted (values i hi)
  have sound : check (.obj script.members.sorted) = .sound script.stored := by
    rw [check, record, optional_of_some name (a := script.name) rfl,
      optional_of_some enabled (a := true) rfl,
      optional_of_some type (a := some script.type.scriptName) rfl, optional_of_some items each]
    rfl
  change ofJson (Json.obj script.members).sorted = _
  rw [sorted_obj, ofJson, sound]

/-- A stored text that can be read at all is read as the script that it was written for. -/
theorem ofText_canonical {script : Script}
    (values : ∀ i ∈ script.items, i.values.HaveDistinctNames)
    (readable : (readDocument? (canonical script.toJson)).isSome = true) :
    ofText (canonical script.toJson) = .ok script.stored := by
  obtain ⟨v, hv⟩ := Option.isSome_iff_exists.1 readable
  obtain rfl := readDocument?_canonical (Script.haveDistinctNames values) hv
  rw [ofText, hv]
  exact ofJson_sorted values

end StoredScript

end CallFlow
