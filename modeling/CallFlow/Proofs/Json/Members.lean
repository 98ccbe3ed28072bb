import CallFlow.Json
import Mathlib.Data.List.Nodup
import Mathlib.Data.List.Perm.Basic

/-!
# Members of objects

What is found under a name after members are put in. A value has distinct names if no object in it
has two members of one name (`HasDistinctNames`); the order of the members then does not matter for
what is found.
-/

namespace CallFlow

namespace Json

/-! ## Induction -/

/-- What holds of a list or an object if it holds of all that is in it holds of every value. -/
@[elab_as_elim]
theorem inductionOn {P : Json → Prop} (null : P .null) (bool : ∀ b, P (.bool b))
    (int : ∀ i, P (.int i)) (float : ∀ x, P (.float x)) (str : ∀ s, P (.str s))
    (arr : ∀ items, (∀ v ∈ items, P v) → P (.arr items))
    (obj : ∀ members : Members, (∀ m ∈ members, P m.2) → P (.obj members)) : ∀ v : Json, P v
  | .null => null
  | .bool b => bool b
  | .int i => int i
  | .float x => float x
  | .str s => str s
  | .arr items => arr items fun v _ ↦ inductionOn null bool int float str arr obj v
  | .obj members => obj members fun m _ ↦ inductionOn null bool int float str arr obj m.2
decreasing_by
  · have := List.sizeOf_lt_of_mem ‹v ∈ items›
    simp only [Json.arr.sizeOf_spec]
    omega
  · have := List.sizeOf_lt_of_mem ‹m ∈ members›
    have : sizeOf m.2 < sizeOf m := by
      cases m
      simp only [Prod.mk.sizeOf_spec]
      omega
    simp only [Json.obj.sizeOf_spec]
    omega

/-- The items of a list; no other value has any. -/
def items : Json → List Json
  | .arr vs => vs
  | _ => []

/-! ## Distinct names -/

/-- No object in the value has two members of one name. -/
inductive HasDistinctNames : Json → Prop
  | null : HasDistinctNames .null
  | bool (b : Bool) : HasDistinctNames (.bool b)
  | int (i : Int) : HasDistinctNames (.int i)
  | float (x : Binary64) : HasDistinctNames (.float x)
  | str (s : String) : HasDistinctNames (.str s)
  | arr {items : List Json} (each : ∀ v ∈ items, HasDistinctNames v) : HasDistinctNames (.arr items)
  | obj {members : Members} (distinct : members.names.Nodup)
      (each : ∀ m ∈ members, HasDistinctNames m.2) : HasDistinctNames (.obj members)

mutual

/-- Whether no object in the value has two members of one name. -/
def namesDiffer : Json → Bool
  | .arr items => itemsDiffer items
  | .obj members => decide (Members.names members).Nodup && membersDiffer members
  | _ => true

/-- Whether this holds of all items. -/
def itemsDiffer : List Json → Bool
  | [] => true
  | v :: vs => namesDiffer v && itemsDiffer vs

/-- Whether this holds of the values of all members. -/
def membersDiffer : List (String × Json) → Bool
  | [] => true
  | (_, v) :: ms => namesDiffer v && membersDiffer ms

end

theorem namesDiffer_iff (v : Json) : namesDiffer v = true ↔ v.HasDistinctNames := by
  induction v using inductionOn with
  | null => exact iff_of_true rfl .null
  | bool b => exact iff_of_true rfl (.bool b)
  | int i => exact iff_of_true rfl (.int i)
  | float x => exact iff_of_true rfl (.float x)
  | str s => exact iff_of_true rfl (.str s)
  | arr items ih =>
    have each : itemsDiffer items = true ↔ ∀ v ∈ items, v.HasDistinctNames := by
      induction items with
      | nil => simp [itemsDiffer]
      | cons v rest ihr =>
        rw [itemsDiffer, Bool.and_eq_true, List.forall_mem_cons, ih v List.mem_cons_self,
          ihr fun w hw ↦ ih w (List.mem_cons_of_mem v hw)]
    rw [namesDiffer, each]
    exact ⟨.arr, fun h ↦ by cases h; assumption⟩
  | obj ms ih =>
    have each : membersDiffer ms = true ↔ ∀ m ∈ ms, m.2.HasDistinctNames := by
      induction ms with
      | nil => simp [membersDiffer]
      | cons m rest ihr =>
        rw [membersDiffer, Bool.and_eq_true, List.forall_mem_cons, ih m List.mem_cons_self,
          ihr fun n hn ↦ ih n (List.mem_cons_of_mem m hn)]
    rw [namesDiffer, Bool.and_eq_true, decide_eq_true_iff, each]
    exact ⟨fun h ↦ .obj h.1 h.2, fun h ↦ by cases h; exact ⟨‹_›, ‹_›⟩⟩

instance (v : Json) : Decidable v.HasDistinctNames := decidable_of_iff _ (namesDiffer_iff v)

end Json

namespace Members

open Json

variable {ms : Members}

/-- No two members have one name, and no object in a value has two members of one name. -/
def HaveDistinctNames (ms : Members) : Prop := HasDistinctNames (.obj ms)

instance (ms : Members) : Decidable ms.HaveDistinctNames :=
  inferInstanceAs (Decidable (HasDistinctNames (.obj ms)))

namespace HaveDistinctNames

theorem nodup (h : ms.HaveDistinctNames) : ms.names.Nodup := by
  cases h
  assumption

theorem each (h : ms.HaveDistinctNames) : ∀ m ∈ ms, HasDistinctNames m.2 := by
  cases h
  assumption

end HaveDistinctNames

/-! ## Looking up members -/

theorem get?_nil (name : String) : get? [] name = none := rfl

theorem get?_cons (name key : String) (v : Json) (ms : Members) :
    get? ((key, v) :: ms) name = if name = key then some v else get? ms name := by
  rw [get?, List.lookup_cons]
  by_cases h : name = key
  · simp [h]
  · rw [if_neg h, beq_eq_false_iff_ne.2 h]
    rfl

theorem get?_append (ms ms' : Members) (name : String) :
    get? (ms ++ ms') name = (get? ms name).or (get? ms' name) := by
  induction ms with
  | nil => rfl
  | cons m rest ih =>
    rw [List.cons_append, get?_cons, get?_cons, ih]
    split <;> rfl

theorem names_append (ms ms' : Members) : names (ms ++ ms') = ms.names ++ ms'.names :=
  List.map_append

theorem get?_eq_none_iff {name : String} : get? ms name = none ↔ name ∉ ms.names := by
  induction ms with
  | nil => simp [get?, names]
  | cons m rest ih =>
    rw [get?_cons]
    split
    · simp_all [names]
    · rename_i h
      rw [ih]
      simp [names, h]

theorem mem_of_get? {name : String} {v : Json} (h : get? ms name = some v) : (name, v) ∈ ms := by
  induction ms with
  | nil => cases h
  | cons m rest ih =>
    rw [get?_cons] at h
    split at h
    · rename_i e
      cases h
      exact List.mem_cons.2 (.inl (by rw [e]))
    · exact List.mem_cons_of_mem m (ih h)

/-- Under a name there is the member that has it. -/
theorem get?_eq_some_iff (distinct : ms.names.Nodup) {name : String} {v : Json} :
    get? ms name = some v ↔ (name, v) ∈ ms := by
  refine ⟨mem_of_get?, fun h ↦ ?_⟩
  cases found : get? ms name with
  | none => exact absurd (List.mem_map_of_mem h) (get?_eq_none_iff.1 found)
  | some w =>
    have := List.inj_on_of_nodup_map distinct (mem_of_get? found) h rfl
    simp_all

/-- The order of members does not matter for what is found. -/
theorem get?_perm {ms' : Members} (perm : ms.Perm ms') (distinct : ms.names.Nodup) (name : String) :
    get? ms name = get? ms' name := by
  have distinct' : ms'.names.Nodup := (perm.map _).nodup_iff.1 distinct
  refine Option.ext fun v ↦ ?_
  rw [get?_eq_some_iff distinct, get?_eq_some_iff distinct', perm.mem_iff]

theorem get?_map (f : Json → Json) (name : String) :
    get? (ms.map fun m ↦ (m.1, f m.2)) name = (get? ms name).map f := by
  induction ms with
  | nil => rfl
  | cons m rest ih =>
    rw [List.map_cons, get?_cons, ih, get?_cons]
    split <;> rfl

/-! ## Members put in -/

theorem get?_set (name key : String) (v : Json) :
    get? (ms.set key v) name = if name = key then some v else get? ms name := by
  induction ms with
  | nil => rw [set, get?_cons]
  | cons m rest ih =>
    obtain ⟨n, w⟩ := m
    rw [set]
    split
    · rename_i h
      subst h
      rw [get?_cons, get?_cons]
      split <;> rfl
    · rename_i h
      rw [get?_cons, ih, get?_cons]
      split
      · rename_i e
        rw [if_neg (e ▸ h)]
      · rfl

theorem names_set (key : String) (v : Json) :
    (ms.set key v).names = if key ∈ ms.names then ms.names else ms.names ++ [key] := by
  induction ms with
  | nil => simp [set, names]
  | cons m rest ih =>
    obtain ⟨n, w⟩ := m
    rw [set]
    by_cases h : n = key
    · simp [h, names]
    · have h' : key ≠ n := fun e ↦ h e.symm
      simp only [h, if_false, names, List.map_cons] at ih ⊢
      rw [ih]
      by_cases mem : key ∈ rest.map (·.1)
      · simp [mem]
      · simp [mem, h']

theorem mem_set {key : String} {v : Json} {m : String × Json} (h : m ∈ ms.set key v) :
    m ∈ ms ∨ m = (key, v) := by
  induction ms with
  | nil => simpa [set] using h
  | cons n rest ih =>
    rw [set] at h
    split at h
    · rename_i e
      rcases List.mem_cons.1 h with rfl | h
      · exact .inr (by rw [e])
      · exact .inl (List.mem_cons_of_mem n h)
    · rcases List.mem_cons.1 h with rfl | h
      · exact .inl List.mem_cons_self
      · exact (ih h).imp_left (List.mem_cons_of_mem n)

theorem set_of_notMem {key : String} (v : Json) (h : key ∉ ms.names) :
    ms.set key v = ms ++ [(key, v)] := by
  induction ms with
  | nil => rfl
  | cons n rest ih =>
    obtain ⟨first, others⟩ := not_or.1 (mt List.mem_cons.2 h)
    rw [set, if_neg (fun e ↦ first e.symm), ih others, List.cons_append]

/-- Members of new names are put in at the end. -/
theorem update_eq_append {changes : Members} (new : ∀ m ∈ changes, m.1 ∉ ms.names)
    (distinct : changes.names.Nodup) : ms.update changes = ms ++ changes := by
  induction changes generalizing ms with
  | nil => simp [update]
  | cons m rest ih =>
    obtain ⟨others, distinct⟩ := List.nodup_cons.1 distinct
    have here := set_of_notMem m.2 (new m List.mem_cons_self)
    have later : ∀ m' ∈ rest, m'.1 ∉ (ms.set m.1 m.2).names := fun m' hm' ↦ by
      rw [here, names_append]
      refine fun h ↦ (List.mem_append.1 h).elim (new m' (List.mem_cons_of_mem m hm')) fun h ↦ ?_
      have same : m'.1 = m.1 := List.mem_singleton.1 h
      exact others (List.mem_map.2 ⟨m', hm', same⟩)
    change update (ms.set m.1 m.2) rest = _
    rw [ih later distinct, here, List.append_assoc, List.singleton_append]

theorem ofPairs_eq_self (distinct : ms.names.Nodup) : ofPairs ms = ms :=
  update_eq_append (fun _ _ ↦ by simp [names]) distinct

/-! ## Members under other names -/

theorem get?_without (names : List String) (name : String) :
    get? (ms.without names) name = if name ∈ names then none else get? ms name := by
  induction ms with
  | nil => simp [without, get?_nil]
  | cons m rest ih =>
    rw [without] at ih ⊢
    by_cases h : m.1 ∈ names
    · rw [List.filter_cons_of_neg (by simpa using h), ih, get?_cons]
      split
      · rfl
      · rename_i other
        rw [if_neg fun e : name = m.1 ↦ other (e ▸ h)]
    · rw [List.filter_cons_of_pos (by simpa using h), get?_cons, get?_cons, ih]
      split
      · rename_i e
        rw [if_neg (e ▸ h)]
      · rfl

theorem without_set {names : List String} {key : String} (v : Json) (h : key ∈ names) :
    (ms.set key v).without names = ms.without names := by
  induction ms with
  | nil => simp [set, without, h]
  | cons m rest ih =>
    rw [set]
    split
    · rename_i e
      simp [without, e, h]
    · simp only [without, List.filter_cons] at ih ⊢
      rw [ih]

theorem without_eq_self {names : List String} (h : ∀ name ∈ ms.names, name ∉ names) :
    ms.without names = ms :=
  List.filter_eq_self.2 fun m hm ↦ by simpa using h m.1 (List.mem_map_of_mem hm)

theorem without_eq_nil {names : List String} (h : ∀ name ∈ ms.names, name ∈ names) :
    ms.without names = [] :=
  List.filter_eq_nil_iff.2 fun m hm ↦ by simpa using h m.1 (List.mem_map_of_mem hm)

theorem without_append (ms ms' : Members) (names : List String) :
    without (ms ++ ms') names = ms.without names ++ ms'.without names := List.filter_append ..

/-- What else there is does not hide what is found under a name of its own. -/
theorem get?_append_own {own : Members} (apart : ∀ name ∈ ms.names, name ∉ own.names)
    {m : String × Json} (distinct : own.names.Nodup) (h : m ∈ own) :
    get? (ms ++ own) m.1 = some m.2 := by
  have new : get? ms m.1 = none :=
    get?_eq_none_iff.2 fun inside ↦ apart m.1 inside (List.mem_map_of_mem h)
  rw [get?_append, new, Option.none_or, (get?_eq_some_iff distinct).2 h]

/-- The members that are declared are told from those that are not. -/
theorem without_append_own {own : Members} {names : List String}
    (other : ∀ name ∈ ms.names, name ∉ names) (declared : ∀ name ∈ own.names, name ∈ names) :
    without (ms ++ own) names = ms := by
  rw [without_append, without_eq_self other, without_eq_nil declared, List.append_nil]

theorem mem_names_without {names : List String} {name : String} :
    name ∈ (ms.without names).names ↔ name ∈ ms.names ∧ name ∉ names := by
  rw [← not_iff_not, ← get?_eq_none_iff, get?_without, not_and_or, not_not, ← get?_eq_none_iff]
  split
  · rename_i inside
    exact iff_of_true rfl (.inr inside)
  · rename_i outside
    exact (or_iff_left outside).symm

namespace HaveDistinctNames

variable {v : Json} {changes : Members}

theorem set (h : ms.HaveDistinctNames) (key : String) (hv : v.HasDistinctNames) :
    (ms.set key v).HaveDistinctNames := by
  refine .obj ?_ fun m hm ↦ (mem_set hm).elim (h.each m) fun e ↦ e ▸ hv
  rw [names_set]
  split
  · exact h.nodup
  · rename_i new
    refine List.nodup_append.2 ⟨h.nodup, List.nodup_singleton key, ?_⟩
    intro a ha b hb e
    exact new (List.mem_singleton.1 hb ▸ e ▸ ha)

theorem update (h : ms.HaveDistinctNames) (each : ∀ m ∈ changes, m.2.HasDistinctNames) :
    (ms.update changes).HaveDistinctNames := by
  induction changes generalizing ms with
  | nil => exact h
  | cons m rest ih =>
    exact ih (h.set m.1 (each m List.mem_cons_self)) fun n hn ↦ each n (List.mem_cons_of_mem m hn)

theorem without (h : ms.HaveDistinctNames) (names : List String) :
    (ms.without names).HaveDistinctNames :=
  .obj (h.nodup.sublist (List.filter_sublist.map Prod.fst)) fun m hm ↦
    h.each m (List.mem_of_mem_filter hm)

theorem append {ms' : Members} (h : ms.HaveDistinctNames) (h' : ms'.HaveDistinctNames)
    (apart : ∀ name ∈ ms.names, name ∉ ms'.names) : (ms ++ ms').HaveDistinctNames := by
  refine .obj ?_ (List.forall_mem_append.2 ⟨h.each, h'.each⟩)
  rw [names_append]
  exact List.nodup_append.2 ⟨h.nodup, h'.nodup, fun a ha b hb e ↦ apart a ha (e ▸ hb)⟩

end HaveDistinctNames

theorem haveDistinctNames_ofPairs (each : ∀ m ∈ ms, m.2.HasDistinctNames) :
    (ofPairs ms).HaveDistinctNames :=
  HaveDistinctNames.update (.obj List.nodup_nil fun _ hm ↦ (nomatch hm)) each

end Members

end CallFlow
