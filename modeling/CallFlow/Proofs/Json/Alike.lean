import CallFlow.Proofs.Json.Sorted
import Mathlib.Data.List.Forall2
import Mathlib.Data.List.Perm.Basic

/-!
# Values that are alike

Two values are alike if they differ in nothing but the order of the members of their objects. No
object in either of them has two members of one name.

Putting names in order decides it: values with distinct names are alike exactly if they are equal
once their names are in order (`alike_iff`).
-/

namespace CallFlow

namespace Json

/-- The values are the same but for the order of names. Numbers are the same only within their own
kind: a whole number is not alike to a double. -/
inductive Alike : Json → Json → Prop
  | null : Alike .null .null
  | bool (b : Bool) : Alike (.bool b) (.bool b)
  | int (i : Int) : Alike (.int i) (.int i)
  | float (x : Binary64) : Alike (.float x) (.float x)
  | str (s : String) : Alike (.str s) (.str s)
  | arr {items items' : List Json} (length : items.length = items'.length)
      (each : ∀ p ∈ items.zip items', Alike p.1 p.2) : Alike (.arr items) (.arr items')
  | obj {ms ms' : Members} (distinct : ms.names.Nodup) (names : ms.names.Perm ms'.names)
      (each : ∀ name v v', Members.get? ms name = some v → Members.get? ms' name = some v' →
        Alike v v') : Alike (.obj ms) (.obj ms')

end Json

/-- The members are the same but for the order of names, at every level. -/
def Members.Alike (ms ms' : Members) : Prop := Json.Alike (.obj ms) (.obj ms')

/-! ## Lookups -/

namespace Members

variable {ms ms' : Members}

theorem mem_names_iff {name : String} : name ∈ ms.names ↔ ∃ v, get? ms name = some v := by
  rw [← Option.ne_none_iff_exists', Ne, get?_eq_none_iff, not_not]

/-- Members in order are determined by what is found under each name. -/
theorem eq_of_get? (h : Json.InOrder ms) (h' : Json.InOrder ms')
    (found : ∀ name, get? ms name = get? ms' name) : ms = ms' := by
  refine eq_of_inOrder ((List.perm_ext_iff_of_nodup h.nodup.of_map h'.nodup.of_map).2 ?_) h h'
  intro m
  rw [← get?_eq_some_iff h.nodup, ← get?_eq_some_iff h'.nodup, found]

/-- The same is found in the values under each name. -/
theorem sorted_eq_iff (distinct : ms.names.Nodup) (distinct' : ms'.names.Nodup) :
    ms.sorted = ms'.sorted ↔
      ∀ name, (get? ms name).map Json.sorted = (get? ms' name).map Json.sorted := by
  constructor
  · intro same name
    rw [← get?_sorted distinct, same, get?_sorted distinct']
  · intro found
    refine eq_of_get? (inOrder_sorted distinct) (inOrder_sorted distinct') fun name ↦ ?_
    rw [get?_sorted distinct, get?_sorted distinct', found]

end Members

namespace Json

/-! ## Alike means equal in order -/

theorem map_sorted_eq_iff {items items' : List Json} : items.map sorted = items'.map sorted ↔
    List.Forall₂ (fun v v' ↦ v.sorted = v'.sorted) items items' := by
  rw [← List.forall₂_eq_eq_eq, List.forall₂_map_left_iff, List.forall₂_map_right_iff]

namespace Alike

variable {v w : Json}

theorem hasDistinctNames (h : v.Alike w) : v.HasDistinctNames ∧ w.HasDistinctNames := by
  induction h with
  | null => exact ⟨.null, .null⟩
  | bool b => exact ⟨.bool b, .bool b⟩
  | int i => exact ⟨.int i, .int i⟩
  | float x => exact ⟨.float x, .float x⟩
  | str s => exact ⟨.str s, .str s⟩
  | @arr items items' length _ ih =>
    constructor
    · refine .arr fun v hv ↦ ?_
      rw [← List.map_fst_zip (Nat.le_of_eq length)] at hv
      obtain ⟨p, hp, rfl⟩ := List.mem_map.1 hv
      exact (ih p hp).1
    · refine .arr fun v hv ↦ ?_
      rw [← List.map_snd_zip (Nat.le_of_eq length.symm)] at hv
      obtain ⟨p, hp, rfl⟩ := List.mem_map.1 hv
      exact (ih p hp).2
  | @obj ms ms' distinct names _ ih =>
    have distinct' : ms'.names.Nodup := names.nodup_iff.1 distinct
    constructor
    · refine .obj distinct fun m hm ↦ ?_
      obtain ⟨v', hv'⟩ := Members.mem_names_iff.1 (names.mem_iff.1 (List.mem_map_of_mem hm))
      exact (ih m.1 m.2 v' ((Members.get?_eq_some_iff distinct).2 hm) hv').1
    · refine .obj distinct' fun m hm ↦ ?_
      obtain ⟨v, hv⟩ := Members.mem_names_iff.1 (names.mem_iff.2 (List.mem_map_of_mem hm))
      exact (ih m.1 v m.2 hv ((Members.get?_eq_some_iff distinct').2 hm)).2

theorem sorted_eq (h : v.Alike w) : v.sorted = w.sorted := by
  induction h with
  | null | bool | int | float | str => rfl
  | arr length _ ih =>
    rw [sorted_arr, sorted_arr]
    exact congrArg Json.arr
      (map_sorted_eq_iff.2 (List.forall₂_iff_zip.2 ⟨length, fun hp ↦ ih _ hp⟩))
  | @obj ms ms' distinct names _ ih =>
    rw [sorted_obj, sorted_obj]
    refine congrArg Json.obj ((Members.sorted_eq_iff distinct (names.nodup_iff.1 distinct)).2 ?_)
    intro name
    cases found : Members.get? ms name with
    | none =>
      have missing := mt names.mem_iff.2 (Members.get?_eq_none_iff.1 found)
      rw [Members.get?_eq_none_iff.2 missing]
    | some v =>
      obtain ⟨v', found'⟩ :=
        Members.mem_names_iff.1 (names.mem_iff.1 (Members.mem_names_iff.2 ⟨v, found⟩))
      rw [found', Option.map_some, Option.map_some, ih name v v' found found']

end Alike

variable {v w : Json}

/-- Values that are equal once their names are in order are alike. -/
theorem alike_of_sorted_eq (hv : v.HasDistinctNames) (hw : w.HasDistinctNames)
    (same : v.sorted = w.sorted) : v.Alike w := by
  induction hv generalizing w with
  | null => cases hw <;> cases same; exact .null
  | bool b => cases hw <;> cases same; exact .bool b
  | int i => cases hw <;> cases same; exact .int i
  | float x => cases hw <;> cases same; exact .float x
  | str s => cases hw <;> cases same; exact .str s
  | @arr items _ ih =>
    cases hw with
    | @arr items' each' =>
      rw [sorted_arr, sorted_arr] at same
      obtain ⟨length, each⟩ := List.forall₂_iff_zip.1 (map_sorted_eq_iff.1 (arr.inj same))
      refine .arr length fun p hp ↦ ?_
      have := List.of_mem_zip hp
      exact ih p.1 this.1 (each' p.2 this.2) (each hp)
    | _ => cases same
  | @obj ms distinct _ ih =>
    cases hw with
    | @obj ms' distinct' each' =>
      rw [sorted_obj, sorted_obj] at same
      have same := obj.inj same
      have names : ms.names.Perm ms'.names :=
        ms.names_sorted_perm.symm.trans (same ▸ ms'.names_sorted_perm)
      refine .obj distinct names fun name v v' found found' ↦ ?_
      have equal := (Members.sorted_eq_iff distinct distinct').1 same name
      rw [found, found'] at equal
      exact ih (name, v) (Members.mem_of_get? found) (each' _ (Members.mem_of_get? found'))
        (Option.some.inj equal)
    | _ => cases same

/-- Values are alike exactly if they are equal once their names are in order. -/
theorem alike_iff :
    v.Alike w ↔ v.HasDistinctNames ∧ w.HasDistinctNames ∧ v.sorted = w.sorted :=
  ⟨fun h ↦ ⟨h.hasDistinctNames.1, h.hasDistinctNames.2, h.sorted_eq⟩,
    fun ⟨hv, hw, same⟩ ↦ alike_of_sorted_eq hv hw same⟩

theorem Alike.symm (h : v.Alike w) : w.Alike v :=
  alike_iff.2 ⟨h.hasDistinctNames.2, h.hasDistinctNames.1, h.sorted_eq.symm⟩

theorem alike_refl (h : v.HasDistinctNames) : v.Alike v := alike_iff.2 ⟨h, h, rfl⟩

/-- A value is alike to the one with its names in order. -/
theorem alike_sorted (h : v.HasDistinctNames) : v.Alike v.sorted :=
  alike_iff.2 ⟨h, h.sorted, (sorted_sorted h).symm⟩

end Json

namespace Members

variable {ms ms' : Members}

theorem alike_iff :
    ms.Alike ms' ↔ ms.HaveDistinctNames ∧ ms'.HaveDistinctNames ∧ ms.sorted = ms'.sorted := by
  rw [Alike, Json.alike_iff, Json.sorted_obj, Json.sorted_obj, Json.obj.injEq]
  exact Iff.rfl

theorem Alike.symm (h : ms.Alike ms') : ms'.Alike ms := Json.Alike.symm h

theorem alike_refl (h : ms.HaveDistinctNames) : ms.Alike ms := Json.alike_refl h

theorem alike_sorted (h : ms.HaveDistinctNames) : ms.Alike ms.sorted :=
  alike_iff.2 ⟨h, h.sorted, (sorted_sorted h).symm⟩

theorem Alike.sorted_get? (h : ms.Alike ms') (name : String) :
    (get? ms name).map Json.sorted = (get? ms' name).map Json.sorted :=
  have ⟨distinct, distinct', same⟩ := alike_iff.1 h
  (sorted_eq_iff distinct.nodup distinct'.nodup).1 same name

end Members

end CallFlow
