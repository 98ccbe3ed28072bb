import CallFlow.Proofs.Json.Members

/-!
# Names in order

Putting the names of a value in order keeps all that can be found in it, and changes nothing the
second time.
-/

namespace CallFlow

namespace Json

variable {ms : Members}

/-! ## Sorting members -/

theorem insertMember_perm (m : String × Json) (ms : Members) :
    (insertMember m ms).Perm (m :: ms) := by
  induction ms with
  | nil => exact .refl _
  | cons n rest ih =>
    rw [insertMember]
    split
    · exact .refl _
    · exact (ih.cons n).trans (.swap m n rest)

theorem sortMembers_perm (ms : Members) : (sortMembers ms).Perm ms := by
  induction ms with
  | nil => exact .refl _
  | cons m rest ih => exact (insertMember_perm m _).trans (ih.cons m)

/-- The names increase. -/
def InOrder (ms : Members) : Prop := ms.Pairwise fun m n ↦ m.1 < n.1

theorem InOrder.nodup (h : InOrder ms) : ms.names.Nodup :=
  List.Pairwise.map _ (fun _ _ ↦ String.ne_of_lt) h

theorem inOrder_insertMember {m : String × Json} (h : InOrder ms) (new : m.1 ∉ ms.names) :
    InOrder (insertMember m ms) := by
  induction ms with
  | nil => exact List.pairwise_singleton ..
  | cons n rest ih =>
    obtain ⟨first, later⟩ := List.pairwise_cons.1 h
    obtain ⟨other, others⟩ := not_or.1 (mt List.mem_cons.2 new)
    rw [insertMember]
    split
    · rename_i before
      refine List.pairwise_cons.2 ⟨fun k hk ↦ ?_, h⟩
      rcases List.mem_cons.1 hk with rfl | hk
      · exact before
      · exact String.lt_trans before (first k hk)
    · rename_i after
      have after : n.1 < m.1 := String.not_le.1 fun le ↦
        other (String.le_antisymm le (String.not_lt.1 after))
      refine List.pairwise_cons.2 ⟨fun k hk ↦ ?_, ih later others⟩
      rcases List.mem_cons.1 ((insertMember_perm m rest).mem_iff.1 hk) with rfl | hk
      · exact after
      · exact first k hk

theorem inOrder_sortMembers (distinct : ms.names.Nodup) : InOrder (sortMembers ms) := by
  induction ms with
  | nil => exact .nil
  | cons m rest ih =>
    obtain ⟨first, others⟩ := List.nodup_cons.1 distinct
    refine inOrder_insertMember (ih others) fun h ↦ first ?_
    exact ((sortMembers_perm rest).map _).mem_iff.1 h

/-- Names that are in order stay where they are. -/
theorem sortMembers_eq_self (h : InOrder ms) : sortMembers ms = ms := by
  induction ms with
  | nil => rfl
  | cons m rest ih =>
    obtain ⟨first, later⟩ := List.pairwise_cons.1 h
    change insertMember m (sortMembers rest) = m :: rest
    rw [ih later]
    cases rest with
    | nil => rfl
    | cons n rest => rw [insertMember, if_pos (first n List.mem_cons_self)]

end Json

/-! ## Sorting values -/

/-- The members with the names in order at every level. -/
def Members.sorted (ms : Members) : Members :=
  Json.sortMembers (ms.map fun m ↦ (m.1, m.2.sorted))

namespace Json

theorem sorted_arr (items : List Json) : sorted (.arr items) = .arr (items.map sorted) := by
  have each : sortedItems items = items.map sorted := by
    induction items with
    | nil => rfl
    | cons v rest ih => rw [sortedItems, ih, List.map_cons]
  rw [sorted, each]

theorem sorted_ofOption (o : Option String) : (ofOption o).sorted = ofOption o := by
  cases o <;> rfl

theorem sorted_obj (ms : Members) : sorted (.obj ms) = .obj ms.sorted := by
  have each : sortedMembers ms = ms.map fun m ↦ (m.1, m.2.sorted) := by
    induction ms with
    | nil => rfl
    | cons m rest ih => rw [sortedMembers, ih, List.map_cons]
  rw [sorted, each, Members.sorted]

end Json

namespace Members

open Json

variable {ms : Members}

theorem names_map (f : Json → Json) (ms : Members) :
    names (ms.map fun m ↦ (m.1, f m.2)) = ms.names := by
  simp [names, Function.comp_def]

theorem sorted_perm (ms : Members) : ms.sorted.Perm (ms.map fun m ↦ (m.1, m.2.sorted)) :=
  sortMembers_perm _

theorem names_sorted_perm (ms : Members) : ms.sorted.names.Perm ms.names := by
  have := ms.sorted_perm.map Prod.fst
  rwa [← names, ← names, names_map] at this

theorem inOrder_sorted (distinct : ms.names.Nodup) : InOrder ms.sorted :=
  inOrder_sortMembers ((names_map Json.sorted ms).symm ▸ distinct)

/-- Under every name there is the value from before, with its names in order. -/
theorem get?_sorted (distinct : ms.names.Nodup) (name : String) :
    get? ms.sorted name = (get? ms name).map Json.sorted := by
  rw [get?_perm ms.sorted_perm (inOrder_sorted distinct).nodup, get?_map]

/-- Members in order are determined by which they are. -/
theorem eq_of_inOrder {ms' : Members} (perm : ms.Perm ms') (h : InOrder ms) (h' : InOrder ms') :
    ms = ms' :=
  perm.eq_of_pairwise (fun _ _ _ _ lt gt ↦ absurd gt (String.lt_asymm lt)) h h'

/-- It makes no difference whether members are left out before or after names are put in order. -/
theorem without_sorted (distinct : ms.names.Nodup) (names : List String) :
    ms.sorted.without names = (ms.without names).sorted := by
  refine eq_of_inOrder ?_ ((inOrder_sorted distinct).sublist List.filter_sublist)
    (inOrder_sorted (distinct.sublist (List.filter_sublist.map Prod.fst)))
  refine (ms.sorted_perm.filter _).trans (.trans ?_ (sorted_perm _).symm)
  rw [List.filter_map]
  exact .refl _

end Members

namespace Json

theorem HasDistinctNames.sorted {v : Json} (h : v.HasDistinctNames) :
    v.sorted.HasDistinctNames := by
  induction h with
  | null => exact .null
  | bool b => exact .bool b
  | int i => exact .int i
  | float x => exact .float x
  | str s => exact .str s
  | arr each ih =>
    rw [sorted_arr]
    refine .arr fun v hv ↦ ?_
    obtain ⟨w, hw, rfl⟩ := List.mem_map.1 hv
    exact ih w hw
  | @obj ms distinct each ih =>
    rw [sorted_obj]
    refine .obj (Members.inOrder_sorted distinct).nodup fun m hm ↦ ?_
    obtain ⟨n, hn, rfl⟩ := List.mem_map.1 (ms.sorted_perm.mem_iff.1 hm)
    exact ih n hn

/-- Names are put in order once. -/
theorem sorted_sorted {v : Json} (h : v.HasDistinctNames) : v.sorted.sorted = v.sorted := by
  induction h with
  | null | bool | int | float | str => rfl
  | arr each ih =>
    rw [sorted_arr, sorted_arr, List.map_map]
    exact congrArg arr (List.map_congr_left ih)
  | @obj ms distinct each ih =>
    have same : (ms.sorted.map fun m ↦ (m.1, m.2.sorted)) = ms.sorted := by
      refine List.map_congr_left (fun m hm ↦ ?_) |>.trans (List.map_id _)
      obtain ⟨n, hn, rfl⟩ := List.mem_map.1 (ms.sorted_perm.mem_iff.1 hm)
      exact congrArg (Prod.mk n.1) (ih n hn)
    rw [sorted_obj, sorted_obj, Members.sorted, same,
      sortMembers_eq_self (Members.inOrder_sorted distinct)]

end Json

theorem Members.HaveDistinctNames.sorted {ms : Members} (h : ms.HaveDistinctNames) :
    ms.sorted.HaveDistinctNames := by
  have := Json.HasDistinctNames.sorted h
  rwa [Json.sorted_obj] at this

theorem Members.sorted_sorted {ms : Members} (h : ms.HaveDistinctNames) :
    ms.sorted.sorted = ms.sorted := by
  have := Json.sorted_sorted h
  rw [Json.sorted_obj, Json.sorted_obj] at this
  exact Json.obj.inj this

end CallFlow
