import CallFlow.Proofs.Edit
import CallFlow.Proofs.Json.Reader
import CallFlow.Proofs.Script.Rebuild

/-!
# Rebuilt graphs are sound

Whatever a stored script says, the graph that is rebuilt from it is one that a document can hold,
and so is a fresh graph.
-/

namespace CallFlow

open Json Schema

variable {r : Registry} {s : Settings} {g : Graph}

/-! ## Scripts that were read -/

namespace StoredScript

/-- The values of items that were read have distinct names. -/
theorem values_of_checkItem {ms : Members} (distinct : ms.HaveDistinctNames) {i : StoredItem}
    (h : checkItem ms = .sound i) : i.values.HaveDistinctNames := by
  obtain ⟨_, _, h₁, -, rfl⟩ := Checked.seq_eq_sound_iff.1 h
  obtain ⟨_, _, h₂, -, rfl⟩ := Checked.seq_eq_sound_iff.1 h₁
  obtain ⟨_, _, h₃, -, rfl⟩ := Checked.seq_eq_sound_iff.1 h₂
  obtain ⟨_, values, h₄, found, rfl⟩ := Checked.seq_eq_sound_iff.1 h₃
  obtain ⟨_, _, h₅, -, rfl⟩ := Checked.seq_eq_sound_iff.1 h₄
  obtain ⟨_, _, h₆, -, rfl⟩ := Checked.seq_eq_sound_iff.1 h₅
  obtain ⟨_, _, h₇, -, rfl⟩ := Checked.seq_eq_sound_iff.1 h₆
  obtain ⟨_, _, h₈, -, rfl⟩ := Checked.seq_eq_sound_iff.1 h₇
  obtain ⟨_, _, h₉, -, rfl⟩ := Checked.seq_eq_sound_iff.1 h₈
  obtain ⟨_, _, h₁₀, -, rfl⟩ := Checked.seq_eq_sound_iff.1 h₉
  obtain ⟨_, -, rfl⟩ := Checked.map_eq_sound_iff.1 h₁₀
  change values.HaveDistinctNames
  rcases optional_eq_sound found with rfl | ⟨v, found, sound⟩
  · exact .obj List.nodup_nil fun _ hm ↦ (nomatch hm)
  · have distinct := distinct.each _ (Members.mem_of_get? found)
    cases v with
    | obj values' =>
      cases sound
      exact distinct
    | null | bool | int | float | str | arr => cases sound

theorem values_of_ofText {text : String} {script : StoredScript} (h : ofText text = .ok script) :
    ∀ i ∈ script.items, i.values.HaveDistinctNames := by
  rw [ofText] at h
  split at h
  · rename_i v hv
    rw [ofJson] at h
    split at h
    · rename_i read sound
      cases h
      obtain ⟨ms, rfl, sound⟩ := record_eq_sound sound
      have distinct : Members.HaveDistinctNames ms := hasDistinctNames_readDocument? hv
      obtain ⟨_, items, h₁, found, rfl⟩ := Checked.seq_eq_sound_iff.1 sound
      obtain ⟨_, _, h₂, -, rfl⟩ := Checked.seq_eq_sound_iff.1 h₁
      obtain ⟨_, _, h₃, -, rfl⟩ := Checked.seq_eq_sound_iff.1 h₂
      obtain ⟨_, -, rfl⟩ := Checked.map_eq_sound_iff.1 h₃
      change ∀ i ∈ items, i.values.HaveDistinctNames
      rcases optional_eq_sound found with rfl | ⟨v, found, sound⟩
      · intro i hi
        cases hi
      · have distinct := distinct.each _ (Members.mem_of_get? found)
        obtain ⟨vs, rfl, each⟩ := list_eq_sound sound
        intro i hi
        obtain ⟨w, hw, sound⟩ := each i hi
        obtain ⟨ms', rfl, sound⟩ := record_eq_sound sound
        cases distinct with
        | arr each => exact values_of_checkItem (each _ hw) sound
    · cases h
  · cases h

end StoredScript

/-! ## Rebuilt graphs -/

section Rebuilt

variable (kinds : r.IsSound) (opaqueTag : s.opaqueTag ≠ "")
include kinds opaqueTag

theorem StoredItem.kindTag_ne_empty (i : StoredItem) : i.kindTag r s ≠ "" := by
  rw [kindTag, tag]
  split
  · split
    · rename_i k hk
      obtain ⟨template, -, hk⟩ := Option.bind_eq_some_iff.1 hk
      exact kinds.tags k (Registry.mem_of_ofTemplate? kinds.templates hk)
    · exact opaqueTag
  · rename_i some
    exact some

omit kinds opaqueTag in
theorem StoredItem.haveDistinctNames_data {i : StoredItem} (values : i.values.HaveDistinctNames)
    (tag : String) : (i.data r tag).HaveDistinctNames := by
  rw [data]
  refine Members.HaveDistinctNames.set ?_ _ (.bool _)
  split
  · exact values.set _ (.str _)
  · exact values

variable {source : IdSource} (named : ∀ k, source.supply k ≠ "")
include named

theorem AreItemNodes.isSound {taken : List String} {index : Nat} {items : List StoredItem}
    {nodes : List Node} (values : ∀ i ∈ items, i.values.HaveDistinctNames)
    (h : AreItemNodes r s source taken index items nodes) : ∀ n ∈ nodes, n.IsSound := by
  induction h with
  | nil => exact fun _ hn ↦ (nomatch hn)
  | @cons _ _ i items id nodes given others ih =>
    refine List.forall_mem_cons.2 ⟨⟨?_, i.kindTag_ne_empty kinds opaqueTag, rfl, rfl, ?_, rfl⟩, ?_⟩
    · cases given with
      | own _ some _ => exact some
      | drawn k _ _ => exact named k
    · exact StoredItem.haveDistinctNames_data (values i List.mem_cons_self) _
    · exact ih fun j hj ↦ values j (List.mem_cons_of_mem i hj)

omit opaqueTag in
theorem isSound_start {k : Kind} (known : r.get? Kind.initTag = some k) (j : Nat) :
    (s.start k (source.supply j)).IsSound :=
  ⟨named j, show Kind.initTag ≠ "" by decide, rfl, rfl,
    kinds.initialData (Registry.mem_of_get? known).1, rfl⟩

omit kinds opaqueTag named in
theorem isView_blank : Members.IsView [("x", .int 0), ("y", .int 0), ("zoom", .float s.zoom)] := by
  refine ⟨.obj (by simp [Members.names]) ?_, ?_⟩
  · simp [HasDistinctNames.int, HasDistinctNames.float]
  · intro k hk v hv
    simp only [Body.viewportFields, List.mem_cons, List.not_mem_nil, or_false] at hk
    rcases hk with rfl | rfl | rfl <;> (simp [Members.get?_cons] at hv; subst hv; rfl)

/-- The graph that is rebuilt from a script is sound. -/
theorem IsRebuilt.isSound {script : StoredScript} {nodes starts : List Node} {leads : List Edge}
    (values : ∀ i ∈ script.items, i.values.HaveDistinctNames)
    (h : IsRebuilt r s source script nodes starts leads g) : g.IsSound where
  nodes n hn := by
    rw [h.rows] at hn
    rcases List.mem_append.1 hn with hn | hn
    · exact h.items.isSound kinds opaqueTag named values n hn
    · obtain ⟨k, j, known, rfl⟩ := h.start.start_of_mem hn
      exact isSound_start kinds named known j
  edges e he := by
    obtain ⟨k, hk⟩ := h.drawn e he
    refine ⟨hk ▸ named k, ?_⟩
    have mem := List.mem_map_of_mem (f := Edge.unnamed) he
    rw [h.edges] at mem
    change e.unnamed.extras = []
    rcases List.mem_append.1 mem with mem | mem
    · obtain ⟨_, _, -, -, hl⟩ := h.start.lead_of_mem mem
      rw [hl]
    · obtain ⟨p, -, mem⟩ := List.mem_flatMap.1 mem
      exact (StoredItem.edges_spec mem).2.2
  viewport := h.viewport ▸ isView_blank
  kept := h.kept

end Rebuilt

/-! ## Fresh graphs -/

theorem isSound_fresh (kinds : r.IsSound) {ids : IdStream} (named : ∀ k, ids.source.supply k ≠ "")
    {c : Canvas} (h : Canvas.fresh r s ids = .ok c) : c.graph.IsSound := by
  obtain ⟨k, known, -, rfl⟩ := Canvas.fresh_eq_ok_iff.1 h
  have mem := (Registry.mem_of_get? known).1
  refine ⟨List.forall_mem_singleton.2 ?_, fun _ he ↦ (nomatch he), isView_blank,
    Canvas.isKept_lone ..⟩
  exact ⟨named _, kinds.tags k mem, rfl, rfl, kinds.initialData mem, rfl⟩

end CallFlow
