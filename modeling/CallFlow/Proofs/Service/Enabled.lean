import CallFlow.Proofs.Script.Verdict
import CallFlow.Proofs.Service.Consistent

/-!
# Enabled policies

A policy is validated when it becomes enabled and whenever it is saved, each time with other ids,
and never when it is loaded. Nevertheless the graph of an enabled policy is there and valid whenever
it is looked for, unless its body cannot be read.
-/

namespace CallFlow

open Json

variable {r : Registry} {s : Settings}

/-! ## Records -/

namespace Policy

variable {p q : Policy} {g : Graph} {ids ids' : IdStream} {source : IdSource}

/-- Whatever ids are drawn, the graph of a record is there and valid. -/
def IsRunnable (r : Registry) (s : Settings) (source : IdSource) (p : Policy) : Prop :=
  ∀ ids : IdStream, ids.source = source → ∃ g ids', p.HasGraph r s ids g ids' ∧ g.IsValid r

/-- The body of a record, if there is one, is a text that can be read. -/
def IsReadable (p : Policy) : Prop :=
  ∀ body, p.body = some body → (readDocument? body).isSome = true

/-- No id that may be drawn is a target in the script of a record without a body. -/
def IsApart (source : IdSource) (p : Policy) : Prop :=
  p.body.getD "" = "" → ∀ script, StoredScript.ofText (p.script.getD "") = .ok script →
    ∀ k, source.supply k ∉ script.targets

/-- The graph of a record depends on its documents alone. -/
theorem HasGraph.of_eq (h : p.HasGraph r s ids g ids') (body : q.body = p.body)
    (script : q.script = p.script) : q.HasGraph r s ids g ids' := by
  cases h with
  | body some loaded => exact .body (body ▸ some) (body ▸ loaded)
  | script none some read rebuilt =>
    exact .script (body ▸ none) (script ▸ some) (script ▸ read) rebuilt
  | fresh none none' made => exact .fresh (body ▸ none) (script ▸ none') made

/-- A record is runnable if its graph was valid once. -/
theorem HasGraph.isRunnable (h : p.HasGraph r s ids g ids') (apart : p.IsApart ids.source)
    (valid : g.IsValid r) : p.IsRunnable r s ids.source := by
  intro ids₂ same
  cases h with
  | body some loaded => exact ⟨g, ids₂, .body some loaded, valid⟩
  | script none some read rebuilt =>
    obtain ⟨g', ids₁, again, valid'⟩ :=
      StoredScript.exists_valid_rebuild same (apart none _ read) rebuilt valid
    exact ⟨g', ids₁, .script none some read again, valid'⟩
  | fresh none none' made =>
    obtain ⟨c, again, valid'⟩ := Canvas.exists_valid_fresh ids₂ made valid
    exact ⟨c.graph, c.ids, .fresh none none' again, valid'⟩

/-- A record whose body was made of a valid graph is runnable, if the body can be read. -/
theorem IsMadeOf.isRunnable (made : p.IsMadeOf r g) (readable : p.IsReadable)
    (valid : g.IsValid r) : p.IsRunnable r s source := by
  intro ids _
  obtain ⟨g', c, loaded, sorted, -⟩ := made.load (readable _ made.body)
  have body : p.body.getD "" = canonical g.toJson := by rw [made.body, Option.getD_some]
  exact ⟨g', ids, .body (body ▸ canonical_ne_empty _) (body ▸ loaded), sorted.isValid valid⟩

theorem IsMadeOf.body_ne_empty (made : p.IsMadeOf r g) : p.body.getD "" ≠ "" := by
  rw [made.body, Option.getD_some]
  exact canonical_ne_empty _

/-- The graph of a record that was made of one is loaded from its body. -/
theorem IsMadeOf.loaded_of_hasGraph {g₀ : Graph} (made : p.IsMadeOf r g₀)
    (h : p.HasGraph r s ids g ids') : Graph.ofBodyText (p.body.getD "") = .ok g := by
  cases h with
  | body _ loaded => exact loaded
  | script none => exact absurd none made.body_ne_empty
  | fresh none => exact absurd none made.body_ne_empty

/-- What has a graph has a body that can be read, or none. -/
theorem HasGraph.isReadable (h : p.HasGraph r s ids g ids') (consistent : p.IsConsistent r) :
    p.IsReadable := by
  intro body hb
  rcases consistent with none | ⟨g₀, made⟩
  · rw [none] at hb
    cases hb
  · have loaded := made.loaded_of_hasGraph h
    rw [hb, Option.getD_some] at loaded
    exact Graph.isSome_of_ofBodyText loaded

end Policy

/-! ## The invariant -/

namespace Service

variable {before after service : Service} {source : IdSource}

/-- The graph of a record is there, and nothing that is found in it is fatal. -/
def CanRun (r : Registry) (s : Settings) (service : Service) (p : Policy) : Prop :=
  ∃ g ids, p.HasGraph r s service.ids g ids ∧ Finding.areHarmless (g.validate r) = true

/-- What a run of the service keeps besides: an enabled policy is runnable, if its body can be read.
-/
structure IsGated (r : Registry) (s : Settings) (source : IdSource) (service : Service) : Prop where
  consistent : service.IsConsistent r source
  apart : ∀ p ∈ service.storage.records.rows, p.IsApart source
  gated : ∀ p ∈ service.storage.records.rows, p.status = .enabled → p.IsReadable →
    p.IsRunnable r s source

section Runs

variable (kinds : r.IsSound) (opaqueTag : s.opaqueTag ≠ "") (named : ∀ k, source.supply k ≠ "")
include kinds opaqueTag named

/-- One step lets only policies be enabled that are runnable. -/
theorem Step.isGated (step : Step r s before after) (h : before.IsGated r s source) :
    after.IsGated r s source where
  consistent := step.isConsistent kinds opaqueTag named h.consistent
  apart p hp := by
    cases step.records p hp with
    | kept there => exact h.apart p there
    | created _ _ _ compiled body =>
      obtain ⟨_, _, -, -, rfl⟩ := Compiled.ofGraph_eq_ok_iff.1 compiled
      rw [Policy.IsApart, body]
      exact fun empty ↦ absurd empty (canonical_ne_empty _)
    | saved there opened same _ compiled user =>
      have made := h.consistent.isMadeOf_saved there opened same compiled user
      exact fun empty ↦ absurd empty made.body_ne_empty
    | moved there =>
      have old := h.apart _ there
      exact old
  gated p hp enabled readable := by
    cases step.records p hp with
    | kept there => exact h.gated p there enabled readable
    | created _ _ _ _ _ _ draft =>
      rw [draft] at enabled
      cases enabled
    | saved there opened same harmless compiled user =>
      have made := h.consistent.isMadeOf_saved there opened same compiled user
      exact made.isRunnable readable ((Graph.areHarmless_validate ..).1 harmless)
    | moved there gate =>
      obtain ⟨g, ids, graph, harmless⟩ := gate enabled
      have apart := h.apart _ there
      rw [← h.consistent.source] at apart
      have runs := graph.isRunnable apart ((g.areHarmless_validate r).1 harmless)
      intro ids same
      obtain ⟨g', ids', graph', valid⟩ := runs ids (same.trans h.consistent.source.symm)
      exact ⟨g', ids', graph'.of_eq rfl rfl, valid⟩

theorem Reaches.isGated {start : Service} (reached : Reaches r s start service)
    (h : start.IsGated r s source) : service.IsGated r s source := by
  refine reached.keeps (fun fair h ↦ ?_) h
  have consistent := h.consistent
  exact (Event.step kinds (consistent.source ▸ named) consistent.graphs fair).isGated kinds
    opaqueTag named h

end Runs

/-- An enabled policy can be run exactly if its body, if it has one, can be read, in every state
that a service comes to whose policies were neither enabled nor saved at first: its graph is there,
and nothing that is found in it is fatal. That graph is the one that the service finds. -/
theorem enabled_runs_iff_readable (kinds : r.IsSound) (opaqueTag : s.opaqueTag ≠ "")
    {start : Service} (named : ∀ k, start.ids.source.supply k ≠ "")
    (unsaved : ∀ p ∈ start.storage.records.rows, p.body = none)
    (inactive : ∀ p ∈ start.storage.records.rows, p.status ≠ .enabled)
    (apart : ∀ p ∈ start.storage.records.rows, ∀ script,
      StoredScript.ofText (p.script.getD "") = .ok script →
        ∀ k, start.ids.source.supply k ∉ script.targets)
    (closed : start.sessions = .empty) (reached : Reaches r s start service) {p : Policy}
    (hp : p ∈ service.storage.records.rows) (enabled : p.status = .enabled) :
    (service.CanRun r s p ↔ ∀ body, p.body = some body → (readDocument? body).isSome = true) ∧
    ∀ g after, (graphOf r s p).exec service = (.ok g, after) ↔
      ∃ ids, p.HasGraph r s service.ids g ids ∧ after = { service with ids } := by
  have first : start.IsGated r s start.ids.source :=
    ⟨isConsistent_of_unsaved unsaved closed, fun q hq _ ↦ apart q hq,
      fun q hq enabled ↦ absurd enabled (inactive q hq)⟩
  have h := reached.isGated kinds opaqueTag named first
  refine ⟨⟨?_, fun readable ↦ ?_⟩, fun _ _ ↦ exec_graphOf_eq_ok_iff⟩
  · rintro ⟨g, ids, graph, -⟩
    exact graph.isReadable (h.consistent.records p hp)
  · obtain ⟨g, ids, graph, valid⟩ := h.gated p hp enabled readable service.ids h.consistent.source
    exact ⟨g, ids, graph, (g.areHarmless_validate r).2 valid⟩

theorem unwritten_oneDraft : ∀ p ∈ oneDraft.storage.records.rows, ∀ script,
    StoredScript.ofText (p.script.getD "") = .ok script →
      ∀ k, oneDraft.ids.source.supply k ∉ script.targets := by
  refine List.forall_mem_singleton.2 fun script read ↦ ?_
  have empty : (StoredScript.ofText "").toBool = false := by decide +kernel
  rw [show StoredScript.ofText "" = .ok script from read] at empty
  cases empty

/-- A draft that is enabled and then saved with a number added to its entry can be run. -/
theorem saved_draft_runs : ∃ service p, Reaches Catalog.registry {} oneDraft service ∧
    p ∈ service.storage.records.rows ∧ p.status = .enabled ∧
    service.CanRun Catalog.registry {} p ∧
    ∃ g after, (graphOf Catalog.registry {} p).exec service = (.ok g, after) ∧
      Finding.areHarmless (g.validate Catalog.registry) = true := by
  obtain ⟨-, c, saved, p, -, -, reached, hp, enabled, hb, text⟩ := exists_saved_draft (.int 0)
  obtain ⟨runs_iff, found⟩ := enabled_runs_iff_readable Catalog.drawnFrom_registry.isSound
    (by decide) named_oneDraft (by decide) (by decide) unwritten_oneDraft rfl reached hp enabled
  have runs : saved.CanRun Catalog.registry {} p := runs_iff.2 fun body some ↦ by
    obtain rfl := Option.some.inj (hb.symm.trans some)
    rw [text, (isSound_drawing (.int 0)).isSome_readDocument?]
    decide +kernel
  have ⟨g, ids, graph, harmless⟩ := runs
  exact ⟨saved, p, reached, hp, enabled, runs, g, _, (found g _).2 ⟨ids, graph, rfl⟩, harmless⟩

/-- Lists inside each other, as many as given, around a number. -/
def nested : Nat → Json
  | 0 => .int 0
  | n + 1 => .arr [nested n]

theorem hasDistinctNames_nested (n : Nat) : (nested n).HasDistinctNames := by
  induction n with
  | zero => exact .int 0
  | succ n ih => exact .arr (List.forall_mem_singleton.2 ih)

/-- A draft that is enabled and then saved with a deeply nested value added to its entry cannot be
run, for no document of such a depth is read: the condition on bodies cannot be dropped. -/
theorem deeply_nested_draft_does_not_run :
    (∀ k, oneDraft.ids.source.supply k ≠ "") ∧
    (∀ p ∈ oneDraft.storage.records.rows, p.body = none ∧ p.status ≠ .enabled ∧ ∀ script,
      StoredScript.ofText (p.script.getD "") = .ok script →
        ∀ k, oneDraft.ids.source.supply k ∉ script.targets) ∧
    oneDraft.sessions = .empty ∧
    ∃ service p, Reaches Catalog.registry {} oneDraft service ∧
      p ∈ service.storage.records.rows ∧ p.status = .enabled ∧
      ¬∃ g after, (graphOf Catalog.registry {} p).exec service = (.ok g, after) := by
  have unsaved : ∀ p ∈ oneDraft.storage.records.rows, p.body = none := by decide
  have inactive : ∀ p ∈ oneDraft.storage.records.rows, p.status ≠ .enabled := by decide
  refine ⟨named_oneDraft, fun p hp ↦ ⟨unsaved p hp, inactive p hp, unwritten_oneDraft p hp⟩, rfl,
    ?_⟩
  have distinct := hasDistinctNames_nested 200
  obtain ⟨-, c, saved, p, -, -, reached, hp, enabled, hb, text⟩ := exists_saved_draft distinct
  refine ⟨saved, p, reached, hp, enabled, ?_⟩
  rintro ⟨g, after, found⟩
  have h := reached.isConsistent Catalog.drawnFrom_registry.isSound (by decide) named_oneDraft
    (isConsistent_of_unsaved unsaved rfl)
  obtain ⟨ids, graph, -⟩ := exec_graphOf_eq_ok_iff.1 found
  have readable := graph.isReadable (h.records p hp) c.body hb
  have deep : fits .document (drawing (nested 200)).toJson = false := by decide +kernel
  rw [text, (isSound_drawing distinct).isSome_readDocument?, deep] at readable
  cases readable

end Service

end CallFlow
