import CallFlow.Http
import CallFlow.Proofs.Compiled
import CallFlow.Proofs.Service.Steps

/-!
# Validation and compilation agree

Validation looks at a graph check by check, compilation node by node along a walk that stops at the
first fault. They agree nevertheless: there is no script exactly if the entry is not alone or a node
that is reached from it is faulty, and what passes validation compiles. So whoever validates first
is never refused by the compiler.
-/

namespace CallFlow

variable {r : Registry}

namespace Compiled

open Operation

/-- A script is missing exactly if there is not one entry, or a node reached from it is faulty. -/
theorem exists_scriptError_iff {g : Graph} {name : String} {type : PolicyType} :
    (∃ e, Script.ofGraph r g name type = .error e) ↔ (g.entries r).length ≠ 1 ∨
      ∃ entry ∈ g.entries r, ∃ n ∈ g.nodes.rows, g.Reaches entry.id n.id ∧ g.Faulty r n := by
  rw [Result.exists_error_iff, ← not_iff_not, not_not]
  simp only [Script.ofGraph_eq_ok_iff, Graph.mem_preorder]
  constructor
  · rintro ⟨_, entry, he, sound, -⟩ (many | ⟨entry', he', n, hn, reached, faulty⟩)
    · simp [he] at many
    · obtain rfl : entry' = entry := by simpa [he] using he'
      exact sound n ⟨hn, reached⟩ faulty
  · intro h
    rw [not_or, ne_eq, not_not] at h
    obtain ⟨entry, he⟩ := List.length_eq_one_iff.1 h.1
    refine ⟨_, entry, he, fun n hn faulty ↦ h.2 ?_, rfl⟩
    exact ⟨entry, by simp [he], n, hn.1, hn.2, faulty⟩

section Passed

variable (drawn : r.DrawnFrom Catalog.kinds) (known : r.isKnown Kind.inputTag = true)
include drawn known

theorem ofGraph_ne_error {g : Graph} (harmless : Finding.areHarmless (g.validate r) = true)
    (name : String) (type : PolicyType) (e : CompileError) :
    ofGraph r g name type ≠ .error e := by
  intro h
  obtain ⟨c, hc⟩ := exists_ofGraph_of_isValid name type drawn known
    ((g.areHarmless_validate r).1 harmless)
  simp [h] at hc

/-- A save that is refused is refused for another reason than the compiler's. -/
theorem savePolicy_ne_compileError (service after : Service) (id user : String) (e : CompileError) :
    (Service.savePolicy r id user).exec service ≠ (.error (.compile e), after) := by
  intro h
  rcases Service.savePolicy_cases h with ⟨_, ⟨⟩, -, refused⟩ | ⟨_, _, _, ⟨⟩, _⟩
  obtain ⟨session, harmless, he⟩ := refused e rfl
  exact ofGraph_ne_error drawn known harmless _ _ e he

/-- So is a graph that belongs to no policy. -/
theorem compileGraph_ne_compileError (service after : Service) (request : Http.CompileRequest)
    (e : CompileError) :
    (Http.compileGraph r request).exec service ≠ (.error (.compile e), after) := by
  intro h
  simp only [Http.compileGraph, exec_bind, exec_ofResult, exec_refuseIf] at h
  cases hg : Graph.ofBody request.body with
  | error => simp [hg, Result.mapError_error] at h
  | ok g =>
    simp only [hg, Result.mapError_ok] at h
    split at h
    · simp at h
    rename_i harmless
    cases hc : ofGraph r g request.name request.type with
    | error refusal =>
      exact ofGraph_ne_error drawn known (by simpa using harmless) _ _ refusal hc
    | ok c => simp [hc, Result.mapError_ok] at h

end Passed

/-- Validation and compilation agree on every graph: a script is missing exactly if the graph has
not one entry or a node that is reached from it is faulty, and a graph without fatal findings has
one. If the registry knows the kind that holds phone numbers, such a graph compiles, so neither a
save nor the compilation of a graph is ever refused by the compiler. -/
theorem validation_agrees_with_compilation (drawn : r.DrawnFrom Catalog.kinds) :
    (∀ g name type, ((∃ e, Script.ofGraph r g name type = .error e) ↔
      (g.entries r).length ≠ 1 ∨
        ∃ entry ∈ g.entries r, ∃ n ∈ g.nodes.rows, g.Reaches entry.id n.id ∧ g.Faulty r n)) ∧
    (∀ g name type, Finding.areHarmless (g.validate r) = true →
      ∃ script, Script.ofGraph r g name type = .ok script) ∧
    (r.isKnown Kind.inputTag = true →
      (∀ g name type, Finding.areHarmless (g.validate r) = true →
        ∃ c, Compiled.ofGraph r g name type = .ok c) ∧
      (∀ service after id user e,
        (Service.savePolicy r id user).exec service ≠ (.error (.compile e), after)) ∧
      ∀ service after request e,
        (Http.compileGraph r request).exec service ≠ (.error (.compile e), after)) := by
  refine ⟨fun _ _ _ ↦ exists_scriptError_iff, fun g _ _ harmless ↦ ?_, fun known ↦ ⟨?_, ?_, ?_⟩⟩
  · exact exists_script_of_isValid drawn ((g.areHarmless_validate r).1 harmless)
  · exact fun g _ _ harmless ↦
      exists_ofGraph_of_isValid _ _ drawn known ((g.areHarmless_validate r).1 harmless)
  · exact savePolicy_ne_compileError drawn known
  · exact compileGraph_ne_compileError drawn known

/-- With the full catalog, an entry alone compiles. -/
theorem catalog_compiles_lone_entry :
    let g : Graph :=
      { nodes := Table.empty.put
          { id := "start", type := "init", data := [("name", .str "Start")] } }
    Catalog.registry.DrawnFrom Catalog.kinds ∧
      ∃ c, ofGraph Catalog.registry g "Main" .call = .ok c :=
  have agree := validation_agrees_with_compilation Catalog.drawnFrom_registry
  ⟨Catalog.drawnFrom_registry, (agree.2.2 (by decide)).1 _ _ _ (by decide +kernel)⟩

end Compiled

end CallFlow
