import Grounding.Proofs.Pipeline.Order

/-!
# The failures of a run

A run fails because of one call of a component, the last one that it makes, and how it fails depends
on this call alone: `run_fails_with`. Failures of the library and time-outs are handed on as they
are. Other failures of transformers and of the expander become transformation failures that name the
component, those of the retriever become retrieval failures that name the query, each with the
failure behind it; joiner and augmenter hand on everything. An answer that is not acceptable has no
failure behind it.

The cases are the constructors of `Pipeline.FailsWith`. Two of them are about a retriever or a
joiner that gives null instead of a list, which is refused as a value of the wrong type.
-/

set_option autoImplicit false
set_option relaxedAutoImplicit false

namespace Grounding.Pipeline

open Grounding.Action
open Grounding.Stream (sceneAfter)
open PipelineExchange (StopsRun)

variable {σ : Type}

/-- Recording the calls of a run does not change it. If a call fails or gets an answer that is not
acceptable, the run has no result and fails as this call makes it. A run that fails for any reason
does so because of its last call. -/
theorem run_fails_with (pipeline : Pipeline σ) (query : Query) (scene : Scene σ) :
    (((pipeline.logging .exchanges).run query).outcome (scene.withRecord []) =
        (pipeline.run query).outcome scene ∧
      (sceneAfter ((pipeline.logging .exchanges).run query) (scene.withRecord [])).plain =
        sceneAfter (pipeline.run query) scene) ∧
    (∀ exchange ∈ pipeline.exchanges query scene, StopsRun exchange →
      ∃ failure, (pipeline.run query).outcome scene = .error failure ∧
        pipeline.FailsWith exchange failure) ∧
    ∀ failure, (pipeline.run query).outcome scene = .error failure →
      ∃ done last, pipeline.exchanges query scene = done ++ [last] ∧
        pipeline.FailsWith last failure := by
  have hsame := run_logging .exchanges pipeline query scene []
  refine ⟨hsame, ?_⟩
  obtain ⟨_, _, ⟨plan, rfl, rfl⟩, -, hresult, hfailed, -, hlast⟩ :=
    exists_plan (follows_run_until pipeline query) (fun _ _ hfails ↦ hfails.stopsRun) (by
      rintro _ _ ⟨plan, rfl, -⟩
      exact plan.not_stopsRun) (Scene.record_withRecord scene []) rfl
  rw [hsame.1] at hresult hfailed
  have hcause : ∀ failure, (pipeline.run query).outcome scene = .error failure →
      ∃ done last, pipeline.exchanges query scene = done ++ [last] ∧
        pipeline.FailsWith last failure := by
    intro failure hfailure
    obtain ⟨done, _, last, _, -, hcalls, -, hfails⟩ := hfailed failure hfailure
    exact ⟨done, last, hcalls, hfails⟩
  refine ⟨fun exchange hmem hstops ↦ ?_, hcause⟩
  cases houtcome : (pipeline.run query).outcome scene with
  | ok result =>
    have hcalls : pipeline.exchanges query scene = plan.exchanges :=
      ((hresult result).mp houtcome).1
    exact absurd hstops (plan.not_stopsRun exchange (hcalls ▸ hmem))
  | error failure =>
    obtain ⟨done, last, hcalls, hfails⟩ := hcause failure houtcome
    obtain ⟨before, after, hsplit⟩ := List.append_of_mem hmem
    obtain rfl : after = [] := hlast before exchange after hsplit hstops
    obtain ⟨-, hsame⟩ := List.append_inj' (hsplit.symm.trans hcalls) rfl
    obtain rfl := List.singleton_inj.mp hsame
    exact ⟨failure, rfl, hfails⟩

end Grounding.Pipeline
