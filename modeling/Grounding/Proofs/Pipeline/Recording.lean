import Grounding.Proofs.Pipeline.Simulation
import Grounding.Proofs.Record

/-!
# Recording what a pipeline calls

`PipelineLog` says which entries the calls of each kind of component append to a record; a kind that
is left out appends nothing. `Pipeline.logging` is the pipeline whose components write this log.
Transformers are told apart by their position. Callbacks are observers and write nothing.

The recording pipeline simulates the one that it records (`logging_simulates`), so that its runs
have the same outcomes and leave the same worlds: `run_logging`. Telling the callbacks appends
nothing and never fails: `records_tell`.
-/

set_option autoImplicit false
set_option relaxedAutoImplicit false

namespace Grounding

open Grounding.Action
open Grounding.Stream (sceneAfter)

variable {σ ε Payload : Type}

/-- What the calls of a pipeline append to a record, given how they end and what world they
leave. -/
structure PipelineLog (σ ε : Type) where
  transform : Nat → Query → Except Failure (Option Query) → σ → List ε := fun _ _ _ _ ↦ []
  expand : Query → Except Failure (Option (List Query)) → σ → List ε := fun _ _ _ ↦ []
  retrieve : Query → Except Failure (Option (List Document)) → σ → List ε := fun _ _ _ ↦ []
  join : Groups → Except Failure (Option (List Document)) → σ → List ε := fun _ _ _ ↦ []
  augment : Query → List Document → Except Failure Query → σ → List ε := fun _ _ _ _ ↦ []

/-- A transformer that writes a log. -/
def QueryTransformer.logging (transformer : QueryTransformer σ)
    (entries : Query → Except Failure (Option Query) → σ → List ε) :
    QueryTransformer (Recorded σ ε) where
  name := transformer.name
  literal := transformer.literal
  transform query := (transformer.transform query).logging (entries query)

/-- An expander that writes a log. -/
def QueryExpander.logging (expander : QueryExpander σ)
    (entries : Query → Except Failure (Option (List Query)) → σ → List ε) :
    QueryExpander (Recorded σ ε) where
  name := expander.name
  literal := expander.literal
  expand query := (expander.expand query).logging (entries query)

/-- A callback that leaves the record as it is. -/
def Callback.unrecorded (callback : Callback σ Payload) : Callback (Recorded σ ε) Payload where
  name := callback.name
  handler event := (callback.handler event).map fun handle payload ↦ (handle payload).unrecorded

/-- Transformers that write a log, the first one at a position. -/
def loggingFrom (log : PipelineLog σ ε) :
    Nat → List (QueryTransformer σ) → List (QueryTransformer (Recorded σ ε))
  | _, [] => []
  | position, transformer :: rest =>
    transformer.logging (log.transform position) :: loggingFrom log (position + 1) rest

theorem mem_loggingFrom {log : PipelineLog σ ε} {transformers : List (QueryTransformer σ)}
    {position : Nat} {transformer : QueryTransformer (Recorded σ ε)}
    (h : transformer ∈ loggingFrom log position transformers) :
    ∃ other ∈ transformers, ∃ place, transformer = other.logging (log.transform place) := by
  induction transformers generalizing position with
  | nil => cases h
  | cons head rest ih =>
    rcases List.mem_cons.mp h with rfl | hrest
    · exact ⟨head, List.mem_cons_self, position, rfl⟩
    · obtain ⟨other, hmem, place, hother⟩ := ih hrest
      exact ⟨other, List.mem_cons_of_mem head hmem, place, hother⟩

/-- A pipeline whose components write a log. -/
def Pipeline.logging (log : PipelineLog σ ε) (pipeline : Pipeline σ) :
    Pipeline (Recorded σ ε) where
  retriever := {
    name := pipeline.retriever.name
    literal := pipeline.retriever.literal
    retrieve := fun query ↦ (pipeline.retriever.retrieve query).logging (log.retrieve query) }
  transformers := loggingFrom log 0 pipeline.transformers
  expander := pipeline.expander.map fun expander ↦ expander.logging log.expand
  joiner := {
    literal := pipeline.joiner.literal
    join := fun groups ↦ (pipeline.joiner.join groups).logging (log.join groups) }
  augmenter := {
    literal := pipeline.augmenter.literal
    augment := fun query documents ↦
      (pipeline.augmenter.augment query documents).logging (log.augment query documents) }
  callbacks := pipeline.callbacks.map Callback.unrecorded

/-! ### The recording pipeline and the recorded one -/

theorem warnsAlike_forgets :
    WarnsAlike (Forgets : Scene (Recorded σ ε) → Scene σ → Prop) := by
  rintro warning scene _ rfl
  rfl

theorem unrecorded_simulates (callback : Callback σ Payload) :
    (callback.unrecorded : Callback (Recorded σ ε) Payload).Simulates Forgets callback where
  name_eq := rfl
  handler event := by
    show Option.Rel _ ((callback.handler event).map _) (callback.handler event)
    cases callback.handler event with
    | none => exact .none
    | some handle => exact .some fun payload ↦ simulates_logging

theorem loggingFrom_simulates (log : PipelineLog σ ε) (transformers : List (QueryTransformer σ))
    (position : Nat) :
    List.Forall₂ (QueryTransformer.Simulates Forgets) (loggingFrom log position transformers)
      transformers := by
  induction transformers generalizing position with
  | nil => exact .nil
  | cons transformer rest ih =>
    exact .cons ⟨rfl, fun query ↦ simulates_logging⟩ (ih (position + 1))

namespace Pipeline

variable {log : PipelineLog σ ε} {pipeline : Pipeline σ}

theorem logging_simulates : (pipeline.logging log).Simulates Forgets pipeline where
  retriever _ := simulates_logging
  transformers := loggingFrom_simulates log pipeline.transformers 0
  expander := by
    show Option.Rel _ (pipeline.expander.map _) pipeline.expander
    cases pipeline.expander with
    | none => exact .none
    | some expander => exact .some ⟨rfl, fun query ↦ simulates_logging⟩
  joiner _ := simulates_logging
  augmenter _ _ := simulates_logging
  callbacks := by
    refine List.forall₂_map_left_iff.mpr (List.forall₂_same.mpr fun callback _ ↦ ?_)
    exact unrecorded_simulates callback

/-- A recorded run has the outcome of the run itself and leaves the same world. -/
theorem run_logging (log : PipelineLog σ ε) (pipeline : Pipeline σ) (query : Query)
    (scene : Scene σ) (record : List ε) :
    ((pipeline.logging log).run query).outcome (scene.withRecord record) =
        (pipeline.run query).outcome scene ∧
      (sceneAfter ((pipeline.logging log).run query) (scene.withRecord record)).plain =
        sceneAfter (pipeline.run query) scene :=
  run_simulates warnsAlike_forgets logging_simulates query _ _ rfl

/-! ### Callbacks write nothing -/

theorem records_deliver (callback : Callback σ Payload) (event : PipelineEvent)
    (payload : Payload) :
    Records ((callback.unrecorded : Callback (Recorded σ ε) Payload).deliver event payload)
      fun result appended ↦ result = .ok () ∧ appended = [] := by
  simp only [Callback.deliver, Callback.unrecorded]
  cases callback.handler event with
  | none => exact records_pure ⟨rfl, rfl⟩
  | some handle =>
    rw [Option.map_some]
    refine records_bind (records_attempt (records_logging fun scene ↦ ?_))
    cases (handle payload).outcome scene with
    | ok _ => exact records_pure ⟨rfl, rfl⟩
    | error _ => exact fun later ↦ ⟨[], by simp [sceneAfter, warn, Scene.record], rfl, rfl⟩

theorem records_notify (callbacks : List (Callback σ Payload)) (event : PipelineEvent)
    (payload : Payload) :
    Records (notify event payload
        (callbacks.map Callback.unrecorded : List (Callback (Recorded σ ε) Payload)))
      fun result appended ↦ result = .ok () ∧ appended = [] := by
  induction callbacks with
  | nil => exact records_pure ⟨rfl, rfl⟩
  | cons callback rest ih =>
    refine records_bind (records_mono (records_deliver callback event payload) ?_)
    rintro _ _ ⟨rfl, rfl⟩
    exact ih

/-- Telling the callbacks appends nothing and never fails. -/
theorem records_tell (log : PipelineLog σ ε) (pipeline : Pipeline σ) (notice : Notice) :
    Records ((pipeline.logging log).tell notice)
      fun result appended ↦ result = .ok () ∧ appended = [] :=
  records_notify pipeline.callbacks notice.event notice

end Pipeline

end Grounding
