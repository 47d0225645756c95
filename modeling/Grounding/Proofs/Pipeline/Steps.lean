import Grounding.Proofs.Pipeline.Order

/-!
# The steps of a run

A run proceeds in steps. In a step a component is called, or a handler of a callback is told a
notice; in between the pipeline itself does no more than give a warning for a handler that failed.
`Pipeline.steps` are the steps of a run in order, each with the scenes that it found and left.

They are recorded by a pipeline that watches its components and its callbacks (`Pipeline.watched`).
This pipeline simulates the one that records its calls, so that it runs as the pipeline itself does
and the calls among the steps are the calls of the run: `run_watched`.
-/

set_option autoImplicit false
set_option relaxedAutoImplicit false

namespace Grounding

open Grounding.Action
open Grounding.Stream (sceneAfter)

variable {σ α : Type}

/-- A notice that a callback is told, with the place at which the callback is registered and its
name. -/
structure Telling where
  position : Nat
  callback : String
  notice : Notice

/-- What happens in a step of a run. -/
inductive PipelineDeed
  | called (exchange : PipelineExchange)
  | told (telling : Telling) (outcome : Except Failure Unit)

/-- A step of a run, with the scenes before and after it. -/
structure PipelineStep (σ : Type) where
  deed : PipelineDeed
  before : Scene σ
  after : Scene σ

namespace PipelineStep

/-- The call that a step is. -/
def exchange? (step : PipelineStep σ) : Option PipelineExchange :=
  match step.deed with
  | .called exchange => some exchange
  | .told _ _ => none

/-- The notice that is told in a step. -/
def telling? (step : PipelineStep σ) : Option Telling :=
  match step.deed with
  | .called _ => none
  | .told telling _ => some telling

/-- The scene in which a run goes on after a step. There is one more warning if a handler failed. -/
def settled (step : PipelineStep σ) : Scene σ :=
  match step.deed with
  | .told telling (.error _) =>
    { step.after with
      warnings := step.after.warnings ++
        [.callbackFailed telling.callback telling.notice.event.name] }
  | _ => step.after

/-- The calls among steps. -/
def calls (steps : List (PipelineStep σ)) : List PipelineExchange :=
  steps.filterMap exchange?

/-- The notices that are told in steps. -/
def tellings (steps : List (PipelineStep σ)) : List Telling :=
  steps.filterMap telling?

/-- Steps that lead from one scene to another: each one finds the scene in which the run goes on
after the one before. -/
def Leads : Scene σ → List (PipelineStep σ) → Scene σ → Prop
  | first, [], last => last = first
  | first, step :: rest, last => step.before = first ∧ Leads step.settled rest last

theorem calls_append (steps more : List (PipelineStep σ)) :
    calls (steps ++ more) = calls steps ++ calls more :=
  List.filterMap_append

theorem tellings_append (steps more : List (PipelineStep σ)) :
    tellings (steps ++ more) = tellings steps ++ tellings more :=
  List.filterMap_append

/-- Assumes: steps that lead to the scene that further ones start from. -/
theorem leads_append {first middle last : Scene σ} {steps more : List (PipelineStep σ)}
    (hsteps : Leads first steps middle) (hmore : Leads middle more last) :
    Leads first (steps ++ more) last := by
  induction steps generalizing first with
  | nil =>
    obtain rfl := hsteps
    exact hmore
  | cons step rest ih => exact ⟨hsteps.1, ih hsteps.2⟩

end PipelineStep

/-! ### Pipelines that are watched -/

/-- An action that records the step in which it is used. -/
def Action.watched (deed : Except Failure α → PipelineDeed) (action : Action σ α) :
    Action (Recorded σ (PipelineStep σ)) α :=
  action.witnessing fun before outcome after ↦ [⟨deed outcome, before, after⟩]

/-- An action that records the call that it stands for as a step. -/
def Action.watchedCall (call : PipelineCall) (answer : α → PipelineAnswer) (action : Action σ α) :
    Action (Recorded σ (PipelineStep σ)) α :=
  action.watched fun outcome ↦ .called (.entry call answer outcome)

/-- A transformer at a position that records its calls. -/
def QueryTransformer.watched (transformer : QueryTransformer σ) (position : Nat) :
    QueryTransformer (Recorded σ (PipelineStep σ)) where
  name := transformer.name
  literal := transformer.literal
  transform query := (transformer.transform query).watchedCall (.transform position query)
    .transformed

/-- An expander that records its calls. -/
def QueryExpander.watched (expander : QueryExpander σ) :
    QueryExpander (Recorded σ (PipelineStep σ)) where
  name := expander.name
  literal := expander.literal
  expand query := (expander.expand query).watchedCall (.expand query) .expanded

/-- A callback at a position that records what it is told. -/
def Callback.watched (callback : Callback σ Notice) (position : Nat) :
    Callback (Recorded σ (PipelineStep σ)) Notice where
  name := callback.name
  handler event := (callback.handler event).map fun handle notice ↦
    (handle notice).watched (.told ⟨position, callback.name, notice⟩)

/-- Callbacks that record what they are told, the first one at a position. -/
def watchedFrom (position : Nat) (callbacks : List (Callback σ Notice)) :
    List (Callback (Recorded σ (PipelineStep σ)) Notice) :=
  (callbacks.zipIdx position).map fun (callback, place) ↦ callback.watched place

/-- A pipeline that records its steps. -/
def Pipeline.watched (pipeline : Pipeline σ) : Pipeline (Recorded σ (PipelineStep σ)) where
  retriever := {
    name := pipeline.retriever.name
    literal := pipeline.retriever.literal
    retrieve := fun query ↦
      (pipeline.retriever.retrieve query).watchedCall (.retrieve query) .documents }
  transformers := pipeline.transformers.zipIdx.map fun (transformer, position) ↦
    transformer.watched position
  expander := pipeline.expander.map QueryExpander.watched
  joiner := {
    literal := pipeline.joiner.literal
    join := fun groups ↦ (pipeline.joiner.join groups).watchedCall (.join groups) .documents }
  augmenter := {
    literal := pipeline.augmenter.literal
    augment := fun query documents ↦
      (pipeline.augmenter.augment query documents).watchedCall (.augment query documents)
        .augmented }
  callbacks := watchedFrom 0 pipeline.callbacks

/-- The steps of a run, in order. -/
def Pipeline.steps (pipeline : Pipeline σ) (query : Query) (scene : Scene σ) :
    List (PipelineStep σ) :=
  (sceneAfter (pipeline.watched.run query) (scene.withRecord [])).record

/-! ### Watching changes no run -/

/-- A scene with recorded steps beside the same scene with the calls among them. -/
def SameCalls (scene : Scene (Recorded σ (PipelineStep σ)))
    (other : Scene (Recorded σ PipelineExchange)) : Prop :=
  scene.plain = other.plain ∧ PipelineStep.calls scene.record = other.record

theorem warnsAlike_sameCalls :
    WarnsAlike (SameCalls : Scene (Recorded σ (PipelineStep σ)) → _ → Prop) := by
  rintro warning scene other ⟨hplain, hcalls⟩
  have hwarned : (sceneAfter (warn warning) scene).plain =
      (sceneAfter (warn warning) other).plain := by
    show sceneAfter (warn warning) scene.plain = sceneAfter (warn warning) other.plain
    rw [hplain]
  exact ⟨hwarned, hcalls⟩

/-- Assumes: a log that takes of every step what is a call. -/
theorem watched_simulates_logging {deed : Except Failure α → PipelineDeed}
    {entries : Except Failure α → σ → List PipelineExchange} {action : Action σ α}
    (h : ∀ outcome before after,
      PipelineStep.calls [⟨deed outcome, before, after⟩] = entries outcome after.world) :
    Action.Simulates SameCalls (action.watched deed) (action.logging entries) := by
  rintro scene other ⟨hplain, hcalls⟩
  unfold watched
  rw [outcome_witnessing, outcome_logging, sceneAfter_witnessing, sceneAfter_logging, ← hplain]
  refine ⟨rfl, rfl, ?_⟩
  rw [Scene.record_withRecord, Scene.record_withRecord, PipelineStep.calls_append, hcalls, h]

theorem watchedCall_simulates (call : PipelineCall) (answer : α → PipelineAnswer)
    (action : Action σ α) :
    Action.Simulates SameCalls (action.watchedCall call answer) (action.exchanging call answer) :=
  watched_simulates_logging fun _ _ _ ↦ rfl

theorem transformers_watched_simulates (transformers : List (QueryTransformer σ))
    (position : Nat) :
    List.Forall₂ (QueryTransformer.Simulates SameCalls)
      ((transformers.zipIdx position).map fun (transformer, place) ↦ transformer.watched place)
      (loggingFrom .exchanges position transformers) := by
  induction transformers generalizing position with
  | nil => exact .nil
  | cons transformer rest ih =>
    exact .cons ⟨rfl, fun query ↦ watchedCall_simulates _ _ _⟩ (ih (position + 1))

theorem watchedFrom_simulates (callbacks : List (Callback σ Notice)) (position : Nat) :
    List.Forall₂ (Callback.Simulates SameCalls) (watchedFrom position callbacks)
      (callbacks.map Callback.unrecorded) := by
  induction callbacks generalizing position with
  | nil => exact .nil
  | cons callback rest ih =>
    refine .cons ⟨rfl, fun event ↦ ?_⟩ (ih (position + 1))
    show Option.Rel _ ((callback.handler event).map _) ((callback.handler event).map _)
    cases callback.handler event with
    | none => exact .none
    | some handle => exact .some fun notice ↦ watched_simulates_logging fun _ _ _ ↦ rfl

namespace Pipeline

theorem watched_simulates (pipeline : Pipeline σ) :
    pipeline.watched.Simulates SameCalls (pipeline.logging .exchanges) where
  retriever _ := watchedCall_simulates _ _ _
  transformers := transformers_watched_simulates pipeline.transformers 0
  expander := by
    show Option.Rel _ (pipeline.expander.map _) (pipeline.expander.map _)
    cases pipeline.expander with
    | none => exact .none
    | some expander => exact .some ⟨rfl, fun query ↦ watchedCall_simulates _ _ _⟩
  joiner _ := watchedCall_simulates _ _ _
  augmenter _ _ := watchedCall_simulates _ _ _
  callbacks := watchedFrom_simulates pipeline.callbacks 0

/-- A watched run has the outcome of the run itself and leaves the same world. Its calls are the
calls of the run. -/
theorem run_watched (pipeline : Pipeline σ) (query : Query) (scene : Scene σ) :
    (pipeline.watched.run query).outcome (scene.withRecord []) =
        (pipeline.run query).outcome scene ∧
      (sceneAfter (pipeline.watched.run query) (scene.withRecord [])).plain =
        sceneAfter (pipeline.run query) scene ∧
      PipelineStep.calls (pipeline.steps query scene) = pipeline.exchanges query scene := by
  have hlogged := run_logging .exchanges pipeline query scene []
  obtain ⟨houtcome, hplain, hcalls⟩ := run_simulates warnsAlike_sameCalls
    (watched_simulates pipeline) query (scene.withRecord []) (scene.withRecord []) ⟨rfl, rfl⟩
  exact ⟨houtcome.trans hlogged.1, hplain.trans hlogged.2, hcalls⟩

end Pipeline

end Grounding
