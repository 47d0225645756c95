import Grounding.Proofs.SharedRetrieval

/-!
# Which failures leave a retrieval

A failure that is the library's own, or a timeout, is handed on by every component
(`Failure.passesThrough`). `Action.Contained` says of an action that it fails in no other way. A
protected call is contained if what it wraps failures into passes through, and sequences, attempts
and notices keep it so.

The advisor that augments is contained: its pipeline protects the whole retrieval, in which the
filter expression of a call is read and the store is searched
(`SharedRetrieval.augmentation_contained`). The advisor that answers questions protects its search
only, and reads the filter expression before. So it is contained but for the failures of its parser,
which leave it as they are (`SharedRetrieval.questionAnswer_fails`).

Main statement: `SharedRetrieval.before_contained`. A parser that refuses a text is a case in which
the two advisors differ (`SharedRetrieval.before_uncontained_unreadable`).
-/

set_option autoImplicit false
set_option relaxedAutoImplicit false

namespace Grounding

open Grounding.Action
open Grounding.Stream (sceneAfter)

variable {σ α β Payload : Type}

/-! ### Contained actions -/

namespace Action

/-- Every failure of an action is one that passes through. -/
def Contained (action : Action σ α) : Prop :=
  ∀ scene failure, action.outcome scene = .error failure → failure.passesThrough = true

theorem contained_pure (value : α) : Contained (pure value : Action σ α) := by
  rintro scene failure ⟨⟩

/-- Assumes: a first part that is contained, and second parts that are. So is the sequence. -/
theorem contained_bind {action : Action σ α} {next : α → Action σ β} (h : Contained action)
    (hnext : ∀ value, Contained (next value)) : Contained (action >>= next) := by
  intro scene failure hfailure
  rcases outcome_bind_eq_error_iff.mp hfailure with hfirst | ⟨value, -, hsecond⟩
  · exact h scene failure hfirst
  · exact hnext value _ failure hsecond

/-- Assumes: failures that are wrapped as ones that pass through. A protected call is contained. -/
theorem contained_protect {wrap : Failure → Failure}
    (h : ∀ failure, (wrap failure).passesThrough = true) (action : Action σ α) :
    Contained (protect wrap action) := by
  intro scene failure hfailure
  rw [outcome_protect] at hfailure
  cases houtcome : action.outcome scene with
  | ok value =>
    rw [houtcome] at hfailure
    cases hfailure
  | error cause =>
    rw [houtcome] at hfailure
    cases hfailure
    exact passesThrough_shielded h cause

end Action

/-! ### Runs of a pipeline -/

namespace Pipeline

theorem outcome_deliver (callback : Callback σ Payload) (event : PipelineEvent)
    (payload : Payload) (scene : Scene σ) :
    (callback.deliver event payload).outcome scene = .ok () := by
  unfold Callback.deliver
  cases callback.handler event with
  | none => rfl
  | some handle =>
    rw [outcome_bind, outcome_attempt]
    dsimp only
    cases (handle payload).outcome scene <;> rfl

/-- Telling callbacks never fails. -/
theorem outcome_notify (event : PipelineEvent) (payload : Payload)
    (callbacks : List (Callback σ Payload)) (scene : Scene σ) :
    (notify event payload callbacks).outcome scene = .ok () := by
  induction callbacks generalizing scene with
  | nil => rfl
  | cons callback rest ih =>
    rw [notify, outcome_bind_ok (outcome_deliver callback event payload scene)]
    exact ih _

/-- Once the callbacks have been told of its start, a run ends as its stages do. -/
theorem outcome_run (pipeline : Pipeline σ) (query : Query) (scene : Scene σ) :
    (pipeline.run query).outcome scene =
      (pipeline.stages query).outcome (sceneAfter (pipeline.tell (.started query)) scene) := by
  have htold (notice : Notice) (scene : Scene σ) : (pipeline.tell notice).outcome scene = .ok () :=
    outcome_notify notice.event notice pipeline.callbacks scene
  unfold run
  rw [outcome_bind_ok (htold _ _), outcome_bind, outcome_attempt]
  dsimp only
  cases (pipeline.stages query).outcome (sceneAfter (pipeline.tell (.started query)) scene) with
  | ok result => rw [outcome_bind_ok (htold _ _), outcome_pure]
  | error failure => rw [outcome_bind_ok (htold _ _), outcome_throw]

end Pipeline

namespace SharedRetrieval

variable {setup : SharedRetrieval σ} {request : AdvisedRequest} {scene : Scene σ}
  {failure : Failure}

/-- The parser refuses the filter expression of a call, which is a text. -/
def RefusesFilter (setup : SharedRetrieval σ) (context : Context) (scene : Scene σ)
    (failure : Failure) : Prop :=
  ∃ content parse, Filter.override? context = some (.text content) ∧
    setup.parser = some parse ∧ (parse content).outcome scene = .error failure

/-- The searches that the advisor that answers questions makes for a request. -/
def searches (setup : SharedRetrieval σ) (request : AdvisedRequest) (scene : Scene σ) :
    List SearchRequest :=
  (sceneAfter (setup.recording.questionAnswer.before request) (scene.withRecord [])).record

/-- Working out the filter expression of a call fails exactly if the parser refuses it. -/
theorem resolve_eq_error_iff {context : Context} {default : Value} :
    (Filter.resolve context default setup.parser).outcome scene = .error failure ↔
      setup.RefusesFilter context scene failure := by
  unfold RefusesFilter Filter.resolve
  cases Filter.override? context with
  | none => simp
  | some override =>
    cases hparse : setup.parser with
    | none => cases override <;> simp
    | some parse => cases override <;> simp

/-! ### Answering questions -/

theorem buildRequest_eq_error_iff :
    (setup.questionAnswer.buildRequest request).outcome scene = .error failure ↔
      setup.RefusesFilter request.adviseContext scene failure := by
  rw [← resolve_eq_error_iff]
  constructor
  · intro h
    rcases outcome_bind_eq_error_iff.mp h with hresolve | ⟨_, -, ⟨⟩⟩
    exact hresolve
  · intro h
    exact outcome_bind_error h _

/-- The advisor that answers questions fails with a failure that passes through, unless its parser
refuses the filter expression. -/
theorem questionAnswer_fails
    (h : (setup.questionAnswer.before request).outcome scene = .error failure) :
    failure.passesThrough = true ∨ setup.RefusesFilter request.adviseContext scene failure := by
  rcases outcome_bind_eq_error_iff.mp h with hrequest | ⟨search, -, hsearched⟩
  · exact Or.inr (buildRequest_eq_error_iff.mp hrequest)
  · refine Or.inl (contained_bind (contained_protect (fun _ ↦ rfl) _) (fun documents ↦ ?_) _ _
      hsearched)
    show Contained ((Renderer.braces setup.platform : Renderer σ).render
      QuestionAnswerAdvisor.defaultPrompt _ >>= _)
    rw [ContextualAugmenter.braces_bind (QuestionAnswerAdvisor.render_prompt setup.platform _)]
    exact contained_pure _

/-- Working out a filter expression makes no search. -/
theorem record_resolve (setup : SharedRetrieval σ) (context : Context) (default : Value)
    (scene : Scene (Recorded σ SearchRequest)) :
    (sceneAfter (Filter.resolve context default setup.recording.parser) scene).record =
      scene.record := by
  show (sceneAfter (Filter.resolve context default (setup.parser.map _)) scene).record = _
  unfold Filter.resolve
  cases Filter.override? context with
  | none => rfl
  | some override =>
    cases setup.parser with
    | none => cases override <;> rfl
    | some parse =>
      cases override with
      | text content =>
        show (sceneAfter ((parse content).logging fun _ _ ↦ []) scene).record = _
        rw [sceneAfter_logging, Scene.record_withRecord, List.append_nil]
      | _ => rfl

/-- A recording setup refuses what the recorded one does. -/
theorem RefusesFilter.recording {context : Context}
    (h : setup.RefusesFilter context scene failure) :
    setup.recording.RefusesFilter context (scene.withRecord []) failure := by
  obtain ⟨content, parse, hoverride, hparser, hrefused⟩ := h
  refine ⟨content, fun text ↦ (parse text).unrecorded, hoverride, ?_, ?_⟩
  · show setup.parser.map _ = _
    rw [hparser]
    rfl
  · show outcome ((parse content).logging fun _ _ ↦ []) (scene.withRecord []) = _
    rw [outcome_logging, Scene.plain_withRecord, hrefused]

/-- Assumes: a parser that refuses the filter expression. The advisor that answers questions fails
in the same way and makes no search. -/
theorem questionAnswer_of_refused
    (h : setup.RefusesFilter request.adviseContext scene failure) :
    (setup.questionAnswer.before request).outcome scene = .error failure ∧
      setup.searches request scene = [] := by
  refine ⟨outcome_bind_error (buildRequest_eq_error_iff.mpr h) _, ?_⟩
  have hrequest := buildRequest_eq_error_iff.mpr h.recording
  show (sceneAfter (setup.recording.questionAnswer.buildRequest request >>= _)
    (scene.withRecord [])).record = []
  rw [sceneAfter_bind_error hrequest]
  show (sceneAfter (_ >>= fun expression ↦ pure _) (scene.withRecord [])).record = []
  rw [sceneAfter_bind_pure]
  exact record_resolve setup _ _ _

/-! ### Augmenting -/

/-- The pipeline protects its retriever, which always answers with a list. -/
theorem retrieveOne_eq (setup : SharedRetrieval σ) (query : Query) :
    setup.pipeline.retrieveOne query =
      Action.protect (.retrieverFailed query.text) (setup.retriever.retrieve query) >>=
        fun documents ↦ setup.pipeline.tell (.retrieved query documents) >>= fun _ ↦
          pure documents := by
  show Action.protect _ (setup.retriever.retrieve query >>= fun documents ↦ pure (some documents))
    >>= _ = _
  rw [protect_bind_pure, bind_assoc]
  rfl

theorem retrieveAll_contained (setup : SharedRetrieval σ) (queries : List Query) :
    Contained (setup.pipeline.retrieveAll queries) := by
  induction queries with
  | nil => exact contained_pure []
  | cons query rest ih =>
    have htell (notice : Notice) : Contained (setup.pipeline.tell notice) := by
      intro scene failure hfailure
      rw [Pipeline.tell, Pipeline.outcome_notify] at hfailure
      cases hfailure
    have hone : Contained (setup.pipeline.retrieveOne query) := by
      rw [retrieveOne_eq]
      refine contained_bind (contained_protect (fun _ ↦ rfl) _) fun documents ↦ ?_
      exact contained_bind (htell _) fun _ ↦ contained_pure documents
    exact contained_bind hone fun documents ↦ contained_bind ih fun others ↦ contained_pure _

/-- The stages of the pipeline are contained. -/
theorem stages_contained (setup : SharedRetrieval σ) (query : Query) :
    Contained (setup.pipeline.stages query) := by
  refine contained_bind (contained_pure _) fun transformed ↦ ?_
  refine contained_bind (contained_pure _) fun _ ↦ ?_
  refine contained_bind (contained_pure _) fun expanded ↦ ?_
  refine contained_bind (retrieveAll_contained setup expanded) fun found ↦ ?_
  refine contained_bind (contained_pure _) fun documents ↦ ?_
  refine contained_bind ?_ fun augmented ↦ contained_pure _
  show Contained
    (ContextualAugmenter.augment { renderer := .braces setup.platform } query documents)
  rw [ContextualAugmenter.augment_usual setup.platform false]
  exact contained_pure _

/-- The advisor that augments is contained. -/
theorem augmentation_contained (setup : SharedRetrieval σ) (request : AdvisedRequest) :
    Contained (setup.augmentation.before request) := by
  refine contained_bind (fun scene failure hfailure ↦ ?_) fun result ↦ contained_pure _
  have hrun := Pipeline.outcome_run setup.pipeline (AugmentationAdvisor.queryOf request) scene
  exact stages_contained setup _ _ failure (hrun.symm.trans hfailure)

/-- Assumes: a parser that refuses the filter expression. The retriever fails in the same way. -/
theorem retrieve_of_refused (h : setup.RefusesFilter request.adviseContext scene failure) :
    (setup.retriever.retrieve (AugmentationAdvisor.queryOf request)).outcome scene =
      .error failure := by
  have hrequest : (setup.retriever.buildRequest (AugmentationAdvisor.queryOf request)).outcome
      scene = .error failure :=
    outcome_bind_error (resolve_eq_error_iff.mpr h) _
  exact outcome_bind_error hrequest _

/-- Assumes: a parser that refuses the filter expression once the callbacks have been told of the
start. The advisor that augments fails in the same way if this passes through, and else with a
retrieval failure that has it as its cause. -/
theorem augmentation_of_refused
    (h : setup.RefusesFilter request.adviseContext
      (sceneAfter (setup.pipeline.tell (.started (AugmentationAdvisor.queryOf request))) scene)
      failure) :
    (setup.augmentation.before request).outcome scene =
      .error (shielded (.retrieverFailed request.userText) failure) := by
  have hone : (setup.pipeline.retrieveOne (AugmentationAdvisor.queryOf request)).outcome
      (sceneAfter (setup.pipeline.tell (.started (AugmentationAdvisor.queryOf request))) scene) =
        .error (shielded (.retrieverFailed request.userText) failure) := by
    rw [retrieveOne_eq]
    refine outcome_bind_error ?_ _
    rw [outcome_protect, retrieve_of_refused h]
    rfl
  have hstages : (setup.pipeline.stages (AugmentationAdvisor.queryOf request)).outcome
      (sceneAfter (setup.pipeline.tell (.started (AugmentationAdvisor.queryOf request))) scene) =
        .error (shielded (.retrieverFailed request.userText) failure) :=
    outcome_bind_error (outcome_bind_error hone _) _
  exact outcome_bind_error ((Pipeline.outcome_run _ _ _).trans hstages) _

/-- The advisor that answers questions fails in one of two ways: with a failure that passes through,
or, without a search, with that of a parser that refuses the filter expression of the call. The
advisor that augments fails in the first way only; where its parser refuses, this is a retrieval
failure. -/
theorem before_contained (setup : SharedRetrieval σ) (request : AdvisedRequest)
    (scene : Scene σ) :
    (∀ failure, (setup.questionAnswer.before request).outcome scene = .error failure →
      failure.passesThrough = true ∨
        setup.RefusesFilter request.adviseContext scene failure) ∧
    (∀ failure, setup.RefusesFilter request.adviseContext scene failure →
      (setup.questionAnswer.before request).outcome scene = .error failure ∧
        setup.searches request scene = []) ∧
    (∀ failure, (setup.augmentation.before request).outcome scene = .error failure →
      failure.passesThrough = true) ∧
    ∀ failure, setup.RefusesFilter request.adviseContext
        (sceneAfter (setup.pipeline.tell (.started (AugmentationAdvisor.queryOf request))) scene)
        failure →
      (setup.augmentation.before request).outcome scene =
        .error (shielded (.retrieverFailed request.userText) failure) :=
  ⟨fun _ ↦ questionAnswer_fails, fun _ ↦ questionAnswer_of_refused,
    augmentation_contained setup request scene, fun _ ↦ augmentation_of_refused⟩

/-- A setup with a store that holds nothing, and a parser that refuses every text. -/
def unreadable : SharedRetrieval Unit where
  platform := .typed
  store _ := pure (some [])
  parser := some fun _ ↦ throw (.reported .value "bad filter")

/-- The refusal of the parser leaves the advisor that answers questions as it is. The advisor that
augments makes a retrieval failure of it. -/
theorem before_uncontained_unreadable :
    (unreadable.questionAnswer.before
        (.ofText "q" [(Filter.contextKey, .text "x")])).outcome ⟨(), []⟩ =
          .error (.reported .value "bad filter") ∧
      (Failure.reported .value "bad filter").passesThrough = false ∧
      (unreadable.augmentation.before
        (.ofText "q" [(Filter.contextKey, .text "x")])).outcome ⟨(), []⟩ =
          .error (.retrieverFailed "q" (.reported .value "bad filter")) := by
  exact ⟨rfl, rfl, rfl⟩

end SharedRetrieval

end Grounding
