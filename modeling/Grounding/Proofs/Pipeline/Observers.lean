import Grounding.Proofs.Pipeline.Events

/-!
# Observers do not interfere

The components of a pipeline and its callbacks share a world. What the components see of it is given
by a function `seen`: a pipeline depends on this part alone (`Pipeline.DependsOn`) if its components
do the same thing in two worlds that look the same to them. A callback that only observes leaves
this part as it is, whatever else it does and whether it fails or not (`Callback.Spares`).

`run_observed`: a pipeline that depends on what is seen has the same outcome and makes the same
calls with any two lists of callbacks that only observe, from worlds that look the same. What one of
these callbacks is told is the same as well, whoever else is registered.

The two runs are compared through the pipelines that record their calls, which match
(`exchanging_matches`) because telling callbacks that only observe changes nothing that is seen.
-/

set_option autoImplicit false
set_option relaxedAutoImplicit false

namespace Grounding

open Grounding.Action
open Grounding.Stream (sceneAfter)

variable {σ κ α Payload : Type}

/-- A pipeline whose components depend on what is seen of the world. -/
structure Pipeline.DependsOn (seen : σ → κ) (pipeline : Pipeline σ) : Prop where
  retriever : ∀ query, (pipeline.retriever.retrieve query).DependsOn seen
  transformers : ∀ transformer ∈ pipeline.transformers, ∀ query,
    (transformer.transform query).DependsOn seen
  expander : ∀ expander, pipeline.expander = some expander → ∀ query,
    (expander.expand query).DependsOn seen
  joiner : ∀ groups, (pipeline.joiner.join groups).DependsOn seen
  augmenter : ∀ query documents, (pipeline.augmenter.augment query documents).DependsOn seen

/-- A callback that leaves what is seen of the world as it is. -/
def Callback.Spares (seen : σ → κ) (callback : Callback σ Payload) : Prop :=
  ∀ event handle, callback.handler event = some handle → ∀ payload scene,
    seen (sceneAfter (handle payload) scene).world = seen scene.world

/-- A pipeline with other callbacks. -/
def Pipeline.observedBy (pipeline : Pipeline σ) (callbacks : List (Callback σ Notice)) :
    Pipeline σ :=
  { pipeline with callbacks }

/-! ### Telling observers -/

variable {seen : σ → κ}

theorem Callback.Spares.deliver {callback : Callback σ Payload} (h : callback.Spares seen)
    (event : PipelineEvent) (payload : Payload) (scene : Scene σ) :
    seen (sceneAfter (callback.deliver event payload) scene).world = seen scene.world := by
  unfold Callback.deliver
  cases hhandler : callback.handler event with
  | none => rfl
  | some handle =>
    have hspared := h event handle hhandler payload scene
    rw [sceneAfter_bind, outcome_attempt, sceneAfter_attempt]
    cases (handle payload).outcome scene with
    | ok value => exact hspared
    | error failure => exact hspared

theorem notify_spares {callbacks : List (Callback σ Payload)}
    (h : ∀ callback ∈ callbacks, callback.Spares seen) (event : PipelineEvent)
    (payload : Payload) (scene : Scene σ) :
    seen (sceneAfter (notify event payload callbacks) scene).world = seen scene.world := by
  induction callbacks generalizing scene with
  | nil => rfl
  | cons callback rest ih =>
    have hhead := (h callback List.mem_cons_self).deliver event payload scene
    have hrest := fun other hmem ↦ h other (List.mem_cons_of_mem callback hmem)
    show seen (sceneAfter (callback.deliver event payload >>= fun _ ↦
      notify event payload rest) scene).world = _
    rw [sceneAfter_bind]
    cases (callback.deliver event payload).outcome scene with
    | ok value => exact (ih hrest _).trans hhead
    | error failure => exact hhead

/-- An observer that leaves the record as it is spares the same part of the world. -/
theorem Callback.Spares.unrecorded {ε : Type} {callback : Callback σ Payload}
    (h : callback.Spares seen) :
    (callback.unrecorded : Callback (Recorded σ ε) Payload).Spares (seen ∘ Recorded.world) := by
  intro event handle hhandler payload scene
  obtain ⟨original, horiginal, rfl⟩ := Option.map_eq_some_iff.mp hhandler
  show seen (sceneAfter (original payload).unrecorded scene).world.world = _
  unfold Action.unrecorded
  rw [sceneAfter_logging]
  exact h event original horiginal payload scene.plain

/-! ### Recorded calls -/

/-- Assumes: an action that depends on what is seen. Recording it as a call does as well. -/
theorem exchanging_simulates {ρ γ : Type} {action : Action σ α} (h : action.DependsOn seen)
    (call : γ) (answer : α → ρ) :
    Action.Simulates (RecordedAlike seen) (action.exchanging call answer)
      (action.exchanging call answer) :=
  h.logging fun outcome ↦ [Exchange.entry call answer outcome]

theorem loggingFrom_simulates_self {transformers : List (QueryTransformer σ)}
    (h : ∀ transformer ∈ transformers, ∀ query, (transformer.transform query).DependsOn seen)
    (position : Nat) :
    List.Forall₂ (QueryTransformer.Simulates (RecordedAlike seen))
      (loggingFrom .exchanges position transformers)
      (loggingFrom .exchanges position transformers) := by
  induction transformers generalizing position with
  | nil => exact .nil
  | cons transformer rest ih =>
    have hhead := h transformer List.mem_cons_self
    have hrest := fun other hmem ↦ h other (List.mem_cons_of_mem transformer hmem)
    exact .cons ⟨rfl, fun query ↦ exchanging_simulates (hhead query) _ _⟩ (ih hrest (position + 1))

namespace Pipeline

variable {pipeline : Pipeline σ} {first second : List (Callback σ Notice)}

/-- Telling observers changes neither the record nor what is seen. -/
theorem tell_recordedAlike (pipeline : Pipeline σ)
    (hcallbacks : ∀ callback ∈ pipeline.callbacks, callback.Spares seen)
    (notice : Notice) (scene : Scene (Recorded σ PipelineExchange)) :
    ((pipeline.logging .exchanges).tell notice).outcome scene = .ok () ∧
      RecordedAlike seen (sceneAfter ((pipeline.logging .exchanges).tell notice) scene) scene := by
  obtain ⟨appended, hrecord, houtcome, rfl⟩ := records_tell .exchanges pipeline notice scene
  have hspared : ∀ callback ∈ (pipeline.logging .exchanges).callbacks,
      callback.Spares (seen ∘ Recorded.world) := by
    intro callback hmem
    obtain ⟨original, horiginal, rfl⟩ := List.mem_map.mp hmem
    exact (hcallbacks original horiginal).unrecorded
  refine ⟨houtcome, notify_spares hspared notice.event notice scene, ?_⟩
  rw [hrecord, List.append_nil]

/-- Assumes: components that depend on what is seen, and callbacks that only observe. The pipelines
that record their calls match, whoever is told. -/
theorem exchanging_matches (hdepends : pipeline.DependsOn seen)
    (hfirst : ∀ callback ∈ first, callback.Spares seen)
    (hsecond : ∀ callback ∈ second, callback.Spares seen) :
    ((pipeline.observedBy first).logging .exchanges).Matches (RecordedAlike seen)
      ((pipeline.observedBy second).logging .exchanges) where
  retriever query := exchanging_simulates (hdepends.retriever query) _ _
  transformers := loggingFrom_simulates_self hdepends.transformers 0
  expander := by
    show Option.Rel _ (pipeline.expander.map _) (pipeline.expander.map _)
    cases hexpander : pipeline.expander with
    | none => exact .none
    | some expander =>
      have hexpand := hdepends.expander expander hexpander
      exact .some ⟨rfl, fun query ↦ exchanging_simulates (hexpand query) _ _⟩
  joiner groups := exchanging_simulates (hdepends.joiner groups) _ _
  augmenter query documents := exchanging_simulates (hdepends.augmenter query documents) _ _
  tell notice := by
    rintro scene other ⟨hseen, hrecord⟩
    obtain ⟨houtcome, hscene, hkept⟩ :=
      tell_recordedAlike (pipeline.observedBy first) hfirst notice scene
    obtain ⟨hsame, hother, hleft⟩ :=
      tell_recordedAlike (pipeline.observedBy second) hsecond notice other
    exact ⟨houtcome.trans hsame.symm, hscene.trans (hseen.trans hother.symm),
      hkept.trans (hrecord.trans hleft.symm)⟩

/-- The outcome, what is seen in the end, and the calls of a run are the same for any observers. -/
theorem run_alike (hdepends : pipeline.DependsOn seen)
    (hfirst : ∀ callback ∈ first, callback.Spares seen)
    (hsecond : ∀ callback ∈ second, callback.Spares seen) (query : Query)
    {scene other : Scene σ} (hseen : seen scene.world = seen other.world) :
    ((pipeline.observedBy first).run query).outcome scene =
        ((pipeline.observedBy second).run query).outcome other ∧
      seen (sceneAfter ((pipeline.observedBy first).run query) scene).world =
        seen (sceneAfter ((pipeline.observedBy second).run query) other).world ∧
      (pipeline.observedBy first).exchanges query scene =
        (pipeline.observedBy second).exchanges query other := by
  have hone := run_logging .exchanges (pipeline.observedBy first) query scene []
  have htwo := run_logging .exchanges (pipeline.observedBy second) query other []
  obtain ⟨houtcome, hafter, hrecord⟩ := (exchanging_matches hdepends hfirst hsecond).run_simulates
    query (scene.withRecord []) (other.withRecord []) ⟨hseen, rfl⟩
  rw [hone.1, htwo.1] at houtcome
  rw [← hone.2, ← htwo.2]
  exact ⟨houtcome, hafter, hrecord⟩

/-- Assumes: a pipeline that depends on what is seen of the world, two lists of callbacks that leave
this part as it is, and scenes that look the same. The runs with these callbacks have the same
outcome, make the same calls with the same answers, and leave the same to be seen. A callback in
both lists is told the same notices. -/
theorem run_observed (seen : σ → κ) (pipeline : Pipeline σ) (hdepends : pipeline.DependsOn seen)
    (first second : List (Callback σ Notice)) (hfirst : ∀ callback ∈ first, callback.Spares seen)
    (hsecond : ∀ callback ∈ second, callback.Spares seen) (query : Query) (scene other : Scene σ)
    (hseen : seen scene.world = seen other.world) :
    ((pipeline.observedBy first).run query).outcome scene =
        ((pipeline.observedBy second).run query).outcome other ∧
      seen (sceneAfter ((pipeline.observedBy first).run query) scene).world =
        seen (sceneAfter ((pipeline.observedBy second).run query) other).world ∧
      (pipeline.observedBy first).exchanges query scene =
        (pipeline.observedBy second).exchanges query other ∧
      ∀ position place callback, first[position]? = some callback →
        second[place]? = some callback →
        (pipeline.observedBy first).received query scene position =
          (pipeline.observedBy second).received query other place := by
  obtain ⟨houtcome, hafter, hcalls⟩ := run_alike hdepends hfirst hsecond query hseen
  refine ⟨houtcome, hafter, hcalls, fun position place callback hposition hplace ↦ ?_⟩
  have hone := received_eq (pipeline.observedBy first) hposition query scene
  have htwo := received_eq (pipeline.observedBy second) hplace query other
  rw [hone, htwo, hcalls, houtcome]
  rfl

/-- A pipeline whose retriever counts its calls in the first part of the world. -/
def counting : Pipeline (Nat × List String) where
  retriever := {
    name := "CountingRetriever"
    literal := "CountingRetriever()"
    retrieve := fun query ↦ do
      Action.change fun (count, notes) ↦ (count + 1, notes)
      return some [{ id := query.text }] }
  augmenter := { literal := "", augment := fun query _ ↦ pure query }

/-- A callback that notes every start of a run in the second part of the world. -/
def noteTaker : Callback (Nat × List String) Notice where
  name := "NoteTaker"
  handler
    | .started => some fun _ ↦ Action.change fun (count, notes) ↦ (count, "started" :: notes)
    | _ => none

/-- A callback that fails on every retrieval. -/
def complainer : Callback (Nat × List String) Notice where
  name := "Complainer"
  handler
    | .retrieved => some fun _ ↦ throw (.reported .runtime "observer failed")
    | _ => none

theorem counting_dependsOn : counting.DependsOn Prod.fst where
  retriever query := by
    rintro scene other hseen
    exact ⟨rfl, congrArg (· + 1) hseen⟩
  transformers := by
    intro transformer hmem
    cases hmem
  expander := by
    intro expander hexpander
    cases hexpander
  joiner groups := simulates_pure _
  augmenter query documents := simulates_pure query

theorem noteTaker_spares : noteTaker.Spares Prod.fst := by
  intro event handle hhandler payload scene
  cases event <;> cases hhandler
  rfl

theorem complainer_spares : complainer.Spares Prod.fst := by
  intro event handle hhandler payload scene
  cases event <;> cases hhandler
  rfl

/-- A run that is observed by one who fails has the outcome of a run that is observed by one who
takes notes as well, after other notes and warnings. -/
theorem run_observed_counting :
    counting.DependsOn Prod.fst ∧ (∀ callback ∈ [complainer], callback.Spares Prod.fst) ∧
      (∀ callback ∈ [noteTaker, complainer], callback.Spares Prod.fst) ∧
      ((counting.observedBy [complainer]).run ⟨"q", [], []⟩).outcome ⟨(0, []), []⟩ =
        ((counting.observedBy [noteTaker, complainer]).run ⟨"q", [], []⟩).outcome
          ⟨(0, ["earlier"]), [.largeStore 3]⟩ ∧
      (counting.observedBy [complainer]).received ⟨"q", [], []⟩ ⟨(0, []), []⟩ 0 =
        (counting.observedBy [noteTaker, complainer]).received ⟨"q", [], []⟩
          ⟨(0, ["earlier"]), [.largeStore 3]⟩ 1 := by
  have hfirst : ∀ callback ∈ [complainer], callback.Spares Prod.fst := by
    intro callback hmem
    obtain rfl := List.mem_singleton.mp hmem
    exact complainer_spares
  have hsecond : ∀ callback ∈ [noteTaker, complainer], callback.Spares Prod.fst := by
    intro callback hmem
    rcases List.mem_cons.mp hmem with rfl | hrest
    · exact noteTaker_spares
    · exact hfirst callback hrest
  obtain ⟨houtcome, -, -, hreceived⟩ := run_observed Prod.fst counting counting_dependsOn
    [complainer] [noteTaker, complainer] hfirst hsecond ⟨"q", [], []⟩ ⟨(0, []), []⟩
    ⟨(0, ["earlier"]), [.largeStore 3]⟩ rfl
  exact ⟨counting_dependsOn, hfirst, hsecond, houtcome, hreceived 0 1 complainer rfl rfl⟩

end Pipeline

end Grounding
