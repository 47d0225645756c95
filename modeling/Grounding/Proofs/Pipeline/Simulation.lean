import Mathlib.Data.List.Forall2
import Grounding.Pipeline
import Grounding.Proofs.Action

/-!
# Pipelines whose components simulate each other

A run touches the world only through its components. Two pipelines over different worlds whose
components simulate each other one by one (`Pipeline.Simulates`) therefore have runs that simulate
each other (`run_simulates`). Each stage has a lemma of its own; the transformers and the retrievals
are inductions over the list, the delivery of an event is one over the callbacks.

The names of transformers and expanders have to agree because failures carry them, and those of
callbacks because warnings do.

All that a stage needs of the callbacks is that telling them anything simulates itself. Pipelines
with this property and components that simulate each other match (`Pipeline.Matches`), whatever
their callbacks are, and the lemmas about stages are about these.
-/

set_option autoImplicit false
set_option relaxedAutoImplicit false

namespace Grounding

open Grounding.Action

variable {σ τ Payload : Type}

/-- Scenes stay related when the same warning is given in both. -/
def WarnsAlike (related : Scene σ → Scene τ → Prop) : Prop :=
  ∀ warning scene other, related scene other →
    related (Stream.sceneAfter (warn warning) scene) (Stream.sceneAfter (warn warning) other)

/-- Transformers of one name that simulate each other. -/
structure QueryTransformer.Simulates (related : Scene σ → Scene τ → Prop)
    (first : QueryTransformer σ) (second : QueryTransformer τ) : Prop where
  name_eq : first.name = second.name
  transform : ∀ query, Action.Simulates related (first.transform query) (second.transform query)

/-- Expanders of one name that simulate each other. -/
structure QueryExpander.Simulates (related : Scene σ → Scene τ → Prop)
    (first : QueryExpander σ) (second : QueryExpander τ) : Prop where
  name_eq : first.name = second.name
  expand : ∀ query, Action.Simulates related (first.expand query) (second.expand query)

/-- Callbacks of one name that handle the same events and simulate each other. -/
structure Callback.Simulates (related : Scene σ → Scene τ → Prop)
    (first : Callback σ Payload) (second : Callback τ Payload) : Prop where
  name_eq : first.name = second.name
  handler : ∀ event, Option.Rel
    (fun handle follow ↦ ∀ payload, Action.Simulates related (handle payload) (follow payload))
    (first.handler event) (second.handler event)

/-- Pipelines whose components simulate each other. -/
structure Pipeline.Simulates (related : Scene σ → Scene τ → Prop)
    (first : Pipeline σ) (second : Pipeline τ) : Prop where
  retriever : ∀ query,
    Action.Simulates related (first.retriever.retrieve query) (second.retriever.retrieve query)
  transformers : List.Forall₂ (QueryTransformer.Simulates related)
    first.transformers second.transformers
  expander : Option.Rel (QueryExpander.Simulates related) first.expander second.expander
  joiner : ∀ groups,
    Action.Simulates related (first.joiner.join groups) (second.joiner.join groups)
  augmenter : ∀ query documents,
    Action.Simulates related (first.augmenter.augment query documents)
      (second.augmenter.augment query documents)
  callbacks : List.Forall₂ (Callback.Simulates related) first.callbacks second.callbacks

/-- Pipelines whose components simulate each other, and which tell their callbacks alike. -/
structure Pipeline.Matches (related : Scene σ → Scene τ → Prop)
    (first : Pipeline σ) (second : Pipeline τ) : Prop where
  retriever : ∀ query,
    Action.Simulates related (first.retriever.retrieve query) (second.retriever.retrieve query)
  transformers : List.Forall₂ (QueryTransformer.Simulates related)
    first.transformers second.transformers
  expander : Option.Rel (QueryExpander.Simulates related) first.expander second.expander
  joiner : ∀ groups,
    Action.Simulates related (first.joiner.join groups) (second.joiner.join groups)
  augmenter : ∀ query documents,
    Action.Simulates related (first.augmenter.augment query documents)
      (second.augmenter.augment query documents)
  tell : ∀ notice, Action.Simulates related (first.tell notice) (second.tell notice)

variable {related : Scene σ → Scene τ → Prop}

/-! ### Callbacks -/

theorem deliver_simulates (hwarns : WarnsAlike related) {first : Callback σ Payload}
    {second : Callback τ Payload} (h : first.Simulates related second) (event : PipelineEvent)
    (payload : Payload) :
    Action.Simulates related (first.deliver event payload) (second.deliver event payload) := by
  have hhandler := h.handler event
  unfold Callback.deliver
  cases hfirst : first.handler event <;> cases hsecond : second.handler event <;>
    rw [hfirst, hsecond] at hhandler <;> cases hhandler
  · exact simulates_pure ()
  · rename_i hhandle
    refine simulates_bind (simulates_attempt (hhandle payload)) fun result ↦ ?_
    cases result with
    | ok _ => exact simulates_pure ()
    | error _ =>
      rw [h.name_eq]
      exact simulates_warn _ (hwarns _)

theorem notify_simulates (hwarns : WarnsAlike related) {first : List (Callback σ Payload)}
    {second : List (Callback τ Payload)}
    (h : List.Forall₂ (Callback.Simulates related) first second) (event : PipelineEvent)
    (payload : Payload) :
    Action.Simulates related (notify event payload first) (notify event payload second) := by
  induction h with
  | nil => exact simulates_pure ()
  | cons hhead _ ih =>
    exact simulates_bind (deliver_simulates hwarns hhead event payload) fun _ ↦ ih

/-! ### Stages -/

namespace Pipeline

theorem transformOnce_simulates {first : QueryTransformer σ} {second : QueryTransformer τ}
    (h : first.Simulates related second) (query : Query) :
    Action.Simulates related (transformOnce first query) (transformOnce second query) := by
  unfold transformOnce
  rw [h.name_eq]
  refine simulates_bind (simulates_protect _ (h.transform query)) fun result ↦ ?_
  cases result with
  | none => exact simulates_throw _
  | some transformed => exact simulates_pure transformed

theorem transformAll_simulates {first : List (QueryTransformer σ)}
    {second : List (QueryTransformer τ)}
    (h : List.Forall₂ (QueryTransformer.Simulates related) first second) (query : Query) :
    Action.Simulates related (transformAll first query) (transformAll second query) := by
  induction h generalizing query with
  | nil => exact simulates_pure query
  | cons hhead _ ih => exact simulates_bind (transformOnce_simulates hhead query) fun _ ↦ ih _

theorem names_eq_of_simulates {first : List (QueryTransformer σ)}
    {second : List (QueryTransformer τ)}
    (h : List.Forall₂ (QueryTransformer.Simulates related) first second) :
    first.map QueryTransformer.name = second.map QueryTransformer.name := by
  induction h with
  | nil => rfl
  | cons hhead _ ih => rw [List.map_cons, List.map_cons, hhead.name_eq, ih]

/-- Pipelines with transformers of the same names give the same result for the same answers. -/
theorem resultOf_eq_of_names {first : Pipeline σ} {second : Pipeline τ}
    (h : first.transformers.map QueryTransformer.name =
      second.transformers.map QueryTransformer.name)
    (query transformed : Query) (expanded : List Query) (found : List (Query × List Document))
    (documents : List Document) (augmented : Query) :
    first.resultOf query transformed expanded found documents augmented =
      second.resultOf query transformed expanded found documents augmented := by
  unfold resultOf
  rw [h]

namespace Matches

variable {first : Pipeline σ} {second : Pipeline τ}

theorem tellTransformed_simulates (h : first.Matches related second) (query transformed : Query) :
    Action.Simulates related (first.tellTransformed query transformed)
      (second.tellTransformed query transformed) := by
  have hempty : first.transformers.isEmpty = second.transformers.isEmpty := by
    simpa using congrArg List.isEmpty (names_eq_of_simulates h.transformers)
  unfold tellTransformed
  rw [hempty]
  split
  · exact simulates_pure ()
  · exact h.tell _

theorem requireQueries_simulates (name : String) (expanded : Option (List Query)) :
    Action.Simulates related (requireQueries name expanded) (requireQueries name expanded) := by
  match expanded with
  | none => exact simulates_throw _
  | some [] => exact simulates_throw _
  | some (query :: rest) => exact simulates_pure (query :: rest)

theorem expandQuery_simulates (h : first.Matches related second) (query : Query) :
    Action.Simulates related (first.expandQuery query) (second.expandQuery query) := by
  have hexpander := h.expander
  unfold expandQuery
  cases hfirst : first.expander <;> cases hsecond : second.expander <;>
    rw [hfirst, hsecond] at hexpander <;> cases hexpander
  · exact simulates_pure [query]
  · rename_i hexpand
    simp only [hexpand.name_eq]
    refine simulates_bind (simulates_protect _ (hexpand.expand query)) fun expanded ↦ ?_
    exact requireQueries_simulates _ expanded

theorem retrieveOne_simulates (h : first.Matches related second) (query : Query) :
    Action.Simulates related (first.retrieveOne query) (second.retrieveOne query) := by
  refine simulates_bind (simulates_protect _ (h.retriever query)) fun result ↦ ?_
  cases result with
  | none => exact simulates_throw _
  | some documents => exact simulates_bind (h.tell _) fun _ ↦ simulates_pure documents

theorem retrieveAll_simulates (h : first.Matches related second) (queries : List Query) :
    Action.Simulates related (first.retrieveAll queries) (second.retrieveAll queries) := by
  induction queries with
  | nil => exact simulates_pure []
  | cons query rest ih =>
    refine simulates_bind (h.retrieveOne_simulates query) fun documents ↦ ?_
    exact simulates_bind ih fun others ↦ simulates_pure ((query, documents) :: others)

theorem joinGroups_simulates (h : first.Matches related second) (groups : Groups) :
    Action.Simulates related (first.joinGroups groups) (second.joinGroups groups) := by
  refine simulates_bind (h.joiner groups) fun result ↦ ?_
  cases result with
  | none => exact simulates_throw _
  | some documents => exact simulates_pure documents

theorem stages_simulates (h : first.Matches related second) (query : Query) :
    Action.Simulates related (first.stages query) (second.stages query) := by
  refine simulates_bind (transformAll_simulates h.transformers query) fun transformed ↦ ?_
  refine simulates_bind (h.tellTransformed_simulates query transformed) fun _ ↦ ?_
  refine simulates_bind (h.expandQuery_simulates transformed) fun expanded ↦ ?_
  refine simulates_bind (h.retrieveAll_simulates expanded) fun found ↦ ?_
  refine simulates_bind (h.joinGroups_simulates (groupsOf found)) fun documents ↦ ?_
  refine simulates_bind (h.augmenter query documents) fun augmented ↦ ?_
  rw [resultOf_eq_of_names (names_eq_of_simulates h.transformers)]
  exact simulates_pure _

/-- Runs of pipelines that match simulate each other. -/
theorem run_simulates (h : first.Matches related second) (query : Query) :
    Action.Simulates related (first.run query) (second.run query) := by
  refine simulates_bind (h.tell _) fun _ ↦ ?_
  refine simulates_bind (simulates_attempt (h.stages_simulates query)) fun result ↦ ?_
  cases result with
  | ok result => exact simulates_bind (h.tell _) fun _ ↦ simulates_pure result
  | error failure => exact simulates_bind (h.tell _) fun _ ↦ simulates_throw failure

end Matches

variable {first : Pipeline σ} {second : Pipeline τ}

theorem tell_simulates (hwarns : WarnsAlike related) (h : first.Simulates related second)
    (notice : Notice) :
    Action.Simulates related (first.tell notice) (second.tell notice) :=
  notify_simulates hwarns h.callbacks notice.event notice

theorem Simulates.toMatches (hwarns : WarnsAlike related) (h : first.Simulates related second) :
    first.Matches related second where
  retriever := h.retriever
  transformers := h.transformers
  expander := h.expander
  joiner := h.joiner
  augmenter := h.augmenter
  tell := tell_simulates hwarns h

/-- Runs of pipelines whose components simulate each other simulate each other. -/
theorem run_simulates (hwarns : WarnsAlike related) (h : first.Simulates related second)
    (query : Query) :
    Action.Simulates related (first.run query) (second.run query) :=
  (h.toMatches hwarns).run_simulates query

end Pipeline

end Grounding
