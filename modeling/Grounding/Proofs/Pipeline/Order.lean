import Grounding.Proofs.Pipeline.Recording
import Grounding.Proofs.Plan

/-!
# The order of the calls of a run

`Pipeline.exchanges` are the calls of its components that a run of a pipeline makes, with the
answers and the failures that they got. A `Pipeline.Plan` is what the components would have to
answer for a run to get through, and `Plan.exchanges` are the calls of such a run: the transformers
one after the other, the expander if there is one, the retriever once for every expanded query, the
joiner on all groups, and the augmenter on the query that was asked in the first place.

`run_follows_plan`: the calls of every run follow a plan. A run has a result exactly if its calls
are all those of the plan, and it fails exactly if they stop short of it, in which case the last
call is the one that failed or whose answer is not acceptable. No call comes after such a one.

`Pipeline.FailsWith` says how a run fails after such a call. Every stage keeps to it
(`follows_run_until`).
-/

set_option autoImplicit false
set_option relaxedAutoImplicit false

namespace Grounding

open Grounding.Action
open Grounding.Stream (sceneAfter)

variable {σ : Type}

/-- A call of a component of a pipeline. -/
inductive PipelineCall
  | transform (position : Nat) (query : Query)
  | expand (query : Query)
  | retrieve (query : Query)
  | join (groups : Groups)
  | augment (query : Query) (documents : List Document)

/-- What a component of a pipeline answers. -/
inductive PipelineAnswer
  | transformed (query : Option Query)
  | expanded (queries : Option (List Query))
  | documents (documents : Option (List Document))
  | augmented (query : Query)

/-- Whether a pipeline can go on with an answer. -/
def PipelineAnswer.isAcceptable : PipelineAnswer → Bool
  | .transformed query => query.isSome
  | .expanded none => false
  | .expanded (some queries) => !queries.isEmpty
  | .documents found => found.isSome
  | .augmented _ => true

/-- A call of a component of a pipeline, with what came of it. -/
abbrev PipelineExchange : Type := Exchange PipelineCall PipelineAnswer

/-- A call that failed or got an answer that is not acceptable. -/
def PipelineExchange.StopsRun (exchange : PipelineExchange) : Prop :=
  ∀ answer, exchange.outcome = .ok answer → answer.isAcceptable = false

open PipelineExchange (StopsRun)

theorem stopsRun_error (call : PipelineCall) (failure : Failure) :
    StopsRun ⟨call, .error failure⟩ := by
  intro answer hanswer
  cases hanswer

theorem stopsRun_answered_iff (call : PipelineCall) (answer : PipelineAnswer) :
    StopsRun (.answered call answer) ↔ answer.isAcceptable = false := by
  constructor
  · intro hstops
    exact hstops answer rfl
  · rintro hacceptable other ⟨⟩
    exact hacceptable

/-- The log of all calls. -/
def PipelineLog.exchanges : PipelineLog σ PipelineExchange where
  transform position query outcome _ := [.entry (.transform position query) .transformed outcome]
  expand query outcome _ := [.entry (.expand query) .expanded outcome]
  retrieve query outcome _ := [.entry (.retrieve query) .documents outcome]
  join groups outcome _ := [.entry (.join groups) .documents outcome]
  augment query documents outcome _ := [.entry (.augment query documents) .augmented outcome]

/-- A transformation failure that names a component, with the failure behind it. -/
def Failure.IsTransformation (failure : Failure) (component : String) (cause : Option Failure) :
    Prop :=
  failure.kind = .reported .transformation ∧ failure.transformer = some component ∧
    failure.cause = cause

/-- A retrieval failure that names the text of a query, with the failure behind it. -/
def Failure.IsRetrieval (failure : Failure) (query : Query) (cause : Failure) : Prop :=
  failure.kind = .reported .retrieval ∧ failure.cause = some cause ∧
    failure.message = "Document retriever failed for query " ++ Text.quoted query.text

namespace Pipeline

/-- The calls that a run makes, in order. -/
def exchanges (pipeline : Pipeline σ) (query : Query) (scene : Scene σ) : List PipelineExchange :=
  (sceneAfter ((pipeline.logging .exchanges).run query) (scene.withRecord [])).record

/-! ### Failures -/

/-- How a run fails after a call that failed or got an answer that is not acceptable. A failure that
passes through is handed on by every component, those of joiner and augmenter in any case. -/
inductive FailsWith (pipeline : Pipeline σ) : PipelineExchange → Failure → Prop
  | passed {call : PipelineCall} {cause : Failure} (hpasses : cause.passesThrough = true) :
    FailsWith pipeline ⟨call, .error cause⟩ cause
  | transformer {position : Nat} {query : Query} {transformer : QueryTransformer σ}
    {cause failure : Failure} (hposition : pipeline.transformers[position]? = some transformer)
    (hwrapped : cause.passesThrough = false)
    (hfailure : failure.IsTransformation transformer.name (some cause)) :
    FailsWith pipeline ⟨.transform position query, .error cause⟩ failure
  | notAQuery {position : Nat} {query : Query} {transformer : QueryTransformer σ}
    {failure : Failure} (hposition : pipeline.transformers[position]? = some transformer)
    (hfailure : failure.IsTransformation transformer.name none) :
    FailsWith pipeline (.answered (.transform position query) (.transformed none)) failure
  | expander {query : Query} {expander : QueryExpander σ} {cause failure : Failure}
    (hexpander : pipeline.expander = some expander) (hwrapped : cause.passesThrough = false)
    (hfailure : failure.IsTransformation expander.name (some cause)) :
    FailsWith pipeline ⟨.expand query, .error cause⟩ failure
  | noQueries {query : Query} {expander : QueryExpander σ} {failure : Failure}
    {queries : Option (List Query)} (hexpander : pipeline.expander = some expander)
    (hqueries : queries = none ∨ queries = some [])
    (hfailure : failure.IsTransformation expander.name none) :
    FailsWith pipeline (.answered (.expand query) (.expanded queries)) failure
  | retriever {query : Query} {cause failure : Failure} (hwrapped : cause.passesThrough = false)
    (hfailure : failure.IsRetrieval query cause) :
    FailsWith pipeline ⟨.retrieve query, .error cause⟩ failure
  | retrievedNull {query : Query} :
    FailsWith pipeline (.answered (.retrieve query) (.documents none)) notAList
  | joiner {groups : Groups} {cause : Failure} :
    FailsWith pipeline ⟨.join groups, .error cause⟩ cause
  | joinedNull {groups : Groups} :
    FailsWith pipeline (.answered (.join groups) (.documents none)) notAList
  | augmenter {query : Query} {documents : List Document} {cause : Failure} :
    FailsWith pipeline ⟨.augment query documents, .error cause⟩ cause

/-- A run fails only after a call that stops it. -/
theorem FailsWith.stopsRun {pipeline : Pipeline σ} {exchange : PipelineExchange}
    {failure : Failure} (h : pipeline.FailsWith exchange failure) : StopsRun exchange := by
  cases h with
  | notAQuery | retrievedNull | joinedNull => exact (stopsRun_answered_iff _ _).mpr rfl
  | noQueries _ hqueries =>
    rcases hqueries with rfl | rfl <;> exact (stopsRun_answered_iff _ _).mpr rfl
  | _ => exact stopsRun_error _ _

/-- Assumes: a component whose other failures are wrapped as they have to be. So are all of them. -/
theorem failsWith_shielded {pipeline : Pipeline σ} {call : PipelineCall}
    {wrap : Failure → Failure} {cause : Failure}
    (hwrap : cause.passesThrough = false → pipeline.FailsWith ⟨call, .error cause⟩ (wrap cause)) :
    pipeline.FailsWith ⟨call, .error cause⟩ (shielded wrap cause) := by
  unfold shielded
  cases hpasses : cause.passesThrough with
  | true => exact .passed hpasses
  | false => exact hwrap hpasses

/-! ### Plans -/

/-- The exchanges with transformers, the first one at a position. -/
def transforming (position : Nat) (query : Query) (transformed : List Query) :
    List PipelineExchange :=
  relayed .transform (fun query ↦ .transformed (some query))
    (List.range' position transformed.length) query transformed

/-- What a query may be expanded to. -/
def ExpandsTo (pipeline : Pipeline σ) (query : Query) (expanded : List Query) : Prop :=
  match pipeline.expander with
  | none => expanded = [query]
  | some _ => expanded ≠ []

/-- The exchange with the expander, if there is one. -/
def expanding (pipeline : Pipeline σ) (query : Query) (expanded : List Query) :
    List PipelineExchange :=
  match pipeline.expander with
  | none => []
  | some _ => [.answered (.expand query) (.expanded (some expanded))]

/-- The exchanges with the retriever. -/
def retrieving (found : List (Query × List Document)) : List PipelineExchange :=
  found.map fun (query, documents) ↦ .answered (.retrieve query) (.documents (some documents))

/-- What components answer in a run that gets through. -/
structure Plan (pipeline : Pipeline σ) (query : Query) where
  transformed : List Query
  expanded : List Query
  found : List (Query × List Document)
  joined : List Document
  augmented : Query
  transformed_length : transformed.length = pipeline.transformers.length
  expands : pipeline.ExpandsTo (transformed.getLastD query) expanded
  found_queries : found.map Prod.fst = expanded

/-- The calls of a run that gets through. -/
def Plan.exchanges {pipeline : Pipeline σ} {query : Query} (plan : Plan pipeline query) :
    List PipelineExchange :=
  transforming 0 query plan.transformed ++
    (pipeline.expanding (plan.transformed.getLastD query) plan.expanded ++
      (retrieving plan.found ++
        ([.answered (.join (groupsOf plan.found)) (.documents (some plan.joined))] ++
          [.answered (.augment query plan.joined) (.augmented plan.augmented)])))

/-- The result of a run that gets through. -/
def Plan.result {pipeline : Pipeline σ} {query : Query} (plan : Plan pipeline query) :
    PipelineResult :=
  pipeline.resultOf query (plan.transformed.getLastD query) plan.expanded plan.found plan.joined
    plan.augmented

/-- No answer of a plan stops a run. -/
theorem Plan.not_stopsRun {pipeline : Pipeline σ} {query : Query} (plan : Plan pipeline query)
    (exchange : PipelineExchange) (hmem : exchange ∈ plan.exchanges) : ¬ StopsRun exchange := by
  intro hstops
  simp only [exchanges, List.mem_append] at hmem
  rcases hmem with htransform | hexpand | hretrieve | hjoin | haugment
  · obtain ⟨output, houtput⟩ := outcome_of_mem_relayed htransform
    cases hstops _ houtput
  · have hexpands := plan.expands
    unfold expanding at hexpand
    unfold ExpandsTo at hexpands
    cases hexpander : pipeline.expander with
    | none => simp [hexpander] at hexpand
    | some expander =>
      rw [hexpander] at hexpand hexpands
      obtain rfl := List.mem_singleton.mp hexpand
      have hempty := (stopsRun_answered_iff _ _).mp hstops
      simp [PipelineAnswer.isAcceptable] at hempty
      exact hexpands hempty
  · obtain ⟨⟨asked, documents⟩, -, rfl⟩ := List.mem_map.mp hretrieve
    cases (stopsRun_answered_iff _ _).mp hstops
  · obtain rfl := List.mem_singleton.mp hjoin
    cases (stopsRun_answered_iff _ _).mp hstops
  · obtain rfl := List.mem_singleton.mp haugment
    cases (stopsRun_answered_iff _ _).mp hstops

theorem Plan.mem_exchanges_of_found {pipeline : Pipeline σ} {query : Query}
    (plan : Plan pipeline query) {asked : Query} {documents : List Document}
    (h : (asked, documents) ∈ plan.found) :
    .answered (.retrieve asked) (.documents (some documents)) ∈ plan.exchanges := by
  have hretrieving : Exchange.answered (.retrieve asked) (.documents (some documents)) ∈
      retrieving plan.found := List.mem_map.mpr ⟨(asked, documents), h, rfl⟩
  simp only [exchanges, List.mem_append]
  exact Or.inr (Or.inr (Or.inl hretrieving))

/-- Every retrieval of a plan is one of those that it has found something with. -/
theorem Plan.exists_found {pipeline : Pipeline σ} {query : Query} (plan : Plan pipeline query)
    {exchange : PipelineExchange} (hmem : exchange ∈ plan.exchanges) {asked : Query}
    (hcall : exchange.call = .retrieve asked) :
    ∃ documents, (asked, documents) ∈ plan.found ∧
      exchange.outcome = .ok (.documents (some documents)) := by
  simp only [exchanges, List.mem_append] at hmem
  rcases hmem with htransform | hexpand | hretrieve | hjoin | haugment
  · obtain ⟨position, input, hother⟩ := call_of_mem_relayed htransform
    cases hother.symm.trans hcall
  · unfold expanding at hexpand
    cases hexpander : pipeline.expander with
    | none => simp [hexpander] at hexpand
    | some expander =>
      rw [hexpander] at hexpand
      obtain rfl := List.mem_singleton.mp hexpand
      cases hcall
  · obtain ⟨⟨other, documents⟩, hfound, rfl⟩ := List.mem_map.mp hretrieve
    obtain rfl : other = asked := PipelineCall.retrieve.inj hcall
    exact ⟨documents, hfound, rfl⟩
  · obtain rfl := List.mem_singleton.mp hjoin
    cases hcall
  · obtain rfl := List.mem_singleton.mp haugment
    cases hcall

/-! ### Stages -/

/-- Actions of a recording pipeline that follow plans. -/
abbrev FollowsPlans {α : Type} (plans : α → List PipelineExchange → Prop)
    (action : Action (Recorded σ PipelineExchange) α) : Prop :=
  Follows (fun _ ↦ StopsRun) plans action

variable (pipeline : Pipeline σ)

/-- Actions of a recording pipeline that follow plans, and that fail as the last call makes them. -/
abbrev FollowsUntil {α : Type} (plans : α → List PipelineExchange → Prop)
    (action : Action (Recorded σ PipelineExchange) α) : Prop :=
  Follows (fun failure exchange ↦ pipeline.FailsWith exchange failure) plans action

theorem follows_transformOnce {transformer : QueryTransformer σ} {position : Nat}
    (hposition : pipeline.transformers[position]? = some transformer) (query : Query) :
    pipeline.FollowsUntil (fun transformed plan ↦
        plan = [.answered (.transform position query) (.transformed (some transformed))])
      (transformOnce (transformer.logging (PipelineLog.exchanges.transform position)) query) := by
  have hfailed : ∀ cause, pipeline.FailsWith ⟨.transform position query, .error cause⟩
      (shielded (.transformerFailed transformer.name) cause) := fun cause ↦
    failsWith_shielded fun hwrapped ↦ .transformer hposition hwrapped ⟨rfl, rfl, rfl⟩
  refine follows_checked (asks_protect (asks_exchanging _ _ _) _) hfailed
    ⟨query, _, rfl⟩ fun result ↦ ?_
  cases result with
  | some transformed => exact records_pure ⟨rfl, rfl⟩
  | none => exact records_throw ⟨rfl, .notAQuery hposition ⟨rfl, rfl, rfl⟩⟩

/-- Assumes: the transformers of a pipeline from a position on. -/
theorem follows_transformAll {transformers : List (QueryTransformer σ)} (position : Nat)
    (hrest : pipeline.transformers.drop position = transformers) (query : Query) :
    pipeline.FollowsUntil (fun final plan ↦ ∃ transformed : List Query,
        transformed.length = transformers.length ∧ final = transformed.getLastD query ∧
          plan = transforming position query transformed)
      (transformAll (loggingFrom .exchanges position transformers) query) := by
  induction transformers generalizing position query with
  | nil => exact follows_pure ⟨[], rfl, rfl, rfl⟩
  | cons transformer rest ih =>
    have hposition : pipeline.transformers[position]? = some transformer := by
      have hhead : (pipeline.transformers.drop position)[0]? =
          pipeline.transformers[position]? := List.getElem?_drop
      rw [← hhead, hrest, List.getElem?_cons_zero]
    have htail : pipeline.transformers.drop (position + 1) = rest := by
      rw [← List.tail_drop, hrest, List.tail_cons]
    refine follows_mono (follows_bind (follows_transformOnce pipeline hposition query)
      fun transformed ↦ ih (position + 1) htail transformed) ?_
    rintro final _ ⟨output, _, _, rfl, ⟨outputs, hlength, rfl, rfl⟩, rfl⟩
    refine ⟨output :: outputs, congrArg (· + 1) hlength, ?_, rfl⟩
    exact (List.getLastD_cons ..).symm

theorem follows_expandQuery (query : Query) :
    pipeline.FollowsUntil (fun expanded plan ↦ pipeline.ExpandsTo query expanded ∧
        plan = pipeline.expanding query expanded)
      ((pipeline.logging .exchanges).expandQuery query) := by
  unfold expandQuery ExpandsTo expanding
  simp only [logging]
  cases hexpander : pipeline.expander with
  | none => exact follows_pure ⟨rfl, rfl⟩
  | some expander =>
    have hfailed : ∀ cause, pipeline.FailsWith ⟨.expand query, .error cause⟩
        (shielded (.expanderFailed expander.name) cause) := fun cause ↦
      failsWith_shielded fun hwrapped ↦ .expander hexpander hwrapped ⟨rfl, rfl, rfl⟩
    refine follows_checked (asks_protect (asks_exchanging _ _ _) _) hfailed
      ⟨[query], _, List.cons_ne_nil query [], rfl⟩ fun expanded ↦ ?_
    cases expanded with
    | none => exact records_throw ⟨rfl, .noQueries hexpander (Or.inl rfl) ⟨rfl, rfl, rfl⟩⟩
    | some queries =>
      cases queries with
      | nil => exact records_throw ⟨rfl, .noQueries hexpander (Or.inr rfl) ⟨rfl, rfl, rfl⟩⟩
      | cons first rest => exact records_pure ⟨rfl, List.cons_ne_nil first rest, rfl⟩

theorem follows_retrieveOne (query : Query) :
    pipeline.FollowsUntil (fun documents plan ↦
        plan = [.answered (.retrieve query) (.documents (some documents))])
      ((pipeline.logging .exchanges).retrieveOne query) := by
  have hfailed : ∀ cause, pipeline.FailsWith ⟨.retrieve query, .error cause⟩
      (shielded (.retrieverFailed query.text) cause) := fun cause ↦
    failsWith_shielded fun hwrapped ↦ .retriever hwrapped ⟨rfl, rfl, rfl⟩
  refine follows_checked (asks_protect (asks_exchanging _ _ _) _) hfailed
    ⟨[], _, rfl⟩ fun result ↦ ?_
  cases result with
  | none => exact records_throw ⟨rfl, .retrievedNull⟩
  | some documents =>
    refine records_bind (records_mono (records_tell _ pipeline _) ?_)
    rintro _ _ ⟨rfl, rfl⟩
    exact records_pure ⟨rfl, rfl⟩

theorem follows_retrieveAll (queries : List Query) :
    pipeline.FollowsUntil
      (fun found plan ↦ found.map Prod.fst = queries ∧ plan = retrieving found)
      ((pipeline.logging .exchanges).retrieveAll queries) := by
  induction queries with
  | nil => exact follows_pure ⟨rfl, rfl⟩
  | cons query rest ih =>
    refine follows_mono (follows_bind (follows_retrieveOne pipeline query) fun documents ↦
      follows_bind ih fun others ↦ follows_return ((query, documents) :: others)) ?_
    rintro _ _ ⟨documents, _, _, rfl, ⟨others, _, _, ⟨rfl, rfl⟩, ⟨rfl, rfl⟩, rfl⟩, rfl⟩
    exact ⟨rfl, by simp [retrieving]⟩

theorem follows_joinGroups (groups : Groups) :
    pipeline.FollowsUntil (fun joined plan ↦
        plan = [.answered (.join groups) (.documents (some joined))])
      ((pipeline.logging .exchanges).joinGroups groups) := by
  refine follows_checked (asks_exchanging _ _ _) (fun _ ↦ .joiner)
    ⟨[], _, rfl⟩ fun result ↦ ?_
  cases result with
  | none => exact records_throw ⟨rfl, .joinedNull⟩
  | some documents => exact records_pure ⟨rfl, rfl⟩

theorem follows_augment (query : Query) (documents : List Document) :
    pipeline.FollowsUntil (fun augmented plan ↦
        plan = [.answered (.augment query documents) (.augmented augmented)])
      ((pipeline.logging .exchanges).augmenter.augment query documents) :=
  haveI : Nonempty Query := ⟨query⟩
  follows_exchanging _ _ _ fun _ ↦ .augmenter

theorem records_tellTransformed (query transformed : Query) :
    Records ((pipeline.logging .exchanges).tellTransformed query transformed)
      fun result record ↦ result = .ok () ∧ record = [] := by
  unfold tellTransformed
  split
  · exact records_pure ⟨rfl, rfl⟩
  · exact records_tell _ pipeline _

/-- The stages of a run make the calls of a plan, and have its result. -/
theorem follows_stages (query : Query) :
    pipeline.FollowsUntil (fun result calls ↦ ∃ plan : Plan pipeline query,
        calls = plan.exchanges ∧ result = plan.result)
      ((pipeline.logging .exchanges).stages query) := by
  refine follows_mono
    (follows_bind (follows_transformAll pipeline 0 rfl query) fun transformed ↦
      follows_bind_silent (records_tellTransformed pipeline query transformed) <|
      follows_bind (follows_expandQuery pipeline transformed) fun expanded ↦
      follows_bind (follows_retrieveAll pipeline expanded) fun found ↦
      follows_bind (follows_joinGroups pipeline (groupsOf found)) fun joined ↦
      follows_bind (follows_augment pipeline query joined) fun augmented ↦
      follows_return ((pipeline.logging .exchanges).resultOf query transformed expanded found joined
        augmented)) ?_
  rintro result _ ⟨_, _, _, ⟨transformed, hlength, rfl, rfl⟩, ⟨expanded, _, _, ⟨hexpands, rfl⟩,
    ⟨found, _, _, ⟨hqueries, rfl⟩, ⟨joined, _, _, rfl, ⟨augmented, _, _, rfl, ⟨rfl, rfl⟩, rfl⟩,
    rfl⟩, rfl⟩, rfl⟩, rfl⟩
  refine ⟨⟨transformed, expanded, found, joined, augmented, hlength, hexpands, hqueries⟩, ?_, ?_⟩
  · rw [List.append_nil]
    rfl
  · exact resultOf_eq_of_names (names_eq_of_simulates logging_simulates.transformers) ..

/-- A whole run makes the calls of its stages, and fails as they do. -/
theorem follows_run_until (query : Query) :
    pipeline.FollowsUntil (fun result calls ↦ ∃ plan : Plan pipeline query,
        calls = plan.exchanges ∧ result = plan.result)
      ((pipeline.logging .exchanges).run query) := by
  have hstages := follows_stages pipeline query
  refine follows_bind_silent (records_tell _ pipeline _) ⟨hstages.feasible, ?_⟩
  refine records_bind (records_attempt (records_mono hstages.records fun result calls hcalls ↦ ?_))
  cases result with
  | ok result =>
    refine records_bind (records_mono (records_tell _ pipeline _) ?_)
    rintro _ _ ⟨rfl, rfl⟩
    exact records_pure (by simpa using hcalls)
  | error failure =>
    refine records_bind (records_mono (records_tell _ pipeline _) ?_)
    rintro _ _ ⟨rfl, rfl⟩
    exact records_throw (by simpa using hcalls)

/-- A whole run makes the calls of its stages. -/
theorem follows_run (query : Query) :
    FollowsPlans (fun result calls ↦ ∃ plan : Plan pipeline query,
        calls = plan.exchanges ∧ result = plan.result)
      ((pipeline.logging .exchanges).run query) :=
  follows_weaken (follows_run_until pipeline query) fun _ _ hfails ↦ hfails.stopsRun

/-- Assumes: a run with a result. Its calls are those of a plan, and its result is the planned
one. -/
theorem exists_plan_of_run {query : Query} {scene : Scene σ} {result : PipelineResult}
    (h : (pipeline.run query).outcome scene = .ok result) :
    ∃ plan : Plan pipeline query,
      pipeline.exchanges query scene = plan.exchanges ∧ result = plan.result := by
  obtain ⟨_, _, ⟨plan, rfl, rfl⟩, -, hresult, -⟩ :=
    exists_plan (follows_run pipeline query) (fun _ _ hstops ↦ hstops) (by
      rintro _ _ ⟨plan, rfl, -⟩
      exact plan.not_stopsRun) (Scene.record_withRecord scene []) rfl
  rw [(run_logging .exchanges pipeline query scene []).1] at hresult
  exact ⟨plan, (hresult result).mp h⟩

/-- Recording the calls of a run does not change it, and they follow a plan that no answer stops. A
run has a result exactly if its calls are all those of the plan, and the result is the planned one.
It fails exactly if its calls stop short of the plan, with a call that failed or whose answer is not
acceptable. Nothing comes after such a call. -/
theorem run_follows_plan (query : Query) (scene : Scene σ) :
    (((pipeline.logging .exchanges).run query).outcome (scene.withRecord []) =
        (pipeline.run query).outcome scene ∧
      (sceneAfter ((pipeline.logging .exchanges).run query) (scene.withRecord [])).plain =
        sceneAfter (pipeline.run query) scene) ∧
    ∃ plan : Plan pipeline query,
      (∀ exchange ∈ plan.exchanges, ¬ StopsRun exchange) ∧
      (∀ result, (pipeline.run query).outcome scene = .ok result ↔
        pipeline.exchanges query scene = plan.exchanges ∧ result = plan.result) ∧
      ((∃ failure, (pipeline.run query).outcome scene = .error failure) ↔
        Interrupts StopsRun plan.exchanges (pipeline.exchanges query scene)) ∧
      (pipeline.exchanges query scene).map Exchange.call <+: plan.exchanges.map Exchange.call ∧
      ∀ before exchange after, pipeline.exchanges query scene = before ++ exchange :: after →
        StopsRun exchange → after = [] := by
  have hsame := run_logging .exchanges pipeline query scene []
  refine ⟨hsame, ?_⟩
  obtain ⟨_, _, ⟨plan, rfl, rfl⟩, hprefix, hresult, hfailed, hincomplete, hlast⟩ :=
    exists_plan (follows_run pipeline query) (fun _ _ hstops ↦ hstops) (by
      rintro _ _ ⟨plan, rfl, -⟩
      exact plan.not_stopsRun) (Scene.record_withRecord scene []) rfl
  rw [hsame.1] at hfailed hincomplete
  refine ⟨plan, plan.not_stopsRun, ?_, ⟨?_, ?_⟩, hprefix, hlast⟩
  · intro result
    rw [← hsame.1]
    exact hresult result
  · rintro ⟨failure, hfailure⟩
    exact hfailed failure hfailure
  · intro hinterrupts
    exact hincomplete (hinterrupts.ne_plan plan.not_stopsRun)

end Pipeline

end Grounding
