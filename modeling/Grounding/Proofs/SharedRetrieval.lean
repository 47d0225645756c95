import Grounding.Advisor.Augmentation
import Grounding.Proofs.Joining
import Grounding.Proofs.Pipeline.Recording
import Grounding.Proofs.Retriever
import Grounding.Proofs.Template.Usual
import Grounding.Template.Types

/-!
# One retrieval, two advisors

An advisor that answers questions searches a store itself. An advisor that augments can do the same
through a pipeline of a retriever alone. A `SharedRetrieval` is what such two advisors have in
common: the store, the parameters of a search with a default filter expression, and a parser.

An action on a world with a record yields a result and some entries if it does so from every scene
(`Yields`). When the store and the parser answer as functions of what they are asked
(`SharedRetrieval.Answers`), the request sides of both advisors yield one and the same search
(`questionAnswer_yields`, `augmentation_yields`), whatever stands in the prompt and in the context.
A failure of the store is wrapped once: the pipeline hands on what the retriever has wrapped.

`before_agrees`: both send this one search and nothing else to the store. If the store answers, the
documents of the one are those of the other without later duplicates; if it fails, both fail alike.
-/

set_option autoImplicit false
set_option relaxedAutoImplicit false

namespace Grounding

open Grounding.Action
open Grounding.RetrievalAdvisor (documentsKey)
open Grounding.Stream (sceneAfter)

variable {σ ε α β γ : Type}

/-! ### Actions that always end alike -/

namespace Action

/-- From every scene an action ends in the same way and appends the same entries. -/
def Yields (action : Action (Recorded σ ε) α) (result : Except Failure α) (entries : List ε) :
    Prop :=
  Records action fun ended appended ↦ ended = result ∧ appended = entries

variable {action : Action (Recorded σ ε) α} {next : α → Action (Recorded σ ε) β}
  {result : Except Failure α} {final : Except Failure β} {entries more : List ε}

theorem yields_pure (value : α) :
    Yields (pure value : Action (Recorded σ ε) α) (.ok value) [] :=
  records_pure ⟨rfl, rfl⟩

theorem yields_throw (failure : Failure) :
    Yields (throw failure : Action (Recorded σ ε) α) (.error failure) [] :=
  records_throw ⟨rfl, rfl⟩

/-- Assumes: a first part that yields a result. The sequence yields what its second part does,
behind the entries of the first. -/
theorem yields_bind {value : α} (h : Yields action (.ok value) entries)
    (hnext : Yields (next value) final more) :
    Yields (action >>= next) final (entries ++ more) := by
  refine records_bind (records_mono h ?_)
  rintro _ _ ⟨rfl, rfl⟩
  refine records_mono hnext ?_
  rintro _ _ ⟨rfl, rfl⟩
  exact ⟨rfl, rfl⟩

/-- Assumes: a first part that yields a failure. So does the sequence. -/
theorem yields_bind_error {failure : Failure} (h : Yields action (.error failure) entries) :
    Yields (action >>= next) (.error failure) entries := by
  refine records_bind (records_mono h ?_)
  rintro _ _ ⟨rfl, rfl⟩
  exact ⟨rfl, rfl⟩

/-- Assumes: results of the first part that stand for values, and a second part that makes other
results of them. -/
theorem yields_bind_of_map {source : Except Failure γ} {stand : γ → α} {change : γ → β}
    (h : Yields action (source.map stand) entries)
    (hnext : ∀ value, Yields (next (stand value)) (.ok (change value)) []) :
    Yields (action >>= next) (source.map change) entries := by
  cases source with
  | error failure => exact yields_bind_error h
  | ok value =>
    have hboth := yields_bind h (hnext value)
    rwa [List.append_nil] at hboth

/-- Assumes: a second part that only changes the results of the first one. -/
theorem yields_bind_map {change : α → β} (h : Yields action result entries)
    (hnext : ∀ value, Yields (next value) (.ok (change value)) []) :
    Yields (action >>= next) (result.map change) entries := by
  have hsame : Yields action (result.map id) entries := by
    rw [Except.map_id]
    exact h
  exact yields_bind_of_map hsame hnext

/-- Assumes: a first part that gives its values as options, and a second part that takes them out.
-/
theorem yields_bind_some {source : Except Failure β} {next : Option β → Action (Recorded σ ε) β}
    {action : Action (Recorded σ ε) (Option β)} (h : Yields action (source.map some) entries)
    (hnext : ∀ value, Yields (next (some value)) (.ok value) []) :
    Yields (action >>= next) source entries := by
  have hboth : Yields (action >>= next) (source.map id) entries := yields_bind_of_map h hnext
  rw [Except.map_id] at hboth
  exact hboth

theorem yields_attempt (h : Yields action result entries) :
    Yields (attempt action) (.ok result) entries := by
  refine records_attempt (records_mono h ?_)
  rintro _ _ ⟨rfl, rfl⟩
  exact ⟨rfl, rfl⟩

theorem yields_protect (wrap : Failure → Failure) (h : Yields action result entries) :
    Yields (protect wrap action) (result.mapError (shielded wrap)) entries := by
  refine records_protect (records_mono h ?_)
  rintro _ _ ⟨rfl, rfl⟩
  exact ⟨rfl, rfl⟩

/-- Assumes: a result that does not depend on the scene. A log yields it with one entry. -/
theorem yields_logging {action : Action σ α} (h : ∀ scene, action.outcome scene = result)
    (entries : List ε) : Yields (action.logging fun _ _ ↦ entries) result entries :=
  records_logging fun scene ↦ ⟨h scene, rfl⟩

end Action

/-! ### The setup -/

/-- What two advisors that retrieve documents have in common. Beside it the pipeline of the one may
have callbacks. -/
structure SharedRetrieval (σ : Type) where
  platform : Platform
  store : DocumentStore σ
  base : SearchRequest := {}
  parser : Option (FilterParser σ) := none
  callbacks : List (Callback σ Notice) := []

namespace SharedRetrieval

/-- The advisor that answers questions, with its usual template. -/
def questionAnswer (setup : SharedRetrieval σ) : QuestionAnswerAdvisor σ where
  store := setup.store
  base := setup.base
  parser := setup.parser
  renderer := .braces setup.platform

/-- The retriever with the same parameters and the same default filter expression. -/
def retriever (setup : SharedRetrieval σ) : StoreRetriever σ where
  store := setup.store
  base := {
    topK := setup.base.topK
    similarityThreshold := setup.base.similarityThreshold }
  defaultFilter := .fixed setup.base.filterExpression
  parser := setup.parser

/-- The pipeline of this retriever alone, with the usual joiner and the usual augmenter. -/
def pipeline (setup : SharedRetrieval σ) : Pipeline σ where
  retriever := setup.retriever.toRetriever
  augmenter := ContextualAugmenter.toAugmenter { renderer := .braces setup.platform }
  callbacks := setup.callbacks

/-- The advisor that augments. -/
def augmentation (setup : SharedRetrieval σ) : AugmentationAdvisor σ where
  pipeline := setup.pipeline

/-- The setup with a store that records its search requests. -/
def recording (setup : SharedRetrieval σ) : SharedRetrieval (Recorded σ SearchRequest) where
  platform := setup.platform
  store search := (setup.store search).logging fun _ _ ↦ [search]
  base := setup.base
  parser := setup.parser.map fun parse text ↦ (parse text).unrecorded
  callbacks := setup.callbacks.map Callback.unrecorded

/-- The store and the parser answer as functions of what they are asked: the store with a list of
documents or a failure, the parser always with an expression. -/
structure Answers (setup : SharedRetrieval σ)
    (answer : SearchRequest → Except Failure (List Document)) (read : String → Value) : Prop where
  store : ∀ search scene, (setup.store search).outcome scene = (answer search).map some
  parser : ∀ parse, setup.parser = some parse →
    ∀ text scene, (parse text).outcome scene = .ok (read text)

/-- The filter expression of a call: its own one, read if it is a text and there is a parser, or
else the default. -/
def expression (setup : SharedRetrieval σ) (read : String → Value) (context : Context) : Value :=
  match Filter.override? context, setup.parser with
  | none, _ => setup.base.filterExpression
  | some (.text content), some _ => read content
  | some value, _ => value

/-- The search for a request. -/
def search (setup : SharedRetrieval σ) (read : String → Value) (request : AdvisedRequest) :
    SearchRequest where
  query := request.userText
  topK := setup.base.topK
  similarityThreshold := setup.base.similarityThreshold
  filterExpression := setup.expression read request.adviseContext

variable {setup : SharedRetrieval σ} {answer : SearchRequest → Except Failure (List Document)}
  {read : String → Value}

/-! ### What both advisors do -/

theorem resolve_yields (h : setup.Answers answer read) (context : Context) :
    Yields (Filter.resolve context setup.recording.base.filterExpression setup.recording.parser)
      (.ok (setup.expression read context)) [] := by
  have hparser := h.parser
  show Yields (Filter.resolve context setup.base.filterExpression (setup.parser.map _)) _ []
  unfold Filter.resolve expression
  cases Filter.override? context with
  | none => exact yields_pure _
  | some override =>
    cases hparse : setup.parser with
    | none => cases override <;> exact yields_pure _
    | some parse =>
      cases override with
      | text content => exact yields_logging (hparser parse hparse content) []
      | _ => exact yields_pure _

theorem store_yields (h : setup.Answers answer read) (search : SearchRequest) :
    Yields (setup.recording.store search) ((answer search).map some) [search] :=
  yields_logging (h.store search) [search]

theorem mapError_map_some (wrap : Failure → Failure) (answer : Except Failure α) :
    (answer.map some).mapError wrap = (answer.mapError wrap).map some := by
  cases answer <;> rfl

/-- What a search comes to: the documents of the store, or its failure, which is wrapped unless it
passes through. -/
def found (answer : SearchRequest → Except Failure (List Document)) (search : SearchRequest) :
    Except Failure (List Document) :=
  (answer search).mapError (shielded (.searchFailed search))

/-! ### Answering questions -/

theorem questionAnswer_found_yields (h : setup.Answers answer read) (search : SearchRequest) :
    Yields (Action.protect (.searchFailed search) (setup.recording.questionAnswer.found search))
      (found answer search) [search] := by
  exact yields_protect _ (yields_bind_some (store_yields h search) yields_pure)

/-- The advisor that answers questions puts what the search has found into the context. -/
theorem questionAnswer_yields (h : setup.Answers answer read) (request : AdvisedRequest) :
    ∃ prompt : List Document → Prompt,
      Yields (setup.recording.questionAnswer.before request)
        ((found answer (setup.search read request)).map fun documents ↦
          ⟨prompt documents, request.adviseContext.insert documentsKey
            (Document.listValue documents)⟩)
        [setup.search read request] := by
  have hrequest : Yields (setup.recording.questionAnswer.buildRequest request)
      (.ok (setup.search read request)) [] :=
    yields_bind (resolve_yields h request.adviseContext) (yields_pure _)
  refine ⟨fun documents ↦ request.prompt.augmentUserMessage
    (request.userText ++ "\n" ++ QuestionAnswerAdvisor.promptWith (joinTexts documents)), ?_⟩
  refine yields_bind hrequest (yields_bind_map (questionAnswer_found_yields h _) fun documents ↦ ?_)
  show Yields ((Renderer.braces setup.platform : Renderer _).render
    QuestionAnswerAdvisor.defaultPrompt _ >>= _) _ _
  rw [ContextualAugmenter.braces_bind (QuestionAnswerAdvisor.render_prompt setup.platform _)]
  exact yields_pure _

/-! ### Augmenting -/

theorem retriever_yields (h : setup.Answers answer read) (request : AdvisedRequest) :
    Yields (setup.recording.retriever.retrieve (AugmentationAdvisor.queryOf request))
      (found answer (setup.search read request)) [setup.search read request] := by
  have hrequest : Yields
      (setup.recording.retriever.buildRequest (AugmentationAdvisor.queryOf request))
      (.ok (setup.search read request)) [] :=
    yields_bind (yields_pure _) (yields_bind (resolve_yields h request.adviseContext)
      (yields_pure _))
  have hstore := yields_protect (.searchFailed (setup.search read request))
    (store_yields h (setup.search read request))
  rw [mapError_map_some] at hstore
  exact yields_bind hrequest (yields_bind_some hstore yields_pure)

/-- A pipeline of recording callbacks tells them without writing anything. -/
theorem tell_yields (setup : SharedRetrieval σ) (notice : Notice) :
    Yields (setup.recording.pipeline.tell notice) (.ok ()) [] :=
  Pipeline.records_notify setup.callbacks notice.event notice

/-- A failure that the retriever has wrapped is not wrapped by the pipeline. -/
theorem found_mapError (answer : SearchRequest → Except Failure (List Document))
    (search : SearchRequest) (text : String) :
    (found answer search).mapError (shielded (.retrieverFailed text)) = found answer search := by
  unfold found
  cases answer search with
  | ok documents => rfl
  | error failure => exact congrArg Except.error (shielded_shielded (fun _ ↦ rfl) failure)

theorem retrieveOne_yields (h : setup.Answers answer read) (request : AdvisedRequest) :
    Yields (setup.recording.pipeline.retrieveOne (AugmentationAdvisor.queryOf request))
      (found answer (setup.search read request)) [setup.search read request] := by
  have hretrieve : Yields
      (setup.recording.pipeline.retriever.retrieve (AugmentationAdvisor.queryOf request))
      ((found answer (setup.search read request)).map some) [setup.search read request] :=
    yields_bind_map (retriever_yields h request) fun documents ↦ yields_pure (some documents)
  have hprotected := yields_protect (.retrieverFailed request.userText) hretrieve
  rw [mapError_map_some, found_mapError] at hprotected
  exact yields_bind_some hprotected fun documents ↦
    yields_bind (tell_yields setup _) (yields_pure documents)

/-- The stages of the pipeline come to the result of the one retrieval. -/
theorem stages_yields (h : setup.Answers answer read) (request : AdvisedRequest) :
    ∃ result : List Document → PipelineResult,
      (∀ documents, (result documents).documents = documents.eraseDupsBy Document.sameId) ∧
      Yields (setup.recording.pipeline.stages (AugmentationAdvisor.queryOf request))
        ((found answer (setup.search read request)).map result) [setup.search read request] := by
  refine ⟨fun documents ↦ setup.recording.pipeline.resultOf (AugmentationAdvisor.queryOf request)
    (AugmentationAdvisor.queryOf request) [AugmentationAdvisor.queryOf request]
    [(AugmentationAdvisor.queryOf request, documents)] (documents.eraseDupsBy Document.sameId)
    ((AugmentationAdvisor.queryOf request).withText (ContextualAugmenter.usualText false
      request.userText (documents.eraseDupsBy Document.sameId))), fun _ ↦ rfl, ?_⟩
  have hall : Yields
      (setup.recording.pipeline.retrieveAll [AugmentationAdvisor.queryOf request])
      ((found answer (setup.search read request)).map fun documents ↦
        [(AugmentationAdvisor.queryOf request, documents)]) [setup.search read request] :=
    yields_bind_map (retrieveOne_yields h request) fun documents ↦
      yields_bind (yields_pure []) (yields_pure _)
  have hjoin (documents : List Document) : Yields
      (setup.recording.pipeline.joinGroups
        (Pipeline.groupsOf [(AugmentationAdvisor.queryOf request, documents)]))
      (.ok (documents.eraseDupsBy Document.sameId)) [] := by
    have hjoined : Joiner.concatenate
        (Pipeline.groupsOf [(AugmentationAdvisor.queryOf request, documents)]) =
          documents.eraseDupsBy Document.sameId := by
      rw [← firstOccurrences_nil_eq]
      show firstOccurrences [] (documents ++ []) = firstOccurrences [] documents
      rw [List.append_nil]
    rw [← hjoined]
    exact yields_bind (yields_pure (some _)) (yields_pure _)
  have haugment (documents : List Document) : Yields
      (setup.recording.pipeline.augmenter.augment (AugmentationAdvisor.queryOf request) documents)
      (.ok ((AugmentationAdvisor.queryOf request).withText (ContextualAugmenter.usualText false
        request.userText documents))) [] := by
    have haugmented := ContextualAugmenter.augment_usual (σ := Recorded σ SearchRequest)
      setup.platform false (AugmentationAdvisor.queryOf request) documents
    show Yields (ContextualAugmenter.augment { renderer := .braces setup.platform } _ documents)
      _ _
    rw [haugmented]
    exact yields_pure _
  refine yields_bind (yields_pure _) (yields_bind (yields_pure ()) (yields_bind (yields_pure _) ?_))
  exact yields_bind_of_map hall fun documents ↦
    yields_bind (hjoin documents) (yields_bind (haugment _) (yields_pure _))

/-- The advisor that augments puts what the search has found into the context, without later
duplicates. -/
theorem augmentation_yields (h : setup.Answers answer read) (request : AdvisedRequest) :
    ∃ prompt : List Document → Prompt,
      Yields (setup.recording.augmentation.before request)
        ((found answer (setup.search read request)).map fun documents ↦
          ⟨prompt documents, request.adviseContext.insert documentsKey
            (Document.listValue (documents.eraseDupsBy Document.sameId))⟩)
        [setup.search read request] := by
  obtain ⟨result, hdocuments, hstages⟩ := stages_yields h request
  refine ⟨fun documents ↦ request.prompt.augmentUserMessage
    (result documents).augmentedQuery.text, ?_⟩
  have hrun : Yields (setup.recording.pipeline.run (AugmentationAdvisor.queryOf request))
      ((found answer (setup.search read request)).map result) [setup.search read request] := by
    refine yields_bind (tell_yields setup _) ?_
    have hattempt := yields_attempt hstages
    cases hfound : found answer (setup.search read request) with
    | error failure =>
      rw [hfound] at hattempt
      exact yields_bind hattempt (yields_bind (tell_yields setup _) (yields_throw failure))
    | ok documents =>
      rw [hfound] at hattempt
      exact yields_bind hattempt (yields_bind (tell_yields setup _) (yields_pure _))
  simp only [← hdocuments]
  exact yields_bind_of_map hrun fun documents ↦ yields_pure _

/-! ### Recording changes nothing -/

theorem parser_simulates (setup : SharedRetrieval σ) :
    Option.Rel (FilterParser.Simulates Forgets) setup.recording.parser setup.parser := by
  show Option.Rel _ (setup.parser.map _) setup.parser
  cases setup.parser with
  | none => exact .none
  | some parse => exact .some fun text ↦ simulates_unrecorded (parse text)

theorem store_simulates (setup : SharedRetrieval σ) (search : SearchRequest) :
    Action.Simulates Forgets (setup.recording.store search) (setup.store search) := by
  show Action.Simulates Forgets ((setup.store search).logging fun _ _ ↦ [search])
    (setup.store search)
  exact simulates_logging

theorem questionAnswer_simulates (setup : SharedRetrieval σ) (request : AdvisedRequest) :
    Action.Simulates Forgets (setup.recording.questionAnswer.before request)
      (setup.questionAnswer.before request) := by
  refine simulates_bind (simulates_bind
    (Filter.resolve_simulates (parser_simulates setup) _ _) fun _ ↦ simulates_pure _)
      fun search ↦ ?_
  refine simulates_bind (simulates_protect _ ?_) fun documents ↦ ?_
  · refine simulates_bind (store_simulates setup search) fun answer ↦ ?_
    cases answer with
    | none => exact simulates_throw _
    | some documents => exact simulates_pure documents
  · refine simulates_bind ?_ fun advice ↦ simulates_pure _
    exact simulates_ofExcept _

theorem pipeline_simulates (setup : SharedRetrieval σ) :
    setup.recording.pipeline.Simulates Forgets setup.pipeline where
  retriever := StoreRetriever.Simulates.retrieve {
    base_eq := rfl
    defaultFilter := simulates_pure _
    parser := parser_simulates setup
    store := store_simulates setup }
  transformers := .nil
  expander := .none
  joiner _ := simulates_pure _
  augmenter query documents := by
    show Action.Simulates Forgets
      (ContextualAugmenter.augment { renderer := .braces setup.platform } query documents)
      (ContextualAugmenter.augment { renderer := .braces setup.platform } query documents)
    rw [ContextualAugmenter.augment_usual setup.platform false,
      ContextualAugmenter.augment_usual setup.platform false]
    exact simulates_pure _
  callbacks := by
    refine List.forall₂_map_left_iff.mpr (List.forall₂_same.mpr fun callback _ ↦ ?_)
    exact unrecorded_simulates callback

theorem augmentation_simulates (setup : SharedRetrieval σ) (request : AdvisedRequest) :
    Action.Simulates Forgets (setup.recording.augmentation.before request)
      (setup.augmentation.before request) :=
  simulates_bind (Pipeline.run_simulates warnsAlike_forgets (pipeline_simulates setup) _)
    fun _ ↦ simulates_pure _

/-! ### Agreement -/

/-- An action sends one search to the store of a setup: recording the searches does not change it,
and this one is recorded. -/
structure Sends (recorded : Action (Recorded σ SearchRequest) α) (plain : Action σ α)
    (search : SearchRequest) : Prop where
  simulates : Action.Simulates Forgets recorded plain
  record_eq : ∀ scene, (sceneAfter recorded scene).record = scene.record ++ [search]

/-- Assumes: an action that yields a result when it is recorded, with one entry. It sends this entry
and always ends with this result. -/
theorem sends_of_yields {recorded : Action (Recorded σ SearchRequest) α} {plain : Action σ α}
    {result : Except Failure α} {search : SearchRequest}
    (hsame : Action.Simulates Forgets recorded plain) (h : Yields recorded result [search]) :
    Sends recorded plain search ∧ ∀ scene, plain.outcome scene = result := by
  refine ⟨⟨hsame, fun scene ↦ ?_⟩, fun scene ↦ ?_⟩
  · obtain ⟨_, hrecord, -, rfl⟩ := h scene
    exact hrecord
  · obtain ⟨_, -, hended, -⟩ := h (scene.withRecord [])
    rw [← hended]
    exact (hsame (scene.withRecord []) scene rfl).1.symm

/-- Assumes: a store and a parser that answer as functions of what they are asked. For every
request, from whatever scenes, both advisors send the store one search and no other, and it is the
same. If the store answers, both succeed; the one that answers questions puts the documents of the
store into the context, the other one the first for every identifier, which are the same documents
if the identifiers are distinct. If the store fails, both fail in the same way. -/
theorem before_agrees (setup : SharedRetrieval σ)
    (answer : SearchRequest → Except Failure (List Document)) (read : String → Value)
    (h : setup.Answers answer read) (request : AdvisedRequest) :
    ∃ search,
      search = setup.search read request ∧
      Sends (setup.recording.questionAnswer.before request)
        (setup.questionAnswer.before request) search ∧
      Sends (setup.recording.augmentation.before request)
        (setup.augmentation.before request) search ∧
      (∀ documents, answer search = .ok documents → ∀ scene other, ∃ answered augmented,
        (setup.questionAnswer.before request).outcome scene = .ok answered ∧
        (setup.augmentation.before request).outcome other = .ok augmented ∧
        Dict.get? answered.adviseContext documentsKey = some (Document.listValue documents) ∧
        Dict.get? augmented.adviseContext documentsKey =
          some (Document.listValue (documents.eraseDupsBy Document.sameId)) ∧
        ((documents.map Document.id).Nodup →
          documents.eraseDupsBy Document.sameId = documents)) ∧
      ∀ failure, answer search = .error failure → ∀ scene other,
        (setup.questionAnswer.before request).outcome scene =
          .error (shielded (.searchFailed search) failure) ∧
        (setup.augmentation.before request).outcome other =
          .error (shielded (.searchFailed search) failure) := by
  obtain ⟨prompt, hanswering⟩ := questionAnswer_yields h request
  obtain ⟨augmentedPrompt, haugmenting⟩ := augmentation_yields h request
  obtain ⟨hsent, hanswered⟩ := sends_of_yields (questionAnswer_simulates setup request) hanswering
  obtain ⟨hsame, haugmented⟩ := sends_of_yields (augmentation_simulates setup request) haugmenting
  refine ⟨_, rfl, hsent, hsame, fun documents hdocuments scene other ↦ ?_,
    fun failure hfailure scene other ↦ ?_⟩
  · have hfound : found answer (setup.search read request) = .ok documents := by
      unfold found
      rw [hdocuments]
      rfl
    rw [hanswered, haugmented, hfound]
    refine ⟨_, _, rfl, rfl, ?_, ?_, fun hnodup ↦ ?_⟩
    · rw [Dict.get?_insert, if_pos rfl]
    · rw [Dict.get?_insert, if_pos rfl]
    · rw [← firstOccurrences_nil_eq]
      exact firstOccurrences_of_nodup (fun _ _ ↦ List.not_mem_nil) hnodup
  · have hfound : found answer (setup.search read request) =
        .error (shielded (.searchFailed (setup.search read request)) failure) := by
      unfold found
      rw [hfailure]
      rfl
    rw [hanswered, haugmented, hfound]
    exact ⟨rfl, rfl⟩

/-- What a store has for a search: nothing for an empty text, and one document twice for any other
one. -/
def repeated (search : SearchRequest) : Except Failure (List Document) :=
  if search.query = "" then .error (.argument .emptyEmbeddings)
  else .ok [{ id := "1" }, { id := "2" }, { id := "1" }]

/-- The filter expression that a text stands for. -/
def tenant (text : String) : Value :=
  .dict [("tenant", .text text)]

/-- A setup with this store, and a parser that reads the names of tenants. -/
def repeating : SharedRetrieval Unit where
  platform := .typed
  store search := Action.ofExcept ((repeated search).map some)
  parser := some fun text ↦ pure (tenant text)

theorem repeating_answers : repeating.Answers repeated tenant where
  store _ _ := outcome_ofExcept _ _
  parser parse hparse text scene := by
    obtain rfl := Option.some.inj hparse
    rfl

/-- Both advisors search for the tenant of the context; the document that comes twice is in the
context once if the pipeline has joined it. -/
theorem before_agrees_repeating :
    repeating.Answers repeated tenant ∧
      ∃ search answered augmented, search.filterExpression = tenant "a" ∧
        Sends (repeating.recording.questionAnswer.before
            (.ofText "Who?" [(Filter.contextKey, .text "a")]))
          (repeating.questionAnswer.before (.ofText "Who?" [(Filter.contextKey, .text "a")]))
          search ∧
        (repeating.questionAnswer.before
          (.ofText "Who?" [(Filter.contextKey, .text "a")])).outcome ⟨(), []⟩ = .ok answered ∧
        (repeating.augmentation.before
          (.ofText "Who?" [(Filter.contextKey, .text "a")])).outcome ⟨(), []⟩ = .ok augmented ∧
        Dict.get? answered.adviseContext documentsKey =
          some (Document.listValue [{ id := "1" }, { id := "2" }, { id := "1" }]) ∧
        Dict.get? augmented.adviseContext documentsKey =
          some (Document.listValue [{ id := "1" }, { id := "2" }]) := by
  obtain ⟨search, hsearch, hsent, -, hfound, -⟩ := before_agrees repeating repeated tenant
    repeating_answers (.ofText "Who?" [(Filter.contextKey, .text "a")])
  have hexpression : search.filterExpression = tenant "a" := by
    rw [hsearch]
    rfl
  have hanswer : repeated search = .ok [{ id := "1" }, { id := "2" }, { id := "1" }] := by
    rw [hsearch]
    rfl
  obtain ⟨answered, augmented, hanswered, haugmented, hall, hfirst, -⟩ :=
    hfound _ hanswer ⟨(), []⟩ ⟨(), []⟩
  exact ⟨repeating_answers, search, answered, augmented, hexpression, hsent, hanswered, haugmented,
    hall, hfirst⟩

end SharedRetrieval

end Grounding
