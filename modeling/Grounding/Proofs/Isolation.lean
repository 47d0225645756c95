import Grounding.Advisor.Augmentation
import Grounding.Proofs.Pipeline.Confinement
import Grounding.Proofs.Pipeline.Recording
import Grounding.Proofs.Retriever
import Grounding.Proofs.Search

/-!
# Isolation by the filter expression of a call

A `BuiltInPipeline` is a pipeline of the components of this library: rephrasings, the expander that
asks for variations, a retriever over a store in memory, and the joiner that concatenates. Its
`searches` are the requests that the advisor sends to the store in one call, each with the content
that was searched.

`before_isolates`: if the advise context holds a usable filter expression, then every search carries
what that expression comes to, and every document that the advisor puts into the context was found
in a content that holds it under that very expression.

The filter expression travels in the context of the query. The components keep this context,
whatever generation callbacks answer (`transform_context`, `expand_context`), and the default filter
of the retriever is passed over (`resolve_silent`); the rest is `Pipeline.Confined.run_confined`.
-/

set_option autoImplicit false
set_option relaxedAutoImplicit false

namespace Grounding

open Grounding.Action
open Grounding.Stream (sceneAfter)

variable {σ : Type}

/-! ### Contexts of queries -/

theorem Query.withGenerated_context {query transformed : Query} {transformer : String}
    {generated : Value} {scene : Scene σ}
    (h : (query.withGenerated transformer generated : Action σ Query).outcome scene =
      .ok transformed) : transformed.context = query.context := by
  have hkept : ∀ (text : String) (later : Scene σ),
      Action.outcome (if text.isEmpty = true then do
        warn (.emptyGeneration transformer)
        pure query
      else pure (query.withText text)) later = .ok transformed →
        transformed.context = query.context := by
    intro text later hrest
    split at hrest
    · obtain ⟨_, -, hquery⟩ := outcome_bind_eq_ok_iff.mp hrest
      obtain rfl := Except.ok.inj hquery
      rfl
    · obtain rfl := Except.ok.inj hrest
      rfl
  unfold Query.withGenerated at h
  dsimp only at h
  split at h
  all_goals
    obtain ⟨text, -, hrest⟩ := outcome_bind_eq_ok_iff.mp h
    exact hkept text _ hrest

/-- A built-in transformer keeps the context, whatever its callbacks answer. -/
theorem Rephrasing.transform_context {rephrasing : Rephrasing σ} {query transformed : Query}
    {scene : Scene σ} (h : (rephrasing.transform query).outcome scene = .ok transformed) :
    transformed.context = query.context := by
  unfold transform at h
  cases rephrasing with
  | compression callback =>
    simp only at h
    split at h
    · obtain rfl := Except.ok.inj h
      rfl
    · obtain ⟨generated, -, hgenerated⟩ := outcome_bind_eq_ok_iff.mp h
      exact Query.withGenerated_context hgenerated
  | forSystem system callback =>
    obtain ⟨generated, -, hgenerated⟩ := outcome_bind_eq_ok_iff.mp h
    exact Query.withGenerated_context hgenerated
  | intoLanguage language detect callback =>
    obtain ⟨settled, -, hrest⟩ := outcome_bind_eq_ok_iff.mp h
    split at hrest
    · obtain rfl := Except.ok.inj hrest
      rfl
    · obtain ⟨generated, -, hgenerated⟩ := outcome_bind_eq_ok_iff.mp hrest
      exact Query.withGenerated_context hgenerated

/-- The built-in expander gives queries in the same context, whatever its callback answers. -/
theorem MultiQueryExpander.expand_context {expander : MultiQueryExpander σ} {query : Query}
    {expanded : List Query} {scene : Scene σ}
    (h : (expander.expand query).outcome scene = .ok expanded) :
    ∀ other ∈ expanded, other.context = query.context := by
  intro other hmem
  have hsame : ∀ texts : List String, ∀ variation ∈ texts.map query.withText,
      variation.context = query.context := by
    intro texts variation hvariation
    obtain ⟨text, -, rfl⟩ := List.mem_map.mp hvariation
    rfl
  unfold expand at h
  split at h
  · obtain rfl := Except.ok.inj h
    rw [List.mem_singleton.mp hmem]
  · obtain ⟨answer, -, hrest⟩ := outcome_bind_eq_ok_iff.mp h
    obtain ⟨texts, -, hexpanded⟩ := outcome_bind_eq_ok_iff.mp hrest
    split at hexpanded
    · obtain ⟨_, -, hquery⟩ := outcome_bind_eq_ok_iff.mp hexpanded
      obtain rfl := Except.ok.inj hquery
      rw [List.mem_singleton.mp hmem]
    · obtain rfl := Except.ok.inj hexpanded
      split at hmem
      · rcases List.mem_cons.mp hmem with rfl | hvariation
        · rfl
        · exact hsame _ other hvariation
      · exact hsame _ other hmem

theorem mem_of_mem_firstOccurrences {seen : List String} {documents : List Document}
    {document : Document} (h : document ∈ firstOccurrences seen documents) :
    document ∈ documents := by
  induction documents generalizing seen with
  | nil => cases h
  | cons head rest ih =>
    unfold firstOccurrences at h
    split at h
    · exact List.mem_cons_of_mem head (ih h)
    · rcases List.mem_cons.mp h with rfl | hrest
      · exact List.mem_cons_self
      · exact List.mem_cons_of_mem head (ih hrest)

/-! ### Built-in pipelines -/

/-- The components of a pipeline of which all but augmenter and callbacks come from this library. -/
structure BuiltInPipeline (σ : Type) where
  rephrasings : List (Rephrasing σ) := []
  expander : Option (MultiQueryExpander σ) := none
  store : EmbeddedStore σ
  base : SearchRequest := {}
  defaultFilter : DefaultFilter σ := .fixed .null
  parser : Option (FilterParser σ) := none
  augmenter : Augmenter σ
  callbacks : List (Callback σ Notice) := []

/-- A search of a store, with the content that was searched. -/
structure Search where
  request : SearchRequest
  content : MemoryStore

/-- A store that records its searches. -/
def EmbeddedStore.recording (store : EmbeddedStore σ) : DocumentStore (Recorded σ Search) :=
  fun request ↦
    (store.toStore request).logging fun _ world ↦ [⟨request, store.slot.get world⟩]

/-- A default filter that leaves the record as it is. -/
def DefaultFilter.unrecorded : DefaultFilter σ → DefaultFilter (Recorded σ Search)
  | .fixed expression => .fixed expression
  | .computed compute => .computed compute.unrecorded

/-- A parser that leaves the record as it is. -/
def FilterParser.unrecorded (parser : FilterParser σ) : FilterParser (Recorded σ Search) :=
  fun text ↦ (parser text).unrecorded

namespace BuiltInPipeline

/-- The retriever. -/
def retriever (parts : BuiltInPipeline σ) : StoreRetriever σ where
  store := parts.store.toStore
  base := parts.base
  defaultFilter := parts.defaultFilter
  parser := parts.parser

/-- The retriever over the store that records its searches. -/
def recordingRetriever (parts : BuiltInPipeline σ) : StoreRetriever (Recorded σ Search) where
  store := parts.store.recording
  base := parts.base
  defaultFilter := parts.defaultFilter.unrecorded
  parser := parts.parser.map FilterParser.unrecorded

/-- The pipeline. -/
def toPipeline (parts : BuiltInPipeline σ) : Pipeline σ where
  retriever := parts.retriever.toRetriever
  transformers := parts.rephrasings.map Rephrasing.toTransformer
  expander := parts.expander.map MultiQueryExpander.toExpander
  joiner := .concatenation
  augmenter := parts.augmenter
  callbacks := parts.callbacks

/-- The pipeline over the store that records its searches. -/
def recording (parts : BuiltInPipeline σ) : Pipeline (Recorded σ Search) :=
  { parts.toPipeline.logging {} with retriever := parts.recordingRetriever.toRetriever }

/-- The request side of the advisor over the pipeline. -/
def before (parts : BuiltInPipeline σ) (request : AdvisedRequest) : Action σ AdvisedRequest :=
  ({ pipeline := parts.toPipeline } : AugmentationAdvisor σ).before request

/-- The request side of the advisor over the pipeline that records its searches. -/
def recordingBefore (parts : BuiltInPipeline σ) (request : AdvisedRequest) :
    Action (Recorded σ Search) AdvisedRequest :=
  ({ pipeline := parts.recording } : AugmentationAdvisor (Recorded σ Search)).before request

/-- The searches of one call of the advisor, in order. -/
def searches (parts : BuiltInPipeline σ) (request : AdvisedRequest) (scene : Scene σ) :
    List Search :=
  (sceneAfter (parts.recordingBefore request) (scene.withRecord [])).record

/-! ### Recording changes no call -/

theorem defaultFilter_simulates (defaultFilter : DefaultFilter σ) :
    Action.Simulates Forgets defaultFilter.unrecorded.get defaultFilter.get := by
  cases defaultFilter with
  | fixed expression => exact simulates_pure expression
  | computed compute => exact simulates_unrecorded compute

theorem retriever_simulates (parts : BuiltInPipeline σ) :
    parts.recordingRetriever.Simulates Forgets parts.retriever where
  base_eq := rfl
  defaultFilter := defaultFilter_simulates parts.defaultFilter
  parser := by
    show Option.Rel _ (parts.parser.map _) parts.parser
    cases parts.parser with
    | none => exact .none
    | some parse => exact .some fun text ↦ simulates_unrecorded (parse text)
  store request := by
    show Action.Simulates Forgets (parts.store.recording request) (parts.store.toStore request)
    exact simulates_logging

theorem recording_simulates (parts : BuiltInPipeline σ) :
    parts.recording.Simulates Forgets parts.toPipeline :=
  { Pipeline.logging_simulates with retriever := (retriever_simulates parts).retrieve }

theorem before_simulates (parts : BuiltInPipeline σ) (request : AdvisedRequest) :
    Action.Simulates Forgets (parts.recordingBefore request) (parts.before request) :=
  simulates_bind (Pipeline.run_simulates warnsAlike_forgets (recording_simulates parts) _)
    fun _ ↦ simulates_pure _

/-! ### Confinement -/

end BuiltInPipeline

/-- What a filter expression of a call comes to: a text is read by the parser, if there is one,
which has to answer the same thing every time; anything else stands for itself. -/
def Filter.ResolvesTo (parser : Option (FilterParser σ)) (override resolved : Value) : Prop :=
  match override, parser with
  | .text content, some parse =>
    ∀ scene value, (parse content).outcome scene = .ok value → value = resolved
  | value, _ => value = resolved

/-- Assumes: a filter expression that is used. It is resolved without a look at the default. -/
theorem Filter.resolve_silent {context : Context} {override resolved : Value}
    {parser : Option (FilterParser σ)} (hoverride : Filter.override? context = some override)
    (hresolved : Filter.ResolvesTo parser override resolved) (expression : Value) :
    Silent (Filter.resolve context expression (parser.map FilterParser.unrecorded) :
      Action (Recorded σ Search) Value) (· = resolved) := by
  unfold Filter.resolve
  rw [hoverride]
  cases parser with
  | none => cases override <;> exact silent_pure hresolved
  | some parse =>
    cases override with
    | text content => exact silent_unrecorded hresolved
    | _ => exact silent_pure hresolved

namespace BuiltInPipeline

variable {parts : BuiltInPipeline σ} {context : Context} {override resolved : Value}

theorem buildRequest_silent (hoverride : Filter.override? context = some override)
    (hresolved : Filter.ResolvesTo parts.parser override resolved) {query : Query}
    (hquery : query.context = context) :
    Silent (parts.recordingRetriever.buildRequest query)
      fun request ↦ request.filterExpression = resolved := by
  have hdefault : Silent parts.recordingRetriever.defaultFilter.get fun _ ↦ True := by
    show Silent parts.defaultFilter.unrecorded.get _
    cases parts.defaultFilter with
    | fixed expression => exact silent_pure trivial
    | computed compute => exact silent_unrecorded fun _ _ _ ↦ trivial
  subst hquery
  refine silent_bind hdefault fun expression _ ↦ ?_
  refine silent_bind (Filter.resolve_silent hoverride hresolved expression) fun value hvalue ↦ ?_
  exact silent_pure hvalue

/-- A search that carries a filter expression. -/
def CarriesFilter (resolved : Value) (search : Search) : Prop :=
  search.request.filterExpression = resolved

/-- A search whose content holds a document under a filter expression. -/
def Finds (parts : BuiltInPipeline σ) (resolved : Value) (search : Search)
    (document : Document) : Prop :=
  search.content.Holds parts.store.callables resolved document

theorem store_confines {request : SearchRequest} (hrequest : request.filterExpression = resolved) :
    Confines (CarriesFilter resolved) (parts.Finds resolved) [] (Option.getD · [])
      (parts.store.recording request) := by
  refine records_logging fun scene ↦ ⟨?_, ?_⟩
  · intro search hmem
    obtain rfl := List.mem_singleton.mp hmem
    exact hrequest
  · intro answer hanswer document hmem
    obtain ⟨documents, hdocuments, hsome⟩ := outcome_bind_eq_ok_iff.mp hanswer
    obtain rfl := Except.ok.inj hsome
    have hholds := EmbeddedStore.search_holds parts.store hdocuments document hmem
    have hscene : sceneAfter (parts.store.toStore request) scene =
        sceneAfter (parts.store.search request) scene :=
      sceneAfter_bind_ok hdocuments _
    refine Or.inr ⟨_, List.mem_singleton_self _, ?_⟩
    rw [hrequest] at hholds
    rw [hscene]
    exact hholds

theorem retrieve_confines (hoverride : Filter.override? context = some override)
    (hresolved : Filter.ResolvesTo parts.parser override resolved) {query : Query}
    (hquery : query.context = context) :
    Confines (CarriesFilter resolved) (parts.Finds resolved) [] (Option.getD · [])
      (parts.recordingRetriever.toRetriever.retrieve query) := by
  have hretrieve : Confines (CarriesFilter resolved) (parts.Finds resolved) [] id
      (parts.recordingRetriever.retrieve query) := by
    refine confines_bind_silent (buildRequest_silent hoverride hresolved hquery)
      fun request hrequest ↦ ?_
    refine confines_bind (confines_protect _ (store_confines hrequest)) fun answer ↦ ?_
    cases answer with
    | none => exact confines_throw _
    | some documents => exact confines_pure fun document hmem ↦ hmem
  refine confines_bind hretrieve fun documents ↦ ?_
  exact confines_pure fun document hmem ↦ hmem

/-- Assumes: a context with a filter expression that is used. The pipeline is confined to searches
that carry what it comes to, and to documents that these find. -/
theorem recording_confined (hoverride : Filter.override? context = some override)
    (hresolved : Filter.ResolvesTo parts.parser override resolved) :
    parts.recording.Confined context (CarriesFilter resolved) (parts.Finds resolved) where
  transform transformer hmem query hquery := by
    obtain ⟨other, hother, place, rfl⟩ := mem_loggingFrom hmem
    obtain ⟨rephrasing, -, rfl⟩ := List.mem_map.mp hother
    refine silent_unrecorded fun scene answer hanswer transformed htransformed ↦ ?_
    obtain ⟨value, hvalue, hsome⟩ := outcome_bind_eq_ok_iff.mp hanswer
    subst htransformed
    obtain rfl := Option.some.inj (Except.ok.inj hsome)
    rw [Rephrasing.transform_context hvalue, hquery]
  expand expander hexpander query hquery := by
    obtain ⟨other, hother, rfl⟩ := Option.map_eq_some_iff.mp hexpander
    obtain ⟨multiple, -, rfl⟩ := Option.map_eq_some_iff.mp hother
    refine silent_unrecorded fun scene answer hanswer expanded hexpanded variation hmem ↦ ?_
    obtain ⟨queries, hqueries, hsome⟩ := outcome_bind_eq_ok_iff.mp hanswer
    subst hexpanded
    obtain rfl := Option.some.inj (Except.ok.inj hsome)
    rw [MultiQueryExpander.expand_context hqueries variation hmem, hquery]
  retrieve query hquery := retrieve_confines hoverride hresolved hquery
  join groups := by
    show Silent (Joiner.concatenation.join groups : Action σ _).unrecorded _
    refine silent_unrecorded fun scene answer hanswer joined hjoined document hmem ↦ ?_
    subst hjoined
    obtain rfl := Option.some.inj (Except.ok.inj hanswer)
    exact List.mem_flatten.mp (mem_of_mem_firstOccurrences hmem)
  augment query documents := silent_unrecorded fun _ _ _ ↦ trivial
  tell notice := by
    refine records_mono (Pipeline.records_tell {} parts.toPipeline notice) ?_
    rintro _ _ ⟨-, rfl⟩
    exact ⟨rfl, fun _ _ ↦ trivial⟩

/-- Assumes: an advise context with a filter expression that is neither null nor a blank text, and
what it comes to. Recording the searches of a call of the advisor does not change it. Every search
carries what the expression comes to. If the call succeeds, the documents that it puts into the
context have the identifiers of stored ones whose metadata satisfy that. -/
theorem before_isolates (parts : BuiltInPipeline σ) (request : AdvisedRequest) (scene : Scene σ)
    (override resolved : Value)
    (hcontext : Dict.get? request.adviseContext Filter.contextKey = some override)
    (hnull : override ≠ .null)
    (hblank : ∀ content, override = .text content → Text.isBlank content = false)
    (hresolved : Filter.ResolvesTo parts.parser override resolved) :
    ((parts.recordingBefore request).outcome (scene.withRecord []) =
        (parts.before request).outcome scene ∧
      (sceneAfter (parts.recordingBefore request) (scene.withRecord [])).plain =
        sceneAfter (parts.before request) scene) ∧
    (∀ search ∈ parts.searches request scene, search.request.filterExpression = resolved) ∧
    ∀ advised, (parts.before request).outcome scene = .ok advised →
      ∃ documents,
        Dict.get? advised.adviseContext RetrievalAdvisor.documentsKey =
          some (Document.listValue documents) ∧
        ∀ document ∈ documents, ∃ search ∈ parts.searches request scene, ∃ id stored,
          Dict.get? search.content.documents id = some stored ∧ stored.id = document.id ∧
          Filter.accepts stored.metadata resolved parts.store.callables = .ok true := by
  have hsame := before_simulates parts request (scene.withRecord []) scene rfl
  refine ⟨hsame, ?_⟩
  have hoverride := Filter.override?_eq_some hcontext hnull hblank
  have hquery : (AugmentationAdvisor.queryOf request).context = request.adviseContext := rfl
  obtain ⟨record, hrecord, hallowed, hvouched⟩ :=
    (recording_confined hoverride hresolved).run_confined hquery (scene.withRecord [])
  have hsearches : parts.searches request scene = record := by
    unfold searches recordingBefore AugmentationAdvisor.before
    rw [sceneAfter_bind]
    split
    · simpa using hrecord
    · simpa using hrecord
  rw [hsearches]
  refine ⟨hallowed, fun advised hadvised ↦ ?_⟩
  rw [← hsame.1] at hadvised
  obtain ⟨result, hresult, hlast⟩ := outcome_bind_eq_ok_iff.mp hadvised
  obtain rfl := Except.ok.inj hlast
  refine ⟨result.documents, ?_, fun document hmem ↦ ?_⟩
  · rw [Dict.get?_insert, if_pos rfl]
  · rcases hvouched result hresult document hmem with hnone | ⟨search, hsearch, hholds⟩
    · cases hnone
    · obtain ⟨id, stored, score, hstored, rfl, haccepts⟩ := hholds
      exact ⟨search, hsearch, id, stored, hstored, rfl, haccepts⟩

/-- A pipeline over a store of its own that filters for one tenant by default, with a callback that
always answers the same. -/
def overOwnStore : BuiltInPipeline MemoryStore where
  rephrasings := [.forSystem "web search" fun _ _ ↦ pure (.text "tenants")]
  store := { slot := .whole, embed := fun _ ↦ pure [1.0] }
  defaultFilter := .fixed (.dict [("tenant", .text "b")])
  augmenter := { literal := "", augment := fun query _ ↦ pure query }

/-- A store with a document of each of two tenants. -/
def tenantStore : MemoryStore where
  documents := [("1", ⟨"1", "north", [("tenant", .text "a")], none⟩),
    ("2", ⟨"2", "south", [("tenant", .text "b")], none⟩)]
  embeddings := [("1", [1.0]), ("2", [1.0])]

/-- A request that names the other tenant. -/
def tenantRequest : AdvisedRequest :=
  .ofText "Who am I?" [(Filter.contextKey, .dict [("tenant", .text "a")])]

/-- The identifiers of the documents in a context. -/
def idsIn (context : Context) : List String :=
  let documents := (Dict.get? context RetrievalAdvisor.documentsKey).getD .null
  (documents.elements.toOption.getD []).map fun document ↦
    ((Dict.get? document.fields "id").getD .null).display

theorem idsIn_eq {context : Context} {documents : List Document}
    (h : Dict.get? context RetrievalAdvisor.documentsKey = some (Document.listValue documents)) :
    idsIn context = documents.map Document.id := by
  unfold idsIn
  rw [h]
  show (documents.map Document.toValue).map _ = _
  rw [List.map_map]
  rfl

/-- Every search of a call for one tenant is a search for that tenant, and the only document that is
found is the one of that tenant. -/
theorem before_isolates_tenant :
    Dict.get? tenantRequest.adviseContext Filter.contextKey =
        some (.dict [("tenant", .text "a")]) ∧
      (∀ search ∈ overOwnStore.searches tenantRequest ⟨tenantStore, []⟩,
        search.request.filterExpression = .dict [("tenant", .text "a")]) ∧
      ∃ advised documents,
        (overOwnStore.before tenantRequest).outcome ⟨tenantStore, []⟩ = .ok advised ∧
        Dict.get? advised.adviseContext RetrievalAdvisor.documentsKey =
          some (Document.listValue documents) ∧
        documents.map Document.id = ["1"] ∧
        ∀ document ∈ documents,
          ∃ search ∈ overOwnStore.searches tenantRequest ⟨tenantStore, []⟩, ∃ id stored,
            Dict.get? search.content.documents id = some stored ∧ stored.id = document.id ∧
            Filter.accepts stored.metadata (.dict [("tenant", .text "a")])
              overOwnStore.store.callables = .ok true := by
  have hcontext : Dict.get? tenantRequest.adviseContext Filter.contextKey =
      some (.dict [("tenant", .text "a")]) := rfl
  have hnull : Value.dict [("tenant", .text "a")] ≠ .null := by
    intro hnull
    cases hnull
  have hblank : ∀ content, Value.dict [("tenant", .text "a")] = .text content →
      Text.isBlank content = false := by
    intro content hcontent
    cases hcontent
  obtain ⟨-, hsearches, hdocuments⟩ :=
    before_isolates overOwnStore tenantRequest ⟨tenantStore, []⟩ _ _ hcontext hnull hblank rfl
  refine ⟨hcontext, hsearches, ?_⟩
  have hids : ((overOwnStore.before tenantRequest).outcome ⟨tenantStore, []⟩).toOption.map
      (fun advised ↦ idsIn advised.adviseContext) = some ["1"] := by
    decide +kernel
  cases hbefore : (overOwnStore.before tenantRequest).outcome ⟨tenantStore, []⟩ with
  | error failure =>
    rw [hbefore] at hids
    cases hids
  | ok advised =>
    obtain ⟨documents, hfound, hstored⟩ := hdocuments advised hbefore
    rw [hbefore] at hids
    have hfirst : documents.map Document.id = ["1"] :=
      (idsIn_eq hfound).symm.trans (Option.some.inj hids)
    exact ⟨advised, documents, rfl, hfound, hfirst, hstored⟩

end BuiltInPipeline

end Grounding
