import Grounding.Augmenter
import Grounding.Joiner
import Grounding.Part
import Grounding.Pipeline.Callback
import Grounding.QueryExpander
import Grounding.Retriever

/-!
Retrieval pipelines: a query is transformed, expanded, answered with documents, which are joined,
and the query that was asked in the first place is augmented with them.

* `Pipeline` holds the components, `Pipeline.build` checks what it is offered for them.
* `Pipeline.run` goes through the stages in their fixed order: `transformAll`, `expandQuery`,
  `retrieveAll`, and then join and augment. The first failure ends the run.
* `PipelineResult` is everything that one run produced.
* `Notice` is what callbacks are told. The start of a run comes first, and its end or its failure
  last.
-/

set_option autoImplicit false
set_option relaxedAutoImplicit false

namespace Grounding

/-- Figures about one run. -/
structure Diagnostics where
  transformers : List String
  expandedQueries : Nat
  documentsRetrieved : Nat
  documentsJoined : Nat
  emptyContext : Bool
deriving DecidableEq, Repr

/-- Figures as a value. -/
def Diagnostics.toValue (diagnostics : Diagnostics) : Value :=
  .dict [("transformers", .ofTexts diagnostics.transformers),
    ("expanded_queries", .int diagnostics.expandedQueries),
    ("documents_retrieved", .int diagnostics.documentsRetrieved),
    ("documents_joined", .int diagnostics.documentsJoined),
    ("empty_context", .bool diagnostics.emptyContext)]

/-- Everything that one run produced. -/
structure PipelineResult where
  askedQuery : Query
  transformedQuery : Query
  expandedQueries : List Query
  documentsByQuery : Groups
  documents : List Document
  augmentedQuery : Query
  diagnostics : Diagnostics

/-- A result as a value. -/
def PipelineResult.toValue (result : PipelineResult) : Value :=
  .dict [("original_query", result.askedQuery.toValue),
    ("transformed_query", result.transformedQuery.toValue),
    ("expanded_queries", .list (result.expandedQueries.map Query.toValue)),
    ("documents_by_query", result.documentsByQuery.toValue),
    ("documents", Document.listValue result.documents),
    ("augmented_query", result.augmentedQuery.toValue),
    ("diagnostics", result.diagnostics.toValue)]

/-- What callbacks are told. -/
inductive Notice
  | started (query : Query)
  | transformed (asked transformed : Query)
  | retrieved (query : Query) (documents : List Document)
  | ended (result : PipelineResult)
  | failed (query : Query) (failure : Failure)

/-- The event that callbacks are told of. -/
def Notice.event : Notice → PipelineEvent
  | .started _ => .started
  | .transformed _ _ => .transformed
  | .retrieved _ _ => .retrieved
  | .ended _ => .ended
  | .failed _ _ => .failed

/-- The components of a pipeline. -/
structure Pipeline (σ : Type) where
  retriever : Retriever σ
  transformers : List (QueryTransformer σ) := []
  expander : Option (QueryExpander σ) := none
  joiner : Joiner σ := .concatenation
  augmenter : Augmenter σ
  callbacks : List (Callback σ Notice) := []

namespace Pipeline

variable {σ : Type}

/-- A component that may be left out. -/
def optional {α : Type} (place expected : String) : Option (Part α) → Except Failure (Option α)
  | none => .ok none
  | some part => (part.require place expected).map some

/-- A pipeline from what is offered for its components. The usual augmenter renders its templates on
a platform. -/
def build (platform : Platform) (retriever : Part (Retriever σ))
    (transformers : List (Part (QueryTransformer σ)))
    (expander : Option (Part (QueryExpander σ))) (joiner : Option (Part (Joiner σ)))
    (augmenter : Option (Part (Augmenter σ))) (callbacks : List (Callback σ Notice)) :
    Except Failure (Pipeline σ) := do
  let retriever ← retriever.require "document_retriever" "DocumentRetriever"
  let transformers ← transformers.mapM (Part.require "query_transformers" "QueryTransformer")
  let expander ← optional "query_expander" "QueryExpander" expander
  let joiner ← optional "document_joiner" "DocumentJoiner" joiner
  let augmenter ← optional "query_augmenter" "QueryAugmenter" augmenter
  return {
    retriever, transformers, expander, callbacks
    joiner := joiner.getD .concatenation
    augmenter := augmenter.getD (ContextualAugmenter.toAugmenter { renderer := .braces platform }) }

/-- How the expander is written. -/
def expanderLiteral (pipeline : Pipeline σ) : String :=
  match pipeline.expander with
  | some expander => expander.literal
  | none => Value.null.literal

/-- How a pipeline is written. -/
def literal (pipeline : Pipeline σ) : String :=
  "RetrievalAugmentationPipeline(transformers=" ++ toString pipeline.transformers.length ++
    ", expander=" ++ pipeline.expanderLiteral ++ ", retriever=" ++ pipeline.retriever.literal ++
    ", joiner=" ++ pipeline.joiner.literal ++ ", augmenter=" ++ pipeline.augmenter.literal ++ ")"

/-- Tells the callbacks. -/
def tell (pipeline : Pipeline σ) (notice : Notice) : Action σ Unit :=
  notify notice.event notice pipeline.callbacks

/-! ### Stages -/

/-- The query after one transformer, which has to answer with a query. -/
def transformOnce (transformer : QueryTransformer σ) (query : Query) : Action σ Query := do
  match ← Action.protect (.transformerFailed transformer.name) (transformer.transform query) with
  | some transformed => return transformed
  | none => throw (.notAQuery transformer.name)

/-- The query after several transformers, from left to right. -/
def transformAll : List (QueryTransformer σ) → Query → Action σ Query
  | [], query => pure query
  | transformer :: rest, query => do
    let transformed ← transformOnce transformer query
    transformAll rest transformed

/-- The queries among what an expander answers, of which there has to be at least one. -/
def requireQueries (name : String) : Option (List Query) → Action σ (List Query)
  | none => throw (.noQueries name)
  | some [] => throw (.noQueries name)
  | some (query :: rest) => pure (query :: rest)

/-- The expanded queries. -/
def expandQuery (pipeline : Pipeline σ) (query : Query) : Action σ (List Query) :=
  match pipeline.expander with
  | none => pure [query]
  | some expander => do
    let expanded ← Action.protect (.expanderFailed expander.name) (expander.expand query)
    requireQueries expander.name expanded

/-- What null stands for where a list of documents is expected. -/
def notAList : Failure :=
  .mistyped (.notIterable Value.null.typeName)

/-- The documents for one query. -/
def retrieveOne (pipeline : Pipeline σ) (query : Query) : Action σ (List Document) := do
  match ← Action.protect (.retrieverFailed query.text) (pipeline.retriever.retrieve query) with
  | none => throw notAList
  | some documents =>
    pipeline.tell (.retrieved query documents)
    return documents

/-- The documents for every query, in order. -/
def retrieveAll (pipeline : Pipeline σ) : List Query → Action σ (List (Query × List Document))
  | [] => pure []
  | query :: rest => do
    let documents ← pipeline.retrieveOne query
    let others ← pipeline.retrieveAll rest
    return (query, documents) :: others

/-- The found lists, filed by query. -/
def groupsOf (found : List (Query × List Document)) : Groups :=
  found.foldl (fun groups (query, documents) ↦ groups.add query documents) []

/-- The joined documents, which have to be a list. -/
def joinGroups (pipeline : Pipeline σ) (groups : Groups) : Action σ (List Document) := do
  match ← pipeline.joiner.join groups with
  | some documents => return documents
  | none => throw notAList

/-- Tells the callbacks of the transformed query, if there are transformers. -/
def tellTransformed (pipeline : Pipeline σ) (query transformed : Query) : Action σ Unit :=
  if pipeline.transformers.isEmpty then pure ()
  else pipeline.tell (.transformed query transformed)

/-- The result of a run with what its stages produced. -/
def resultOf (pipeline : Pipeline σ) (query transformed : Query) (expanded : List Query)
    (found : List (Query × List Document)) (documents : List Document) (augmented : Query) :
    PipelineResult where
  askedQuery := query
  transformedQuery := transformed
  expandedQueries := expanded
  documentsByQuery := groupsOf found
  documents := documents
  augmentedQuery := augmented
  diagnostics := {
    transformers := pipeline.transformers.map QueryTransformer.name
    expandedQueries := expanded.length
    documentsRetrieved := found.foldr (fun (_, documents) total ↦ documents.length + total) 0
    documentsJoined := documents.length
    emptyContext := documents.isEmpty }

/-- All stages of a run. -/
def stages (pipeline : Pipeline σ) (query : Query) : Action σ PipelineResult := do
  let transformed ← transformAll pipeline.transformers query
  pipeline.tellTransformed query transformed
  let expanded ← pipeline.expandQuery transformed
  let found ← pipeline.retrieveAll expanded
  let documents ← pipeline.joinGroups (groupsOf found)
  let augmented ← pipeline.augmenter.augment query documents
  return pipeline.resultOf query transformed expanded found documents augmented

/-- Runs the pipeline. -/
def run (pipeline : Pipeline σ) (query : Query) : Action σ PipelineResult := do
  pipeline.tell (.started query)
  match ← Action.attempt (pipeline.stages query) with
  | .ok result =>
    pipeline.tell (.ended result)
    return result
  | .error failure =>
    pipeline.tell (.failed query failure)
    throw failure

end Pipeline

end Grounding
