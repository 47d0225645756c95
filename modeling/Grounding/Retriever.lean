import Grounding.Query
import Grounding.Store

/-!
Retrievers: what finds documents for a query.

* `Retriever` is any retriever as a pipeline sees it.
* `StoreRetriever` searches a document store: `buildRequest` makes the search request of a query,
  `retrieve` sends it. The filter expression in the context of the query goes before the default
  one, which is worked out first in any case.
-/

set_option autoImplicit false
set_option relaxedAutoImplicit false

namespace Grounding

/-- What finds documents for a query; `none` stands for null. -/
structure Retriever (σ : Type) where
  name : String
  literal : String
  retrieve : Query → Action σ (Option (List Document))

/-- A default filter expression: one and the same, or worked out anew every time. -/
inductive DefaultFilter (σ : Type)
  | fixed (expression : Value)
  | computed (compute : Action σ Value)

namespace DefaultFilter

variable {σ : Type}

/-- The default for one call. -/
def get : DefaultFilter σ → Action σ Value
  | .fixed expression => pure expression
  | .computed compute => compute

end DefaultFilter

/-- A retriever that searches a document store. -/
structure StoreRetriever (σ : Type) where
  store : DocumentStore σ
  base : SearchRequest := {}
  defaultFilter : DefaultFilter σ := .fixed .null
  parser : Option (FilterParser σ) := none

namespace StoreRetriever

variable {σ : Type}

/-- A retriever with the parameters of its searches, and with at most one default filter: a fixed
one that is not null, or a computed one. -/
def build (store : DocumentStore σ) (parameters : Context) (expression : Value)
    (compute : Option (Action σ Value)) (parser : Option (FilterParser σ)) :
    Except Failure (StoreRetriever σ) :=
  match compute, expression with
  | none, expression => do
    let base ← (SearchRequest.ofFields parameters).toExcept
    return { store, base, defaultFilter := .fixed expression, parser }
  | some compute, .null => do
    let base ← (SearchRequest.ofFields parameters).toExcept
    return { store, base, defaultFilter := .computed compute, parser }
  | some _, _ => .error (.configuration .bothFilters)

/-- How a retriever is written. -/
def literal (retriever : StoreRetriever σ) : String :=
  "VectorStoreDocumentRetriever(top_k=" ++ toString retriever.base.topK ++
    ", similarity_threshold=" ++ Decimal.plain retriever.base.similarityThreshold ++ ")"

/-- The search request for a query. -/
def buildRequest (retriever : StoreRetriever σ) (query : Query) : Action σ SearchRequest := do
  let default ← retriever.defaultFilter.get
  let expression ← Filter.resolve query.context default retriever.parser
  return { retriever.base with query := query.text, filterExpression := expression }

/-- The documents for a query. The store has to answer with documents. -/
def retrieve (retriever : StoreRetriever σ) (query : Query) : Action σ (List Document) := do
  let request ← retriever.buildRequest query
  match ← Action.protect (.searchFailed request) (retriever.store request) with
  | some documents => return documents
  | none => throw (.mistyped (.noLength Value.null.typeName))

/-- The retriever as a pipeline sees it. -/
def toRetriever (retriever : StoreRetriever σ) : Retriever σ where
  name := "VectorStoreDocumentRetriever"
  literal := retriever.literal
  retrieve query := do return some (← retriever.retrieve query)

end StoreRetriever

end Grounding
