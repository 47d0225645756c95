import Grounding.Advisor.Retrieval
import Grounding.Augmenter
import Grounding.Store

/-!
The advisor that searches a document store once with the text of the user, and appends what it found
to that text.

* `QuestionAnswerAdvisor` is the type; `build` checks its template, `buildRequest` makes the search
  request, `before` is its request side.
-/

set_option autoImplicit false
set_option relaxedAutoImplicit false

namespace Grounding

namespace QuestionAnswerAdvisor

/-- The placeholder for the texts of the documents. -/
def contextKey : String := "question_answer_context"

/-- The usual template. -/
def defaultPrompt : String :=
  "\nContext information is below, surrounded by ---------------------\n\n" ++
  "---------------------\n\x7bquestion_answer_context\x7d\n---------------------\n\n" ++
  "Given the context and provided history information and not prior knowledge,\n" ++
  "reply to the user comment. If the answer is not in the context, inform\n" ++
  "the user that you can't answer the question.\n"

end QuestionAnswerAdvisor

/-- An advisor that searches a document store. -/
structure QuestionAnswerAdvisor (σ : Type) where
  store : DocumentStore σ
  base : SearchRequest := {}
  prompt : String := QuestionAnswerAdvisor.defaultPrompt
  parser : Option (FilterParser σ) := none
  renderer : Renderer σ
  order : Int := 0
  protectFromBlocking : Bool := true

namespace QuestionAnswerAdvisor

variable {σ : Type}

/-- The advisor itself if its template holds what it needs. -/
def build (advisor : QuestionAnswerAdvisor σ) : Except Failure (QuestionAnswerAdvisor σ) := do
  advisor.renderer.validate advisor.prompt [contextKey] "prompt_template"
  return advisor

/-- The search request for a request. -/
def buildRequest (advisor : QuestionAnswerAdvisor σ) (request : AdvisedRequest) :
    Action σ SearchRequest := do
  let expression ← Filter.resolve request.adviseContext advisor.base.filterExpression advisor.parser
  return { advisor.base with query := request.userText, filterExpression := expression }

/-- The documents that the store has, which have to be a list. -/
def found (advisor : QuestionAnswerAdvisor σ) (request : SearchRequest) :
    Action σ (List Document) := do
  match ← advisor.store request with
  | some documents => return documents
  | none => throw (.mistyped (.notIterable Value.null.typeName))

/-- The request side. -/
def before (advisor : QuestionAnswerAdvisor σ) (request : AdvisedRequest) :
    Action σ AdvisedRequest := do
  let search ← advisor.buildRequest request
  let documents ← Action.protect (.searchFailed search) (advisor.found search)
  let advice ← advisor.renderer.render advisor.prompt [(contextKey, .text (joinTexts documents))]
  return {
    prompt := request.prompt.augmentUserMessage (request.userText ++ "\n" ++ advice)
    adviseContext := request.adviseContext.insert RetrievalAdvisor.documentsKey
      (Document.listValue documents) }

/-- How an advisor is written. -/
def literal (advisor : QuestionAnswerAdvisor σ) : String :=
  "QuestionAnswerAdvisor(order=" ++ toString advisor.order ++ ", top_k=" ++
    toString advisor.base.topK ++ ")"

/-- The advisor as one that retrieves documents. -/
def toRetrieval (advisor : QuestionAnswerAdvisor σ) : RetrievalAdvisor σ where
  name := "QuestionAnswerAdvisor"
  literal := advisor.literal
  order := advisor.order
  protectFromBlocking := advisor.protectFromBlocking
  before _ := advisor.before

end QuestionAnswerAdvisor

end Grounding
