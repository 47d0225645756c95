import Grounding.Advisor.Retrieval
import Grounding.Pipeline

/-!
The advisor that runs a retrieval pipeline. The last user message becomes the query, what was said
before it the history, and the advise context the context of the query; the augmented text replaces
the user message.

* `AugmentationAdvisor` is the type, `AugmentationAdvisor.before` its request side.
-/

set_option autoImplicit false
set_option relaxedAutoImplicit false

namespace Grounding

/-- An advisor that runs a pipeline. -/
structure AugmentationAdvisor (σ : Type) where
  pipeline : Pipeline σ
  order : Int := 0
  protectFromBlocking : Bool := true

namespace AugmentationAdvisor

variable {σ : Type}

/-- The pipeline that a part is. -/
def requirePipeline : Part (Pipeline σ) → Except Failure (Pipeline σ)
  | .fit pipeline => .ok pipeline
  | .unfit _ => .error (.configuration .notAPipeline)

/-- The query that a request asks. -/
def queryOf (request : AdvisedRequest) : Query where
  text := request.userText
  history := Prompt.splitHistory request.prompt.messages
  context := request.adviseContext

/-- The request side. -/
def before (advisor : AugmentationAdvisor σ) (request : AdvisedRequest) :
    Action σ AdvisedRequest := do
  let result ← advisor.pipeline.run (queryOf request)
  return {
    prompt := request.prompt.augmentUserMessage result.augmentedQuery.text
    adviseContext := request.adviseContext.insert RetrievalAdvisor.documentsKey
      (Document.listValue result.documents) }

/-- How an advisor is written. -/
def literal (advisor : AugmentationAdvisor σ) : String :=
  "RetrievalAugmentationAdvisor(order=" ++ toString advisor.order ++ ", pipeline=" ++
    advisor.pipeline.literal ++ ")"

/-- The advisor as one that retrieves documents. -/
def toRetrieval (advisor : AugmentationAdvisor σ) : RetrievalAdvisor σ where
  name := "RetrievalAugmentationAdvisor"
  literal := advisor.literal
  order := advisor.order
  protectFromBlocking := advisor.protectFromBlocking
  before _ := advisor.before

end AugmentationAdvisor

end Grounding
