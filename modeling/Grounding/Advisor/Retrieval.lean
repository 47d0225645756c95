import Grounding.Advisor
import Grounding.Document

/-!
Advisors that retrieve documents before the model is asked. The documents are put into the advise
context on the way to the model and into the metadata of the response on the way back.

* `RetrievalAdvisor` is the type; `before` is its request side, `after` the common response side.
* `RetrievalAdvisor.advise` and `RetrievalAdvisor.adviseStream` are its two shapes of advice. Of a
  stream only terminal fragments go through `after`, and a stream without one fails in the end.
* `documentsKey` is the key of the documents in context and metadata.
-/

set_option autoImplicit false
set_option relaxedAutoImplicit false

namespace Grounding

/-- Where the request side of an advisor runs: in place, or in a worker that keeps the caller from
being blocked. -/
inductive Placement
  | inPlace
  | worker
deriving DecidableEq, Repr

/-- An advisor that retrieves documents. -/
structure RetrievalAdvisor (σ : Type) where
  name : String
  literal : String
  order : Int := 0
  protectFromBlocking : Bool := true
  before : Placement → AdvisedRequest → Action σ AdvisedRequest

namespace RetrievalAdvisor

variable {σ : Type}

/-- The key of the retrieved documents. -/
def documentsKey : String := "qa_retrieved_documents"

/-- A response with the documents of its context in its metadata. -/
def after (advised : AdvisedResponse) : Except Failure AdvisedResponse := do
  let documents ← ((Dict.get? advised.adviseContext documentsKey).getD (.list [])).elements
  let response := advised.response.getD {}
  return advised.withResponse (response.withMetadata documentsKey (.list documents))

/-- Where the request side of a stream runs. -/
def placement (advisor : RetrievalAdvisor σ) : Placement :=
  if advisor.protectFromBlocking then .worker else .inPlace

/-- Advice on a whole response. -/
def advise (advisor : RetrievalAdvisor σ) : Advice (Action σ AdvisedResponse) :=
  fun request successor ↦ do
    let advised ← advisor.before .inPlace request
    let response ← successor.next advised
    Action.ofExcept (after response)

/-- The fragments of a stream, the terminal ones with their documents. When the stream ends, some
fragment has to have been terminal. The stream is released with the relay, and if the response side
fails. -/
def relay (name : String) : Stream σ AdvisedResponse → Nat → Bool → Stream σ AdvisedResponse
  | .ended, fragments, terminal =>
    if terminal then .ended else .raising (.streamUnfinished name fragments)
  | .failed failure lasting, _, _ => .failed failure lasting
  | .doing change rest, fragments, terminal =>
    .doing change fun scene ↦ relay name (rest scene) fragments terminal
  | .giving fragment release rest, fragments, terminal =>
    if fragment.isTerminal then
      match after fragment with
      | .ok fragment =>
        .giving fragment release.withinStream (relay name rest (fragments + 1) true)
      | .error failure => Stream.ofAction release fun _ ↦ .raising failure
    else .giving fragment release.withinStream (relay name rest (fragments + 1) terminal)

/-- Advice on a stream. -/
def adviseStream (advisor : RetrievalAdvisor σ) : Advice (Stream σ AdvisedResponse) :=
  fun request successor ↦
    Stream.ofAction (advisor.before advisor.placement request) fun advised ↦
      relay advisor.name (successor.next advised) 0 false

/-- The advisor as a chain sees it. -/
def toAdvisor (advisor : RetrievalAdvisor σ) : Advisor σ where
  name := advisor.name
  order := advisor.order
  call := some advisor.advise
  stream := some advisor.adviseStream

end RetrievalAdvisor

end Grounding
