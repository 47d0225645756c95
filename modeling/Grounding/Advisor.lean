import Grounding.Advised
import Grounding.Part
import Grounding.Stream

/-!
Advisors and the chain they form. An advisor sees a request before the model does and the response
after it; what lies behind it in the chain is its successor. The last in a chain is a chat model.

* `ChatModel` and `Advisor` are the components, `AdvisorChain` the chain.
* `Advisor.inOrder` sorts advisors by their order; equal ones stay as they were registered.
* `AdvisorChain.build` makes a chain, `AdvisorChain.successor` makes the one that an advisor gets.
  It sorts the advisors once more, which changes nothing: `successor_advisors`.
* `AdvisorChain.call` asks for a whole response, `AdvisorChain.stream` for fragments. Each of the
  two goes through those advisors that support it.
-/

set_option autoImplicit false
set_option relaxedAutoImplicit false

namespace Grounding

/-- A chat model. What it gives as a stream is asked for first and then read. -/
structure ChatModel (σ : Type) where
  call : Prompt → Action σ ChatResponse
  stream : Prompt → Action σ (Source σ ChatResponse)

/-- What lies behind an advisor in its chain, with the way it is written. -/
structure Successor (Result : Type) where
  literal : String
  next : AdvisedRequest → Result

/-- One shape of advice: what an advisor makes of a request and its successor. -/
abbrev Advice (Result : Type) : Type := AdvisedRequest → Successor Result → Result

/-- An advisor, with the shapes of advice that it supports. -/
structure Advisor (σ : Type) where
  name : String
  order : Int := 0
  call : Option (Advice (Action σ AdvisedResponse)) := none
  stream : Option (Advice (Stream σ AdvisedResponse)) := none

namespace ChatModel

variable {σ : Type}

/-- The answer of a model to a request. -/
def answer (model : ChatModel σ) (request : AdvisedRequest) : Action σ AdvisedResponse := do
  let response ← model.call request.prompt
  return .ofRequest request (some response)

/-- The fragments of the answer of a model to a request. -/
def fragments (model : ChatModel σ) (request : AdvisedRequest) : Stream σ AdvisedResponse :=
  Stream.ofAction (model.stream request.prompt) fun source ↦
    source.toStream.map fun response ↦ .ofRequest request (some response)

end ChatModel

namespace Advisor

variable {σ : Type}

/-- Whether an advisor may act before another one. -/
def mayPrecede (a b : Advisor σ) : Bool :=
  decide (a.order ≤ b.order)

/-- Advisors in the order in which they act. -/
def inOrder (advisors : List (Advisor σ)) : List (Advisor σ) :=
  advisors.mergeSort mayPrecede

theorem mayPrecede_trans (a b c : Advisor σ) (hab : a.mayPrecede b = true)
    (hbc : b.mayPrecede c = true) : a.mayPrecede c = true := by
  simp only [mayPrecede, decide_eq_true_eq] at hab hbc ⊢
  exact Int.le_trans hab hbc

theorem mayPrecede_total (a b : Advisor σ) : (a.mayPrecede b || b.mayPrecede a) = true := by
  simpa [mayPrecede] using Int.le_total a.order b.order

theorem inOrder_pairwise (advisors : List (Advisor σ)) :
    (inOrder advisors).Pairwise fun a b ↦ a.mayPrecede b = true :=
  List.pairwise_mergeSort mayPrecede_trans mayPrecede_total advisors

end Advisor

/-- A chain of advisors, in the order in which they act, that ends in a chat model. The position
tells how many advisors of the shape that is asked for have been passed. -/
structure AdvisorChain (σ : Type) where
  model : ChatModel σ
  advisors : List (Advisor σ)
  position : Nat
  ordered : advisors.Pairwise fun a b ↦ a.mayPrecede b = true

namespace AdvisorChain

variable {σ : Type}

/-- The chain of advisors in any order, at a position. -/
def ofAdvisors (model : ChatModel σ) (advisors : List (Advisor σ)) (position : Nat := 0) :
    AdvisorChain σ where
  model := model
  advisors := Advisor.inOrder advisors
  position := position
  ordered := Advisor.inOrder_pairwise advisors

/-- The advisor that a part is. -/
def requireAdvisor : Part (Advisor σ) → Except Failure (Advisor σ)
  | .fit advisor => .ok advisor
  | .unfit typeName => .error (.configuration (.neitherAdvisor typeName))

/-- A chain from what is offered for its model and its advisors. -/
def build (model : Part (ChatModel σ)) (advisors : List (Part (Advisor σ))) :
    Except Failure (AdvisorChain σ) := do
  let model ← model.require "chat_model" "ChatModel"
  let advisors ← advisors.mapM requireAdvisor
  return ofAdvisors model advisors

/-- The names of the advisors that support whole responses. -/
def callNames (chain : AdvisorChain σ) : List String :=
  (chain.advisors.filter (·.call.isSome)).map Advisor.name

/-- The names of the advisors that support fragments. -/
def streamNames (chain : AdvisorChain σ) : List String :=
  (chain.advisors.filter (·.stream.isSome)).map Advisor.name

/-- How a chain is written. -/
def literal (chain : AdvisorChain σ) : String :=
  "AdvisorChain([" ++ ", ".intercalate chain.callNames ++ "], position=" ++
    toString chain.position ++ ")"

/-- The chain at the next position. -/
def successor (chain : AdvisorChain σ) : AdvisorChain σ :=
  ofAdvisors chain.model chain.advisors (chain.position + 1)

@[simp] theorem successor_model (chain : AdvisorChain σ) : chain.successor.model = chain.model :=
  rfl

@[simp] theorem successor_position (chain : AdvisorChain σ) :
    chain.successor.position = chain.position + 1 := rfl

@[simp] theorem successor_advisors (chain : AdvisorChain σ) :
    chain.successor.advisors = chain.advisors :=
  List.mergeSort_of_pairwise chain.ordered

/-- What the rest of a chain makes of a request: the advisor at the position gives its advice, with
the successor of the chain behind it, and after the last advisor the model answers. -/
def next {Result : Type} (shape : Advisor σ → Option (Advice Result))
    (answer : ChatModel σ → AdvisedRequest → Result) (chain : AdvisorChain σ)
    (request : AdvisedRequest) : Result :=
  if h : chain.position < (chain.advisors.filterMap shape).length then
    (chain.advisors.filterMap shape)[chain.position] request {
      literal := chain.successor.literal
      next := fun advised ↦ next shape answer chain.successor advised }
  else answer chain.model request
termination_by (chain.advisors.filterMap shape).length - chain.position
decreasing_by
  rw [successor_advisors, successor_position]
  omega

/-- The response to a request. -/
def call (chain : AdvisorChain σ) : AdvisedRequest → Action σ AdvisedResponse :=
  chain.next Advisor.call ChatModel.answer

/-- The fragments of the response to a request. -/
def stream (chain : AdvisorChain σ) : AdvisedRequest → Stream σ AdvisedResponse :=
  chain.next Advisor.stream ChatModel.fragments

end AdvisorChain

end Grounding
