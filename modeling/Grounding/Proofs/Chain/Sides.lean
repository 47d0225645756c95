import Grounding.Proofs.Chain.Delivery

/-!
# The two sides of a chain

A chain of retrieving advisors answers with a whole response or with a stream. Both go through the
request sides of its advisors in the order in which these act, which is that of
`RetrievalAdvisor.inOrder`. `call_eq` and `stream_eq` take the chain apart into the request side,
the answer of the model, and what is made of that answer.

Of a whole response the response sides of all advisors together make what one of them makes
(`responseSide_eq_after`). Of a stream they are relays around each other, which stand behind the
request sides (`drain_entering`).

A stream may run a request side in a worker. That this makes no difference is an assumption about
the advisor (`PlacedFreely`).
-/

set_option autoImplicit false
set_option relaxedAutoImplicit false

namespace Grounding

open Grounding.Action
open Grounding.Stream (sceneAfter)

variable {σ α : Type}

namespace RetrievalAdvisor

/-! ### The chain -/

/-- Advisors in the order in which they act. -/
def inOrder (advisors : List (RetrievalAdvisor σ)) : List (RetrievalAdvisor σ) :=
  advisors.mergeSort fun a b ↦ decide (a.order ≤ b.order)

theorem inOrder_singleton (advisor : RetrievalAdvisor σ) : inOrder [advisor] = [advisor] :=
  List.mergeSort_singleton _

/-- The chain of advisors. -/
def chain (model : ChatModel σ) (advisors : List (RetrievalAdvisor σ)) : AdvisorChain σ :=
  .ofAdvisors model (advisors.map toAdvisor)

theorem remaining_call (model : ChatModel σ) (advisors : List (RetrievalAdvisor σ)) :
    (chain model advisors).remaining Advisor.call = (inOrder advisors).map advise :=
  AdvisorChain.remaining_ofAdvisors (fun _ ↦ rfl) (fun _ ↦ rfl) model advisors

theorem remaining_stream (model : ChatModel σ) (advisors : List (RetrievalAdvisor σ)) :
    (chain model advisors).remaining Advisor.stream = (inOrder advisors).map adviseStream :=
  AdvisorChain.remaining_ofAdvisors (fun _ ↦ rfl) (fun _ ↦ rfl) model advisors

/-! ### The request side -/

/-- An advisor whose request side does the same in a worker as in place. -/
def PlacedFreely (advisor : RetrievalAdvisor σ) : Prop :=
  advisor.before .worker = advisor.before .inPlace

theorem PlacedFreely.before_placement {advisor : RetrievalAdvisor σ}
    (h : advisor.PlacedFreely) : advisor.before advisor.placement = advisor.before .inPlace := by
  unfold placement
  by_cases hprotect : advisor.protectFromBlocking = true
  · rw [if_pos hprotect]
    exact h
  · rw [if_neg hprotect]

/-! ### Whole responses -/

/-- The response sides of advisors, the last one first. -/
def responseSide : List (RetrievalAdvisor σ) → AdvisedResponse → Except Failure AdvisedResponse
  | [], advised => .ok advised
  | _ :: rest, advised => responseSide rest advised >>= after

/-- Documents that are attached a second time change nothing. -/
theorem after_after {advised shown : AdvisedResponse} (h : after advised = .ok shown) :
    after shown = .ok shown := by
  obtain ⟨documents, hdocuments, hshown⟩ := bind_eq_ok_iff.mp h
  obtain rfl := Except.ok.inj hshown
  refine bind_eq_ok_iff.mpr ⟨documents, hdocuments, ?_⟩
  simp [AdvisedResponse.withResponse, ChatResponse.withMetadata, Dict.insert_insert, pure,
    Except.pure]

theorem after_bind_after (advised : AdvisedResponse) :
    (after advised >>= after) = after advised := by
  cases hafter : after advised with
  | error failure => rfl
  | ok shown => exact after_after hafter

/-- Assumes: at least one advisor. All response sides together do what one of them does. -/
theorem responseSide_eq_after {advisors : List (RetrievalAdvisor σ)} (hadvisors : advisors ≠ [])
    (advised : AdvisedResponse) : responseSide advisors advised = after advised := by
  induction advisors with
  | nil => exact absurd rfl hadvisors
  | cons advisor rest ih =>
    by_cases hrest : rest = []
    · subst hrest
      rfl
    · rw [responseSide, ih hrest, after_bind_after]

/-- Assumes: advisors that may run anywhere, and nothing but their advice remaining of a chain. A
call goes through the request sides, asks the model, and goes through the response sides. -/
theorem call_eq {advisors : List (RetrievalAdvisor σ)} {chain : AdvisorChain σ}
    (hplaced : ∀ advisor ∈ advisors, advisor.PlacedFreely)
    (hremaining : chain.remaining Advisor.call = advisors.map advise) (request : AdvisedRequest) :
    chain.call request = (do
      let advised ← requestSide advisors request
      let response ← chain.model.answer advised
      Action.ofExcept (responseSide advisors response)) := by
  unfold AdvisorChain.call
  induction advisors generalizing chain request with
  | nil =>
    rw [AdvisorChain.next_of_remaining_nil hremaining]
    exact (bind_pure (chain.model.answer request)).symm
  | cons advisor rest ih =>
    have hhead := hplaced advisor List.mem_cons_self
    have hrest := fun other hmem ↦ hplaced other (List.mem_cons_of_mem advisor hmem)
    have hsuccessor := ih hrest (AdvisorChain.remaining_successor hremaining)
    rw [AdvisorChain.next_of_remaining_cons hremaining]
    simp only [advise, requestSide, responseSide, hhead.before_placement, hsuccessor, bind_assoc,
      Action.ofExcept_bind, AdvisorChain.successor_model]

/-- Assumes: request sides that succeed. A call ends as the response sides do on what the model
answers in the scene that is left. -/
theorem outcome_call {advisors : List (RetrievalAdvisor σ)} {chain : AdvisorChain σ}
    (hplaced : ∀ advisor ∈ advisors, advisor.PlacedFreely)
    (hremaining : chain.remaining Advisor.call = advisors.map advise)
    {request advised : AdvisedRequest} {scene : Scene σ}
    (hadvised : (requestSide advisors request).outcome scene = .ok advised) :
    (chain.call request).outcome scene = (do
      let given ← (chain.model.call advised.prompt).outcome
        (sceneAfter (requestSide advisors request) scene)
      responseSide advisors (.ofRequest advised (some given))) := by
  rw [call_eq hplaced hremaining, outcome_bind_ok hadvised, outcome_bind_ofExcept,
    ChatModel.answer, outcome_bind]
  cases (chain.model.call advised.prompt).outcome _ <;> rfl

/-! ### Streams -/

/-- The request sides of advisors, one after the other, and then a stream. -/
def entering : List (RetrievalAdvisor σ) → (AdvisedRequest → Stream σ AdvisedResponse) →
    AdvisedRequest → Stream σ AdvisedResponse
  | [], next, request => next request
  | advisor :: rest, next, request =>
    .ofAction (advisor.before advisor.placement request) (entering rest next)

/-- The relays of advisors around a stream, that of the first one outermost. -/
def relays : List (RetrievalAdvisor σ) → Stream σ AdvisedResponse → Stream σ AdvisedResponse
  | [], stream => stream
  | advisor :: rest, stream => relay advisor.name (relays rest stream) 0 false

theorem relay_ofAction (name : String) (action : Action σ α)
    (next : α → Stream σ AdvisedResponse) (fragments : Nat) (terminal : Bool) :
    relay name (.ofAction action next) fragments terminal =
      .ofAction action fun value ↦ relay name (next value) fragments terminal := by
  unfold Stream.ofAction
  rw [relay]
  congr 1
  funext scene
  cases action scene <;> rfl

theorem relay_entering (name : String) (advisors : List (RetrievalAdvisor σ))
    (next : AdvisedRequest → Stream σ AdvisedResponse) (request : AdvisedRequest)
    (fragments : Nat) (terminal : Bool) :
    relay name (entering advisors next request) fragments terminal =
      entering advisors (fun advised ↦ relay name (next advised) fragments terminal) request := by
  induction advisors generalizing request with
  | nil => rfl
  | cons advisor rest ih =>
    rw [entering, entering, relay_ofAction]
    congr 1
    funext advised
    exact ih advised

/-- Assumes: nothing but the advice of advisors remaining of a chain. Its stream goes through the
request sides and then relays the fragments of the model. -/
theorem stream_eq {advisors : List (RetrievalAdvisor σ)} {chain : AdvisorChain σ}
    (hremaining : chain.remaining Advisor.stream = advisors.map adviseStream)
    (request : AdvisedRequest) :
    chain.stream request =
      entering advisors (fun advised ↦ relays advisors (chain.model.fragments advised))
        request := by
  unfold AdvisorChain.stream
  induction advisors generalizing chain request with
  | nil => exact AdvisorChain.next_of_remaining_nil hremaining request
  | cons advisor rest ih =>
    have hsuccessor := ih (AdvisorChain.remaining_successor hremaining)
    rw [AdvisorChain.next_of_remaining_cons hremaining, adviseStream, entering]
    congr 1
    funext advised
    show relay advisor.name (chain.successor.next Advisor.stream ChatModel.fragments advised) 0
      false = _
    rw [hsuccessor, relay_entering]
    rfl

/-- A stream behind request sides is taken in the scene that these leave, unless one fails. Its
failure leaves the stream. -/
theorem drain_entering (advisors : List (RetrievalAdvisor σ))
    (next : AdvisedRequest → Stream σ AdvisedResponse) (request : AdvisedRequest)
    (scene : Scene σ) :
    (entering advisors next request).drain scene =
      match (requestSide advisors request).outcome scene with
      | .ok advised => (next advised).drain (sceneAfter (requestSide advisors request) scene)
      | .error failure =>
        ⟨[], some failure.leaving, sceneAfter (requestSide advisors request) scene⟩ := by
  induction advisors generalizing request scene with
  | nil => rfl
  | cons advisor rest ih =>
    rw [entering, Stream.drain_ofAction, requestSide, outcome_bind, sceneAfter_bind]
    cases (advisor.before advisor.placement request).outcome scene with
    | error failure => rfl
    | ok advised => exact ih advised _

end RetrievalAdvisor

end Grounding
