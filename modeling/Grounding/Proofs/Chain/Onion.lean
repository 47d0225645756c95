import Grounding.Advisor.Retrieval
import Grounding.Proofs.Chain.Links
import Grounding.Proofs.Plan
import Grounding.Proofs.StableSort

/-!
# The sides of the advisors of a call

A `LayeredAdvisor` acts on the request, hands it to the rest of the chain once, and acts on the
response. What it does on the response may depend on all that it saw of the request. An advisor that
does not support calls has no layer.

`callPositions` are the places of the advisors with layers among those that were registered, in the
order in which they act: lower orders first, and equal ones as registered
(`callPositions_pairwise`, `mem_callPositions_iff`). `callExchanges` are the calls of request sides,
response sides and the model that one call of a chain makes.

`call_follows_layers`: they follow a round trip. The request sides are called in that order, each
with what the one before made of the request, then the model with the last request, and then the
response sides in the reverse order, each with the response of the one before. The first failure is
that of the chain, and nothing is called after it.
-/

set_option autoImplicit false
set_option relaxedAutoImplicit false

namespace Grounding

open Grounding.Action
open Grounding.Stream (sceneAfter)

variable {σ τ α : Type}

/-! ### Advisors in layers -/

/-- What the request side of an advisor comes to: the request for the rest of the chain, and the
response side. -/
structure Advising (σ : Type) where
  request : AdvisedRequest
  respond : AdvisedResponse → Action σ AdvisedResponse

/-- What an advisor does around the rest of the chain, of which it sees how it is written. -/
abbrev Layer (σ : Type) : Type := String → AdvisedRequest → Action σ (Advising σ)

/-- Advice that hands the request to the rest of the chain once. -/
def Layer.advice (layer : Layer σ) : Advice (Action σ AdvisedResponse) :=
  fun request successor ↦ do
    let advising ← layer successor.literal request
    let response ← successor.next advising.request
    advising.respond response

/-- An advisor that supports calls in layers, or not at all. -/
structure LayeredAdvisor (σ : Type) where
  name : String
  order : Int := 0
  layer : Option (Layer σ) := none
  stream : Option (Advice (Stream σ AdvisedResponse)) := none

/-- The advisor as a chain sees it. -/
def LayeredAdvisor.toAdvisor (advisor : LayeredAdvisor σ) : Advisor σ where
  name := advisor.name
  order := advisor.order
  call := advisor.layer.map Layer.advice
  stream := advisor.stream

/-- An advisor that retrieves documents, in layers. -/
def RetrievalAdvisor.layered (advisor : RetrievalAdvisor σ) : LayeredAdvisor σ where
  name := advisor.name
  order := advisor.order
  layer := some fun _ request ↦ do
    let advised ← advisor.before .inPlace request
    return ⟨advised, fun response ↦ Action.ofExcept (after response)⟩
  stream := some advisor.adviseStream

theorem RetrievalAdvisor.toAdvisor_layered (advisor : RetrievalAdvisor σ) :
    advisor.layered.toAdvisor = advisor.toAdvisor := by
  have hadvice : Layer.advice (fun _ request ↦ do
      let advised ← advisor.before .inPlace request
      return ⟨advised, fun response ↦ Action.ofExcept (after response)⟩) =
        advisor.advise := by
    funext request successor
    simp only [Layer.advice, RetrievalAdvisor.advise, bind_assoc, pure_bind]
  unfold RetrievalAdvisor.toAdvisor
  rw [← hadvice]
  rfl

/-! ### Recording sides -/

/-- A call of a side of an advisor, or of the model. -/
inductive ChainCall
  | enter (position : Nat) (request : AdvisedRequest)
  | ask (prompt : Prompt)
  | leave (position : Nat) (response : AdvisedResponse)

/-- What a side of an advisor or the model answers. -/
inductive ChainAnswer
  | request (request : AdvisedRequest)
  | answer (response : ChatResponse)
  | response (response : AdvisedResponse)

/-- A call of a side of an advisor or of the model, with what came of it. -/
abbrev ChainExchange : Type := Exchange ChainCall ChainAnswer

/-- A call that failed in a certain way. -/
def FailedWith (failure : Failure) (exchange : ChainExchange) : Prop :=
  exchange.outcome = .error failure

/-- A call that failed. -/
def HasFailed (exchange : ChainExchange) : Prop :=
  ∃ failure, FailedWith failure exchange

theorem hasFailed_of_failedWith (failure : Failure) (exchange : ChainExchange)
    (h : FailedWith failure exchange) : HasFailed exchange :=
  ⟨failure, h⟩

/-- The advice of a layer that records its two sides. -/
def Layer.recordingAdvice (position : Nat) (layer : Layer σ) :
    Advice (Action (Recorded σ ChainExchange) AdvisedResponse) :=
  fun request successor ↦ do
    let advising ← (layer successor.literal request).exchanging
      (.enter position request) fun advising ↦ .request advising.request
    let response ← successor.next advising.request
    (advising.respond response).exchanging (.leave position response) .response

/-- An advisor that records its sides; it supports nothing but calls. -/
def LayeredAdvisor.recording (advisor : LayeredAdvisor σ) (position : Nat) :
    Advisor (Recorded σ ChainExchange) where
  name := advisor.name
  order := advisor.order
  call := advisor.layer.map (Layer.recordingAdvice position)

/-- A model that records what it is asked; it supports nothing but calls. -/
def ChatModel.recording (model : ChatModel σ) : ChatModel (Recorded σ ChainExchange) where
  call prompt := (model.call prompt).exchanging (.ask prompt) .answer
  stream _ := pure (.ended none)

/-- The chain of advisors that record their sides under their places. -/
def recordingChain (model : ChatModel σ) (advisors : List (LayeredAdvisor σ)) :
    AdvisorChain (Recorded σ ChainExchange) :=
  .ofAdvisors model.recording (advisors.zipIdx.map fun (advisor, position) ↦
    advisor.recording position)

/-- The chain of advisors. -/
def layeredChain (model : ChatModel σ) (advisors : List (LayeredAdvisor σ)) : AdvisorChain σ :=
  .ofAdvisors model (advisors.map LayeredAdvisor.toAdvisor)

/-- The calls of sides and of the model that one call of a chain makes, in order. -/
def callExchanges (model : ChatModel σ) (advisors : List (LayeredAdvisor σ))
    (request : AdvisedRequest) (scene : Scene σ) : List ChainExchange :=
  (sceneAfter ((recordingChain model advisors).call request) (scene.withRecord [])).record

/-! ### The order in which advisors act -/

/-- Advisors with their places, in the order in which they act. -/
def acting (advisors : List (LayeredAdvisor σ)) : List (LayeredAdvisor σ × Nat) :=
  advisors.zipIdx.mergeSort fun a b ↦ decide (a.1.order ≤ b.1.order)

/-- Layers with their places, in the order in which they act. -/
def actingLayers (advisors : List (LayeredAdvisor σ)) : List (Layer σ × Nat) :=
  (acting advisors).filterMap fun (advisor, position) ↦ advisor.layer.map (·, position)

/-- The places of the advisors that support calls, in the order in which they act. -/
def callPositions (advisors : List (LayeredAdvisor σ)) : List Nat :=
  (actingLayers advisors).map Prod.snd

/-- The advisor at one place acts before the one at another: it has the lower order, or the same
one and the earlier place. -/
def ActsBefore (advisors : List (LayeredAdvisor σ)) (first second : Nat) : Prop :=
  ∃ a b, advisors[first]? = some a ∧ advisors[second]? = some b ∧
    (a.order < b.order ∨ a.order = b.order ∧ first < second)

theorem getElem?_of_mem_acting {advisors : List (LayeredAdvisor σ)}
    {entry : LayeredAdvisor σ × Nat} (h : entry ∈ acting advisors) :
    advisors[entry.2]? = some entry.1 :=
  List.mk_mem_zipIdx_iff_getElem?.mp (List.mem_mergeSort.mp h)

theorem acting_pairwise (advisors : List (LayeredAdvisor σ)) :
    (acting advisors).Pairwise fun a b ↦ ActsBefore advisors a.2 b.2 := by
  have hsorted := pairwise_mergeSort_zipIdx
    (fun (a b : LayeredAdvisor σ) ↦ decide (a.order ≤ b.order))
    (fun a b c ↦ by simpa using Int.le_trans)
    (fun a b ↦ by simpa using Int.le_total a.order b.order) advisors
  refine hsorted.imp_of_mem fun {a b} ha hb hab ↦ ?_
  obtain ⟨hle, hplace⟩ := hab
  simp only [decide_eq_true_eq] at hle hplace
  refine ⟨a.1, b.1, getElem?_of_mem_acting ha, getElem?_of_mem_acting hb, ?_⟩
  rcases Int.lt_or_le a.1.order b.1.order with hlt | hge
  · exact Or.inl hlt
  · exact Or.inr ⟨Int.le_antisymm hle hge, hplace hge⟩

/-- The places in a call are in the order in which their advisors act. -/
theorem callPositions_pairwise (advisors : List (LayeredAdvisor σ)) :
    (callPositions advisors).Pairwise (ActsBefore advisors) := by
  refine List.pairwise_map.mpr (List.pairwise_filterMap.mpr ?_)
  refine (acting_pairwise advisors).imp fun {a b} hab first hfirst second hsecond ↦ ?_
  obtain ⟨_, -, rfl⟩ := Option.map_eq_some_iff.mp hfirst
  obtain ⟨_, -, rfl⟩ := Option.map_eq_some_iff.mp hsecond
  exact hab

/-- The places in a call are those of the advisors that support calls. -/
theorem mem_callPositions_iff (advisors : List (LayeredAdvisor σ)) (position : Nat) :
    position ∈ callPositions advisors ↔
      ∃ advisor, advisors[position]? = some advisor ∧ advisor.layer.isSome = true := by
  unfold callPositions actingLayers
  constructor
  · intro hmem
    obtain ⟨⟨layer, _⟩, hlayer, rfl⟩ := List.mem_map.mp hmem
    obtain ⟨⟨advisor, place⟩, hentry, hsome⟩ := List.mem_filterMap.mp hlayer
    obtain ⟨_, hadvisor, heq⟩ := Option.map_eq_some_iff.mp hsome
    obtain ⟨rfl, rfl⟩ := Prod.mk.inj heq
    exact ⟨advisor, getElem?_of_mem_acting hentry, by rw [hadvisor]; rfl⟩
  · rintro ⟨advisor, hget, hsome⟩
    obtain ⟨layer, hlayer⟩ := Option.isSome_iff_exists.mp hsome
    have hentry : (advisor, position) ∈ acting advisors :=
      List.mem_mergeSort.mpr (List.mk_mem_zipIdx_iff_getElem?.mpr hget)
    refine List.mem_map.mpr ⟨(layer, position), List.mem_filterMap.mpr ⟨_, hentry, ?_⟩, rfl⟩
    show advisor.layer.map (·, position) = some (layer, position)
    rw [hlayer, Option.map_some]

/-- Advisors that have the orders of layered ones act in the order of these. -/
theorem inOrder_zipIdx (advisors : List (LayeredAdvisor σ))
    (f : LayeredAdvisor σ × Nat → Advisor τ) (horder : ∀ entry, (f entry).order = entry.1.order) :
    Advisor.inOrder (advisors.zipIdx.map f) = (acting advisors).map f := by
  refine (List.map_mergeSort fun a _ b _ ↦ ?_).symm
  rw [Advisor.mayPrecede, horder, horder]

theorem advisors_layeredChain (model : ChatModel σ) (advisors : List (LayeredAdvisor σ)) :
    (layeredChain model advisors).advisors =
      (acting advisors).map fun (advisor, _) ↦ advisor.toAdvisor := by
  have hplaces : advisors.map LayeredAdvisor.toAdvisor =
      advisors.zipIdx.map fun (advisor, _) ↦ advisor.toAdvisor := by
    rw [← List.zipIdx_map_fst 0 advisors, List.map_map, List.zipIdx_map_fst]
    rfl
  show Advisor.inOrder (advisors.map LayeredAdvisor.toAdvisor) = _
  rw [hplaces]
  exact inOrder_zipIdx advisors _ fun _ ↦ rfl

theorem advisors_recordingChain (model : ChatModel σ) (advisors : List (LayeredAdvisor σ)) :
    (recordingChain model advisors).advisors =
      (acting advisors).map fun (advisor, position) ↦ advisor.recording position :=
  inOrder_zipIdx advisors _ fun _ ↦ rfl

/-! ### Recording changes no call -/

theorem recordingAdvice_simulates (position : Nat) (layer : Layer σ) :
    Advice.Simulates Forgets (layer.recordingAdvice position) layer.advice := by
  intro request behind other hliteral hnext
  unfold Layer.recordingAdvice Layer.advice
  rw [hliteral]
  refine simulates_bind simulates_logging fun advising ↦ ?_
  exact simulates_bind (hnext advising.request) fun response ↦ simulates_logging

theorem recording_simulates (advisor : LayeredAdvisor σ) (position : Nat) :
    (advisor.recording position).Simulates Forgets advisor.toAdvisor where
  name_eq := rfl
  call := by
    show Option.Rel _ (advisor.layer.map _) (advisor.layer.map _)
    cases advisor.layer with
    | none => exact .none
    | some layer => exact .some (recordingAdvice_simulates position layer)

theorem recordingChain_simulates (model : ChatModel σ) (advisors : List (LayeredAdvisor σ)) :
    (recordingChain model advisors).Simulates Forgets (layeredChain model advisors) where
  model prompt := by
    show Action.Simulates Forgets ((model.call prompt).exchanging _ _) (model.call prompt)
    exact simulates_logging
  advisors := by
    rw [advisors_recordingChain, advisors_layeredChain]
    refine List.forall₂_map_left_iff.mpr (List.forall₂_map_right_iff.mpr ?_)
    exact List.forall₂_same.mpr fun (advisor, position) _ ↦ recording_simulates advisor position
  position_eq := rfl

/-! ### Round trips -/

/-- What the sides of some advisors and the model answer in a call that gets through. -/
structure RoundTrip (positions : List Nat) where
  requests : List AdvisedRequest
  answer : ChatResponse
  responses : List AdvisedResponse
  requests_length : requests.length = positions.length
  responses_length : responses.length = positions.length

namespace RoundTrip

variable {positions : List Nat} (trip : RoundTrip positions) (request : AdvisedRequest)

/-- The request that the model gets. -/
def asked : AdvisedRequest :=
  trip.requests.getLastD request

/-- The response that the model gives. -/
def answered : AdvisedResponse :=
  .ofRequest (trip.asked request) (some trip.answer)

/-- The response that the chain gives. -/
def response : AdvisedResponse :=
  trip.responses.getLastD (trip.answered request)

/-- The calls on the way to the model, of the model, and on the way back. -/
def exchanges : List ChainExchange :=
  relayed .enter .request positions request trip.requests ++
    ([.answered (.ask (trip.asked request).prompt) (.answer trip.answer)] ++
      relayed .leave .response positions.reverse (trip.answered request) trip.responses)

/-- The round trip of a model alone. -/
def ofAnswer (answer : ChatResponse) : RoundTrip [] :=
  ⟨[], answer, [], rfl, rfl⟩

/-- The round trip with another advisor around it. -/
def around (position : Nat) (advised : AdvisedRequest) (final : AdvisedResponse) :
    RoundTrip (position :: positions) where
  requests := advised :: trip.requests
  answer := trip.answer
  responses := trip.responses ++ [final]
  requests_length := congrArg (· + 1) trip.requests_length
  responses_length := by
    rw [List.length_append, List.length_singleton, List.length_cons, trip.responses_length]

variable (position : Nat) (advised : AdvisedRequest) (final : AdvisedResponse)

theorem asked_around : (trip.around position advised final).asked request = trip.asked advised :=
  List.getLastD_cons ..

theorem answered_around :
    (trip.around position advised final).answered request = trip.answered advised := by
  unfold answered
  rw [asked_around]
  rfl

theorem response_around : (trip.around position advised final).response request = final :=
  List.getLastD_concat ..

/-- An advisor comes first on the way to the model and last on the way back. -/
theorem exchanges_around :
    (trip.around position advised final).exchanges request =
      [.answered (.enter position request) (.request advised)] ++ (trip.exchanges advised ++
        [.answered (.leave position (trip.response advised)) (.response final)]) := by
  have hlength : trip.responses.length = positions.reverse.length := by
    rw [List.length_reverse, trip.responses_length]
  unfold exchanges
  rw [asked_around, answered_around, List.reverse_cons]
  show Exchange.answered (ChainCall.enter position request) (ChainAnswer.request advised) :: _ ++
    (_ ++ relayed _ _ (positions.reverse ++ [position]) _ (trip.responses ++ [final])) = _
  rw [relayed_concat _ _ _ _ _ _ _ hlength]
  simp [response, around]

theorem not_hasFailed {exchange : ChainExchange} (h : exchange ∈ trip.exchanges request) :
    ¬ HasFailed exchange := by
  rintro ⟨failure, hfailed⟩
  rcases List.mem_append.mp h with henter | hrest
  · obtain ⟨output, houtput⟩ := outcome_of_mem_relayed henter
    cases houtput.symm.trans hfailed
  · rcases List.mem_append.mp hrest with hask | hleave
    · obtain rfl := List.mem_singleton.mp hask
      cases hfailed
    · obtain ⟨output, houtput⟩ := outcome_of_mem_relayed hleave
      cases houtput.symm.trans hfailed

end RoundTrip

/-! ### The calls of a chain -/

instance : Nonempty AdvisedResponse := ⟨{}⟩

instance : Nonempty ChatResponse := ⟨{}⟩

instance : Nonempty (Advising σ) := ⟨⟨.ofText "" [], pure⟩⟩

theorem follows_answer (model : ChatModel σ) (request : AdvisedRequest) :
    Follows FailedWith (fun response plan ↦ ∃ trip : RoundTrip [],
        response = trip.response request ∧ plan = trip.exchanges request)
      (model.recording.answer request) := by
  refine follows_mono (follows_bind (follows_exchanging _ _ _ fun _ ↦ rfl) fun answer ↦
    follows_return (AdvisedResponse.ofRequest request (some answer))) ?_
  rintro _ _ ⟨answer, _, _, rfl, ⟨rfl, rfl⟩, rfl⟩
  exact ⟨.ofAnswer answer, rfl, rfl⟩

/-- Assumes: a chain of a recording model with some layers remaining. A call of the rest of the
chain follows a round trip through these. -/
theorem follows_next (model : ChatModel σ) (layers : List (Layer σ × Nat))
    {chain : AdvisorChain (Recorded σ ChainExchange)} (hmodel : chain.model = model.recording)
    (hremaining : chain.remaining Advisor.call =
      layers.map fun (layer, position) ↦ layer.recordingAdvice position)
    (request : AdvisedRequest) :
    Follows FailedWith (fun response plan ↦ ∃ trip : RoundTrip (layers.map Prod.snd),
        response = trip.response request ∧ plan = trip.exchanges request)
      (chain.call request) := by
  unfold AdvisorChain.call
  induction layers generalizing chain request with
  | nil =>
    rw [AdvisorChain.next_of_remaining_nil hremaining, hmodel]
    exact follows_answer model request
  | cons head layers ih =>
    obtain ⟨layer, position⟩ := head
    have hsuccessor : chain.successor.model = model.recording := hmodel
    rw [AdvisorChain.next_of_remaining_cons hremaining]
    refine follows_mono (follows_bind (follows_exchanging _ _ _ fun _ ↦ rfl) fun advising ↦
      follows_bind (ih hsuccessor (AdvisorChain.remaining_successor hremaining) advising.request)
        fun response ↦ follows_exchanging _ _ _ fun _ ↦ rfl) ?_
    rintro final _ ⟨advising, _, _, rfl, ⟨_, _, _, ⟨trip, rfl, rfl⟩, rfl, rfl⟩, rfl⟩
    refine ⟨trip.around position advising.request final, ?_, ?_⟩
    · exact (trip.response_around request position advising.request final).symm
    · exact (trip.exchanges_around request position advising.request final).symm

theorem remaining_recordingChain (model : ChatModel σ) (advisors : List (LayeredAdvisor σ)) :
    (recordingChain model advisors).remaining Advisor.call =
      (actingLayers advisors).map fun (layer, position) ↦ layer.recordingAdvice position := by
  show (recordingChain model advisors).advisors.filterMap Advisor.call = _
  rw [advisors_recordingChain, List.filterMap_map, actingLayers, List.map_filterMap]
  refine List.filterMap_congr fun (advisor, position) _ ↦ ?_
  show advisor.layer.map _ = (advisor.layer.map _).map _
  rw [Option.map_map]
  rfl

/-- Recording the sides of the advisors of a chain does not change a call, and the calls of sides
follow a round trip through the advisors that support calls, in the order in which they act. The
chain has a response exactly if the round trip is complete, and it is the planned one. It fails
exactly if a call fails in the same way, after which nothing is called. -/
theorem call_follows_layers (model : ChatModel σ) (advisors : List (LayeredAdvisor σ))
    (request : AdvisedRequest) (scene : Scene σ) :
    (((recordingChain model advisors).call request).outcome (scene.withRecord []) =
        ((layeredChain model advisors).call request).outcome scene ∧
      (sceneAfter ((recordingChain model advisors).call request) (scene.withRecord [])).plain =
        sceneAfter ((layeredChain model advisors).call request) scene) ∧
    (callPositions advisors).Pairwise (ActsBefore advisors) ∧
    (∀ position, position ∈ callPositions advisors ↔
      ∃ advisor, advisors[position]? = some advisor ∧ advisor.layer.isSome = true) ∧
    ∃ trip : RoundTrip (callPositions advisors),
      (∀ response, ((layeredChain model advisors).call request).outcome scene = .ok response ↔
        callExchanges model advisors request scene = trip.exchanges request ∧
          response = trip.response request) ∧
      (∀ failure, ((layeredChain model advisors).call request).outcome scene = .error failure ↔
        Interrupts (FailedWith failure) (trip.exchanges request)
          (callExchanges model advisors request scene)) ∧
      ∀ before exchange after,
        callExchanges model advisors request scene = before ++ exchange :: after →
        HasFailed exchange → after = [] := by
  have hsame := AdvisorChain.call_simulates (recordingChain_simulates model advisors) request
    (scene.withRecord []) scene rfl
  refine ⟨hsame, callPositions_pairwise advisors, mem_callPositions_iff advisors, ?_⟩
  obtain ⟨_, _, ⟨trip, rfl, rfl⟩, -, hresult, hfailed, hincomplete, hlast⟩ :=
    exists_plan (follows_next model (actingLayers advisors) rfl
      (remaining_recordingChain model advisors) request) hasFailed_of_failedWith (by
        rintro _ _ ⟨trip, -, rfl⟩ exchange hmem
        exact trip.not_hasFailed request hmem) (Scene.record_withRecord scene []) rfl
  refine ⟨trip, ?_, ?_, hlast⟩
  · intro response
    rw [← hsame.1]
    exact hresult response
  · intro failure
    rw [← hsame.1]
    constructor
    · exact hfailed failure
    · intro hinterrupts
      have hstopped := hinterrupts.mono (hasFailed_of_failedWith failure)
      obtain ⟨other, hother⟩ := hincomplete
        (hstopped.ne_plan fun exchange hmem ↦ trip.not_hasFailed request hmem)
      obtain ⟨last, hlast, hfailure⟩ := hinterrupts.exists_last (hfailed other hother)
      obtain ⟨⟩ := hlast.symm.trans hfailure
      exact hother

end Grounding
