import Grounding.Proofs.Chain.Sides
import Grounding.Proofs.Chain.Streams

/-!
# Calls and streams of a chain agree

`RequestStep` are the steps of a request on its way to the model, each with the scene in which it is
taken: the request side of an advisor is given a request, and the model is given a prompt. A chain
of advisors and a model that record them (`RetrievalAdvisor.traced`, `ChatModel.traced`) does
what the chain without a record does; `CallTakes` and `StreamTakes` say so together with the steps
of a call and of a stream that is taken completely.

`call_agrees_with_stream`: these steps are the same. Either both fail before the model is asked, or
both ask it the same thing in the same scene. If the model then gives one terminal response, and
nothing but this response as a stream, what is taken from the stream is what the call returns.

Two differences remain, and `call_disagrees_with_stream` shows both. A signal of an end cannot leave
a stream, so that another failure takes its place. And a stream runs the request side of an advisor
in a worker unless the advisor says otherwise, which a request side can see that asks for it.
-/

set_option autoImplicit false
set_option relaxedAutoImplicit false

namespace Grounding

open Grounding.Action
open Grounding.Stream (sceneAfter)

variable {σ : Type}

/-! ### One terminal fragment -/

/-- One fragment was taken and nothing else, and nothing failed. -/
def Delivery.IsOnly {α : Type} (delivery : Delivery σ α) (fragment : α) : Prop :=
  delivery.fragments = [fragment] ∧ delivery.failure = none

/-- A call and a stream end alike: the stream gave the response of the call and nothing else, or it
gave nothing and failed as well. -/
def Delivery.EndsAs (delivery : Delivery σ AdvisedResponse)
    (outcome : Except Failure AdvisedResponse) : Prop :=
  match outcome with
  | .ok response => delivery.IsOnly response
  | .error _ => delivery.fragments = [] ∧ delivery.failure ≠ none

namespace RetrievalAdvisor

theorem isTerminal_of_after {advised shown : AdvisedResponse} (h : after advised = .ok shown)
    (hterminal : advised.isTerminal = true) : shown.isTerminal = true := by
  obtain ⟨documents, -, hshown⟩ := bind_eq_ok_iff.mp h
  obtain rfl := Except.ok.inj hshown
  exact isTerminal_marked (.list documents) advised hterminal

/-- A relay of a stream that gives nothing has seen a terminal fragment before, or it gives nothing
and fails as the stream does. -/
theorem drain_relay_of_nil (name : String) {stream : Stream σ AdvisedResponse} {scene : Scene σ}
    (hnone : (stream.drain scene).fragments = []) (fragments : Nat) (terminal : Bool) :
    (relay name stream fragments terminal).drain scene =
      ⟨[], ending name fragments terminal (stream.drain scene).failure,
        (stream.drain scene).scene⟩ := by
  have hcarries : ∀ fragment ∈ (stream.drain scene).fragments, Carries [] fragment := by
    intro fragment hmem
    rw [hnone] at hmem
    cases hmem
  rw [drain_relay name stream fragments terminal scene hcarries, hnone]
  simp

/-- Assumes: a stream that fails without a fragment. So does its relay. -/
theorem drain_relay_of_failed (name : String) {stream : Stream σ AdvisedResponse} {scene : Scene σ}
    (hnone : (stream.drain scene).fragments = []) (hfailed : (stream.drain scene).failure ≠ none) :
    ((relay name stream 0 false).drain scene).fragments = [] ∧
      ((relay name stream 0 false).drain scene).failure ≠ none := by
  obtain ⟨failure, hfailure⟩ := Option.ne_none_iff_exists'.mp hfailed
  rw [drain_relay_of_nil name hnone, hfailure]
  exact ⟨rfl, Option.some_ne_none failure⟩

/-- Assumes: a stream whose only fragment is a terminal one. Its relay ends as the response side
does on this fragment. -/
theorem endsAs_relay (name : String) {stream : Stream σ AdvisedResponse} {scene : Scene σ}
    {fragment : AdvisedResponse} (honly : (stream.drain scene).IsOnly fragment)
    (hterminal : fragment.isTerminal = true) (fragments : Nat) (terminal : Bool) :
    ((relay name stream fragments terminal).drain scene).EndsAs (after fragment) := by
  induction stream generalizing fragments terminal scene with
  | ended => cases honly.1
  | failed failure lasting => cases honly.1
  | doing change rest ih => exact ih scene honly fragments terminal
  | giving first release rest ih =>
    obtain ⟨rfl, hnone⟩ := List.cons.inj honly.1
    rw [relay, if_pos hterminal]
    cases hafter : after first with
    | error failure =>
      show Delivery.EndsAs ((Stream.ofAction release fun _ ↦ .raising failure).drain scene) _
      rw [Stream.drain_ofAction]
      cases release.outcome scene <;> exact ⟨rfl, Option.some_ne_none _⟩
    | ok shown =>
      have hrest := drain_relay_of_nil name hnone (fragments + 1) true
      have hfailure : (rest.drain scene).failure = none := honly.2
      show Delivery.EndsAs ⟨shown :: _, _, _⟩ _
      rw [hrest, hfailure]
      exact ⟨rfl, rfl⟩

/-- Assumes: a stream whose only fragment is a terminal one. The relays of several advisors end as
their response sides do on this fragment. -/
theorem endsAs_relays (advisors : List (RetrievalAdvisor σ)) {stream : Stream σ AdvisedResponse}
    {scene : Scene σ} {fragment : AdvisedResponse} (honly : (stream.drain scene).IsOnly fragment)
    (hterminal : fragment.isTerminal = true) :
    ((relays advisors stream).drain scene).EndsAs (responseSide advisors fragment) := by
  induction advisors with
  | nil => exact honly
  | cons advisor rest ih =>
    rw [relays, responseSide]
    cases hinner : responseSide rest fragment with
    | error failure =>
      rw [hinner] at ih
      exact drain_relay_of_failed advisor.name ih.1 ih.2
    | ok response =>
      rw [hinner] at ih
      have hresponse : response.isTerminal = true := by
        by_cases hrest : rest = []
        · subst hrest
          obtain rfl := Except.ok.inj hinner
          exact hterminal
        · rw [responseSide_eq_after hrest] at hinner
          exact isTerminal_of_after hinner hterminal
      exact endsAs_relay advisor.name ih hresponse 0 false

end RetrievalAdvisor

/-! ### Steps to the model -/

/-- A step of a request on its way to the model, with the scene in which it is taken. -/
inductive RequestStep (σ : Type)
  /-- The request side of an advisor is given a request. -/
  | advise (advisor : RetrievalAdvisor σ) (request : AdvisedRequest) (scene : Scene σ)
  /-- The model is given a prompt. -/
  | ask (prompt : Prompt) (scene : Scene σ)

/-- Whether the model is given a prompt. -/
def RequestStep.IsAsk : RequestStep σ → Prop
  | .advise .. => False
  | .ask .. => True

/-- The model, with a record of the prompts that it is given. -/
def ChatModel.traced (model : ChatModel σ) : ChatModel (Recorded σ (RequestStep σ)) where
  call prompt := (model.call prompt).witnessing fun found _ _ ↦ [.ask prompt found]
  stream prompt := do
    let source ← (model.stream prompt).witnessing fun found _ _ ↦ [.ask prompt found]
    return source.unrecorded

theorem ChatModel.call_traced (model : ChatModel σ) (prompt : Prompt) :
    model.traced.call prompt =
      (model.call prompt).witnessing fun found _ _ ↦ [.ask prompt found] := rfl

namespace RetrievalAdvisor

/-- The advisor, with a record of the requests that its request side is given. -/
def traced (advisor : RetrievalAdvisor σ) : RetrievalAdvisor (Recorded σ (RequestStep σ)) where
  name := advisor.name
  literal := advisor.literal
  order := advisor.order
  protectFromBlocking := advisor.protectFromBlocking
  before placement request :=
    (advisor.before placement request).witnessing fun found _ _ ↦ [.advise advisor request found]

theorem before_traced (advisor : RetrievalAdvisor σ) (placement : Placement)
    (request : AdvisedRequest) :
    advisor.traced.before placement request =
      (advisor.before placement request).witnessing fun found _ _ ↦
        [.advise advisor request found] := rfl

/-- The chain of advisors, with a record of the steps to the model. -/
def tracedChain (model : ChatModel σ) (advisors : List (RetrievalAdvisor σ)) :
    AdvisorChain (Recorded σ (RequestStep σ)) :=
  chain model.traced (advisors.map traced)

/-- A call takes steps: with a record of them it ends as it does without, and leaves the same scene
with these steps in the record. -/
structure CallTakes (model : ChatModel σ) (advisors : List (RetrievalAdvisor σ))
    (request : AdvisedRequest) (scene : Scene σ) (steps : List (RequestStep σ)) : Prop where
  outcome_eq : ((tracedChain model advisors).call request).outcome (scene.withRecord []) =
    ((chain model advisors).call request).outcome scene
  sceneAfter_eq : sceneAfter ((tracedChain model advisors).call request) (scene.withRecord []) =
    (sceneAfter ((chain model advisors).call request) scene).withRecord steps

/-- A stream takes steps: with a record of them it delivers what it delivers without, and leaves
these steps in the record. -/
def StreamTakes (model : ChatModel σ) (advisors : List (RetrievalAdvisor σ))
    (request : AdvisedRequest) (scene : Scene σ) (steps : List (RequestStep σ)) : Prop :=
  ((tracedChain model advisors).stream request).drain (scene.withRecord []) =
    (((chain model advisors).stream request).drain scene).withRecord steps

/-- Request sides take steps, none of which asks the model. -/
structure SidesTake (advisors : List (RetrievalAdvisor σ)) (request : AdvisedRequest)
    (scene : Scene σ) (before sides : List (RequestStep σ)) : Prop where
  no_ask : ∀ step ∈ sides, ¬ step.IsAsk
  outcome_eq : (requestSide (advisors.map traced) request).outcome (scene.withRecord before) =
    (requestSide advisors request).outcome scene
  sceneAfter_eq :
    sceneAfter (requestSide (advisors.map traced) request) (scene.withRecord before) =
      (sceneAfter (requestSide advisors request) scene).withRecord (before ++ sides)

theorem inOrder_map_traced (advisors : List (RetrievalAdvisor σ)) :
    inOrder (advisors.map traced) = (inOrder advisors).map traced := by
  refine (List.map_mergeSort fun a _ b _ ↦ ?_).symm
  rfl

theorem PlacedFreely.traced {advisor : RetrievalAdvisor σ} (h : advisor.PlacedFreely) :
    advisor.traced.PlacedFreely := by
  funext request
  rw [before_traced, before_traced, h]

/-- Request sides with a record end as they do without, and add one step for every advisor that is
reached. -/
theorem exists_sidesTake (advisors : List (RetrievalAdvisor σ)) (request : AdvisedRequest)
    (scene : Scene σ) (before : List (RequestStep σ)) :
    ∃ sides, SidesTake advisors request scene before sides := by
  induction advisors generalizing request scene before with
  | nil => exact ⟨[], by simp, rfl, by rw [List.append_nil]; rfl⟩
  | cons advisor rest ih =>
    have hplacement : advisor.traced.placement = advisor.placement := rfl
    have houtcome : (advisor.traced.before advisor.placement request).outcome
        (scene.withRecord before) = (advisor.before advisor.placement request).outcome scene := by
      rw [before_traced, outcome_witnessing, Scene.plain_withRecord]
    have hafter : sceneAfter (advisor.traced.before advisor.placement request)
        (scene.withRecord before) =
          (sceneAfter (advisor.before advisor.placement request) scene).withRecord
            (before ++ [.advise advisor request scene]) := by
      rw [before_traced, sceneAfter_witnessing, Scene.plain_withRecord, Scene.record_withRecord]
    cases hfirst : (advisor.before advisor.placement request).outcome scene with
    | error failure =>
      rw [hfirst] at houtcome
      refine ⟨[.advise advisor request scene], List.forall_mem_singleton.mpr id, ?_, ?_⟩
      · rw [List.map_cons, requestSide, requestSide, hplacement, outcome_bind_error houtcome,
          outcome_bind_error hfirst]
      · rw [List.map_cons, requestSide, requestSide, hplacement, sceneAfter_bind_error houtcome,
          sceneAfter_bind_error hfirst, hafter]
    | ok advised =>
      rw [hfirst] at houtcome
      obtain ⟨sides, hsides, hrest, hscene⟩ := ih advised
        (sceneAfter (advisor.before advisor.placement request) scene)
        (before ++ [.advise advisor request scene])
      refine ⟨.advise advisor request scene :: sides,
        List.forall_mem_cons.mpr ⟨id, hsides⟩, ?_, ?_⟩
      · rw [List.map_cons, requestSide, requestSide, hplacement, outcome_bind_ok houtcome,
          outcome_bind_ok hfirst, hafter, hrest]
      · rw [List.map_cons, requestSide, requestSide, hplacement, sceneAfter_bind_ok houtcome,
          sceneAfter_bind_ok hfirst, hafter, hscene, List.append_assoc, List.singleton_append]

/-- The answer of the model with a record is that without one, and one step is added. -/
theorem answer_traced (model : ChatModel σ) (advised : AdvisedRequest) (scene : Scene σ)
    (before : List (RequestStep σ)) :
    (model.traced.answer advised).outcome (scene.withRecord before) =
        (model.answer advised).outcome scene ∧
      sceneAfter (model.traced.answer advised) (scene.withRecord before) =
        (sceneAfter (model.answer advised) scene).withRecord
          (before ++ [.ask advised.prompt scene]) := by
  have houtcome : (model.traced.call advised.prompt).outcome (scene.withRecord before) =
      (model.call advised.prompt).outcome scene := by
    rw [ChatModel.call_traced, outcome_witnessing, Scene.plain_withRecord]
  unfold ChatModel.answer
  rw [outcome_bind, outcome_bind, sceneAfter_bind_pure, sceneAfter_bind_pure, houtcome]
  constructor
  · cases (model.call advised.prompt).outcome scene <;> rfl
  · rw [ChatModel.call_traced, sceneAfter_witnessing, Scene.plain_withRecord,
      Scene.record_withRecord]

theorem responseSide_map_traced (advisors : List (RetrievalAdvisor σ))
    (advised : AdvisedResponse) :
    responseSide (advisors.map traced) advised = responseSide advisors advised := by
  induction advisors with
  | nil => rfl
  | cons advisor rest ih => rw [List.map_cons, responseSide, responseSide, ih]

theorem relays_ofAction {α : Type} (advisors : List (RetrievalAdvisor σ)) (action : Action σ α)
    (next : α → Stream σ AdvisedResponse) :
    relays advisors (.ofAction action next) =
      .ofAction action fun value ↦ relays advisors (next value) := by
  induction advisors with
  | nil => rfl
  | cons advisor rest ih =>
    rw [relays, ih, relay_ofAction]
    rfl

theorem relays_simulates {related : Scene (Recorded σ (RequestStep σ)) → Scene σ → Prop}
    (advisors : List (RetrievalAdvisor σ))
    {recorded : Stream (Recorded σ (RequestStep σ)) AdvisedResponse}
    {stream : Stream σ AdvisedResponse} (h : Stream.Simulates related recorded stream) :
    Stream.Simulates related (relays (advisors.map traced) recorded)
      (relays advisors stream) := by
  induction advisors with
  | nil => exact h
  | cons advisor rest ih => exact relay_simulates advisor.name ih 0 false

/-- The relays of a model with a record deliver what they deliver without one, and one step is
added. -/
theorem drain_relays_traced (model : ChatModel σ) (advisors : List (RetrievalAdvisor σ))
    (advised : AdvisedRequest) (scene : Scene σ) (before : List (RequestStep σ)) :
    (relays (advisors.map traced) (model.traced.fragments advised)).drain
        (scene.withRecord before) =
      ((relays advisors (model.fragments advised)).drain scene).withRecord
        (before ++ [.ask advised.prompt scene]) := by
  have hopened : (model.traced.fragments advised) = .ofAction
      ((model.stream advised.prompt).witnessing fun found _ _ ↦ [.ask advised.prompt found])
      fun source ↦ source.unrecorded.toStream.map fun response ↦
        .ofRequest advised (some response) :=
    Stream.ofAction_map _ _ _
  rw [hopened, ChatModel.fragments, relays_ofAction, relays_ofAction, Stream.drain_ofAction,
    Stream.drain_ofAction, outcome_witnessing, sceneAfter_witnessing, Scene.plain_withRecord,
    Scene.record_withRecord]
  cases (model.stream advised.prompt).outcome scene with
  | error failure => rfl
  | ok source =>
    have hfragments := Stream.map_simulates
      (Source.unrecorded_simulates (before ++ [.ask advised.prompt scene]) source)
      fun response ↦ AdvisedResponse.ofRequest advised (some response)
    exact Stream.drain_of_simulates (relays_simulates advisors hfragments) _

/-- The steps of request sides, and then that of the model if they succeed. -/
def stepsBehind (sides : List (RequestStep σ)) (found : Scene σ) :
    Except Failure AdvisedRequest → List (RequestStep σ)
  | .ok advised => sides ++ [.ask advised.prompt found]
  | .error _ => sides

section Takes

variable {model : ChatModel σ} {advisors : List (RetrievalAdvisor σ)} {request : AdvisedRequest}
  {scene : Scene σ} {sides : List (RequestStep σ)}

theorem SidesTake.callTakes (h : SidesTake (inOrder advisors) request scene [] sides)
    (hplaced : ∀ advisor ∈ inOrder advisors, advisor.PlacedFreely) :
    CallTakes model advisors request scene
      (stepsBehind sides (sceneAfter (requestSide (inOrder advisors) request) scene)
        ((requestSide (inOrder advisors) request).outcome scene)) := by
  have htraced : ∀ advisor ∈ (inOrder advisors).map traced, advisor.PlacedFreely := by
    intro advisor hmem
    obtain ⟨plain, hplain, rfl⟩ := List.mem_map.mp hmem
    exact (hplaced plain hplain).traced
  have hremaining := remaining_call model.traced (advisors.map traced)
  rw [inOrder_map_traced] at hremaining
  have hcall := call_eq hplaced (remaining_call model advisors) request
  have hrecorded := call_eq htraced hremaining request
  have houtcome := h.outcome_eq
  have hafter := h.sceneAfter_eq
  rw [List.nil_append] at hafter
  have hresponse : responseSide ((inOrder advisors).map traced) = responseSide (inOrder advisors) :=
    funext (responseSide_map_traced (inOrder advisors))
  rw [hresponse] at hrecorded
  cases hadvised : (requestSide (inOrder advisors) request).outcome scene with
  | error failure =>
    rw [hadvised] at houtcome
    constructor
    · rw [tracedChain, hcall, hrecorded, outcome_bind_error houtcome, outcome_bind_error hadvised]
    · rw [tracedChain, hcall, hrecorded, sceneAfter_bind_error houtcome,
        sceneAfter_bind_error hadvised, hafter]
      rfl
  | ok advised =>
    rw [hadvised] at houtcome
    obtain ⟨hanswer, hleft⟩ := answer_traced model advised
      (sceneAfter (requestSide (inOrder advisors) request) scene) sides
    constructor
    · rw [tracedChain, hcall, hrecorded, outcome_bind_ok houtcome, outcome_bind_ok hadvised,
        outcome_bind_ofExcept, outcome_bind_ofExcept, hafter]
      exact congrArg (· >>= responseSide (inOrder advisors)) hanswer
    · rw [tracedChain, hcall, hrecorded, sceneAfter_bind_ok houtcome, sceneAfter_bind_ok hadvised,
        sceneAfter_bind_ofExcept, sceneAfter_bind_ofExcept, hafter]
      exact hleft

theorem SidesTake.streamTakes (h : SidesTake (inOrder advisors) request scene [] sides) :
    StreamTakes model advisors request scene
      (stepsBehind sides (sceneAfter (requestSide (inOrder advisors) request) scene)
        ((requestSide (inOrder advisors) request).outcome scene)) := by
  have hremaining := remaining_stream model.traced (advisors.map traced)
  rw [inOrder_map_traced] at hremaining
  have hstream := stream_eq (remaining_stream model advisors) request
  have hrecorded := stream_eq hremaining request
  have houtcome := h.outcome_eq
  have hafter := h.sceneAfter_eq
  rw [List.nil_append] at hafter
  unfold StreamTakes tracedChain
  rw [hstream, hrecorded, drain_entering, drain_entering, houtcome, hafter]
  cases (requestSide (inOrder advisors) request).outcome scene with
  | error failure => rfl
  | ok advised => exact drain_relays_traced model (inOrder advisors) advised _ sides

end Takes

/-! ### Agreement -/

/-- Assumes: advisors that leave documents in the context, and request sides that succeed. The
response sides succeed as well. -/
theorem exists_response {advisors : List (RetrievalAdvisor σ)}
    (hputs : ∀ advisor ∈ advisors, advisor.PutsDocuments) {request advised : AdvisedRequest}
    {scene : Scene σ} (hadvised : (requestSide advisors request).outcome scene = .ok advised)
    (given : ChatResponse) :
    ∃ response, responseSide advisors (.ofRequest advised (some given)) = .ok response := by
  rcases List.eq_nil_or_concat' advisors with rfl | ⟨outer, innermost, rfl⟩
  · exact ⟨_, rfl⟩
  · have hinnermost := hputs innermost (by simp)
    obtain ⟨documents, hdocuments⟩ := exists_documents outer innermost hinnermost hadvised
    rw [responseSide_eq_after (by simp)]
    exact ⟨_, after_of_carries hdocuments⟩

/-- Assumes: advisors whose request sides do the same in a worker as in place. A call and a stream
that is taken completely take the same steps to the model, in the same order and from the same
scenes. Either both fail before the model is asked, in the same scene and with the same failure as
it leaves a stream, or the model is the last to be asked, once and with the same prompt. If its
answer is then one terminal response, as a whole and as the only fragment, the stream gives exactly
the response of the call; and a call there has a response if the advisors leave documents in the
context. -/
theorem call_agrees_with_stream (model : ChatModel σ) (advisors : List (RetrievalAdvisor σ))
    (request : AdvisedRequest) (scene : Scene σ)
    (hplaced : ∀ advisor ∈ advisors, advisor.PlacedFreely) :
    ∃ called left delivery steps,
      called = ((chain model advisors).call request).outcome scene ∧
      left = sceneAfter ((chain model advisors).call request) scene ∧
      delivery = ((chain model advisors).stream request).drain scene ∧
      CallTakes model advisors request scene steps ∧
      StreamTakes model advisors request scene steps ∧
      ((∃ failure, (∀ step ∈ steps, ¬ step.IsAsk) ∧ called = .error failure ∧
          delivery = ⟨[], some failure.leaving, left⟩ ∧
          (failure.IsLasting → delivery.failure = some failure)) ∨
        ∃ sides prompt found, steps = sides ++ [.ask prompt found] ∧
          (∀ step ∈ sides, ¬ step.IsAsk) ∧
          ∀ given, given.isTerminal = true → (model.call prompt).outcome found = .ok given →
            (model.drain prompt found).IsOnly given →
            delivery.EndsAs called ∧
              ((∀ advisor ∈ advisors, advisor.PutsDocuments) →
                ∃ response, called = .ok response)) := by
  have hordered : ∀ advisor ∈ inOrder advisors, advisor.PlacedFreely :=
    fun advisor hmem ↦ hplaced advisor (List.mem_mergeSort.mp hmem)
  obtain ⟨sides, hsides⟩ := exists_sidesTake (inOrder advisors) request scene []
  refine ⟨_, _, _, _, rfl, rfl, rfl, hsides.callTakes hordered, hsides.streamTakes, ?_⟩
  rw [stream_eq (remaining_stream model advisors), drain_entering]
  cases hadvised : (requestSide (inOrder advisors) request).outcome scene with
  | error failure =>
    rw [call_eq hordered (remaining_call model advisors), outcome_bind_error hadvised,
      sceneAfter_bind_error hadvised]
    refine Or.inl ⟨failure, hsides.no_ask, rfl, rfl, fun hlasting ↦ ?_⟩
    exact congrArg some (Failure.leaving_of_isLasting hlasting)
  | ok advised =>
    refine Or.inr ⟨sides, advised.prompt, _, rfl, hsides.no_ask, ?_⟩
    intro given hterminal hcall honly
    have hcalled := outcome_call hordered (remaining_call model advisors) hadvised
    rw [show (chain model advisors).model = model from rfl, hcall] at hcalled
    rw [hcalled]
    constructor
    · have hdrain := model.drain_fragments advised
        (sceneAfter (requestSide (inOrder advisors) request) scene)
      rw [honly.1, honly.2] at hdrain
      exact endsAs_relays (inOrder advisors)
        ⟨congrArg Delivery.fragments hdrain, congrArg Delivery.failure hdrain⟩ hterminal
    · intro hputs
      exact exists_response (fun advisor hmem ↦ hputs advisor (List.mem_mergeSort.mp hmem))
        hadvised given

/-- An advisor that finds nothing, last in its chain and never in a worker. -/
def inPlace : RetrievalAdvisor Unit :=
  { DocumentAdvisor.silent.toRetrieval with order := 1, protectFromBlocking := false }

theorem inOrder_silent_inPlace : inOrder [DocumentAdvisor.silent.toRetrieval, inPlace] =
    [DocumentAdvisor.silent.toRetrieval, inPlace] := by
  refine List.mergeSort_of_pairwise ?_
  simp [inPlace, DocumentAdvisor.silent, DocumentAdvisor.toRetrieval,
    QuestionAnswerAdvisor.toRetrieval]

/-- A model whose answer is one finished response, also as a stream. -/
def finished : ChatModel σ where
  call _ := pure { results := [{ finishReason := some "stop" }] }
  stream _ := pure (.giving { results := [{ finishReason := some "stop" }] } none (.ended none))

/-- Two advisors, one of which runs in a worker: the stream gives the response of the call. -/
theorem call_agrees_with_stream_finished :
    ∃ response,
      ((chain finished [DocumentAdvisor.silent.toRetrieval, inPlace]).call
        (.ofText "Why?" [])).outcome ⟨(), []⟩ = .ok response ∧
      (((chain finished [DocumentAdvisor.silent.toRetrieval, inPlace]).stream
        (.ofText "Why?" [])).drain ⟨(), []⟩).fragments = [response] := by
  have hplaced : ∀ advisor ∈ [DocumentAdvisor.silent.toRetrieval, inPlace],
      advisor.PlacedFreely := by
    simp [PlacedFreely, inPlace, DocumentAdvisor.silent, DocumentAdvisor.toRetrieval,
      QuestionAnswerAdvisor.toRetrieval]
  have hremaining := remaining_call finished [DocumentAdvisor.silent.toRetrieval, inPlace]
  rw [inOrder_silent_inPlace] at hremaining
  obtain ⟨called, left, delivery, steps, hcalled, -, hdelivery, -, -, hcases⟩ :=
    call_agrees_with_stream finished [DocumentAdvisor.silent.toRetrieval, inPlace]
      (.ofText "Why?" []) ⟨(), []⟩ hplaced
  have hresponse : ∃ response, called = .ok response := by
    rw [hcalled, call_eq hplaced hremaining]
    exact ⟨_, rfl⟩
  obtain ⟨response, rfl⟩ := hresponse
  refine ⟨response, hcalled.symm, ?_⟩
  rcases hcases with ⟨failure, -, hfailed, -⟩ | ⟨_, prompt, found, -, -, hagree⟩
  · cases hfailed
  · rw [← hdelivery]
    exact (hagree _ rfl rfl ⟨rfl, rfl⟩).1.1

/-- An advisor that is never run in a worker and whose filter parser signals that it has come to an
end. -/
def exhausted : RetrievalAdvisor Unit :=
  ({ store := fun _ ↦ pure (some [])
     parser := some fun _ ↦ throw (.reported .stopIteration "")
     renderer := { placeholders := none, render := fun _ _ ↦ pure "" }
     protectFromBlocking := false } : QuestionAnswerAdvisor Unit).toRetrieval

/-- A request with a filter expression to be parsed. -/
def filteredRequest : AdvisedRequest :=
  .ofText "Why?" [(Filter.contextKey, .text "recent")]

/-- An advisor whose request side notes where it is run. -/
def noting : RetrievalAdvisor (List Placement) where
  name := "noting"
  literal := "noting"
  before placement request := do
    Action.change fun noted ↦ noted ++ [placement]
    return request

/-- A signal of an end leaves a call as it is and a stream as another failure. A request side that
notes where it is run notes one thing in a call and another one in a stream. -/
theorem call_disagrees_with_stream :
    ((chain finished [exhausted]).call filteredRequest).outcome ⟨(), []⟩ =
        .error (.reported .stopIteration "") ∧
      (((chain finished [exhausted]).stream filteredRequest).drain ⟨(), []⟩).failure =
        some (.endSignalled "StopIteration" (.reported .stopIteration "")) ∧
      (sceneAfter ((chain finished [noting]).call (.ofText "Why?" [])) ⟨[], []⟩).world =
        [.inPlace] ∧
      (((chain finished [noting]).stream (.ofText "Why?" [])).drain ⟨[], []⟩).scene.world =
        [.worker] := by
  refine ⟨?_, ?_, ?_, ?_⟩
  · have hremaining := remaining_call finished [exhausted]
    rw [inOrder_singleton] at hremaining
    unfold AdvisorChain.call
    rw [AdvisorChain.next_of_remaining_cons hremaining]
    rfl
  · rw [stream_eq (remaining_stream finished [exhausted]), inOrder_singleton]
    rfl
  · have hremaining := remaining_call finished [noting]
    rw [inOrder_singleton] at hremaining
    unfold AdvisorChain.call
    rw [AdvisorChain.next_of_remaining_cons hremaining]
    have hlast := AdvisorChain.remaining_successor hremaining
    simp only [advise, AdvisorChain.next_of_remaining_nil hlast]
    rfl
  · rw [stream_eq (remaining_stream finished [noting]), inOrder_singleton]
    rfl

end RetrievalAdvisor

end Grounding
