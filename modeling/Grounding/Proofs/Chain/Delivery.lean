import Grounding.Advisor.Augmentation
import Grounding.Advisor.QuestionAnswer
import Grounding.Proofs.Chain.Links

/-!
# What a chain of retrieving advisors delivers of a stream

A `DocumentAdvisor` is one of the two advisors that retrieve documents. Both leave the documents in
the advise context when they succeed (`before_puts`), so that the response side can attach them.

`Source.drain` takes everything from a source and closes it, which is what the stream of the source
does (`Source.drain_toStream`); `ChatModel.drain` asks a model for one first.

`drain_relay` says what one relay makes of everything that is taken from a stream: terminal
fragments get their documents, all others pass, and the stream fails at its end if it ended well
without a terminal one. Relays attach the same documents and count the same fragments, so that
several of them deliver what the innermost one does: `drain_stream` is the induction over the
advisors.

`stream_delivers`: a chain of at least one such advisor whose request sides succeed delivers the
fragments of the model one by one, and ends as the model does, or with the failure of the innermost
advisor if no fragment was terminal.
-/

set_option autoImplicit false
set_option relaxedAutoImplicit false

namespace Grounding

open Grounding.Action
open Grounding.Stream (sceneAfter)

variable {σ α β : Type}

/-! ### Taking everything from a stream -/

namespace Stream

/-- The scene after an action is where its stream goes on, unless the action fails; its failure
leaves the stream. -/
theorem drain_ofAction (action : Action σ α) (next : α → Stream σ β) (scene : Scene σ) :
    (ofAction action next).drain scene =
      match action.outcome scene with
      | .ok value => (next value).drain (sceneAfter action scene)
      | .error failure => ⟨[], some failure.leaving, sceneAfter action scene⟩ := by
  unfold ofAction Action.outcome sceneAfter
  rw [drain]
  cases action scene <;> rfl

theorem drain_map (f : α → β) (stream : Stream σ α) (scene : Scene σ) :
    (stream.map f).drain scene =
      ⟨(stream.drain scene).fragments.map f, (stream.drain scene).failure,
        (stream.drain scene).scene⟩ := by
  induction stream generalizing scene with
  | ended => rfl
  | failed failure lasting => rfl
  | doing change rest ih => exact ih scene (change scene)
  | giving fragment release rest ih =>
    rw [map, drain, ih]
    rfl

end Stream

/-- Takes everything from a source and then closes it. A failure to close it takes the place of its
own. -/
def Source.drain : Source σ α → Scene σ → Delivery σ α
  | .ended close, scene =>
    ⟨[], close.run.withinStream.failure? scene, sceneAfter close.run scene⟩
  | .failed failure _ close, scene =>
    ⟨[], some ((close.run.withinStream.failure? scene).getD failure), sceneAfter close.run scene⟩
  | .doing change rest, scene => (rest scene).drain (change scene)
  | .giving fragment _ rest, scene =>
    let delivery := rest.drain scene
    { delivery with fragments := fragment :: delivery.fragments }

/-- The stream of a source delivers what is taken from the source before it is closed. -/
theorem Source.drain_toStream (source : Source σ α) (scene : Scene σ) :
    source.toStream.drain scene = source.drain scene := by
  induction source generalizing scene with
  | ended close =>
    rw [toStream, drain, Stream.drain_ofAction, failure?_eq, outcome_withinStream]
    cases close.run.outcome scene <;> rfl
  | failed failure lasting close =>
    rw [toStream, drain, Stream.drain_ofAction, failure?_eq, outcome_withinStream]
    cases close.run.outcome scene <;> rfl
  | doing change rest ih => exact ih scene (change scene)
  | giving fragment close rest ih =>
    rw [toStream, drain, Stream.drain, ih]

namespace ChatModel

/-- Asks a model for a stream and takes everything from what it gives. A failure of the model to
give one leaves a stream. -/
def drain (model : ChatModel σ) (prompt : Prompt) (scene : Scene σ) : Delivery σ ChatResponse :=
  match (model.stream prompt).outcome scene with
  | .ok source => source.drain (sceneAfter (model.stream prompt) scene)
  | .error failure => ⟨[], some failure.leaving, sceneAfter (model.stream prompt) scene⟩

theorem drain_fragments (model : ChatModel σ) (request : AdvisedRequest) (scene : Scene σ) :
    (model.fragments request).drain scene =
      ⟨(model.drain request.prompt scene).fragments.map fun response ↦
          .ofRequest request (some response),
        (model.drain request.prompt scene).failure, (model.drain request.prompt scene).scene⟩ := by
  rw [fragments, Stream.drain_ofAction, drain]
  cases (model.stream request.prompt).outcome scene with
  | error failure => rfl
  | ok source => simp only [Stream.drain_map, Source.drain_toStream]

end ChatModel

/-! ### One relay -/

/-- A fragment with documents in the metadata of its response. -/
def marked (documents : Value) (fragment : AdvisedResponse) : AdvisedResponse :=
  fragment.withResponse
    ((fragment.response.getD {}).withMetadata RetrievalAdvisor.documentsKey documents)

/-- A fragment as it is delivered: terminal ones have documents in their metadata. -/
def delivered (documents : Value) (fragment : AdvisedResponse) : AdvisedResponse :=
  if fragment.isTerminal then marked documents fragment else fragment

theorem isTerminal_marked (documents : Value) (fragment : AdvisedResponse)
    (hterminal : fragment.isTerminal = true) : (marked documents fragment).isTerminal = true := by
  unfold AdvisedResponse.isTerminal at hterminal
  cases hresponse : fragment.response with
  | none =>
    rw [hresponse] at hterminal
    cases hterminal
  | some response =>
    rw [hresponse] at hterminal
    unfold marked
    rw [hresponse]
    exact hterminal

@[simp] theorem isTerminal_delivered (documents : Value) (fragment : AdvisedResponse) :
    (delivered documents fragment).isTerminal = fragment.isTerminal := by
  unfold delivered
  split
  · rename_i hterminal
    rw [isTerminal_marked documents fragment hterminal, hterminal]
  · rfl

@[simp] theorem adviseContext_delivered (documents : Value) (fragment : AdvisedResponse) :
    (delivered documents fragment).adviseContext = fragment.adviseContext := by
  unfold delivered
  split <;> rfl

/-- Documents that are attached a second time change nothing. -/
theorem delivered_delivered (documents : Value) (fragment : AdvisedResponse) :
    delivered documents (delivered documents fragment) = delivered documents fragment := by
  by_cases hterminal : fragment.isTerminal = true
  · have hmarked := isTerminal_marked documents fragment hterminal
    have hagain : marked documents (marked documents fragment) = marked documents fragment := by
      simp [marked, AdvisedResponse.withResponse, ChatResponse.withMetadata, Dict.insert_insert]
    rw [delivered, isTerminal_delivered, if_pos hterminal, delivered, if_pos hterminal, hagain]
  · rw [delivered, isTerminal_delivered, if_neg hterminal]

namespace RetrievalAdvisor

/-- A fragment that carries a list of documents in its context. -/
def Carries (items : List Value) (fragment : AdvisedResponse) : Prop :=
  Dict.get? fragment.adviseContext documentsKey = some (.list items)

theorem after_of_carries {items : List Value} {fragment : AdvisedResponse}
    (h : Carries items fragment) : after fragment = .ok (marked (.list items) fragment) := by
  unfold after
  rw [h]
  rfl

/-- How a relay ends that has counted some fragments and may have seen a terminal one. -/
def ending (name : String) (fragments : Nat) (terminal : Bool) : Option Failure → Option Failure
  | some failure => some failure
  | none => if terminal then none else some (.streamUnfinished name fragments)

theorem ending_eq_none_iff (name : String) (fragments : Nat) (terminal : Bool) :
    ending name fragments terminal none = none ↔ terminal = true := by
  cases terminal <;> simp [ending]

theorem eq_of_ending_eq_some {name : String} {fragments : Nat} {terminal : Bool}
    {failure : Failure} (h : ending name fragments terminal none = some failure) :
    failure = .streamUnfinished name fragments := by
  cases terminal with
  | true => cases h
  | false =>
    obtain ⟨⟩ := h
    rfl

/-- Assumes: fragments that carry documents. A relay attaches these to the terminal ones and hands
on all others; it ends as the stream does, or fails if it has seen no terminal one. -/
theorem drain_relay (name : String) {items : List Value} (stream : Stream σ AdvisedResponse)
    (fragments : Nat) (terminal : Bool) (scene : Scene σ)
    (hcarries : ∀ fragment ∈ (stream.drain scene).fragments, Carries items fragment) :
    (relay name stream fragments terminal).drain scene =
      ⟨(stream.drain scene).fragments.map (delivered (.list items)),
        ending name (fragments + (stream.drain scene).fragments.length)
          (terminal || (stream.drain scene).fragments.any AdvisedResponse.isTerminal)
          (stream.drain scene).failure,
        (stream.drain scene).scene⟩ := by
  induction stream generalizing fragments terminal scene with
  | ended => cases terminal <;> rfl
  | failed failure lasting => rfl
  | doing change rest ih => exact ih scene fragments terminal (change scene) hcarries
  | giving fragment release rest ih =>
    have hrest : ∀ other ∈ (rest.drain scene).fragments, Carries items other :=
      fun other hmem ↦ hcarries other (List.mem_cons_of_mem fragment hmem)
    have hhead : Carries items fragment := hcarries fragment List.mem_cons_self
    have hcount : fragments + 1 + (rest.drain scene).fragments.length =
        fragments + (fragment :: (rest.drain scene).fragments).length := by
      rw [List.length_cons]
      omega
    rw [relay]
    split
    · rename_i hterminal
      rw [after_of_carries hhead]
      simp only [Stream.drain, ih (fragments + 1) true scene hrest, hcount, List.map_cons,
        List.any_cons, delivered, hterminal, if_true, Bool.true_or, Bool.or_true]
    · rename_i hterminal
      simp only [Stream.drain, ih (fragments + 1) terminal scene hrest, hcount, List.map_cons,
        List.any_cons, delivered, hterminal, Bool.false_or]
      rfl

/-- Assumes: a request side that succeeds, and behind it a stream whose fragments carry documents.
The advice on the stream gives what a relay of that stream does. -/
theorem drain_adviseStream (advisor : RetrievalAdvisor σ) {items : List Value}
    {request first : AdvisedRequest} {scene : Scene σ}
    {successor : Successor (Stream σ AdvisedResponse)} {given : Delivery σ AdvisedResponse}
    (hbefore : (advisor.before advisor.placement request).outcome scene = .ok first)
    (hgiven : (successor.next first).drain
      (sceneAfter (advisor.before advisor.placement request) scene) = given)
    (hcarries : ∀ fragment ∈ given.fragments, Carries items fragment) :
    (advisor.adviseStream request successor).drain scene =
      ⟨given.fragments.map (delivered (.list items)),
        ending advisor.name given.fragments.length
          (given.fragments.any AdvisedResponse.isTerminal) given.failure,
        given.scene⟩ := by
  subst hgiven
  unfold adviseStream
  rw [Stream.drain_ofAction, hbefore]
  show (relay advisor.name (successor.next first) 0 false).drain _ = _
  rw [drain_relay advisor.name _ 0 false _ hcarries, Nat.zero_add, Bool.false_or]

/-! ### Several relays -/

/-- The request sides of advisors, one after the other, where streams run them. -/
def requestSide : List (RetrievalAdvisor σ) → AdvisedRequest → Action σ AdvisedRequest
  | [], request => pure request
  | advisor :: rest, request => do
    let advised ← advisor.before advisor.placement request
    requestSide rest advised

/-- What a stream of a model gives for a request, every terminal fragment with its documents. -/
def delivering (items : List Value) (advised : AdvisedRequest) (fragment : ChatResponse) :
    AdvisedResponse :=
  delivered (.list items) (.ofRequest advised (some fragment))

theorem carries_delivering {items : List Value} {advised : AdvisedRequest}
    (h : Dict.get? advised.adviseContext documentsKey = some (.list items))
    (fragment : ChatResponse) : Carries items (delivering items advised fragment) := by
  unfold Carries delivering
  rw [adviseContext_delivered]
  exact h

theorem isTerminal_delivering (items : List Value) (advised : AdvisedRequest)
    (fragment : ChatResponse) :
    (delivering items advised fragment).isTerminal = fragment.isTerminal := by
  unfold delivering
  rw [isTerminal_delivered]
  rfl

/-- A relay around another one has no failure of its own. -/
theorem ending_ending (outer inner : String) (fragments : Nat) (terminal : Bool)
    (failure : Option Failure) :
    ending outer fragments terminal (ending inner fragments terminal failure) =
      ending inner fragments terminal failure := by
  cases failure with
  | some failure => rfl
  | none => cases terminal <;> rfl

/-- Assumes: a chain of advisors whose request sides succeed and leave documents in the context. The
stream of the chain gives what the model gives for the last request, terminal fragments with these
documents, and ends as the relay of the innermost advisor does. -/
theorem drain_stream (outer : List (RetrievalAdvisor σ)) (innermost : RetrievalAdvisor σ)
    {chain : AdvisorChain σ} {request advised : AdvisedRequest} {scene : Scene σ}
    {items : List Value}
    (hremaining : chain.remaining Advisor.stream =
      (outer ++ [innermost]).map RetrievalAdvisor.adviseStream)
    (hbefore : (requestSide (outer ++ [innermost]) request).outcome scene = .ok advised)
    (hitems : Dict.get? advised.adviseContext documentsKey = some (.list items))
    {asked : Delivery σ ChatResponse}
    (hasked : chain.model.drain advised.prompt
      (sceneAfter (requestSide (outer ++ [innermost]) request) scene) = asked) :
    (chain.stream request).drain scene =
      ⟨asked.fragments.map (delivering items advised),
        ending innermost.name asked.fragments.length
          (asked.fragments.any ChatResponse.isTerminal) asked.failure,
        asked.scene⟩ := by
  unfold AdvisorChain.stream
  induction outer generalizing chain request scene with
  | nil =>
    rw [List.nil_append] at hremaining hbefore hasked
    obtain ⟨first, hfirst, hlast⟩ := outcome_bind_eq_ok_iff.mp hbefore
    obtain rfl : first = advised := by simpa [requestSide] using hlast
    have hscene : sceneAfter (requestSide [innermost] request) scene =
        sceneAfter (innermost.before innermost.placement request) scene := by
      rw [requestSide, sceneAfter_bind_ok hfirst]
      rfl
    rw [hscene] at hasked
    have hmodel : (chain.successor.next Advisor.stream ChatModel.fragments first).drain
        (sceneAfter (innermost.before innermost.placement request) scene) =
          ⟨asked.fragments.map fun fragment ↦ .ofRequest first (some fragment), asked.failure,
            asked.scene⟩ := by
      rw [AdvisorChain.next_of_remaining_nil (AdvisorChain.remaining_successor hremaining),
        ChatModel.drain_fragments, AdvisorChain.successor_model, hasked]
    have hcarries : ∀ fragment ∈ asked.fragments.map fun fragment ↦
        AdvisedResponse.ofRequest first (some fragment), Carries items fragment := by
      intro fragment hmem
      obtain ⟨response, -, rfl⟩ := List.mem_map.mp hmem
      exact hitems
    rw [AdvisorChain.next_of_remaining_cons hremaining,
      drain_adviseStream innermost hfirst hmodel hcarries]
    simp only [List.map_map, List.length_map, List.any_map]
    rfl
  | cons advisor outer ih =>
    rw [List.cons_append] at hremaining hbefore hasked
    obtain ⟨first, hfirst, hrest⟩ := outcome_bind_eq_ok_iff.mp hbefore
    have hscene : sceneAfter (requestSide (advisor :: (outer ++ [innermost])) request) scene =
        sceneAfter (requestSide (outer ++ [innermost]) first)
          (sceneAfter (advisor.before advisor.placement request) scene) :=
      sceneAfter_bind_ok hfirst _
    rw [hscene] at hasked
    have hinner := ih (AdvisorChain.remaining_successor hremaining) hrest hasked
    have hcarries : ∀ fragment ∈ asked.fragments.map (delivering items advised),
        Carries items fragment := by
      intro fragment hmem
      obtain ⟨response, -, rfl⟩ := List.mem_map.mp hmem
      exact carries_delivering hitems response
    rw [AdvisorChain.next_of_remaining_cons hremaining,
      drain_adviseStream advisor hfirst hinner hcarries]
    have hmarked : delivered (.list items) ∘ delivering items advised =
        delivering items advised := by
      funext fragment
      exact delivered_delivered (.list items) _
    have hterminal : AdvisedResponse.isTerminal ∘ delivering items advised =
        ChatResponse.isTerminal := by
      funext fragment
      exact isTerminal_delivering items advised fragment
    simp only [List.map_map, List.length_map, List.any_map, hmarked, hterminal, ending_ending]

/-! ### The advisors that retrieve documents -/

/-- An advisor that leaves documents in the advise context when its request side succeeds. -/
def PutsDocuments (advisor : RetrievalAdvisor σ) : Prop :=
  ∀ placement request scene advised,
    (advisor.before placement request).outcome scene = .ok advised →
    ∃ documents, Dict.get? advised.adviseContext documentsKey = some (Document.listValue documents)

/-- Assumes: advisors that leave documents in the context, one at least, and request sides that
succeed. The last request has documents in its context. -/
theorem exists_documents (outer : List (RetrievalAdvisor σ)) (innermost : RetrievalAdvisor σ)
    (hputs : innermost.PutsDocuments) {request advised : AdvisedRequest} {scene : Scene σ}
    (hbefore : (requestSide (outer ++ [innermost]) request).outcome scene = .ok advised) :
    ∃ documents,
      Dict.get? advised.adviseContext documentsKey = some (Document.listValue documents) := by
  induction outer generalizing request scene with
  | nil =>
    obtain ⟨first, hfirst, hlast⟩ := outcome_bind_eq_ok_iff.mp hbefore
    obtain rfl : first = advised := by simpa [requestSide] using hlast
    exact hputs _ _ _ _ hfirst
  | cons advisor outer ih =>
    obtain ⟨first, -, hrest⟩ := outcome_bind_eq_ok_iff.mp hbefore
    exact ih hrest

end RetrievalAdvisor

theorem AugmentationAdvisor.before_puts (advisor : AugmentationAdvisor σ) :
    advisor.toRetrieval.PutsDocuments := by
  intro placement request scene advised hbefore
  obtain ⟨result, -, hlast⟩ := outcome_bind_eq_ok_iff.mp hbefore
  obtain ⟨⟩ := hlast
  refine ⟨result.documents, ?_⟩
  rw [Dict.get?_insert, if_pos rfl]

theorem QuestionAnswerAdvisor.before_puts (advisor : QuestionAnswerAdvisor σ) :
    advisor.toRetrieval.PutsDocuments := by
  intro placement request scene advised hbefore
  obtain ⟨search, -, hfound⟩ := outcome_bind_eq_ok_iff.mp hbefore
  obtain ⟨documents, -, hrendered⟩ := outcome_bind_eq_ok_iff.mp hfound
  obtain ⟨advice, -, hlast⟩ := outcome_bind_eq_ok_iff.mp hrendered
  obtain ⟨⟩ := hlast
  refine ⟨documents, ?_⟩
  rw [Dict.get?_insert, if_pos rfl]

/-- One of the advisors that retrieve documents. -/
inductive DocumentAdvisor (σ : Type)
  | augmentation (advisor : AugmentationAdvisor σ)
  | questionAnswer (advisor : QuestionAnswerAdvisor σ)

namespace DocumentAdvisor

/-- The advisor as one that retrieves documents. -/
def toRetrieval : DocumentAdvisor σ → RetrievalAdvisor σ
  | .augmentation advisor => advisor.toRetrieval
  | .questionAnswer advisor => advisor.toRetrieval

theorem before_puts (advisor : DocumentAdvisor σ) : advisor.toRetrieval.PutsDocuments := by
  cases advisor with
  | augmentation advisor => exact advisor.before_puts
  | questionAnswer advisor => exact advisor.before_puts

/-- Advisors in the order in which they act. -/
def inOrder (advisors : List (DocumentAdvisor σ)) : List (DocumentAdvisor σ) :=
  advisors.mergeSort fun a b ↦ decide (a.toRetrieval.order ≤ b.toRetrieval.order)

/-- The request sides of advisors, in the order in which they act. -/
def requestSide (advisors : List (DocumentAdvisor σ)) (request : AdvisedRequest) :
    Action σ AdvisedRequest :=
  RetrievalAdvisor.requestSide ((inOrder advisors).map toRetrieval) request

/-- The chain of advisors. -/
def chain (model : ChatModel σ) (advisors : List (DocumentAdvisor σ)) : AdvisorChain σ :=
  .ofAdvisors model (advisors.map fun advisor ↦ advisor.toRetrieval.toAdvisor)

theorem remaining_chain (model : ChatModel σ) (advisors : List (DocumentAdvisor σ)) :
    (chain model advisors).remaining Advisor.stream =
      ((inOrder advisors).map toRetrieval).map RetrievalAdvisor.adviseStream := by
  rw [List.map_map]
  exact AdvisorChain.remaining_ofAdvisors (fun _ ↦ rfl) (fun _ ↦ rfl) model advisors

/-- Assumes: at least one advisor. One of them acts last. -/
theorem exists_innermost {advisors : List (DocumentAdvisor σ)} (hadvisors : advisors ≠ []) :
    ∃ outer innermost, inOrder advisors = outer ++ [innermost] := by
  rcases List.eq_nil_or_concat' (inOrder advisors) with hnil | hconcat
  · have hlength : advisors.length = (inOrder advisors).length := (List.length_mergeSort _).symm
    rw [hnil] at hlength
    exact absurd (List.length_eq_zero_iff.mp hlength) hadvisors
  · exact hconcat

/-- A fragment of the model beside what is delivered of it: the same response, or, if it is a
terminal one, the same response with documents in its metadata. -/
structure Delivers (documents : List Document) (given : ChatResponse) (shown : AdvisedResponse) :
    Prop where
  unchanged : given.isTerminal = false → shown.response = some given
  attached : given.isTerminal = true → shown.response =
    some (given.withMetadata RetrievalAdvisor.documentsKey (Document.listValue documents))
  results_eq : shown.response.map ChatResponse.results = some given.results

theorem delivers_delivering (documents : List Document) (advised : AdvisedRequest)
    (given : ChatResponse) :
    Delivers documents given
      (RetrievalAdvisor.delivering (documents.map Document.toValue) advised given) := by
  have hresponse : (AdvisedResponse.ofRequest advised (some given)).isTerminal =
      given.isTerminal := rfl
  unfold RetrievalAdvisor.delivering delivered
  rw [hresponse]
  by_cases hterminal : given.isTerminal = true
  · rw [if_pos hterminal]
    refine ⟨fun hfalse ↦ ?_, fun _ ↦ rfl, rfl⟩
    cases hterminal.symm.trans hfalse
  · rw [if_neg hterminal]
    exact ⟨fun _ ↦ rfl, fun htrue ↦ absurd htrue hterminal, rfl⟩

/-- Assumes: at least one advisor, and request sides that succeed. The chain delivers all fragments
of the model and no others, in their order, of which only the terminal ones are changed. Then it
fails with the failure of the model, if there is one; otherwise it fails exactly if no fragment was
terminal, and the failure counts the fragments and names the innermost advisor. -/
theorem stream_delivers (model : ChatModel σ) (advisors : List (DocumentAdvisor σ))
    (request advised : AdvisedRequest) (scene : Scene σ) (hadvisors : advisors ≠ [])
    (hbefore : (requestSide advisors request).outcome scene = .ok advised) :
    ∃ asked delivery innermost documents,
      asked = model.drain advised.prompt (sceneAfter (requestSide advisors request) scene) ∧
      delivery = ((chain model advisors).stream request).drain scene ∧
      (inOrder advisors).getLast? = some innermost ∧
      Dict.get? advised.adviseContext RetrievalAdvisor.documentsKey =
        some (Document.listValue documents) ∧
      List.Forall₂ (Delivers documents) asked.fragments delivery.fragments ∧
      (∀ failure, asked.failure = some failure → delivery.failure = some failure) ∧
      (asked.failure = none →
        (delivery.failure = none ↔ ∃ fragment ∈ asked.fragments, fragment.isTerminal = true) ∧
        ∀ failure, delivery.failure = some failure →
          failure.kind = .reported .streamIntegrity ∧
          failure.fragments = delivery.fragments.length ∧
          failure.message = innermost.toRetrieval.name ++ ": stream ended after " ++
            toString delivery.fragments.length ++ " fragments without a finish reason") ∧
      delivery.scene = asked.scene := by
  obtain ⟨outer, innermost, hsplit⟩ := exists_innermost hadvisors
  have hmap : (inOrder advisors).map toRetrieval =
      outer.map toRetrieval ++ [innermost.toRetrieval] := by
    rw [hsplit, List.map_append]
    rfl
  unfold requestSide at hbefore ⊢
  have hremaining := remaining_chain model advisors
  rw [hmap] at hremaining hbefore ⊢
  obtain ⟨documents, hdocuments⟩ := RetrievalAdvisor.exists_documents _ _
    innermost.before_puts hbefore
  refine ⟨_, _, innermost, documents, rfl, rfl, by simp [hsplit], hdocuments, ?_⟩
  generalize hasked : model.drain advised.prompt _ = asked
  rw [RetrievalAdvisor.drain_stream _ _ hremaining hbefore hdocuments hasked]
  refine ⟨?_, ?_, ?_, rfl⟩
  · refine List.forall₂_map_right_iff.mpr (List.forall₂_same.mpr fun given _ ↦ ?_)
    exact delivers_delivering documents advised given
  · intro failure hfailure
    simp only [hfailure, RetrievalAdvisor.ending]
  · intro hended
    simp only [hended, List.length_map]
    constructor
    · rw [RetrievalAdvisor.ending_eq_none_iff, List.any_eq_true]
    · intro failure hfailure
      obtain rfl := RetrievalAdvisor.eq_of_ending_eq_some hfailure
      exact ⟨rfl, rfl, rfl⟩

/-- An advisor that finds nothing and says nothing. -/
def silent : DocumentAdvisor Unit :=
  .questionAnswer {
    store := fun _ ↦ pure (some [])
    renderer := { placeholders := none, render := fun _ _ ↦ pure "" } }

/-- A model whose stream is one fragment without a finish reason. -/
def unfinished : ChatModel Unit where
  call _ := pure {}
  stream _ := pure (.giving {} none (.ended none))

/-- Two advisors around a stream that breaks off: its fragment is delivered, and one of them
fails. -/
theorem stream_delivers_unfinished :
    ∃ delivery, delivery =
        ((chain unfinished [silent, silent]).stream (.ofText "Why?" [])).drain ⟨(), []⟩ ∧
      delivery.fragments.length = 1 ∧ delivery.failure ≠ none := by
  have horder : inOrder [silent, silent] = [silent, silent] := by
    refine List.mergeSort_of_pairwise ?_
    simp
  have hbefore : ∃ advised,
      (requestSide [silent, silent] (.ofText "Why?" [])).outcome ⟨(), []⟩ = .ok advised := by
    unfold requestSide
    rw [horder]
    exact ⟨_, rfl⟩
  obtain ⟨advised, hadvised⟩ := hbefore
  obtain ⟨asked, delivery, _, _, hasked, hdelivery, -, -, hfragments, -, hended, -⟩ :=
    stream_delivers unfinished [silent, silent] (.ofText "Why?" []) advised ⟨(), []⟩
      (List.cons_ne_nil _ _) hadvised
  have hfragment : asked.fragments = [{}] := by
    rw [hasked]
    rfl
  have hfailure : asked.failure = none := by
    rw [hasked]
    rfl
  refine ⟨delivery, hdelivery, ?_, ?_⟩
  · rw [← hfragments.length_eq, hfragment]
    rfl
  · intro hnone
    obtain ⟨fragment, hmem, hterminal⟩ := (hended hfailure).1.mp hnone
    rw [hfragment] at hmem
    obtain rfl := List.mem_singleton.mp hmem
    cases hterminal

end DocumentAdvisor

end Grounding
