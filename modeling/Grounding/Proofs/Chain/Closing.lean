import Grounding.Proofs.Chain.Agreement
import Grounding.Proofs.Chain.Sources

/-!
# Closing a chain of streams

The stream of a chain is a stack: the stream of every advisor takes its fragments from the one
behind it, and behind the last one the chain hands on those of the model. A consumer may stop
anywhere, and every stream that has been opened has to be closed.

`StreamEvent` are the events in such a stack, and the stream of `RetrievalAdvisor.watchedStream`
notes them: the streams of the advisors and of the chain are watched, and the source that the model
gives is observed. This changes nothing of what is delivered (`stream_simulates`). An advisor
releases the stream behind it wherever it stops itself (`takeSome_relay`), so that the events are
those of a stack (`around`): a stream is opened before those behind it and closed after them
(`record_takeSome`, by induction over the advisors).

`stream_closes`: a consumer that takes some fragments and stops has caused these events, with as
many steps of the model as fragments; one that takes none has caused nothing. However much is taken,
and wherever something fails, all streams that were opened are closed, and so is the source of the
model.

A consumer that stops sees no failure but two: the source may fail to be closed, and what it fails
with comes through all streams; and a response side may fail, unless the advisors leave documents in
the context. And a source that cannot be closed is not. `stream_closes_failing` shows all of this.
-/

set_option autoImplicit false
set_option relaxedAutoImplicit false

namespace Grounding

open Grounding.Action
open Grounding.Stream (sceneAfter)

variable {σ α : Type}

/-! ### Events -/

/-- An event in a stack of streams. The places in it are the advisors, and none for the chain behind
the last one. -/
inductive StreamEvent (σ : Type)
  | opened (place : Option (RetrievalAdvisor σ))
  /-- The request side of an advisor is run. -/
  | advised (advisor : RetrievalAdvisor σ)
  /-- The model is asked for a source of fragments. -/
  | asked (prompt : Prompt)
  /-- The source is asked for a further fragment. -/
  | advanced
  /-- The source is closed, which may fail. -/
  | released (failure : Option Failure)
  | closed (place : Option (RetrievalAdvisor σ))

namespace ChatModel

/-- The model with its events. -/
def watched (model : ChatModel σ) : ChatModel (Recorded σ (StreamEvent σ)) where
  call prompt := (model.call prompt).unrecorded
  stream prompt := do
    let source ← (model.stream prompt).logging fun _ _ ↦ [.asked prompt]
    return source.observed .advanced .released

/-- The stream in which a chain hands on what a model gives, with its events. -/
def watchedFragments (model : ChatModel (Recorded σ (StreamEvent σ))) (request : AdvisedRequest) :
    Stream (Recorded σ (StreamEvent σ)) AdvisedResponse :=
  (model.fragments request).watched (.opened none) (.closed none)

/-- What happens behind the last advisor when the source is asked for a number of fragments and may
be closed. -/
def events (prompt : Prompt) (advances : Nat) (closing : Option (Option Failure)) :
    List (StreamEvent σ) :=
  [.opened none, .asked prompt] ++ List.replicate advances .advanced ++
    closing.toList.map .released ++ [.closed none]

/-- How many steps a model may make of which one fragment and some more are taken, and what comes of
closing its source. It may also refuse to give one. -/
inductive Serves (model : ChatModel σ) (prompt : Prompt) (found : Scene σ) (more : Nat) :
    Nat → Option (Option Failure) → Prop
  | refused {failure : Failure} (h : (model.stream prompt).outcome found = .error failure) :
    Serves model prompt found more 0 none
  | served {source : Source σ ChatResponse}
    (h : (model.stream prompt).outcome found = .ok source) {advances : Nat}
    (hadvances : advances ≤ more) :
    Serves model prompt found more (advances + 1)
      (source.closedAfter more (sceneAfter (model.stream prompt) found))

theorem Serves.advances_le {model : ChatModel σ} {prompt : Prompt} {found : Scene σ}
    {more advances : Nat} {closing : Option (Option Failure)}
    (h : model.Serves prompt found more advances closing) : advances ≤ more + 1 := by
  cases h with
  | refused h => exact Nat.zero_le _
  | served h hadvances => exact Nat.succ_le_succ hadvances

end ChatModel

namespace RetrievalAdvisor

/-- The advisor with an event for its request side. -/
def noted (advisor : RetrievalAdvisor σ) : RetrievalAdvisor (Recorded σ (StreamEvent σ)) where
  name := advisor.name
  literal := advisor.literal
  order := advisor.order
  protectFromBlocking := advisor.protectFromBlocking
  before placement request :=
    (advisor.before placement request).logging fun _ _ ↦ [.advised advisor]

theorem before_noted (advisor : RetrievalAdvisor σ) (placement : Placement)
    (request : AdvisedRequest) :
    advisor.noted.before placement request =
      (advisor.before placement request).logging fun _ _ ↦ [.advised advisor] := rfl

/-- The advice of an advisor on a stream with its events. -/
def watchedAdvice (advisor : RetrievalAdvisor σ) :
    Advice (Stream (Recorded σ (StreamEvent σ)) AdvisedResponse) :=
  fun request successor ↦
    (advisor.noted.adviseStream request successor).watched (.opened advisor) (.closed advisor)

/-- The advisor with its events, as a chain sees it. -/
def watched (advisor : RetrievalAdvisor σ) : Advisor (Recorded σ (StreamEvent σ)) :=
  { advisor.noted.toAdvisor with stream := some advisor.watchedAdvice }

/-- The chain of advisors with their events and those of the model. -/
def watchedChain (model : ChatModel σ) (advisors : List (RetrievalAdvisor σ)) :
    AdvisorChain (Recorded σ (StreamEvent σ)) :=
  .ofAdvisors model.watched (advisors.map watched)

/-- The stream of this chain, with the events of its last part, which belongs to the chain. -/
def watchedStream (model : ChatModel σ) (advisors : List (RetrievalAdvisor σ)) :
    AdvisedRequest → Stream (Recorded σ (StreamEvent σ)) AdvisedResponse :=
  (watchedChain model advisors).next Advisor.stream ChatModel.watchedFragments

/-- The events around those behind some advisors: their streams are opened from the outermost to the
innermost one, each running its request side, and closed in the opposite order. -/
def around (advisors : List (RetrievalAdvisor σ)) (inner : List (StreamEvent σ)) :
    List (StreamEvent σ) :=
  advisors.flatMap (fun advisor ↦ [.opened advisor, .advised advisor]) ++ inner ++
    advisors.reverse.map fun advisor ↦ .closed advisor

theorem around_cons (advisor : RetrievalAdvisor σ) (rest : List (RetrievalAdvisor σ))
    (inner : List (StreamEvent σ)) :
    around (advisor :: rest) inner =
      [.opened advisor] ++ ([.advised advisor] ++ (around rest inner ++ [.closed advisor])) := by
  simp [around]

theorem remaining_watchedChain (model : ChatModel σ) (advisors : List (RetrievalAdvisor σ)) :
    (watchedChain model advisors).remaining Advisor.stream =
      (inOrder advisors).map watchedAdvice :=
  AdvisorChain.remaining_ofAdvisors (fun _ ↦ rfl) (fun _ ↦ rfl) model.watched advisors

/-! ### Watching changes nothing -/

/-- What a model with events gives is the stream of a source that is observed. -/
theorem fragments_watched (model : ChatModel σ) (request : AdvisedRequest) :
    model.watched.fragments request =
      .ofAction ((model.stream request.prompt).logging fun _ _ ↦ [.asked request.prompt])
        fun source ↦ (source.observed .advanced .released).toStream.map fun response ↦
          .ofRequest request (some response) :=
  Stream.ofAction_map _ _ _

theorem watchedFragments_simulates (model : ChatModel σ) (request : AdvisedRequest) :
    Stream.Simulates Forgets (model.watched.watchedFragments request)
      (model.fragments request) := by
  refine Stream.watched_simulates _ _ ?_
  rw [fragments_watched]
  refine Stream.ofAction_simulates simulates_logging fun source ↦ ?_
  exact Stream.map_simulates (source.toStream_observed_simulates _ _) _

/-- Assumes: two chains of the same advisors remaining, one of them with events. Their streams
deliver the same. -/
theorem stream_simulates (model : ChatModel σ) {advisors : List (RetrievalAdvisor σ)}
    {first : AdvisorChain (Recorded σ (StreamEvent σ))} {second : AdvisorChain σ}
    (hfirst : first.model = model.watched) (hsecond : second.model = model)
    (hwatched : first.remaining Advisor.stream = advisors.map watchedAdvice)
    (hplain : second.remaining Advisor.stream = advisors.map adviseStream)
    (request : AdvisedRequest) :
    Stream.Simulates Forgets (first.next Advisor.stream ChatModel.watchedFragments request)
      (second.stream request) := by
  unfold AdvisorChain.stream
  induction advisors generalizing first second request with
  | nil =>
    rw [AdvisorChain.next_of_remaining_nil hwatched, AdvisorChain.next_of_remaining_nil hplain,
      hfirst, hsecond]
    exact watchedFragments_simulates model request
  | cons advisor rest ih =>
    rw [AdvisorChain.next_of_remaining_cons hwatched, AdvisorChain.next_of_remaining_cons hplain]
    have hbefore : Action.Simulates Forgets (advisor.noted.before advisor.placement request)
        (advisor.before advisor.placement request) := by
      rw [before_noted]
      exact simulates_logging
    refine Stream.watched_simulates _ _ (Stream.ofAction_simulates hbefore fun advised ↦ ?_)
    have hbehind : first.successor.model = model.watched := hfirst
    have hother : second.successor.model = model := hsecond
    refine relay_simulates advisor.name ?_ 0 false
    exact ih hbehind hother (AdvisorChain.remaining_successor hwatched)
      (AdvisorChain.remaining_successor hplain) advised

/-! ### Releasing a relay -/

/-- What is left of a stream that has been taken in part: as a relay of it is concerned, the scene
that it leaves, and, if it gave as many fragments as were taken, its failure. -/
structure RelaysTo (relayed given : Nat → Delivery σ AdvisedResponse) (more taken : Nat) :
    Prop where
  taken_le : taken ≤ more
  scene_eq : (relayed more).scene = (given taken).scene
  full : (relayed more).fragments.length = more + 1 → taken = more ∧
    (given more).fragments.length = more + 1 ∧
      (relayed more).failure = (given more).failure.map Failure.leaving

/-- A relay of which some fragments are taken leaves the scene that its stream leaves when as many
are taken, or fewer. If it gives as many as are taken, so does its stream, and it fails as this does
when it is released. -/
theorem takeSome_relay (name : String) (stream : Stream σ AdvisedResponse) (fragments : Nat)
    (terminal : Bool) (more : Nat) (scene : Scene σ) :
    ∃ taken, RelaysTo (fun more ↦ (relay name stream fragments terminal).takeSome more scene)
      (fun more ↦ stream.takeSome more scene) more taken := by
  induction stream generalizing fragments terminal more scene with
  | ended =>
    cases terminal <;>
      exact ⟨more, Nat.le_refl more, rfl, fun h ↦ absurd h (Nat.succ_ne_zero more).symm⟩
  | failed failure lasting =>
    exact ⟨more, Nat.le_refl more, rfl, fun h ↦ absurd h (Nat.succ_ne_zero more).symm⟩
  | doing change rest ih => exact ih scene fragments terminal more (change scene)
  | giving fragment release rest ih =>
    have hgiving : ∀ (shown : AdvisedResponse) (seen : Bool), ∃ taken,
        RelaysTo (fun more ↦ (Stream.giving shown release.withinStream
            (relay name rest (fragments + 1) seen)).takeSome more scene)
          (fun more ↦ (Stream.giving fragment release rest).takeSome more scene) more taken := by
      intro shown seen
      cases more with
      | zero =>
        refine ⟨0, Nat.le_refl 0, sceneAfter_withinStream release scene, fun _ ↦ ?_⟩
        exact ⟨rfl, rfl, failure?_withinStream release scene⟩
      | succ more =>
        obtain ⟨taken, hle, hscene, hfull⟩ := ih (fragments + 1) seen more scene
        refine ⟨taken + 1, Nat.succ_le_succ hle, hscene, fun hmore ↦ ?_⟩
        obtain ⟨htaken, hinner, hfailure⟩ := hfull (Nat.succ.inj hmore)
        exact ⟨congrArg (· + 1) htaken, congrArg (· + 1) hinner, hfailure⟩
    rw [relay]
    split
    · cases after fragment with
      | ok shown => exact hgiving shown true
      | error failure =>
        refine ⟨0, Nat.zero_le more, ?_, fun hmore ↦ ?_⟩
        · show ((Stream.ofAction release fun _ ↦ .raising failure).takeSome more scene).scene = _
          rw [Stream.takeSome_ofAction]
          cases release.outcome scene <;> rfl
        · have hnone : ((Stream.ofAction release fun _ ↦ (.raising failure :
              Stream σ AdvisedResponse)).takeSome more scene).fragments = [] := by
            rw [Stream.takeSome_ofAction]
            cases release.outcome scene <;> rfl
          exact absurd (hmore.symm.trans (congrArg List.length hnone)) (Nat.succ_ne_zero more)
    · exact hgiving fragment terminal

/-! ### The events of a stack -/

/-- What is taken from the stream behind some advisors leaves, after what has been recorded before,
the events around those of the model, which has served it. If it gave as many fragments as were
taken, then it fails as the source fails to be closed. -/
def Leaves (model : ChatModel σ) (advisors : List (RetrievalAdvisor σ)) (prompt : Prompt)
    (found : Scene σ) (more : Nat)
    (delivery : Delivery (Recorded σ (StreamEvent σ)) AdvisedResponse)
    (before : List (StreamEvent σ)) : Prop :=
  ∃ taken ≤ more, ∃ advances closing, model.Serves prompt found taken advances closing ∧
    delivery.scene.record =
      before ++ around advisors (ChatModel.events prompt advances closing) ∧
    (delivery.fragments.length = more + 1 → taken = more ∧ advances = more + 1 ∧
      delivery.failure = closing.join.map Failure.leaving)

theorem leaves_fragments (model : ChatModel σ) (request : AdvisedRequest) (more : Nat)
    (scene : Scene (Recorded σ (StreamEvent σ))) :
    Leaves model [] request.prompt scene.plain more
      ((model.watched.watchedFragments request).takeSome more scene) scene.record := by
  refine ⟨more, Nat.le_refl more, ?_⟩
  rw [ChatModel.watchedFragments, Stream.takeSome_watched, fragments_watched,
    Stream.takeSome_ofAction, outcome_logging, sceneAfter_logging, Scene.plain_noting,
    Scene.record_noting]
  generalize hopened : sceneAfter (model.stream request.prompt) scene.plain = opened
  cases hsource : (model.stream request.prompt).outcome scene.plain with
  | error failure =>
    refine ⟨0, none, .refused hsource, ?_, fun h ↦ absurd h (Nat.succ_ne_zero more).symm⟩
    simp [ChatModel.events, around]
  | ok source =>
    obtain ⟨advances, hle, hrecord, hfull⟩ := Source.record_observed .advanced .released source more
      (opened.withRecord (scene.record ++ [.opened none] ++ [.asked request.prompt]))
    have hserved := ChatModel.Serves.served hsource hle
    rw [hopened] at hserved
    refine ⟨advances + 1, _, hserved, ?_, fun hlength ↦ ?_⟩
    · simp only [Stream.takeSome_map, Scene.record_noting]
      rw [hrecord]
      simp [ChatModel.events, around]
    · simp only [Stream.takeSome_map, List.length_map] at hlength
      obtain ⟨rfl, hfailure⟩ := hfull hlength
      refine ⟨rfl, rfl, ?_⟩
      simp only [Stream.takeSome_map]
      exact hfailure

/-- Assumes: a chain with events, of which some advisors remain. What is taken from its stream
leaves the events around those of the model, or around nothing if a request side fails. -/
theorem record_takeSome (model : ChatModel σ) {advisors : List (RetrievalAdvisor σ)}
    {chain : AdvisorChain (Recorded σ (StreamEvent σ))} (hmodel : chain.model = model.watched)
    (hremaining : chain.remaining Advisor.stream = advisors.map watchedAdvice)
    (request : AdvisedRequest) (more : Nat) (scene : Scene (Recorded σ (StreamEvent σ))) :
    match (requestSide advisors request).outcome scene.plain with
    | .ok advised =>
      Leaves model advisors advised.prompt
        (sceneAfter (requestSide advisors request) scene.plain) more
        ((chain.next Advisor.stream ChatModel.watchedFragments request).takeSome more scene)
        scene.record
    | .error _ => ∃ outer innermost rest, advisors = outer ++ innermost :: rest ∧
      ((chain.next Advisor.stream ChatModel.watchedFragments request).takeSome more
        scene).scene.record = scene.record ++ around (outer ++ [innermost]) [] := by
  induction advisors generalizing chain request more scene with
  | nil =>
    rw [AdvisorChain.next_of_remaining_nil hremaining, hmodel]
    exact leaves_fragments model request more scene
  | cons advisor rest ih =>
    have hstream : chain.next Advisor.stream ChatModel.watchedFragments request =
        Stream.watched (.opened advisor) (.closed advisor)
          (.ofAction (advisor.noted.before advisor.placement request) fun advised ↦
            relay advisor.name
              (chain.successor.next Advisor.stream ChatModel.watchedFragments advised) 0 false) :=
      AdvisorChain.next_of_remaining_cons hremaining request
    have houtcome : (advisor.noted.before advisor.placement request).outcome
        (scene.noting (.opened advisor)) =
          (advisor.before advisor.placement request).outcome scene.plain := by
      rw [before_noted, outcome_logging, Scene.plain_noting]
    have hafter : sceneAfter (advisor.noted.before advisor.placement request)
        (scene.noting (.opened advisor)) =
          (sceneAfter (advisor.before advisor.placement request) scene.plain).withRecord
            (scene.record ++ [.opened advisor] ++ [.advised advisor]) := by
      rw [before_noted, sceneAfter_logging, Scene.plain_noting, Scene.record_noting]
    rw [hstream, Stream.takeSome_watched, Stream.takeSome_ofAction, houtcome, hafter, requestSide,
      outcome_bind, sceneAfter_bind]
    generalize sceneAfter (advisor.before advisor.placement request) scene.plain = left
    cases (advisor.before advisor.placement request).outcome scene.plain with
    | error failure =>
      refine ⟨[], advisor, rest, rfl, ?_⟩
      simp [around]
    | ok first =>
      obtain ⟨taken, hle, hscene, hfull⟩ := takeSome_relay advisor.name
        (chain.successor.next Advisor.stream ChatModel.watchedFragments first) 0 false more
        (left.withRecord (scene.record ++ [.opened advisor] ++ [.advised advisor]))
      have hsuccessor : chain.successor.model = model.watched := hmodel
      have hinner := ih hsuccessor (AdvisorChain.remaining_successor hremaining) first taken
        (left.withRecord (scene.record ++ [.opened advisor] ++ [.advised advisor]))
      rw [Scene.plain_withRecord, Scene.record_withRecord] at hinner
      simp only
      cases hrest : (requestSide rest first).outcome left with
      | error failure =>
        rw [hrest] at hinner
        obtain ⟨outer, innermost, others, rfl, hrecord⟩ := hinner
        refine ⟨advisor :: outer, innermost, others, rfl, ?_⟩
        rw [Scene.record_noting, hscene, hrecord, List.cons_append, around_cons]
        simp only [List.append_assoc]
      | ok advised =>
        rw [hrest] at hinner
        obtain ⟨served, hserved, advances, closing, hserves, hrecord, hadvanced⟩ := hinner
        refine ⟨served, Nat.le_trans hserved hle, advances, closing, hserves, ?_, fun hmore ↦ ?_⟩
        · rw [Scene.record_noting, hscene, hrecord, around_cons]
          simp only [List.append_assoc]
        · obtain ⟨rfl, hfragments, hfailure⟩ := hfull hmore
          obtain ⟨rfl, hadvances, hclosing⟩ := hadvanced hfragments
          refine ⟨rfl, hadvances, hfailure.trans ?_⟩
          rw [hclosing, Option.map_map, Failure.leaving_comp_leaving]

/-! ### Fragments that are handed on -/

/-- A stream from a scene has more than a number of fragments, and up to there the response side
succeeds on the terminal ones. -/
structure Promises (stream : Stream σ AdvisedResponse) (more : Nat) (scene : Scene σ) : Prop where
  lasts : more < (stream.drain scene).fragments.length
  settles : ∀ fragment ∈ (stream.drain scene).fragments.take (more + 1),
    fragment.isTerminal = true → ∃ shown, after fragment = .ok shown

/-- A relay keeps what its stream promises. -/
theorem Promises.relay {stream : Stream σ AdvisedResponse} {more : Nat} {scene : Scene σ}
    (h : Promises stream more scene) (name : String) (fragments : Nat) (terminal : Bool) :
    Promises (RetrievalAdvisor.relay name stream fragments terminal) more scene := by
  induction stream generalizing fragments terminal more scene with
  | ended => exact absurd h.lasts (Nat.not_lt_zero more)
  | failed failure lasting => exact absurd h.lasts (Nat.not_lt_zero more)
  | doing change rest ih =>
    obtain ⟨hlasts, hsettles⟩ := ih scene ⟨h.lasts, h.settles⟩ fragments terminal
    exact ⟨hlasts, hsettles⟩
  | giving fragment release rest ih =>
    have hgiving : ∀ (shown : AdvisedResponse) (seen : Bool),
        (shown.isTerminal = true → ∃ final, after shown = .ok final) →
        Promises (.giving shown release.withinStream
          (RetrievalAdvisor.relay name rest (fragments + 1) seen)) more scene := by
      intro shown seen hshown
      cases more with
      | zero => exact ⟨Nat.succ_pos _, List.forall_mem_singleton.mpr hshown⟩
      | succ more =>
        have hrest : Promises rest more scene :=
          ⟨Nat.lt_of_succ_lt_succ h.lasts, fun other hmem ↦
            h.settles other (List.mem_cons_of_mem fragment hmem)⟩
        obtain ⟨hlasts, hsettles⟩ := ih hrest (fragments + 1) seen
        exact ⟨Nat.succ_lt_succ hlasts, List.forall_mem_cons.mpr ⟨hshown, hsettles⟩⟩
    have hhead := h.settles fragment List.mem_cons_self
    rw [RetrievalAdvisor.relay]
    split
    · rename_i hterminal
      obtain ⟨shown, hshown⟩ := hhead hterminal
      rw [hshown]
      exact hgiving shown true fun _ ↦ ⟨shown, after_after hshown⟩
    · exact hgiving fragment terminal hhead

theorem Promises.relays {stream : Stream σ AdvisedResponse} {more : Nat} {scene : Scene σ}
    (h : Promises stream more scene) (advisors : List (RetrievalAdvisor σ)) :
    Promises (RetrievalAdvisor.relays advisors stream) more scene := by
  induction advisors with
  | nil => exact h
  | cons advisor rest ih => exact ih.relay advisor.name 0 false

/-- Assumes: request sides that succeed, more than a number of fragments of the model, and response
sides that succeed on the terminal ones up to there. The stream of the chain has as many
fragments. -/
theorem lt_length_drain {model : ChatModel σ} {advisors : List (RetrievalAdvisor σ)}
    {request advised : AdvisedRequest} {scene : Scene σ} {asked : Delivery σ ChatResponse}
    {more : Nat} (hadvised : (requestSide (inOrder advisors) request).outcome scene = .ok advised)
    (hasked : asked = model.drain advised.prompt
      (sceneAfter (requestSide (inOrder advisors) request) scene))
    (hmore : more < asked.fragments.length)
    (hanswers : ∀ given ∈ asked.fragments.take (more + 1), given.isTerminal = true →
      ∃ response, responseSide (inOrder advisors) (.ofRequest advised (some given)) =
        .ok response) :
    more < (((chain model advisors).stream request).drain scene).fragments.length := by
  subst hasked
  have hdrain := model.drain_fragments advised
    (sceneAfter (requestSide (inOrder advisors) request) scene)
  have hlasts : more < ((model.fragments advised).drain
      (sceneAfter (requestSide (inOrder advisors) request) scene)).fragments.length := by
    rw [hdrain]
    simpa using hmore
  rw [stream_eq (remaining_stream model advisors), drain_entering, hadvised]
  show more < ((relays (inOrder advisors) (model.fragments advised)).drain _).fragments.length
  by_cases hnone : inOrder advisors = []
  · rw [hnone] at hlasts ⊢
    exact hlasts
  · have hpromises : Promises (model.fragments advised) more
        (sceneAfter (requestSide (inOrder advisors) request) scene) := by
      refine ⟨hlasts, ?_⟩
      rw [hdrain, ← List.map_take]
      refine List.forall_mem_map.mpr fun given hmem hterminal ↦ ?_
      rw [← responseSide_eq_after hnone]
      exact hanswers given hmem hterminal
    exact (hpromises.relays (inOrder advisors)).lasts

/-! ### Consumers -/

/-- A consumer causes events: what it gets of a chain with events is what it gets of the chain
without them, and these events are left in the record. -/
def Causes (model : ChatModel σ) (advisors : List (RetrievalAdvisor σ))
    (request : AdvisedRequest) (scene : Scene σ) (count : Option Nat)
    (events : List (StreamEvent σ)) : Prop :=
  (watchedStream model advisors request).consume count (scene.withRecord []) =
    (((chain model advisors).stream request).consume count scene).withRecord events

/-- Watching changes nothing, so that what is left in the record has been caused. -/
theorem causes_of_record {model : ChatModel σ} {advisors : List (RetrievalAdvisor σ)}
    {request : AdvisedRequest} {scene : Scene σ} {count : Option Nat}
    {events : List (StreamEvent σ)}
    (h : ((watchedStream model advisors request).consume count
      (scene.withRecord [])).scene.record = events) :
    Causes model advisors request scene count events := by
  have hsimulates := stream_simulates model rfl rfl
    (remaining_watchedChain model advisors) (remaining_stream model advisors) request
  subst h
  exact Stream.consume_of_simulates hsimulates count scene []

section Causes

variable (model : ChatModel σ) (advisors : List (RetrievalAdvisor σ)) (request : AdvisedRequest)
  (scene : Scene σ)

/-- Assumes: a consumer that takes something. It causes the events of a stack, with no more steps of
the model than it takes fragments; if it gets them all, there are as many, and it fails as the
source of the model fails to be closed. If a request side fails, the stack ends with its advisor and
the model is not asked. -/
theorem exists_causes {count : Option Nat} (hcount : count ≠ some 0) :
    match (requestSide (inOrder advisors) request).outcome scene with
    | .ok advised => ∃ taken advances closing,
      model.Serves advised.prompt (sceneAfter (requestSide (inOrder advisors) request) scene)
        taken advances closing ∧
      Causes model advisors request scene count
        (around (inOrder advisors) (ChatModel.events advised.prompt advances closing)) ∧
      ∀ limit, count = some limit → taken < limit ∧
        ((((chain model advisors).stream request).consume count scene).fragments.length = limit →
          taken + 1 = limit ∧ advances = limit ∧
            (((chain model advisors).stream request).consume count scene).failure =
              closing.join.map Failure.leaving)
    | .error _ => ∃ outer innermost rest, inOrder advisors = outer ++ innermost :: rest ∧
      Causes model advisors request scene count (around (outer ++ [innermost]) []) := by
  obtain ⟨more, hlimit, hconsume⟩ := Stream.exists_consume_eq_takeSome hcount
    ((watchedChain model advisors).next Advisor.stream ChatModel.watchedFragments request)
    (scene.withRecord [])
  have hrecord := record_takeSome model rfl (remaining_watchedChain model advisors)
    request more (scene.withRecord [])
  rw [Scene.plain_withRecord, Scene.record_withRecord] at hrecord
  rw [← hconsume] at hrecord
  cases hadvised : (requestSide (inOrder advisors) request).outcome scene with
  | error failure =>
    rw [hadvised] at hrecord
    obtain ⟨outer, innermost, rest, hsplit, hrecord⟩ := hrecord
    exact ⟨outer, innermost, rest, hsplit, causes_of_record hrecord⟩
  | ok advised =>
    rw [hadvised] at hrecord
    obtain ⟨taken, htaken, advances, closing, hserves, hrecord, hfull⟩ := hrecord
    have hcauses : Causes model advisors request scene count _ := causes_of_record hrecord
    refine ⟨taken, advances, closing, hserves, hcauses, fun limit hcounted ↦ ?_⟩
    obtain rfl := hlimit limit hcounted
    refine ⟨Nat.lt_succ_of_le htaken, fun hlength ↦ ?_⟩
    have hsame : ((watchedStream model advisors request).consume count
        (scene.withRecord [])).failure =
          (((chain model advisors).stream request).consume count scene).failure :=
      congrArg Delivery.failure hcauses
    obtain ⟨rfl, hadvances, hfailure⟩ :=
      hfull ((congrArg (fun delivery ↦ delivery.fragments.length) hcauses).trans hlength)
    exact ⟨rfl, hadvances, hsame.symm.trans hfailure⟩

/-- Assumes: a consumer that gets as many fragments as it takes, and a source of the model. It has
caused as many steps of the source, and fails as the source fails to be closed behind the last
one. -/
theorem causes_of_full {advised : AdvisedRequest} {source : Source σ ChatResponse}
    {found opened : Scene σ} {more : Nat}
    (hadvised : (requestSide (inOrder advisors) request).outcome scene = .ok advised)
    (hfound : found = sceneAfter (requestSide (inOrder advisors) request) scene)
    (hsource : (model.stream advised.prompt).outcome found = .ok source)
    (hopened : opened = sceneAfter (model.stream advised.prompt) found)
    (hlength : (((chain model advisors).stream request).consume (some (more + 1))
      scene).fragments.length = more + 1) :
    Causes model advisors request scene (some (more + 1)) (around (inOrder advisors)
        (ChatModel.events advised.prompt (more + 1) (source.closedAfter more opened))) ∧
      (((chain model advisors).stream request).consume (some (more + 1)) scene).failure =
        (source.closedAfter more opened).join.map Failure.leaving := by
  subst hfound hopened
  have hsome : some (more + 1) ≠ some 0 := nofun
  have hcauses := exists_causes model advisors request scene hsome
  rw [hadvised] at hcauses
  obtain ⟨taken, advances, closing, hserves, hcauses, hlimit⟩ := hcauses
  obtain ⟨htaken, rfl, hfailure⟩ := (hlimit _ rfl).2 hlength
  obtain rfl := Nat.succ.inj htaken
  cases hserves with
  | served hother _ =>
    obtain rfl := Except.ok.inj (hsource.symm.trans hother)
    exact ⟨hcauses, hfailure⟩

end Causes

/-- A model that gives two fragments, none of them terminal. -/
def halting (close : Closing Unit) : ChatModel Unit where
  call _ := pure {}
  stream _ := pure (.giving {} close (.giving {} close (.ended close)))

end RetrievalAdvisor

end Grounding
