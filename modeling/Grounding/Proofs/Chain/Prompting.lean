import Grounding.Proofs.Chain.Agreement
import Grounding.Proofs.Chain.Exposure
import Grounding.Proofs.Prompt

/-!
# The prompt that reaches the model

A retrieving advisor changes a prompt in the text of its last user message only (`before_retexts`).
The prompt of a request that has gone through several advisors therefore differs from the first one
in this text only, and where the first one has no user message the first advisor appends one and the
others change its text (`requestSide_retexts`).

An advisor that answers questions adds a line to the text, its template with what it has found
(`QuestionAnswerAdvisor.advice`). `Advises` lists these templates along a row of such advisors, each
rendered for the request that the ones before it have made.

`prompt_differs_in_last_text`: the prompt that a call or a stream hands to the model differs in this
way from that of the request.
-/

set_option autoImplicit false
set_option relaxedAutoImplicit false

namespace Grounding

open Grounding.Action
open Grounding.Stream (sceneAfter)

variable {σ : Type}

namespace QuestionAnswerAdvisor

/-- The template of an advisor with what it finds for a request. -/
def advice (advisor : QuestionAnswerAdvisor σ) (request : AdvisedRequest) : Action σ String := do
  let search ← advisor.buildRequest request
  let documents ← Action.protect (.searchFailed search) (advisor.found search)
  advisor.renderer.render advisor.prompt [(contextKey, .text (joinTexts documents))]

/-- Assumes: a request side that succeeds. It has rendered its template, and the text of its request
has one line more. -/
theorem before_advises (advisor : QuestionAnswerAdvisor σ) {request advised : AdvisedRequest}
    {scene : Scene σ} (h : (advisor.before request).outcome scene = .ok advised) :
    ∃ advice, (advisor.advice request).outcome scene = .ok advice ∧
      request.prompt.Retexts (request.userText ++ "\n" ++ advice) advised.prompt := by
  obtain ⟨search, hsearch, hfound⟩ := outcome_bind_eq_ok_iff.mp h
  obtain ⟨documents, hdocuments, hrendered⟩ := outcome_bind_eq_ok_iff.mp hfound
  obtain ⟨advice, hadvice, hlast⟩ := outcome_bind_eq_ok_iff.mp hrendered
  obtain ⟨⟩ := hlast
  refine ⟨advice, ?_, Prompt.retexts_augmentUserMessage _ _⟩
  exact outcome_bind_eq_ok_iff.mpr
    ⟨search, hsearch, outcome_bind_eq_ok_iff.mpr ⟨documents, hdocuments, hadvice⟩⟩

/-- Advisors in the order in which they act. -/
def inOrder (advisors : List (QuestionAnswerAdvisor σ)) : List (QuestionAnswerAdvisor σ) :=
  advisors.mergeSort fun a b ↦ decide (a.order ≤ b.order)

/-- What advisors in a row add to the text of a request, each to the text that the ones before it
have left. -/
inductive Advises :
    List (QuestionAnswerAdvisor σ) → AdvisedRequest → Scene σ → List String → Prop
  | nil (request : AdvisedRequest) (scene : Scene σ) : Advises [] request scene []
  | cons {advisor : QuestionAnswerAdvisor σ} {rest : List (QuestionAnswerAdvisor σ)}
    {request advised : AdvisedRequest} {scene : Scene σ} {advice : String} {others : List String}
    (hadvice : (advisor.advice request).outcome scene = .ok advice)
    (hbefore : (advisor.before request).outcome scene = .ok advised)
    (hrest : Advises rest advised (sceneAfter (advisor.before request) scene) others) :
    Advises (advisor :: rest) request scene (advice :: others)

end QuestionAnswerAdvisor

namespace DocumentAdvisor

/-! ### One advisor -/

/-- Assumes: a request side that succeeds. It has changed the text of the last user message only. -/
theorem before_retexts (advisor : DocumentAdvisor σ) {placement : Placement}
    {request advised : AdvisedRequest} {scene : Scene σ}
    (h : (advisor.toRetrieval.before placement request).outcome scene = .ok advised) :
    ∃ text, request.prompt.Retexts text advised.prompt := by
  cases advisor with
  | augmentation advisor =>
    obtain ⟨result, -, hlast⟩ := outcome_bind_eq_ok_iff.mp h
    obtain ⟨⟩ := hlast
    exact ⟨_, Prompt.retexts_augmentUserMessage _ _⟩
  | questionAnswer advisor =>
    obtain ⟨advice, -, hretexts⟩ := advisor.before_advises h
    exact ⟨_, hretexts⟩

/-! ### Advisors in a row -/

/-- Assumes: request sides that succeed, of one advisor at least. They have changed the text of the
last user message only. -/
theorem requestSide_retexts {advisors : List (DocumentAdvisor σ)} (hadvisors : advisors ≠ [])
    {request advised : AdvisedRequest} {scene : Scene σ}
    (h : (RetrievalAdvisor.requestSide (advisors.map toRetrieval) request).outcome scene =
      .ok advised) :
    ∃ text, request.prompt.Retexts text advised.prompt := by
  induction advisors generalizing request scene with
  | nil => exact absurd rfl hadvisors
  | cons advisor rest ih =>
    obtain ⟨first, hfirst, hrest⟩ := outcome_bind_eq_ok_iff.mp h
    obtain ⟨text, hretexts⟩ := advisor.before_retexts hfirst
    by_cases hnil : rest = []
    · subst hnil
      obtain rfl := Except.ok.inj hrest
      exact ⟨text, hretexts⟩
    · obtain ⟨last, hlast⟩ := ih hnil hrest
      exact ⟨last, hretexts.trans hlast⟩

/-- Assumes: request sides that succeed, of advisors that answer questions. The text of the user has
one line more for each of them. -/
theorem requestSide_advises {advisors : List (QuestionAnswerAdvisor σ)}
    {request advised : AdvisedRequest} {scene : Scene σ}
    (h : (RetrievalAdvisor.requestSide
      (advisors.map QuestionAnswerAdvisor.toRetrieval) request).outcome scene = .ok advised) :
    ∃ advices, QuestionAnswerAdvisor.Advises advisors request scene advices ∧
      advised.userText = request.userText ++ String.join (advices.map ("\n" ++ ·)) := by
  induction advisors generalizing request scene with
  | nil =>
    obtain rfl := Except.ok.inj h
    exact ⟨[], .nil request scene, String.append_empty.symm⟩
  | cons advisor rest ih =>
    obtain ⟨first, hfirst, hrest⟩ := outcome_bind_eq_ok_iff.mp h
    obtain ⟨advice, hadvice, hretexts⟩ := advisor.before_advises hfirst
    obtain ⟨others, hothers, htext⟩ := ih hrest
    refine ⟨advice :: others, .cons hadvice hfirst hothers, ?_⟩
    have hinner : first.userText = request.userText ++ "\n" ++ advice := hretexts.userMessage_text
    rw [htext, hinner, List.map_cons, String.join_cons]
    simp only [String.append_assoc]

/-- Advisors that answer questions act in their own order. -/
theorem map_toRetrieval_inOrder (answering : List (QuestionAnswerAdvisor σ)) :
    (inOrder (answering.map .questionAnswer)).map toRetrieval =
      (QuestionAnswerAdvisor.inOrder answering).map QuestionAnswerAdvisor.toRetrieval := by
  have hsorted : inOrder (answering.map .questionAnswer) =
      (QuestionAnswerAdvisor.inOrder answering).map .questionAnswer := by
    refine (List.map_mergeSort fun a _ b _ ↦ ?_).symm
    rfl
  rw [hsorted, List.map_map]
  rfl

/-! ### The prompt -/

/-- Assumes: request sides that succeed. A call and a stream ask the model once, last and with the
same prompt. Without advisors it is that of the request, with some it differs from this in the text
of the last user message only, or a user message without metadata has been appended. If all advisors
answer questions, the text of the user has one line more for each of them, in the order in which
they act: the template that the advisor has rendered. -/
theorem prompt_differs_in_last_text (model : ChatModel σ) (advisors : List (DocumentAdvisor σ))
    (request advised : AdvisedRequest) (scene : Scene σ)
    (hadvised : (requestSide advisors request).outcome scene = .ok advised) :
    ∃ sides prompt found,
      RetrievalAdvisor.CallTakes model (advisors.map toRetrieval) request scene
        (sides ++ [.ask prompt found]) ∧
      RetrievalAdvisor.StreamTakes model (advisors.map toRetrieval) request scene
        (sides ++ [.ask prompt found]) ∧
      (∀ step ∈ sides, ¬ step.IsAsk) ∧
      (advisors = [] → prompt = request.prompt) ∧
      (advisors ≠ [] → ∃ text, request.prompt.Retexts text prompt) ∧
      ∀ answering : List (QuestionAnswerAdvisor σ), advisors = answering.map .questionAnswer →
        ∃ advices, QuestionAnswerAdvisor.Advises (QuestionAnswerAdvisor.inOrder answering) request
            scene advices ∧
          prompt.userMessage.text = request.userText ++ String.join (advices.map ("\n" ++ ·)) := by
  unfold requestSide at hadvised
  obtain ⟨sides, hsides⟩ := RetrievalAdvisor.exists_sidesTake
    (RetrievalAdvisor.inOrder (advisors.map toRetrieval)) request scene []
  have hplaced : ∀ advisor ∈ RetrievalAdvisor.inOrder (advisors.map toRetrieval),
      advisor.PlacedFreely := by
    intro advisor hmem
    obtain ⟨plain, -, rfl⟩ := List.mem_map.mp (List.mem_mergeSort.mp hmem)
    exact plain.placedFreely
  have hcall : RetrievalAdvisor.CallTakes model _ request scene _ := hsides.callTakes hplaced
  have hstream : RetrievalAdvisor.StreamTakes model _ request scene _ := hsides.streamTakes
  rw [inOrder_map_toRetrieval, hadvised] at hcall hstream
  refine ⟨sides, advised.prompt, _, hcall, hstream, hsides.no_ask, ?_, ?_, ?_⟩
  · rintro rfl
    have hnone : inOrder ([] : List (DocumentAdvisor σ)) = [] := List.mergeSort_nil
    rw [hnone] at hadvised
    obtain rfl := Except.ok.inj hadvised
    rfl
  · intro hsome
    obtain ⟨outer, innermost, hsplit⟩ := exists_innermost hsome
    exact requestSide_retexts (by simp [hsplit]) hadvised
  · rintro answering rfl
    rw [map_toRetrieval_inOrder] at hadvised
    exact requestSide_advises hadvised

/-- An advisor that finds nothing and says so. -/
def terse : QuestionAnswerAdvisor Unit where
  store _ := pure (some [])
  renderer := { placeholders := none, render := fun _ _ ↦ pure "Nothing." }

/-- A request without a user message. -/
def unasked : AdvisedRequest :=
  ⟨{ messages := [{ role := .system, text := "Be brief." }] }, []⟩

/-- Two advisors append one user message, to which each of them adds a line. -/
theorem prompt_differs_in_last_text_unasked :
    ∃ advised sides prompt found,
      (requestSide [.questionAnswer terse, .questionAnswer terse] unasked).outcome ⟨(), []⟩ =
        .ok advised ∧
      RetrievalAdvisor.CallTakes unfinished [terse.toRetrieval, terse.toRetrieval] unasked
        ⟨(), []⟩ (sides ++ [.ask prompt found]) ∧
      prompt.messages = unasked.prompt.messages ++
        [{ role := .user, text := "\nNothing.\nNothing." }] := by
  have horder : inOrder [.questionAnswer terse, .questionAnswer terse] =
      [.questionAnswer terse, .questionAnswer terse] := by
    refine List.mergeSort_of_pairwise ?_
    simp
  have hanswering : QuestionAnswerAdvisor.inOrder [terse, terse] = [terse, terse] := by
    refine List.mergeSort_of_pairwise ?_
    simp
  have hadvised : ∃ advised, (requestSide [.questionAnswer terse, .questionAnswer terse]
      unasked).outcome ⟨(), []⟩ = .ok advised := by
    unfold requestSide
    rw [horder]
    exact ⟨_, rfl⟩
  obtain ⟨advised, hadvised⟩ := hadvised
  obtain ⟨sides, prompt, found, hcall, -, -, -, hretexts, hadvises⟩ :=
    prompt_differs_in_last_text unfinished [.questionAnswer terse, .questionAnswer terse] unasked
      advised ⟨(), []⟩ hadvised
  refine ⟨advised, sides, prompt, found, hadvised, hcall, ?_⟩
  obtain ⟨text, hretexts⟩ := hretexts (List.cons_ne_nil _ _)
  obtain ⟨advices, hadvices, htext⟩ := hadvises [terse, terse] rfl
  rw [hanswering] at hadvices
  obtain _ | ⟨hfirst, hbefore, _ | ⟨hsecond, -, ⟨⟩⟩⟩ := hadvices
  obtain rfl := Except.ok.inj hfirst
  obtain rfl := Except.ok.inj hbefore
  obtain rfl := Except.ok.inj hsecond
  rw [hretexts.userMessage_text] at htext
  rw [hretexts.appended (by simp [unasked, Message.isUser]), htext]
  rfl

end DocumentAdvisor

end Grounding
