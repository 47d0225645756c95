import Grounding.QueryTransformer
import Grounding.Proofs.Action

/-!
# Calls of generation callbacks

The built-in transformers ask callbacks for texts, and one of them asks for the language of a text
first. `GenerationCall` is such a call and `GenerationStep` a call that has been made, with the
scenes before and after it. What a transformer does with the answer depends on nothing else: a text
that is not blank replaces that of the query (`GenerationStep.textAfter`), and a blank answer leaves
the text alone and gives one warning (`GenerationStep.settled`).

`GenerationStep.Leads` is said of calls that follow each other: each one is about the text that the
one before has left, and finds the scene that it has settled. The text at the end is the one at the
beginning, or it is not blank and has no white space at its ends
(`GenerationStep.Leads.text_eq_or`).

A transformer makes at most one call before it looks at an answer (`Rephrasing.firstCall`), and goes
on from there (`Rephrasing.proceed`): `Rephrasing.transform_of_spared`,
`Rephrasing.transform_of_asked`.
-/

set_option autoImplicit false
set_option relaxedAutoImplicit false

namespace Grounding

open Grounding.Action
open Grounding.Stream (sceneAfter)

variable {σ : Type}

/-! ### Answers -/

/-- A text or null. -/
def Value.IsGenerated (answer : Value) : Prop :=
  answer = .null ∨ ∃ content, answer = .text content

/-- Whether an answer is null or a blank text. -/
def Value.isBlank : Value → Bool
  | .null => true
  | .text content => Text.isBlank content
  | _ => false

/-- A callback that answers with a text or null, if it answers. -/
def Action.AnswersText (callback : Action σ Value) : Prop :=
  ∀ scene answer, callback.outcome scene = .ok answer → answer.IsGenerated

/-- A transformer all callbacks of which answer with a text or null, if they answer. -/
def Rephrasing.AnswersText : Rephrasing σ → Prop
  | .compression generate => ∀ history text, (generate history text).AnswersText
  | .forSystem _ generate => ∀ text system, (generate text system).AnswersText
  | .intoLanguage _ detect generate =>
    (∀ ask ∈ detect, ∀ text, (ask text).AnswersText) ∧
      ∀ text language, (generate text language).AnswersText

/-! ### Generations -/

/-- What a callback is asked: for a text that needs no history, for one that suits a system, for the
language of a text, for a text in a language. -/
inductive GenerationCall
  | compress (history : List Message) (text : String)
  | suit (text system : String)
  | detect (text : String)
  | translate (text language : String)

namespace GenerationCall

/-- The text that a call is about. -/
def text : GenerationCall → String
  | .compress _ text => text
  | .suit text _ => text
  | .detect text => text
  | .translate text _ => text

/-- The name of the transformer that makes a call. -/
def transformer : GenerationCall → String
  | .compress _ _ => "CompressionQueryTransformer"
  | .suit _ _ => "RewriteQueryTransformer"
  | .detect _ => "TranslationQueryTransformer"
  | .translate _ _ => "TranslationQueryTransformer"

/-- Whether the answer to a call is meant to replace the text. -/
def isForText : GenerationCall → Bool
  | .detect _ => false
  | _ => true

end GenerationCall

/-- A call by the transformer at a position, with the scenes before and after it. -/
structure GenerationStep (σ : Type) where
  position : Nat
  call : GenerationCall
  outcome : Except Failure Value
  before : Scene σ
  after : Scene σ

namespace GenerationStep

/-- The answer that is meant to replace the text. -/
def offered (generation : GenerationStep σ) : Option Value :=
  if generation.call.isForText then generation.outcome.toOption else none

/-- The text after a call: the one offered if it is not blank, without the white space at its
ends. -/
def textAfter (generation : GenerationStep σ) (text : String) : String :=
  match generation.offered with
  | some (.text content) => if Text.isBlank content then text else Text.strip content
  | _ => text

/-- The scene in which the transformers go on. There is one more warning if a text was asked for and
the answer was blank. -/
def settled (generation : GenerationStep σ) : Scene σ :=
  if generation.offered.any Value.isBlank then
    { generation.after with
      warnings := generation.after.warnings ++ [.emptyGeneration generation.call.transformer] }
  else generation.after

/-- A call that was answered. -/
def Succeeds (generation : GenerationStep σ) : Prop :=
  ∃ answer, generation.outcome = .ok answer

/-- Calls that lead from one text and scene to another: each one is about the text that the one
before has left, and finds the scene that it has settled. -/
def Leads : String → Scene σ → List (GenerationStep σ) → String → Scene σ → Prop
  | text, scene, [], last, final => last = text ∧ final = scene
  | text, scene, generation :: rest, last, final =>
    generation.call.text = text ∧ generation.before = scene ∧
      Leads (generation.textAfter text) generation.settled rest last final

/-- A call leaves the text, or replaces it by one that is not blank and has no white space at
its ends. -/
theorem textAfter_eq_or (generation : GenerationStep σ) (text : String) :
    generation.textAfter text = text ∨
      Text.isBlank (generation.textAfter text) = false ∧
        Text.strip (generation.textAfter text) = generation.textAfter text := by
  unfold textAfter
  split
  · rename_i content _
    by_cases hblank : Text.isBlank content = true
    · simp [hblank]
    · have hstripped : Text.isBlank (Text.strip content) = false := by
        rw [← Bool.not_eq_true, Text.isBlank_iff_strip, Text.strip_strip, ← Text.isBlank_iff_strip]
        exact hblank
      simp [hblank, hstripped, Text.strip_strip]
  · exact Or.inl rfl

/-- The text that calls lead to is the first one, or it is not blank and has no white space at
its ends. -/
theorem Leads.text_eq_or {text last : String} {scene final : Scene σ}
    {generations : List (GenerationStep σ)} (h : Leads text scene generations last final) :
    last = text ∨ Text.isBlank last = false ∧ Text.strip last = last := by
  induction generations generalizing text scene with
  | nil => exact Or.inl h.1
  | cons generation rest ih =>
    rcases ih h.2.2 with hsame | hstripped
    · rw [hsame]
      exact textAfter_eq_or generation text
    · exact Or.inr hstripped

end GenerationStep

/-! ### One transformer -/

theorem withGenerated_text (query : Query) (transformer content : String) :
    (query.withGenerated transformer (.text content) : Action σ Query) =
      if Text.isBlank content then query.withGenerated transformer .null
      else pure (query.withText (Text.strip content)) := by
  simp only [Query.withGenerated, Value.stripped, Action.ofExcept, pure_bind]
  by_cases hblank : Text.isBlank content = true
  · simp [hblank, Text.isBlank_iff_strip.mp hblank]
  · simp [hblank, mt Text.isBlank_iff_strip.mpr hblank]

/-- Assumes: an answer that is a text or null, to a call for a text. A query with this answer has
the text after the call, and a warning is given if the answer is blank. -/
theorem withGenerated_spec {generation : GenerationStep σ} {answer : Value}
    (hgenerated : answer.IsGenerated) (hoffered : generation.offered = some answer) {τ : Type}
    (query : Query) (transformer : String) (scene : Scene τ) :
    (query.withGenerated transformer answer).outcome scene =
        .ok (query.withText (generation.textAfter query.text)) ∧
      sceneAfter (query.withGenerated transformer answer) scene =
        if answer.isBlank then sceneAfter (warn (.emptyGeneration transformer)) scene
        else scene := by
  unfold GenerationStep.textAfter
  rw [hoffered]
  obtain rfl | ⟨content, rfl⟩ := hgenerated
  · exact ⟨rfl, rfl⟩
  · rw [withGenerated_text]
    show _ ∧ _ = if Text.isBlank content then _ else _
    by_cases hblank : Text.isBlank content = true
    · simp only [hblank, if_true]
      exact ⟨rfl, rfl⟩
    · simp [hblank]

namespace Rephrasing

/-- The call that a transformer makes first, if it makes any. -/
def firstCall (rephrasing : Rephrasing σ) (query : Query) : Option GenerationCall :=
  match rephrasing with
  | .compression _ =>
    if query.history.isEmpty then none else some (.compress query.history query.text)
  | .forSystem system _ => some (.suit query.text system)
  | .intoLanguage _ (some _) _ => some (.detect query.text)
  | .intoLanguage language none _ => some (.translate query.text language)

/-- How the first call of a transformer is answered. -/
def firstAnswer (rephrasing : Rephrasing σ) (query : Query) : Action σ Value :=
  match rephrasing with
  | .compression generate => generate query.history query.text
  | .forSystem system generate => generate query.text system
  | .intoLanguage _ (some detect) _ => detect query.text
  | .intoLanguage language none generate => generate query.text language

/-- What a transformer does with the answer to its first call. -/
def proceed (rephrasing : Rephrasing σ) (query : Query) (answer : Value) : Action σ Query :=
  match rephrasing with
  | .intoLanguage language (some _) generate => do
    if ← Action.ofExcept (isTarget language answer) then return query
    else (Rephrasing.intoLanguage language none generate).transform query
  | _ => query.withGenerated rephrasing.name answer

/-- The calls that a transformer makes for queries with a history. -/
def Makes (history : List Message) : Rephrasing σ → GenerationCall → Prop
  | .compression _, .compress past _ => past = history
  | .forSystem system _, .suit _ target => target = system
  | .intoLanguage _ detect _, .detect _ => detect.isSome = true
  | .intoLanguage language _ _, .translate _ target => target = language
  | _, _ => False

variable {rephrasing : Rephrasing σ} {query : Query} {call : GenerationCall}

/-- A compression asks for a text exactly if there is a history. -/
theorem firstCall_compression_iff {callback : List Message → String → Action σ Value} :
    (compression callback).firstCall query = some call ↔
      query.history ≠ [] ∧ .compress query.history query.text = call := by
  simp [firstCall]

/-- A transformer that makes no call leaves the query as it is. -/
theorem transform_of_spared (h : rephrasing.firstCall query = none) :
    rephrasing.transform query = pure query := by
  match rephrasing with
  | .compression callback =>
    have hhistory : query.history = [] := by simpa [firstCall] using h
    simp [transform, hhistory]

/-- A transformer that makes a call goes on with the answer. -/
theorem transform_of_asked (h : rephrasing.firstCall query = some call) :
    rephrasing.transform query =
      generate rephrasing.name (rephrasing.firstAnswer query) >>= rephrasing.proceed query := by
  match rephrasing with
  | .compression callback =>
    obtain ⟨hhistory, -⟩ := firstCall_compression_iff.mp h
    exact if_neg (by simpa using hhistory)
  | .forSystem system callback => rfl
  | .intoLanguage language none callback => rfl
  | .intoLanguage language (some detect) callback =>
    unfold transform isSettled
    simp only [bind_assoc]
    rfl

/-- The first call is one that the transformer makes, about the text of the query and under its
own name. -/
theorem firstCall_spec (h : rephrasing.firstCall query = some call) :
    call.text = query.text ∧ call.transformer = rephrasing.name ∧
      rephrasing.Makes query.history call := by
  match rephrasing with
  | .compression _ =>
    obtain ⟨-, rfl⟩ := firstCall_compression_iff.mp h
    exact ⟨rfl, rfl, rfl⟩
  | .forSystem _ _ =>
    cases h
    exact ⟨rfl, rfl, rfl⟩
  | .intoLanguage _ (some _) _ =>
    cases h
    exact ⟨rfl, rfl, rfl⟩
  | .intoLanguage _ none _ =>
    cases h
    exact ⟨rfl, rfl, rfl⟩

/-- A transformer that has asked for a text goes on with the answer alone. -/
theorem proceed_of_isForText (h : rephrasing.firstCall query = some call)
    (htext : call.isForText = true) (answer : Value) :
    rephrasing.proceed query answer = query.withGenerated rephrasing.name answer := by
  match rephrasing with
  | .compression _ => rfl
  | .forSystem _ _ => rfl
  | .intoLanguage _ none _ => rfl
  | .intoLanguage _ (some _) _ =>
    cases h
    cases htext

/-- Assumes: a detected language that is a text or null. It can be compared to the target. -/
theorem isTarget_of_isGenerated (language : String) {answer : Value} (h : answer.IsGenerated) :
    ∃ settled, isTarget language answer = .ok settled := by
  obtain rfl | ⟨content, rfl⟩ := h
  · exact ⟨true, rfl⟩
  · exact ⟨Text.lower (Text.strip content) == Text.lower language, rfl⟩

/-- Assumes: a transformer whose callbacks answer with a text or null. So is its first call
answered. -/
theorem AnswersText.firstAnswer (h : rephrasing.AnswersText) (query : Query) :
    (rephrasing.firstAnswer query).AnswersText := by
  match rephrasing with
  | .compression _ => exact h query.history query.text
  | .forSystem system _ => exact h query.text system
  | .intoLanguage language none _ => exact h.2 query.text language
  | .intoLanguage _ (some detect) _ => exact h.1 detect rfl query.text

theorem AnswersText.undetected {language : String} {detect : Option (String → Action σ Value)}
    {generate : String → String → Action σ Value}
    (h : (intoLanguage language detect generate).AnswersText) :
    (intoLanguage language none generate).AnswersText :=
  ⟨by simp, h.2⟩

end Rephrasing

end Grounding
