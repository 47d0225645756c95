import Grounding.Proofs.Pipeline.Order
import Grounding.Proofs.Rephrasing.Runs

/-!
# What rephrasing keeps

However many built-in transformers there are and whatever their callbacks do, a run touches the text
of the query alone. Each property holds of every run that obeys the rules, by induction on the
rules: the calls lead from text to text (`Rephrases.leads`), they say how the run ends
(`Rephrases.concludes`), and they are made for the history of the query (`Rephrases.makes`). As that
history is never touched, a compression finds the one that was asked about, at whatever place it
stands (`Rephrases.compression_called_iff`).

Main statement: `Rephrasing.rephraseAll_keeps`.
-/

set_option autoImplicit false
set_option relaxedAutoImplicit false

namespace Grounding

open Grounding.Action
open Grounding.GenerationStep (Leads)
open Grounding.Stream (sceneAfter)

variable {σ : Type}

namespace GenerationStep

variable {generation : GenerationStep σ}

/-- A call that fails offers no text. -/
theorem offered_of_error {cause : Failure} (h : generation.outcome = .error cause) :
    generation.offered = none := by
  unfold offered
  rw [h]
  split <;> rfl

/-- A call for a language offers no text. -/
theorem IsFirst.offered_eq_none {position : Nat} {language : String}
    {detect : String → Action σ Value} {generate : String → String → Action σ Value}
    {query : Query} {scene : Scene σ}
    (h : generation.IsFirst position (.intoLanguage language (some detect) generate) query scene) :
    generation.offered = none := by
  unfold offered
  rw [← Option.some.inj h.call_eq]
  rfl

/-- Assumes: a call that offers no text. The text stays, and no warning is given. -/
theorem leads_of_offered_eq_none (h : generation.offered = none) (text : String) :
    generation.textAfter text = text ∧ generation.settled = generation.after := by
  unfold textAfter settled
  rw [h]
  exact ⟨rfl, rfl⟩

/-- What calls say about the end of a run: it succeeds if all of them do. Otherwise the last one
fails, and the run fails with it: in the same way if this failure passes through, and else with a
transformation failure that names the transformer and has this failure as its cause. -/
def Concludes (generations : List (GenerationStep σ)) : Except Failure Query → Prop
  | .ok _ => ∀ generation ∈ generations, generation.Succeeds
  | .error failure => failure.passesThrough = true ∧ ∃ done last cause,
    generations = done ++ [last] ∧ (∀ generation ∈ done, generation.Succeeds) ∧
      last.outcome = .error cause ∧
      if cause.passesThrough then failure = cause
      else failure.IsTransformation last.call.transformer (some cause)

/-- Assumes: a call that was answered, in front of calls that say how a run ends. -/
theorem concludes_cons {generations : List (GenerationStep σ)} {result : Except Failure Query}
    (hanswered : generation.Succeeds) (h : Concludes generations result) :
    Concludes (generation :: generations) result := by
  cases result with
  | ok transformed => exact List.forall_mem_cons.mpr ⟨hanswered, h⟩
  | error failure =>
    obtain ⟨hpasses, done, last, cause, rfl, hdone, hlast⟩ := h
    exact ⟨hpasses, generation :: done, last, cause, rfl,
      List.forall_mem_cons.mpr ⟨hanswered, hdone⟩, hlast⟩

end GenerationStep

/-- What a transformer asks without detection it asks with it. -/
theorem Rephrasing.makes_of_undetected {language : String}
    {detect : Option (String → Action σ Value)} {generate : String → String → Action σ Value}
    {history : List Message} {call : GenerationCall}
    (h : (intoLanguage language none generate).Makes history call) :
    (intoLanguage language detect generate).Makes history call := by
  cases call with
  | translate text target => exact h
  | detect text => cases h
  | compress past text => exact h
  | suit text target => exact h

namespace Rephrases

open GenerationStep (offered_of_error leads_of_offered_eq_none)
open Rephrasing (firstCall_spec firstCall_compression_iff)

variable {position : Nat} {rephrasings : List (Rephrasing σ)} {query : Query}
  {scene last : Scene σ} {generations : List (GenerationStep σ)} {result : Except Failure Query}

/-- The calls lead from the text of the query to that of the result, and from scene to scene.
History and context stay as they are. -/
theorem leads (h : Rephrases position rephrasings query scene generations result last) :
    ∃ text, Leads query.text scene generations text last ∧
      ∀ transformed, result = .ok transformed → transformed = query.withText text := by
  induction h with
  | ended => exact ⟨_, ⟨rfl, rfl⟩, fun _ hok ↦ (Except.ok.inj hok).symm⟩
  | spared _ _ ih => exact ih
  | failed hfirst hfailed =>
    obtain ⟨htext, -, -⟩ := firstCall_spec hfirst.call_eq
    obtain ⟨-, hsettled⟩ := leads_of_offered_eq_none (offered_of_error hfailed) ""
    exact ⟨_, ⟨htext, hfirst.before_eq, rfl, hsettled.symm⟩, fun _ hok ↦ by cases hok⟩
  | @detected _ _ _ _ _ query _ _ _ _ _ hfirst _ _ ih =>
    obtain ⟨text, hleads, htransformed⟩ := ih
    obtain ⟨htext, -, -⟩ := firstCall_spec hfirst.call_eq
    obtain ⟨hkept, hsettled⟩ := leads_of_offered_eq_none hfirst.offered_eq_none query.text
    rw [← hkept, ← hsettled] at hleads
    exact ⟨text, ⟨htext, hfirst.before_eq, hleads⟩, htransformed⟩
  | done hfirst _ _ ih =>
    obtain ⟨text, hleads, htransformed⟩ := ih
    obtain ⟨htext, -, -⟩ := firstCall_spec hfirst.call_eq
    exact ⟨text, ⟨htext, hfirst.before_eq, hleads⟩, htransformed⟩

/-- Every call is one that its transformer makes for the history of the query. -/
theorem makes (h : Rephrases position rephrasings query scene generations result last) :
    ∀ generation ∈ generations, ∃ place rephrasing, generation.position = position + place ∧
      rephrasings[place]? = some rephrasing ∧
      rephrasing.Makes query.history generation.call := by
  induction h with
  | ended => simp
  | spared _ _ ih =>
    intro generation hmem
    obtain ⟨place, rephrasing, hposition, hplace, hmakes⟩ := ih generation hmem
    exact ⟨place + 1, rephrasing, by omega, hplace, hmakes⟩
  | failed hfirst _ =>
    obtain ⟨-, -, hmakes⟩ := firstCall_spec hfirst.call_eq
    intro generation hmem
    obtain rfl := List.mem_singleton.mp hmem
    exact ⟨0, _, hfirst.position_eq, rfl, hmakes⟩
  | detected hfirst _ _ ih =>
    obtain ⟨-, -, hmakes⟩ := firstCall_spec hfirst.call_eq
    intro generation hmem
    rcases List.mem_cons.mp hmem with rfl | hrest
    · exact ⟨0, _, hfirst.position_eq, rfl, hmakes⟩
    · obtain ⟨place, rephrasing, hposition, hplace, hothers⟩ := ih generation hrest
      cases place with
      | zero =>
        obtain rfl := Option.some.inj hplace
        exact ⟨0, _, hposition, rfl, Rephrasing.makes_of_undetected hothers⟩
      | succ place => exact ⟨place + 1, rephrasing, hposition, hplace, hothers⟩
  | done hfirst _ _ ih =>
    obtain ⟨-, -, hmakes⟩ := firstCall_spec hfirst.call_eq
    intro generation hmem
    rcases List.mem_cons.mp hmem with rfl | hrest
    · exact ⟨0, _, hfirst.position_eq, rfl, hmakes⟩
    · obtain ⟨place, rephrasing, hposition, hplace, hothers⟩ := ih generation hrest
      exact ⟨place + 1, rephrasing, by omega, hplace, hothers⟩

theorem le_position (h : Rephrases position rephrasings query scene generations result last) :
    ∀ generation ∈ generations, position ≤ generation.position := by
  intro generation hmem
  obtain ⟨place, -, hposition, -⟩ := h.makes generation hmem
  omega

/-- A run ends as its calls say. -/
theorem concludes (h : Rephrases position rephrasings query scene generations result last) :
    GenerationStep.Concludes generations result := by
  induction h with
  | ended => simp [GenerationStep.Concludes]
  | spared _ _ ih => exact ih
  | @failed _ _ _ _ _ generation cause hfirst hfailed =>
    obtain ⟨-, htransformer, -⟩ := firstCall_spec hfirst.call_eq
    refine ⟨passesThrough_shielded (fun _ ↦ rfl) cause, [], generation, cause, rfl, by simp,
      hfailed, ?_⟩
    unfold shielded
    by_cases hpasses : cause.passesThrough = true
    · rw [if_pos hpasses, if_pos hpasses]
    · rw [if_neg hpasses, if_neg hpasses, htransformer]
      exact ⟨rfl, rfl, rfl⟩
  | detected _ hanswered _ ih => exact GenerationStep.concludes_cons hanswered ih
  | done _ hanswered _ ih => exact GenerationStep.concludes_cons hanswered ih

/-- A compression that comes first makes a call exactly if the query has a history. -/
theorem first_compression_called_iff {callback : List Message → String → Action σ Value}
    (h : Rephrases position rephrasings query scene generations result last)
    (hplace : rephrasings[0]? = some (.compression callback)) :
    (∃ generation ∈ generations, generation.position = position) ↔
      query.history ≠ [] ∧
        ∀ generation ∈ generations, generation.position < position → generation.Succeeds := by
  have hnone : ∀ generation ∈ generations, generation.position < position →
      generation.Succeeds := fun generation hmem hearly ↦
    absurd (h.le_position generation hmem) (by omega)
  rw [and_iff_left hnone]
  cases h with
  | ended => cases hplace
  | spared hspared hrest =>
    obtain rfl := Option.some.inj hplace
    have hhistory : query.history = [] := by simpa [Rephrasing.firstCall] using hspared
    refine iff_of_false ?_ (not_not_intro hhistory)
    rintro ⟨generation, hmem, hposition⟩
    have hlate := hrest.le_position generation hmem
    omega
  | failed hfirst _ =>
    obtain rfl := Option.some.inj hplace
    obtain ⟨hhistory, -⟩ := firstCall_compression_iff.mp hfirst.call_eq
    exact iff_of_true ⟨_, List.mem_cons_self, hfirst.position_eq⟩ hhistory
  | detected _ _ _ => cases hplace
  | done hfirst _ _ =>
    obtain rfl := Option.some.inj hplace
    obtain ⟨hhistory, -⟩ := firstCall_compression_iff.mp hfirst.call_eq
    exact iff_of_true ⟨_, List.mem_cons_self, hfirst.position_eq⟩ hhistory

/-- Assumes: an answered call at another position. Whether a call is made exactly under some
condition and after answered calls does not depend on it. -/
theorem called_iff_cons {generation : GenerationStep σ} {condition : Prop} {place : Nat}
    (hposition : generation.position ≠ place) (hanswered : generation.Succeeds)
    (h : (∃ other ∈ generations, other.position = place) ↔
      condition ∧ ∀ other ∈ generations, other.position < place → other.Succeeds) :
    (∃ other ∈ generation :: generations, other.position = place) ↔
      condition ∧ ∀ other ∈ generation :: generations, other.position < place →
        other.Succeeds := by
  rw [List.exists_mem_cons_iff, List.forall_mem_cons]
  simp [hposition, hanswered, h]

/-- Assumes: a compression at some place. It makes a call exactly if the query has a history and
every call before that place was answered. The induction is on the rules and not on the places,
since a transformer that has detected a language stays where it is. -/
theorem compression_called_iff {callback : List Message → String → Action σ Value}
    (h : Rephrases position rephrasings query scene generations result last) (place : Nat)
    (hplace : rephrasings[place]? = some (.compression callback)) :
    (∃ generation ∈ generations, generation.position = position + place) ↔
      query.history ≠ [] ∧
        ∀ generation ∈ generations, generation.position < position + place →
          generation.Succeeds := by
  induction h generalizing place with
  | ended => cases hplace
  | spared hspared hrest ih =>
    cases place with
    | zero => exact first_compression_called_iff (.spared hspared hrest) hplace
    | succ place =>
      have hiff := ih place hplace
      rwa [Nat.add_right_comm] at hiff
  | @failed position _ _ _ _ generation cause hfirst hfailed =>
    cases place with
    | zero => exact first_compression_called_iff (.failed hfirst hfailed) hplace
    | succ place =>
      have hposition := hfirst.position_eq
      have hnever : ¬generation.Succeeds := by
        rintro ⟨answer, hanswer⟩
        rw [hfailed] at hanswer
        cases hanswer
      refine iff_of_false ?_ ?_
      · simp [hposition]
      · rintro ⟨-, hanswered⟩
        exact hnever (hanswered generation List.mem_cons_self (by omega))
  | detected hfirst hanswered _ ih =>
    cases place with
    | zero => cases hplace
    | succ place =>
      have hposition := hfirst.position_eq
      exact called_iff_cons (by omega) hanswered (ih (place + 1) hplace)
  | done hfirst hanswered hrest ih =>
    cases place with
    | zero => exact first_compression_called_iff (.done hfirst hanswered hrest) hplace
    | succ place =>
      have hposition := hfirst.position_eq
      have hiff := ih place hplace
      rw [Nat.add_right_comm] at hiff
      exact called_iff_cons (by omega) hanswered hiff

end Rephrases

namespace Rephrasing

/-- The calls of a run obey the rules. -/
theorem generations_rephrases (rephrasings : List (Rephrasing σ))
    (hanswers : ∀ rephrasing ∈ rephrasings, rephrasing.AnswersText) (query : Query)
    (scene : Scene σ) :
    Rephrases 0 rephrasings query scene (generations rephrasings query scene)
      ((rephraseAll rephrasings query).outcome scene)
      (sceneAfter (rephraseAll rephrasings query) scene) := by
  obtain ⟨calls, hrecord, hrephrases⟩ :=
    runObeys rephrasings hanswers 0 query (scene.withRecord [])
  obtain ⟨houtcome, hafter⟩ := rephraseAll_watched rephrasings query scene
  rw [houtcome, hafter] at hrephrases
  have hcalls : generations rephrasings query scene = calls := hrecord
  rw [hcalls]
  exact hrephrases

/-- Assumes: transformers whose callbacks answer with a text or null, if they answer. Their calls
lead from one text and scene to the next, so that every blank answer leaves the text and gives one
warning. The result is the query with the last text, which is the one asked about or is not blank
and has no white space at its ends. The first call that fails is the last one and decides how the
run fails. Every call is made for the history that was asked about, and a compression makes one
exactly if that is not empty and no call before it failed. -/
theorem rephraseAll_keeps (rephrasings : List (Rephrasing σ))
    (hanswers : ∀ rephrasing ∈ rephrasings, rephrasing.AnswersText) (query : Query)
    (scene : Scene σ) :
    (∃ text,
      Leads query.text scene (generations rephrasings query scene) text
        (sceneAfter (rephraseAll rephrasings query) scene) ∧
      (text = query.text ∨ Text.isBlank text = false ∧ Text.strip text = text) ∧
      ∀ transformed, (rephraseAll rephrasings query).outcome scene = .ok transformed →
        transformed = query.withText text) ∧
    GenerationStep.Concludes (generations rephrasings query scene)
      ((rephraseAll rephrasings query).outcome scene) ∧
    (∀ generation ∈ generations rephrasings query scene, ∃ rephrasing,
      rephrasings[generation.position]? = some rephrasing ∧
        rephrasing.Makes query.history generation.call) ∧
    ∀ place callback, rephrasings[place]? = some (.compression callback) →
      ((∃ generation ∈ generations rephrasings query scene, generation.position = place) ↔
        query.history ≠ [] ∧
          ∀ generation ∈ generations rephrasings query scene, generation.position < place →
            generation.Succeeds) := by
  have hrephrases := generations_rephrases rephrasings hanswers query scene
  refine ⟨?_, hrephrases.concludes, fun generation hmem ↦ ?_, fun place callback hplace ↦ ?_⟩
  · obtain ⟨text, hleads, htransformed⟩ := hrephrases.leads
    exact ⟨text, hleads, hleads.text_eq_or, htransformed⟩
  · obtain ⟨place, rephrasing, hposition, hplace, hmakes⟩ := hrephrases.makes generation hmem
    rw [Nat.zero_add] at hposition
    exact ⟨rephrasing, hposition ▸ hplace, hmakes⟩
  · have hiff := hrephrases.compression_called_iff place hplace
    rwa [Nat.zero_add] at hiff

/-- Transformers of which the second one gets no text and the third one fails. -/
def faltering : List (Rephrasing Unit) :=
  [.forSystem "index" fun _ _ ↦ pure (.text " suited "),
    .compression fun _ _ ↦ pure .null,
    .intoLanguage "english" none fun _ _ ↦ throw (.reported .value "down"),
    .compression fun _ _ ↦ pure (.text "late")]

/-- A query with a history. -/
def followUp : Query where
  text := "and there?"
  history := [⟨.user, "before", []⟩]

theorem faltering_answersText : ∀ rephrasing ∈ faltering, rephrasing.AnswersText := by
  have hpure (answer : Value) (h : answer.IsGenerated) :
      (pure answer : Action Unit Value).AnswersText := by
    rintro scene _ ⟨⟩
    exact h
  have hthrow (failure : Failure) : (throw failure : Action Unit Value).AnswersText := by
    rintro scene _ ⟨⟩
  simp only [faltering, List.forall_mem_cons]
  exact ⟨fun _ _ ↦ hpure _ (.inr ⟨_, rfl⟩), fun _ _ ↦ hpure _ (.inl rfl),
    ⟨by simp, fun _ _ ↦ hthrow _⟩, fun _ _ ↦ hpure _ (.inr ⟨_, rfl⟩), by simp⟩

/-- The first text replaces that of the query, the second one is missing and the third one fails,
so that the compression behind it makes no call. -/
theorem rephraseAll_keeps_faltering :
    (∀ rephrasing ∈ faltering, rephrasing.AnswersText) ∧
      (generations faltering followUp ⟨(), []⟩).map GenerationStep.call =
        [.suit "and there?" "index", .compress followUp.history "suited",
          .translate "suited" "english"] ∧
      (generations faltering followUp ⟨(), []⟩).map GenerationStep.position = [0, 1, 2] ∧
      (rephraseAll faltering followUp).outcome ⟨(), []⟩ =
        .error (.generationFailed "TranslationQueryTransformer" (.reported .value "down")) ∧
      (sceneAfter (rephraseAll faltering followUp) ⟨(), []⟩).warnings =
        [.emptyGeneration "CompressionQueryTransformer"] ∧
      GenerationStep.Concludes (generations faltering followUp ⟨(), []⟩)
        ((rephraseAll faltering followUp).outcome ⟨(), []⟩) ∧
      ((∃ generation ∈ generations faltering followUp ⟨(), []⟩, generation.position = 3) ↔
        followUp.history ≠ [] ∧ ∀ generation ∈ generations faltering followUp ⟨(), []⟩,
          generation.position < 3 → generation.Succeeds) := by
  obtain ⟨-, hconcludes, -, hcompressed⟩ :=
    rephraseAll_keeps faltering faltering_answersText followUp ⟨(), []⟩
  exact ⟨faltering_answersText, rfl, rfl, rfl, rfl, hconcludes, hcompressed 3 _ rfl⟩

end Rephrasing

end Grounding
