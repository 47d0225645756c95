import Grounding.Proofs.Pipeline.Recording
import Grounding.Proofs.Rephrasing.Generations

/-!
# Rephrasing a query again and again

Transformers that stand in a row hand the query on from left to right (`Rephrasing.rephraseAll`).
Their calls are recorded by transformers whose callbacks are watched (`Rephrasing.watched`), which
changes no run (`Rephrasing.rephraseAll_watched`). `Rephrasing.generations` are the calls of a run.

`Rephrases` says what runs there are, with one rule for each thing that a transformer can do next:
it makes no call, or a call that fails, or one that detects a language and is followed by a call for
a text, or it is done. In the last case the others go on with the text after the call.

Every run is one of these (`Rephrasing.runObeys`), by induction on the transformers. This needs
callbacks that answer with a text or null, if they answer.
-/

set_option autoImplicit false
set_option relaxedAutoImplicit false

namespace Grounding

open Grounding.Action
open Grounding.Stream (sceneAfter)

variable {σ : Type}

/-! ### Transformers that record their calls -/

/-- A callback that records a call by the transformer at a position. -/
def Action.generating (position : Nat) (call : GenerationCall) (callback : Action σ Value) :
    Action (Recorded σ (GenerationStep σ)) Value :=
  callback.witnessing fun before outcome after ↦ [⟨position, call, outcome, before, after⟩]

namespace Rephrasing

/-- The transformer at a position, with callbacks that record their calls. -/
def watched (position : Nat) : Rephrasing σ → Rephrasing (Recorded σ (GenerationStep σ))
  | .compression generate => .compression fun history text ↦
    (generate history text).generating position (.compress history text)
  | .forSystem system generate => .forSystem system fun text system ↦
    (generate text system).generating position (.suit text system)
  | .intoLanguage language detect generate =>
    .intoLanguage language
      (detect.map fun ask text ↦ (ask text).generating position (.detect text))
      fun text language ↦ (generate text language).generating position (.translate text language)

/-- Transformers that record their calls, the first one at a position. -/
def watchedFrom : Nat → List (Rephrasing σ) → List (Rephrasing (Recorded σ (GenerationStep σ)))
  | _, [] => []
  | position, rephrasing :: rest => rephrasing.watched position :: watchedFrom (position + 1) rest

/-- The query after several transformers, from left to right. -/
def rephraseAll (rephrasings : List (Rephrasing σ)) (query : Query) : Action σ Query :=
  Pipeline.transformAll (rephrasings.map toTransformer) query

/-- The calls that transformers make for a query, in order. -/
def generations (rephrasings : List (Rephrasing σ)) (query : Query) (scene : Scene σ) :
    List (GenerationStep σ) :=
  (sceneAfter (rephraseAll (watchedFrom 0 rephrasings) query) (scene.withRecord [])).record

variable {rephrasing : Rephrasing σ} {rest : List (Rephrasing σ)} {query : Query}
  {call : GenerationCall} {position : Nat}

@[simp] theorem name_watched : (rephrasing.watched position).name = rephrasing.name := by
  cases rephrasing <;> rfl

theorem firstCall_watched : (rephrasing.watched position).firstCall query =
    rephrasing.firstCall query := by
  match rephrasing with
  | .compression _ => rfl
  | .forSystem _ _ => rfl
  | .intoLanguage _ none _ => rfl
  | .intoLanguage _ (some _) _ => rfl

theorem firstAnswer_watched (h : rephrasing.firstCall query = some call) :
    (rephrasing.watched position).firstAnswer query =
      (rephrasing.firstAnswer query).generating position call := by
  match rephrasing with
  | .compression _ =>
    obtain ⟨-, rfl⟩ := firstCall_compression_iff.mp h
    rfl
  | .forSystem _ _ =>
    cases h
    rfl
  | .intoLanguage _ none _ =>
    cases h
    rfl
  | .intoLanguage _ (some _) _ =>
    cases h
    rfl

theorem simulates_generating (call : GenerationCall) (callback : Action σ Value) :
    Action.Simulates Forgets (callback.generating position call) callback := by
  rintro scene _ rfl
  unfold generating
  rw [outcome_witnessing, sceneAfter_witnessing]
  exact ⟨rfl, rfl⟩

/-! ### The recording transformers and the recorded ones -/

theorem simulates_withGenerated (query : Query) (transformer : String) (answer : Value) :
    Action.Simulates Forgets
      (query.withGenerated transformer answer : Action (Recorded σ (GenerationStep σ)) Query)
      (query.withGenerated transformer answer) := by
  have hfinish (text : String) : Action.Simulates Forgets
      (if text.isEmpty then
        warn (.emptyGeneration transformer) >>= fun _ ↦ pure query
      else pure (query.withText text) : Action (Recorded σ (GenerationStep σ)) Query)
      (if text.isEmpty then
        warn (.emptyGeneration transformer) >>= fun _ ↦ pure query
      else pure (query.withText text)) := by
    split
    · exact simulates_bind (simulates_warn _ (warnsAlike_forgets _)) fun _ ↦ simulates_pure _
    · exact simulates_pure _
  cases answer with
  | null => exact simulates_bind (simulates_pure "") hfinish
  | _ => exact simulates_bind (simulates_ofExcept _) hfinish

/-- Assumes: what follows on an answer, simulated for every answer. -/
theorem watched_simulates_of_proceed (position : Nat) (query : Query)
    (hproceed : ∀ answer, Action.Simulates Forgets
      ((rephrasing.watched position).proceed query answer) (rephrasing.proceed query answer)) :
    Action.Simulates Forgets ((rephrasing.watched position).transform query)
      (rephrasing.transform query) := by
  cases hcall : rephrasing.firstCall query with
  | none =>
    rw [transform_of_spared hcall, transform_of_spared (firstCall_watched.trans hcall)]
    exact simulates_pure query
  | some call =>
    rw [transform_of_asked hcall, transform_of_asked (firstCall_watched.trans hcall),
      name_watched, firstAnswer_watched hcall]
    exact simulates_bind (simulates_protect _ (simulates_generating call _)) hproceed

/-- Recording its calls changes no transformer. -/
theorem watched_simulates (rephrasing : Rephrasing σ) (position : Nat) (query : Query) :
    Action.Simulates Forgets ((rephrasing.watched position).transform query)
      (rephrasing.transform query) := by
  refine watched_simulates_of_proceed position query fun answer ↦ ?_
  match rephrasing with
  | .compression _ => exact simulates_withGenerated query _ answer
  | .forSystem _ _ => exact simulates_withGenerated query _ answer
  | .intoLanguage _ none _ => exact simulates_withGenerated query _ answer
  | .intoLanguage language (some _) generate =>
    refine simulates_bind (simulates_ofExcept _) fun settled ↦ ?_
    cases settled with
    | true => exact simulates_pure query
    | false =>
      have hundetected : Action.Simulates Forgets
          (((intoLanguage language none generate).watched position).transform query)
          ((intoLanguage language none generate).transform query) :=
        watched_simulates_of_proceed position query (simulates_withGenerated query _)
      exact hundetected

theorem watchedFrom_simulates (rephrasings : List (Rephrasing σ)) (position : Nat) :
    List.Forall₂ (QueryTransformer.Simulates Forgets)
      ((watchedFrom position rephrasings).map toTransformer)
      (rephrasings.map toTransformer) := by
  induction rephrasings generalizing position with
  | nil => exact .nil
  | cons rephrasing rest ih =>
    refine .cons ⟨name_watched, fun query ↦ ?_⟩ (ih (position + 1))
    exact simulates_bind (watched_simulates rephrasing position query) fun _ ↦ simulates_pure _

/-- Recording the calls changes no run. -/
theorem rephraseAll_watched (rephrasings : List (Rephrasing σ)) (query : Query)
    (scene : Scene σ) :
    (rephraseAll (watchedFrom 0 rephrasings) query).outcome (scene.withRecord []) =
        (rephraseAll rephrasings query).outcome scene ∧
      (sceneAfter (rephraseAll (watchedFrom 0 rephrasings) query) (scene.withRecord [])).plain =
        sceneAfter (rephraseAll rephrasings query) scene :=
  Pipeline.transformAll_simulates (watchedFrom_simulates rephrasings 0) query
    (scene.withRecord []) scene rfl

/-! ### One transformer, then the others -/

theorem rephraseAll_cons (rephrasing : Rephrasing σ) (rest : List (Rephrasing σ))
    (query : Query) :
    rephraseAll (rephrasing :: rest) query =
      Pipeline.transformOnce rephrasing.toTransformer query >>= rephraseAll rest := rfl

/-- A transformer in a pipeline does what it does, with its failures shielded. -/
theorem transformOnce_toTransformer (rephrasing : Rephrasing σ) (query : Query)
    (scene : Scene σ) :
    (Pipeline.transformOnce rephrasing.toTransformer query).outcome scene =
        ((rephrasing.transform query).outcome scene).mapError
          (shielded (.transformerFailed rephrasing.name)) ∧
      sceneAfter (Pipeline.transformOnce rephrasing.toTransformer query) scene =
        sceneAfter (rephrasing.transform query) scene := by
  have houtcome : (rephrasing.toTransformer.transform query).outcome scene =
      ((rephrasing.transform query).outcome scene).map some := by
    show outcome (rephrasing.transform query >>= fun transformed ↦ pure (some transformed)) _ = _
    rw [outcome_bind]
    cases (rephrasing.transform query).outcome scene <;> rfl
  have hafter : sceneAfter (rephrasing.toTransformer.transform query) scene =
      sceneAfter (rephrasing.transform query) scene :=
    sceneAfter_bind_pure (rephrasing.transform query) some scene
  unfold Pipeline.transformOnce
  rw [outcome_bind, sceneAfter_bind, outcome_protect, sceneAfter_protect, houtcome, hafter]
  cases (rephrasing.transform query).outcome scene <;> exact ⟨rfl, rfl⟩

/-- Assumes: a transformer that gives a query. The others go on with it. -/
theorem rephraseAll_of_ok {transformed : Query} {scene : Scene σ}
    (h : (rephrasing.transform query).outcome scene = .ok transformed)
    (rest : List (Rephrasing σ)) :
    (rephraseAll (rephrasing :: rest) query).outcome scene =
        (rephraseAll rest transformed).outcome (sceneAfter (rephrasing.transform query) scene) ∧
      sceneAfter (rephraseAll (rephrasing :: rest) query) scene =
        sceneAfter (rephraseAll rest transformed)
          (sceneAfter (rephrasing.transform query) scene) := by
  obtain ⟨houtcome, hafter⟩ := transformOnce_toTransformer rephrasing query scene
  rw [h] at houtcome
  rw [rephraseAll_cons, outcome_bind_ok houtcome, sceneAfter_bind_ok houtcome, hafter]
  exact ⟨rfl, rfl⟩

/-- Assumes: a transformer that fails with a failure that passes through. It ends the whole. -/
theorem rephraseAll_of_error {failure : Failure} {scene : Scene σ}
    (h : (rephrasing.transform query).outcome scene = .error failure)
    (hpasses : failure.passesThrough = true) (rest : List (Rephrasing σ)) :
    (rephraseAll (rephrasing :: rest) query).outcome scene = .error failure ∧
      sceneAfter (rephraseAll (rephrasing :: rest) query) scene =
        sceneAfter (rephrasing.transform query) scene := by
  obtain ⟨houtcome, hafter⟩ := transformOnce_toTransformer rephrasing query scene
  have hshielded : shielded (.transformerFailed rephrasing.name) failure = failure :=
    if_pos hpasses
  rw [h] at houtcome
  have hended := houtcome.trans (congrArg Except.error hshielded)
  rw [rephraseAll_cons, outcome_bind_error hended, sceneAfter_bind_error hended, hafter]
  exact ⟨rfl, rfl⟩

/-- Assumes: transformers of one name that end in the same way and leave the same scene, each from
its own. So they do with others behind them. -/
theorem rephraseAll_congr {other : Rephrasing σ} {scene middle : Scene σ}
    (hname : rephrasing.name = other.name)
    (houtcome : (rephrasing.transform query).outcome scene =
      (other.transform query).outcome middle)
    (hafter : sceneAfter (rephrasing.transform query) scene =
      sceneAfter (other.transform query) middle) (rest : List (Rephrasing σ)) :
    (rephraseAll (rephrasing :: rest) query).outcome scene =
        (rephraseAll (other :: rest) query).outcome middle ∧
      sceneAfter (rephraseAll (rephrasing :: rest) query) scene =
        sceneAfter (rephraseAll (other :: rest) query) middle := by
  obtain ⟨hfirst, hfound⟩ := transformOnce_toTransformer rephrasing query scene
  obtain ⟨hsecond, hleft⟩ := transformOnce_toTransformer other query middle
  rw [houtcome, hname, ← hsecond] at hfirst
  rw [hafter, ← hleft] at hfound
  rw [rephraseAll_cons, rephraseAll_cons, outcome_bind, outcome_bind, sceneAfter_bind,
    sceneAfter_bind, hfirst, hfound]
  exact ⟨rfl, rfl⟩

end Rephrasing

/-! ### Runs -/

/-- A call is the first one of the transformer at a position, made in a scene. -/
structure GenerationStep.IsFirst (generation : GenerationStep σ) (position : Nat)
    (rephrasing : Rephrasing σ) (query : Query) (scene : Scene σ) : Prop where
  position_eq : generation.position = position
  call_eq : rephrasing.firstCall query = some generation.call
  before_eq : generation.before = scene

/-- How transformers rephrase a query, the first one at a position: the calls that they make, the
result and the scene that is left. A transformer makes no call, or fails with its callback, or goes
on to ask for a text when it has detected a language, or is done. -/
inductive Rephrases : Nat → List (Rephrasing σ) → Query → Scene σ → List (GenerationStep σ) →
    Except Failure Query → Scene σ → Prop
  | ended {position : Nat} {query : Query} {scene : Scene σ} :
    Rephrases position [] query scene [] (.ok query) scene
  | spared {position : Nat} {rephrasing : Rephrasing σ} {rest : List (Rephrasing σ)}
    {query : Query} {scene last : Scene σ} {generations : List (GenerationStep σ)}
    {result : Except Failure Query} (hspared : rephrasing.firstCall query = none)
    (hrest : Rephrases (position + 1) rest query scene generations result last) :
    Rephrases position (rephrasing :: rest) query scene generations result last
  | failed {position : Nat} {rephrasing : Rephrasing σ} {rest : List (Rephrasing σ)}
    {query : Query} {scene : Scene σ} {generation : GenerationStep σ} {cause : Failure}
    (hfirst : generation.IsFirst position rephrasing query scene)
    (hfailed : generation.outcome = .error cause) :
    Rephrases position (rephrasing :: rest) query scene [generation]
      (.error (shielded (.generationFailed rephrasing.name) cause)) generation.after
  | detected {position : Nat} {language : String} {detect : String → Action σ Value}
    {generate : String → String → Action σ Value} {rest : List (Rephrasing σ)} {query : Query}
    {scene last : Scene σ} {generation : GenerationStep σ}
    {generations : List (GenerationStep σ)} {result : Except Failure Query}
    (hfirst : generation.IsFirst position (.intoLanguage language (some detect) generate) query
      scene)
    (hanswered : generation.Succeeds)
    (hrest : Rephrases position (.intoLanguage language none generate :: rest) query
      generation.after generations result last) :
    Rephrases position (.intoLanguage language (some detect) generate :: rest) query scene
      (generation :: generations) result last
  | done {position : Nat} {rephrasing : Rephrasing σ} {rest : List (Rephrasing σ)}
    {query : Query} {scene last : Scene σ} {generation : GenerationStep σ}
    {generations : List (GenerationStep σ)} {result : Except Failure Query}
    (hfirst : generation.IsFirst position rephrasing query scene)
    (hanswered : generation.Succeeds)
    (hrest : Rephrases (position + 1) rest (query.withText (generation.textAfter query.text))
      generation.settled generations result last) :
    Rephrases position (rephrasing :: rest) query scene (generation :: generations) result last

namespace Rephrasing

variable {rephrasing : Rephrasing σ} {rest : List (Rephrasing σ)} {query : Query}
  {call : GenerationCall} {position : Nat}

/-- The first call of the transformer at a position, as it is made in a scene. -/
def firstGeneration (rephrasing : Rephrasing σ) (position : Nat) (call : GenerationCall)
    (query : Query) (scene : Scene σ) : GenerationStep σ where
  position := position
  call := call
  outcome := (rephrasing.firstAnswer query).outcome scene
  before := scene
  after := sceneAfter (rephrasing.firstAnswer query) scene

/-- The scene after the first call of the transformer at a position, which is recorded. -/
def recordedAfter (rephrasing : Rephrasing σ) (position : Nat) (call : GenerationCall)
    (query : Query) (scene : Scene (Recorded σ (GenerationStep σ))) :
    Scene (Recorded σ (GenerationStep σ)) :=
  (sceneAfter (rephrasing.firstAnswer query) scene.plain).withRecord
    (scene.record ++ [rephrasing.firstGeneration position call query scene.plain])

/-- How a transformer at a position that records its calls goes on from the first one. -/
theorem transform_watched (hcall : rephrasing.firstCall query = some call) (position : Nat)
    (scene : Scene (Recorded σ (GenerationStep σ))) :
    (∀ cause, (rephrasing.firstAnswer query).outcome scene.plain = .error cause →
      ((rephrasing.watched position).transform query).outcome scene =
          .error (shielded (.generationFailed rephrasing.name) cause) ∧
        sceneAfter ((rephrasing.watched position).transform query) scene =
          rephrasing.recordedAfter position call query scene) ∧
    ∀ answer, (rephrasing.firstAnswer query).outcome scene.plain = .ok answer →
      ((rephrasing.watched position).transform query).outcome scene =
          ((rephrasing.watched position).proceed query answer).outcome
            (rephrasing.recordedAfter position call query scene) ∧
        sceneAfter ((rephrasing.watched position).transform query) scene =
          sceneAfter ((rephrasing.watched position).proceed query answer)
            (rephrasing.recordedAfter position call query scene) := by
  have hasked : (rephrasing.watched position).firstCall query = some call :=
    firstCall_watched.trans hcall
  have hscene : sceneAfter (generate rephrasing.name
      ((rephrasing.watched position).firstAnswer query)) scene =
        rephrasing.recordedAfter position call query scene := by
    unfold generate
    rw [sceneAfter_protect, firstAnswer_watched hcall]
    exact sceneAfter_witnessing scene
  have houtcome : (generate rephrasing.name
      ((rephrasing.watched position).firstAnswer query)).outcome scene =
        ((rephrasing.firstAnswer query).outcome scene.plain).mapError
          (shielded (.generationFailed rephrasing.name)) := by
    unfold generate
    rw [outcome_protect, firstAnswer_watched hcall]
    exact congrArg _ (outcome_witnessing scene)
  rw [transform_of_asked hasked, name_watched, ← hscene]
  refine ⟨fun cause hfailed ↦ ?_, fun answer hanswered ↦ ?_⟩
  · rw [hfailed] at houtcome
    exact ⟨outcome_bind_error houtcome _, sceneAfter_bind_error houtcome _⟩
  · rw [hanswered] at houtcome
    exact ⟨outcome_bind_ok houtcome _, sceneAfter_bind_ok houtcome _⟩

/-- Transformers rephrase a query as the rules say, and their calls are appended to the record. -/
def Obeys (position : Nat) (rephrasings : List (Rephrasing σ)) (query : Query)
    (scene : Scene (Recorded σ (GenerationStep σ))) (result : Except Failure Query)
    (last : Scene (Recorded σ (GenerationStep σ))) : Prop :=
  ∃ generations, last.record = scene.record ++ generations ∧
    Rephrases position rephrasings query scene.plain generations result last.plain

variable {scene last : Scene (Recorded σ (GenerationStep σ))} {result : Except Failure Query}

theorem firstGeneration_isFirst (hcall : rephrasing.firstCall query = some call)
    (position : Nat) (scene : Scene σ) :
    (rephrasing.firstGeneration position call query scene).IsFirst position rephrasing query
      scene :=
  ⟨rfl, hcall, rfl⟩

/-- Assumes: a first call that fails. -/
theorem obeys_of_failed {cause : Failure} (hcall : rephrasing.firstCall query = some call)
    (hfailed : (rephrasing.firstAnswer query).outcome scene.plain = .error cause)
    (rest : List (Rephrasing σ)) :
    Obeys position (rephrasing :: rest) query scene
      (.error (shielded (.generationFailed rephrasing.name) cause))
      (rephrasing.recordedAfter position call query scene) :=
  ⟨_, rfl, .failed (firstGeneration_isFirst hcall position scene.plain) hfailed⟩

/-- Assumes: a first call that is answered, a scene that is settled after it, and other
transformers that go on from there. -/
theorem obeys_of_done {answer : Value} {middle : Scene (Recorded σ (GenerationStep σ))}
    (hcall : rephrasing.firstCall query = some call)
    (hanswered : (rephrasing.firstAnswer query).outcome scene.plain = .ok answer)
    (hrecord : middle.record = (rephrasing.recordedAfter position call query scene).record)
    (hsettled : middle.plain =
      (rephrasing.firstGeneration position call query scene.plain).settled)
    (hrest : Obeys (position + 1) rest (query.withText
      ((rephrasing.firstGeneration position call query scene.plain).textAfter query.text))
      middle result last) :
    Obeys position (rephrasing :: rest) query scene result last := by
  obtain ⟨generations, hlast, hrephrases⟩ := hrest
  rw [hsettled] at hrephrases
  refine ⟨rephrasing.firstGeneration position call query scene.plain :: generations, ?_,
    .done (firstGeneration_isFirst hcall position scene.plain) ⟨answer, hanswered⟩ hrephrases⟩
  rw [hlast, hrecord]
  exact List.append_assoc _ _ _

/-- Assumes: a language that is detected, and the same transformer without detection that goes on
from there. -/
theorem obeys_of_detected {language : String} {detect : String → Action σ Value}
    {generate : String → String → Action σ Value} {answer : Value}
    (hanswered : (detect query.text).outcome scene.plain = .ok answer)
    (hrest : Obeys position (.intoLanguage language none generate :: rest) query
      ((intoLanguage language (some detect) generate).recordedAfter position
        (.detect query.text) query scene) result last) :
    Obeys position (.intoLanguage language (some detect) generate :: rest) query scene result
      last := by
  obtain ⟨generations, hlast, hrephrases⟩ := hrest
  refine ⟨(intoLanguage language (some detect) generate).firstGeneration position
    (.detect query.text) query scene.plain :: generations, ?_,
    .detected (firstGeneration_isFirst rfl position scene.plain) ⟨answer, hanswered⟩ hrephrases⟩
  rw [hlast]
  exact List.append_assoc _ _ _

/-- The run of transformers that record their calls obeys the rules. -/
def RunObeys (position : Nat) (rephrasings : List (Rephrasing σ)) (query : Query)
    (scene : Scene (Recorded σ (GenerationStep σ))) : Prop :=
  Obeys position rephrasings query scene
    ((rephraseAll (watchedFrom position rephrasings) query).outcome scene)
    (sceneAfter (rephraseAll (watchedFrom position rephrasings) query) scene)

theorem watchedFrom_cons (position : Nat) (rephrasing : Rephrasing σ)
    (rest : List (Rephrasing σ)) :
    watchedFrom position (rephrasing :: rest) =
      rephrasing.watched position :: watchedFrom (position + 1) rest := rfl

theorem runObeys_of_spared (hspared : rephrasing.firstCall query = none)
    (hrest : RunObeys (position + 1) rest query scene) :
    RunObeys position (rephrasing :: rest) query scene := by
  have htransform : (rephrasing.watched position).transform query = pure query :=
    transform_of_spared (firstCall_watched.trans hspared)
  have hok : ((rephrasing.watched position).transform query).outcome scene = .ok query := by
    rw [htransform, outcome_pure]
  obtain ⟨houtcome, hafter⟩ := rephraseAll_of_ok hok (watchedFrom (position + 1) rest)
  rw [htransform, sceneAfter_pure] at houtcome hafter
  unfold RunObeys
  rw [watchedFrom_cons, houtcome, hafter]
  obtain ⟨generations, hrecord, hrephrases⟩ := hrest
  exact ⟨generations, hrecord, .spared hspared hrephrases⟩

theorem runObeys_of_failed {cause : Failure} (hcall : rephrasing.firstCall query = some call)
    (hfailed : (rephrasing.firstAnswer query).outcome scene.plain = .error cause)
    (rest : List (Rephrasing σ)) : RunObeys position (rephrasing :: rest) query scene := by
  obtain ⟨herror, hlast⟩ := (transform_watched hcall position scene).1 cause hfailed
  obtain ⟨houtcome, hafter⟩ := rephraseAll_of_error herror
    (passesThrough_shielded (fun _ ↦ rfl) cause) (watchedFrom (position + 1) rest)
  unfold RunObeys
  rw [watchedFrom_cons, houtcome, hafter, hlast]
  exact obeys_of_failed hcall hfailed rest

/-- Assumes: a transformer that asks for a text and nothing before. -/
theorem runObeys_of_isForText (hcall : rephrasing.firstCall query = some call)
    (htext : call.isForText = true) (hanswers : rephrasing.AnswersText)
    (hrest : ∀ query scene, RunObeys (position + 1) rest query scene) :
    RunObeys position (rephrasing :: rest) query scene := by
  cases hanswered : (rephrasing.firstAnswer query).outcome scene.plain with
  | error cause => exact runObeys_of_failed hcall hanswered rest
  | ok answer =>
    have hoffered : (rephrasing.firstGeneration position call query scene.plain).offered =
        some answer := by
      unfold GenerationStep.offered firstGeneration
      rw [if_pos htext, hanswered]
      rfl
    obtain ⟨hgoes, hleaves⟩ := (transform_watched hcall position scene).2 answer hanswered
    rw [proceed_of_isForText (firstCall_watched.trans hcall) htext, name_watched] at hgoes hleaves
    obtain ⟨hgenerated, hwarned⟩ := withGenerated_spec
      (hanswers.firstAnswer query scene.plain answer hanswered) hoffered query rephrasing.name
      (rephrasing.recordedAfter position call query scene)
    rw [hgenerated] at hgoes
    rw [hwarned] at hleaves
    obtain ⟨houtcome, hafter⟩ := rephraseAll_of_ok hgoes (watchedFrom (position + 1) rest)
    unfold RunObeys
    rw [watchedFrom_cons, houtcome, hafter, hleaves]
    refine obeys_of_done hcall hanswered ?_ ?_ (hrest _ _)
    · cases answer.isBlank <;> rfl
    · unfold GenerationStep.settled
      rw [hoffered, Option.any_some]
      cases answer.isBlank with
      | false => rfl
      | true => rw [← (firstCall_spec hcall).2.1]; rfl

/-- Assumes: a transformer that asks for the language of a text first. -/
theorem runObeys_of_detect {language : String} {detect : String → Action σ Value}
    {generate : String → String → Action σ Value}
    (hanswers : (intoLanguage language (some detect) generate).AnswersText)
    (hrest : ∀ query scene, RunObeys (position + 1) rest query scene) :
    RunObeys position (.intoLanguage language (some detect) generate :: rest) query scene := by
  have hcall : (intoLanguage language (some detect) generate).firstCall query =
    some (.detect query.text) := rfl
  cases hanswered : (detect query.text).outcome scene.plain with
  | error cause => exact runObeys_of_failed hcall hanswered rest
  | ok answer =>
    obtain ⟨hgoes, hleaves⟩ := (transform_watched hcall position scene).2 answer hanswered
    obtain ⟨settled, htarget⟩ :=
      isTarget_of_isGenerated language (hanswers.firstAnswer query scene.plain answer hanswered)
    have hproceed : ((intoLanguage language (some detect) generate).watched position).proceed query
        answer = if settled then pure query
          else ((intoLanguage language none generate).watched position).transform query := by
      show (Action.ofExcept (isTarget language answer) >>= fun settled ↦ _) = _
      rw [htarget]
      rfl
    rw [hproceed] at hgoes hleaves
    unfold RunObeys
    rw [watchedFrom_cons]
    cases settled with
    | true =>
      rw [if_pos rfl] at hgoes hleaves
      obtain ⟨houtcome, hafter⟩ := rephraseAll_of_ok hgoes (watchedFrom (position + 1) rest)
      rw [houtcome, hafter, hleaves]
      exact obeys_of_done hcall hanswered rfl rfl (hrest _ _)
    | false =>
      rw [if_neg Bool.false_ne_true] at hgoes hleaves
      have hname : ((intoLanguage language (some detect) generate).watched position).name =
        ((intoLanguage language none generate).watched position).name := rfl
      obtain ⟨houtcome, hafter⟩ := rephraseAll_congr hname hgoes hleaves
        (watchedFrom (position + 1) rest)
      rw [houtcome, hafter]
      exact obeys_of_detected hanswered
        (runObeys_of_isForText rfl rfl hanswers.undetected hrest)

/-- Assumes: callbacks that answer with a text or null, if they answer. Every run obeys the
rules. -/
theorem runObeys (rephrasings : List (Rephrasing σ))
    (hanswers : ∀ rephrasing ∈ rephrasings, rephrasing.AnswersText) (position : Nat)
    (query : Query) (scene : Scene (Recorded σ (GenerationStep σ))) :
    RunObeys position rephrasings query scene := by
  induction rephrasings generalizing position query scene with
  | nil => exact ⟨[], (List.append_nil _).symm, .ended⟩
  | cons rephrasing rest ih =>
    obtain ⟨hfirst, hothers⟩ := List.forall_mem_cons.mp hanswers
    have hrest := ih hothers (position + 1)
    match rephrasing, hfirst with
    | .compression callback, hfirst =>
      cases hcall : (compression callback).firstCall query with
      | none => exact runObeys_of_spared hcall (hrest query scene)
      | some call =>
        obtain ⟨-, rfl⟩ := firstCall_compression_iff.mp hcall
        exact runObeys_of_isForText hcall rfl hfirst hrest
    | .forSystem system callback, hfirst => exact runObeys_of_isForText rfl rfl hfirst hrest
    | .intoLanguage language none callback, hfirst =>
      exact runObeys_of_isForText rfl rfl hfirst hrest
    | .intoLanguage language (some detect) callback, hfirst => exact runObeys_of_detect hfirst hrest

end Rephrasing

end Grounding
