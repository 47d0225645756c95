import Grounding.Proofs.Rephrasing.Runs

/-!
# Queries that are in their language

A transformer that detects the language of a query compares what it is told with its target. White
space at the ends of the detected language does not count, and neither does case; of the target,
only the case does not count. The two sides are therefore compared fairly exactly if the target has
no white space at its ends (`Rephrasing.isTarget_of_names`). Otherwise nothing that names the target
is recognized as the target, since a text in lower case is longer than its lower case without the
white space (`Text.lower_strip_eq_iff`).

`Rephrasing.calls` are the calls that a transformer makes for a query. A recognized language is the
end of them (`Rephrasing.transform_of_recognized`); after any other one a text is asked for, and the
transformer goes on as one without detection (`Rephrasing.transform_of_unrecognized`).

Main statement: `Rephrasing.transform_leaves_target`. A target with a blank in front of it is a case
in which a query in that language is translated (`Rephrasing.transform_translates_target`).
-/

set_option autoImplicit false
set_option relaxedAutoImplicit false

namespace Grounding

open Grounding.Action
open Grounding.Stream (sceneAfter)

variable {σ : Type}

/-! ### Lower case and white space -/

namespace Text

/-- In lower case only a dotted capital I is two characters, wherever the text stands. -/
theorem length_lowerFrom (before text : List Char) :
    (lowerFrom before text).length = text.length + text.count 'İ' := by
  induction text generalizing before with
  | nil => rfl
  | cons c rest ih =>
    unfold lowerFrom
    rw [List.length_append, ih, List.length_cons, List.count_cons]
    by_cases hdotted : c = 'İ'
    · subst hdotted
      show 2 + (rest.length + rest.count 'İ') = rest.length + 1 + (rest.count 'İ' + 1)
      omega
    · have hlength : (if c = 'Σ' then
          if meetsCased before && !meetsCased rest then ['ς'] else ['σ']
        else if c = 'İ' then ['i', '\u0307'] else [lowerChar c]).length = 1 := by
        rw [if_neg hdotted]
        split
        · split <;> rfl
        · rfl
      rw [hlength, beq_eq_false_iff_ne.mpr hdotted, if_neg Bool.false_ne_true]
      omega

theorem sublist_stripChars (text : List Char) : (stripChars text).Sublist text := by
  have hend := (List.dropWhile_sublist isSpace (l := (text.dropWhile isSpace).reverse)).reverse
  rw [List.reverse_reverse] at hend
  exact hend.trans (List.dropWhile_sublist isSpace)

/-- Removing the white space at the ends of a text changes its lower case, if there is any. -/
theorem lower_strip_eq_iff (text : String) :
    lower (strip text) = lower text ↔ strip text = text := by
  constructor
  · intro h
    have hlength := congrArg (fun text ↦ text.toList.length) h
    simp only [lower, strip, String.toList_ofList, length_lowerFrom] at hlength
    have hpart := sublist_stripChars text.toList
    have hshorter := hpart.length_le
    have hfewer := hpart.count_le 'İ'
    have hsame : stripChars text.toList = text.toList :=
      hpart.eq_of_length_le (by omega)
    rw [strip, hsame, String.ofList_toList]
  · intro h
    rw [h]

end Text

/-! ### Recognized languages -/

namespace Rephrasing

variable {rephrasing : Rephrasing σ} {query : Query} {language reported : String}
  {detect : String → Action σ Value} {generate : String → String → Action σ Value}

/-- A text names a language: it is the same up to the white space at the ends and case. -/
def Names (reported language : String) : Prop :=
  Text.lower (Text.strip reported) = Text.lower (Text.strip language)

instance (reported language : String) : Decidable (Names reported language) :=
  inferInstanceAs (Decidable (_ = _))

/-- What names the target is recognized exactly if the target has no white space at its ends. -/
theorem isTarget_of_names (h : Names reported language) :
    isTarget language (.text reported) = .ok (decide (Text.strip language = language)) := by
  show Except.ok (Text.lower (Text.strip reported) == Text.lower language) = _
  rw [h, beq_eq_decide, decide_eq_decide.mpr (Text.lower_strip_eq_iff language)]

/-- The calls that a transformer makes for a query, in order. -/
def calls (rephrasing : Rephrasing σ) (query : Query) (scene : Scene σ) : List GenerationCall :=
  (sceneAfter ((rephrasing.watched 0).transform query) (scene.withRecord [])).record.map
    GenerationStep.call

/-- What a transformer makes of an answer to a call for a text is no call. -/
theorem record_withGenerated {ε : Type} (query : Query) (transformer : String) (answer : Value)
    (scene : Scene (Recorded σ ε)) :
    (sceneAfter (query.withGenerated transformer answer) scene).record = scene.record := by
  have hfinish (text : String) : (sceneAfter (if text.isEmpty then
      warn (.emptyGeneration transformer) >>= fun _ ↦ pure query
    else pure (query.withText text)) scene).record = scene.record := by
    split <;> rfl
  cases answer with
  | null => exact hfinish ""
  | text content =>
    have hstripped : (Value.text content).stripped = .ok (Text.strip content) := rfl
    generalize Text.strip content = stripped at hstripped
    unfold Query.withGenerated
    dsimp only
    rw [hstripped]
    exact hfinish stripped
  | _ => rfl

/-- How a transformer that records its calls goes on from a detected language. -/
theorem proceed_watched_of_isTarget {settled : Bool} {answer : Value}
    (h : isTarget language answer = .ok settled) (position : Nat) :
    ((intoLanguage language (some detect) generate).watched position).proceed query answer =
      if settled then pure query
      else ((intoLanguage language none generate).watched position).transform query := by
  show (Action.ofExcept (isTarget language answer) >>= fun settled ↦ _) = _
  rw [h]
  rfl

/-- The calls of a transformer that does not detect languages: it asks for a text. -/
theorem record_transform_undetected (language : String)
    (generate : String → String → Action σ Value) (query : Query)
    (scene : Scene (Recorded σ (GenerationStep σ))) :
    (sceneAfter (((intoLanguage language none generate).watched 0).transform query)
        scene).record.map GenerationStep.call =
      scene.record.map GenerationStep.call ++ [.translate query.text language] := by
  have hcall : (intoLanguage language none generate).firstCall query =
    some (.translate query.text language) := rfl
  obtain ⟨hfailed, hanswered⟩ := transform_watched hcall 0 scene
  cases houtcome : (generate query.text language).outcome scene.plain with
  | error cause =>
    rw [(hfailed cause houtcome).2]
    exact List.map_append
  | ok answer =>
    rw [(hanswered answer houtcome).2, proceed_of_isForText rfl rfl, record_withGenerated]
    exact List.map_append

section Detected

variable {answer : Value} {scene : Scene σ}

variable (generate) in
/-- Assumes: a detected language. The transformer that records its calls goes on as the answer
compares to the target, and has recorded this call. -/
theorem watched_of_isTarget {settled : Bool}
    (hdetected : (detect query.text).outcome scene = .ok answer)
    (htarget : isTarget language answer = .ok settled) :
    ∃ recorded : Scene (Recorded σ (GenerationStep σ)),
      recorded.plain = sceneAfter (detect query.text) scene ∧
      recorded.record.map GenerationStep.call = [.detect query.text] ∧
      ((intoLanguage language (some detect) generate).transform query).outcome scene =
        (if settled then pure query else ((intoLanguage language none generate).watched 0).transform
          query : Action (Recorded σ (GenerationStep σ)) Query).outcome recorded ∧
      sceneAfter ((intoLanguage language (some detect) generate).transform query) scene =
        (sceneAfter (if settled then pure query else
          ((intoLanguage language none generate).watched 0).transform query) recorded).plain ∧
      (intoLanguage language (some detect) generate).calls query scene =
        (sceneAfter (if settled then pure query else
          ((intoLanguage language none generate).watched 0).transform query)
            recorded).record.map GenerationStep.call := by
  have hcall : (intoLanguage language (some detect) generate).firstCall query =
    some (.detect query.text) := rfl
  obtain ⟨houtcome, hafter⟩ :=
    (transform_watched hcall 0 (scene.withRecord [])).2 answer hdetected
  obtain ⟨hplain, hleft⟩ := watched_simulates (intoLanguage language (some detect) generate) 0
    query (scene.withRecord []) scene rfl
  rw [proceed_watched_of_isTarget htarget] at houtcome hafter
  refine ⟨_, rfl, ?_, hplain.symm.trans houtcome, hleft.symm.trans (congrArg Scene.plain hafter),
    congrArg (fun scene ↦ scene.record.map GenerationStep.call) hafter⟩
  rfl

/-- Assumes: a detected language that is recognized as the target. The query is left as it is, and
no text is asked for. -/
theorem transform_of_recognized (hdetected : (detect query.text).outcome scene = .ok answer)
    (htarget : isTarget language answer = .ok true) :
    ((intoLanguage language (some detect) generate).transform query).outcome scene = .ok query ∧
      sceneAfter ((intoLanguage language (some detect) generate).transform query) scene =
        sceneAfter (detect query.text) scene ∧
      (intoLanguage language (some detect) generate).calls query scene =
        [.detect query.text] := by
  obtain ⟨recorded, hplain, hrecord, houtcome, hafter, hcalls⟩ :=
    watched_of_isTarget generate hdetected htarget
  exact ⟨houtcome, hafter.trans hplain, hcalls.trans hrecord⟩

/-- Assumes: a detected language that is not recognized as the target. A text in the target language
is asked for, as without detection. -/
theorem transform_of_unrecognized (hdetected : (detect query.text).outcome scene = .ok answer)
    (htarget : isTarget language answer = .ok false) :
    ((intoLanguage language (some detect) generate).transform query).outcome scene =
        ((intoLanguage language none generate).transform query).outcome
          (sceneAfter (detect query.text) scene) ∧
      sceneAfter ((intoLanguage language (some detect) generate).transform query) scene =
        sceneAfter ((intoLanguage language none generate).transform query)
          (sceneAfter (detect query.text) scene) ∧
      (intoLanguage language (some detect) generate).calls query scene =
        [.detect query.text, .translate query.text language] := by
  obtain ⟨recorded, hplain, hrecord, houtcome, hafter, hcalls⟩ :=
    watched_of_isTarget generate hdetected htarget
  obtain ⟨hsame, hleft⟩ := watched_simulates (intoLanguage language none generate) 0 query recorded
    (sceneAfter (detect query.text) scene) hplain
  refine ⟨houtcome.trans hsame, hafter.trans hleft, ?_⟩
  rw [hcalls, if_neg Bool.false_ne_true, record_transform_undetected, hrecord]
  rfl

/-- Assumes: a transformer that was made for a target, and a detected language that names it. If the
target has no white space at its ends, the query is left as it is and no text is asked for. If it
has, a text in the target language is asked for all the same, and the transformer ends as it would
without detection. -/
theorem transform_leaves_target {rephrasing : Rephrasing σ}
    (hmade : spokenIn language (some detect) generate = .ok rephrasing)
    (hdetected : (detect query.text).outcome scene = .ok (.text reported))
    (hnames : Names reported language) :
    (Text.strip language = language →
      (rephrasing.transform query).outcome scene = .ok query ∧
        sceneAfter (rephrasing.transform query) scene = sceneAfter (detect query.text) scene ∧
        rephrasing.calls query scene = [.detect query.text]) ∧
    (Text.strip language ≠ language →
      (rephrasing.transform query).outcome scene =
          ((intoLanguage language none generate).transform query).outcome
            (sceneAfter (detect query.text) scene) ∧
        sceneAfter (rephrasing.transform query) scene =
          sceneAfter ((intoLanguage language none generate).transform query)
            (sceneAfter (detect query.text) scene) ∧
        rephrasing.calls query scene = [.detect query.text, .translate query.text language]) := by
  have htarget := isTarget_of_names hnames
  obtain rfl : intoLanguage language (some detect) generate = rephrasing := by
    unfold spokenIn at hmade
    split at hmade
    · cases hmade
    · exact Except.ok.inj hmade
  refine ⟨fun hclean ↦ ?_, fun hpadded ↦ ?_⟩
  · rw [decide_eq_true hclean] at htarget
    exact transform_of_recognized hdetected htarget
  · rw [decide_eq_false hpadded] at htarget
    exact transform_of_unrecognized hdetected htarget

end Detected

/-- A callback that finds every text to be in one language. -/
def finding (language : String) : String → Action Unit Value :=
  fun _ ↦ pure (.text language)

/-- A callback that has one translation for every text. -/
def translating : String → String → Action Unit Value :=
  fun _ _ ↦ pure (.text "translated")

/-- Blanks around the detected language do not matter, but one in front of the target does. -/
theorem transform_leaves_target_english :
    (∃ rephrasing, spokenIn "English" (some (finding " english ")) translating = .ok rephrasing ∧
      Names " english " "English" ∧ Text.strip "English" = "English" ∧
      (rephrasing.transform ⟨"hi", [], []⟩).outcome ⟨(), []⟩ = .ok ⟨"hi", [], []⟩ ∧
      rephrasing.calls ⟨"hi", [], []⟩ ⟨(), []⟩ = [.detect "hi"]) ∧
    ∃ rephrasing, spokenIn " English" (some (finding "english")) translating = .ok rephrasing ∧
      Names "english" " English" ∧ Text.strip " English" ≠ " English" ∧
      rephrasing.calls ⟨"hi", [], []⟩ ⟨(), []⟩ = [.detect "hi", .translate "hi" " English"] := by
  have hclean : Text.strip "English" = "English" := by decide +kernel
  have hpadded : Text.strip " English" ≠ " English" := by decide +kernel
  have hnames : Names " english " "English" := by decide +kernel
  have hothers : Names "english" " English" := by decide +kernel
  have hmade : spokenIn "English" (some (finding " english ")) translating =
    .ok (.intoLanguage "English" (some (finding " english ")) translating) := if_neg (by decide)
  have hallowed : spokenIn " English" (some (finding "english")) translating =
    .ok (.intoLanguage " English" (some (finding "english")) translating) := if_neg (by decide)
  have hdetected : (finding " english " (⟨"hi", [], []⟩ : Query).text).outcome ⟨(), []⟩ =
    .ok (.text " english ") := rfl
  have hreported : (finding "english" (⟨"hi", [], []⟩ : Query).text).outcome ⟨(), []⟩ =
    .ok (.text "english") := rfl
  obtain ⟨hkept, -, hcalls⟩ := (transform_leaves_target hmade hdetected hnames).1 hclean
  obtain ⟨-, -, hmore⟩ := (transform_leaves_target hallowed hreported hothers).2 hpadded
  exact ⟨⟨_, hmade, hnames, hclean, hkept, hcalls⟩, ⟨_, hallowed, hothers, hpadded, hmore⟩⟩

/-- The target is accepted and reported as it is, and the query is translated into it. -/
theorem transform_translates_target :
    spokenIn " english" (some (finding " english")) translating =
        .ok (.intoLanguage " english" (some (finding " english")) translating) ∧
      ((intoLanguage " english" (some (finding " english")) translating).transform
        ⟨"hi", [], []⟩).outcome ⟨(), []⟩ = .ok ⟨"translated", [], []⟩ ∧
      (intoLanguage " english" (some (finding " english")) translating).calls
        ⟨"hi", [], []⟩ ⟨(), []⟩ = [.detect "hi", .translate "hi" " english"] := by
  have htarget : isTarget " english" (.text " english") = .ok false :=
    congrArg Except.ok (by decide +kernel)
  have hdetected : (finding " english" (⟨"hi", [], []⟩ : Query).text).outcome ⟨(), []⟩ =
    .ok (.text " english") := rfl
  obtain ⟨houtcome, -, hcalls⟩ := transform_of_unrecognized hdetected htarget
  refine ⟨if_neg (by decide), houtcome.trans ?_, hcalls⟩
  rfl

end Rephrasing

end Grounding
