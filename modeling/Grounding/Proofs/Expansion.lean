import Mathlib.Data.List.ReduceOption
import Grounding.QueryExpander
import Grounding.Proofs.Pipeline.Recording

/-!
# How many queries an expansion gives

A generation callback answers with suggestions: a list of texts and nulls, or null
(`Value.suggestions`). Those that are not blank count, without the white space at their ends
(`usableSuggestions`), and they are what the expander reads off the answer
(`variations_suggestions`).

From there on an expansion is a function of the usable texts (`MultiQueryExpander.settle`). If there
are too few of them, the query is kept alone and a warning is given. Otherwise the first ones are
taken, as many as are needed (`MultiQueryExpander.fanOut`). With the query that was asked, which
fills one of the places, these are as many queries as the expander is set to (`length_fanOut`).

The calls of the callback are seen in the run of an expander that records them
(`MultiQueryExpander.recording`). Whatever the callback does there is at most one, with the text of
the query and the number that is needed (`calls_eq`).

Main statement: `MultiQueryExpander.expand_fansOut`.
-/

set_option autoImplicit false
set_option relaxedAutoImplicit false

namespace Grounding

open Grounding.Action
open Grounding.Stream (sceneAfter)

variable {σ : Type}

/-! ### Suggestions -/

/-- The answer of a callback that suggests texts, some of which are missing, or nothing at all. -/
def Value.suggestions : Option (List (Option String)) → Value
  | none => .null
  | some texts => .list (texts.map fun suggestion ↦ suggestion.elim .null .text)

/-- The suggested texts that are not blank, without the white space at their ends. -/
def usableSuggestions (suggested : Option (List (Option String))) : List String :=
  ((suggested.getD []).reduceOption.filter fun text ↦ !Text.isBlank text).map Text.strip

/-- A text in front of other values is usable if it is not blank. -/
theorem usableTexts_text (text : String) (rest : List Value) :
    usableTexts (.text text :: rest) =
      (usableTexts rest).map fun others ↦
        if Text.isBlank text then others else Text.strip text :: others := by
  rw [usableTexts]
  by_cases hempty : text = ""
  · subst hempty
    cases usableTexts rest <;> rfl
  · have htrue : Value.isTrue (.text text) = true := by simpa [Value.isTrue] using hempty
    rw [if_pos htrue]
    cases usableTexts rest with
    | error failure => rfl
    | ok others =>
      refine congrArg Except.ok ?_
      by_cases hblank : Text.isBlank text = true
      · simp [hblank, Text.isBlank_iff_strip.mp hblank]
      · have hstrip := mt Text.isBlank_iff_strip.mpr hblank
        simp [hblank, hstrip]

theorem usableTexts_suggestions (texts : List (Option String)) :
    usableTexts (texts.map fun suggestion ↦ suggestion.elim .null .text) =
      .ok (usableSuggestions (some texts)) := by
  induction texts with
  | nil => rfl
  | cons suggestion rest ih =>
    cases suggestion with
    | none => exact ih
    | some text =>
      rw [List.map_cons, Option.elim_some, usableTexts_text, ih]
      by_cases hblank : Text.isBlank text = true
      · simp [usableSuggestions, List.reduceOption_cons_of_some, hblank, Except.map]
      · simp [usableSuggestions, List.reduceOption_cons_of_some, hblank, Except.map]

/-- The variations that an expander reads off suggestions are the usable ones. -/
theorem variations_suggestions (suggested : Option (List (Option String))) :
    variations (Value.suggestions suggested) = .ok (usableSuggestions suggested) := by
  match suggested with
  | none => rfl
  | some [] => rfl
  | some (suggestion :: rest) => exact usableTexts_suggestions (suggestion :: rest)

namespace MultiQueryExpander

/-! ### Settling an expansion -/

/-- The query that was asked, if it is to be among them, and the first of the texts, as many as are
needed. -/
def fanOut (expander : MultiQueryExpander σ) (query : Query) (texts : List String) : List Query :=
  (if expander.includeAsked then [query] else []) ++
    (texts.take expander.needed.toNat).map query.withText

/-- The end of an expansion, when the usable texts are known. -/
def settle (expander : MultiQueryExpander σ) (query : Query) (texts : List String) :
    Action σ (List Query) :=
  if texts.length < expander.needed then do
    Action.warn (.tooFewVariations expander.needed texts.length)
    return [query]
  else
    return expander.fanOut query texts

variable {expander : MultiQueryExpander σ} {query : Query} {texts : List String}

theorem expand_of_none_needed (h : expander.needed = 0) (query : Query) :
    expander.expand query = pure [query] :=
  if_pos h

/-- An expansion that needs texts asks for them and settles with those that are usable. -/
theorem expand_eq (h : expander.needed ≠ 0) (query : Query) :
    expander.expand query =
      (Grounding.generate name (expander.generate query.text expander.needed) >>= fun answer ↦
        Action.ofExcept (variations answer) >>= expander.settle query) := by
  unfold expand
  rw [if_neg h]
  congr 1
  funext answer
  congr 1
  funext texts
  unfold settle fanOut
  cases expander.includeAsked <;> rfl

/-- Assumes: fewer texts than are needed. The query is kept alone, with one warning. -/
theorem settle_of_few (h : texts.length < expander.needed) (query : Query) (scene : Scene σ) :
    (expander.settle query texts).outcome scene = .ok [query] ∧
      sceneAfter (expander.settle query texts) scene =
        sceneAfter (Action.warn (.tooFewVariations expander.needed texts.length)) scene := by
  unfold settle
  rw [if_pos h]
  exact ⟨rfl, rfl⟩

/-- Assumes: as many texts as are needed, or more. Nothing happens but that the query fans out. -/
theorem settle_of_enough (h : expander.needed ≤ texts.length) (query : Query)
    (scene : Scene σ) :
    (expander.settle query texts).outcome scene = .ok (expander.fanOut query texts) ∧
      sceneAfter (expander.settle query texts) scene = scene := by
  unfold settle
  rw [if_neg (by omega)]
  exact ⟨rfl, rfl⟩

/-- Assumes: an expander for at least one query, and as many texts as are needed. It fans out to as
many queries as it is set to. -/
theorem length_fanOut (hcount : 1 ≤ expander.numberOfQueries)
    (h : expander.needed ≤ texts.length) (query : Query) :
    ((expander.fanOut query texts).length : Int) = expander.numberOfQueries := by
  have hneeded : expander.needed = expander.numberOfQueries -
      (if expander.includeAsked then [query] else []).length := by
    unfold needed
    cases expander.includeAsked <;> simp
  have htaken : (texts.take expander.needed.toNat).length = expander.needed.toNat := by
    rw [List.length_take]
    omega
  unfold fanOut
  rw [List.length_append, List.length_map, htaken]
  cases hasked : expander.includeAsked <;> simp [hasked] at hneeded ⊢ <;> omega

/-- Every query that an expander fans out to has the history and the context of the one asked. -/
theorem mem_fanOut {each : Query} (h : each ∈ expander.fanOut query texts) :
    each.history = query.history ∧ each.context = query.context := by
  rcases List.mem_append.mp h with hasked | hvaried
  · obtain rfl : each = query := by
      cases hincluded : expander.includeAsked <;> simp [hincluded] at hasked
      exact hasked
    exact ⟨rfl, rfl⟩
  · obtain ⟨text, -, rfl⟩ := List.mem_map.mp hvaried
    exact ⟨rfl, rfl⟩

/-! ### Calls -/

/-- The expander with a callback that records what it is called with. -/
def recording (expander : MultiQueryExpander σ) :
    MultiQueryExpander (Recorded σ (String × Int)) where
  generate text count := (expander.generate text count).logging fun _ _ ↦ [(text, count)]
  numberOfQueries := expander.numberOfQueries
  includeAsked := expander.includeAsked

theorem recording_generate (expander : MultiQueryExpander σ) (text : String) (count : Int) :
    expander.recording.generate text count =
      (expander.generate text count).logging fun _ _ ↦ [(text, count)] := rfl

/-- What the callback is called with during an expansion, in order. -/
def calls (expander : MultiQueryExpander σ) (query : Query) (scene : Scene σ) :
    List (String × Int) :=
  (sceneAfter (expander.recording.expand query) (scene.withRecord [])).record

theorem settle_simulates (expander : MultiQueryExpander σ) (query : Query) (texts : List String) :
    Action.Simulates Forgets (expander.recording.settle query texts)
      (expander.settle query texts) := by
  show Action.Simulates Forgets (if texts.length < expander.needed then _ else _)
    (if texts.length < expander.needed then _ else _)
  by_cases hfew : texts.length < expander.needed
  · rw [if_pos hfew, if_pos hfew]
    exact simulates_bind (simulates_warn _ (warnsAlike_forgets _)) fun _ ↦ simulates_pure _
  · rw [if_neg hfew, if_neg hfew]
    exact simulates_pure _

/-- Recording the calls changes no expansion. -/
theorem recording_simulates (expander : MultiQueryExpander σ) (query : Query) :
    Action.Simulates Forgets (expander.recording.expand query) (expander.expand query) := by
  by_cases hneeded : expander.needed = 0
  · have hrecorded : expander.recording.needed = 0 := hneeded
    rw [expand_of_none_needed hneeded, expand_of_none_needed hrecorded]
    exact simulates_pure [query]
  · have hrecorded : expander.recording.needed ≠ 0 := hneeded
    rw [expand_eq hneeded, expand_eq hrecorded]
    have hgenerate : Action.Simulates Forgets
        (expander.recording.generate query.text expander.needed)
        (expander.generate query.text expander.needed) := by
      rw [recording_generate]
      exact simulates_logging
    refine simulates_bind (simulates_protect _ hgenerate) fun answer ↦ ?_
    exact simulates_bind (simulates_ofExcept _) (settle_simulates expander query)

theorem record_settle {ε : Type} (expander : MultiQueryExpander (Recorded σ ε)) (query : Query)
    (texts : List String) (scene : Scene (Recorded σ ε)) :
    (sceneAfter (expander.settle query texts) scene).record = scene.record := by
  by_cases hfew : texts.length < expander.needed
  · rw [(settle_of_few hfew query scene).2]
    rfl
  · rw [(settle_of_enough (by omega) query scene).2]

/-- Whatever the callback does, it is called once with the text of the query and the number that is
needed, or not at all if none is. -/
theorem calls_eq (expander : MultiQueryExpander σ) (query : Query) (scene : Scene σ) :
    expander.calls query scene =
      if expander.needed = 0 then [] else [(query.text, expander.needed)] := by
  unfold calls
  by_cases hneeded : expander.needed = 0
  · have hrecorded : expander.recording.needed = 0 := hneeded
    rw [if_pos hneeded, expand_of_none_needed hrecorded]
    rfl
  · have hrecorded : expander.recording.needed ≠ 0 := hneeded
    rw [if_neg hneeded, expand_eq hrecorded]
    have hcalled : (sceneAfter (Grounding.generate name
        (expander.recording.generate query.text expander.needed)) (scene.withRecord [])).record =
          [(query.text, expander.needed)] := by
      unfold Grounding.generate
      rw [sceneAfter_protect, recording_generate, sceneAfter_logging]
      rfl
    rw [sceneAfter_bind]
    split
    · rename_i answer _
      rw [sceneAfter_bind, outcome_ofExcept, sceneAfter_ofExcept]
      cases variations answer with
      | error failure => exact hcalled
      | ok texts =>
        rw [← hcalled]
        apply record_settle
    · exact hcalled

/-! ### Expansions -/

/-- The scene that the callback leaves, if it is called. -/
def called (expander : MultiQueryExpander σ) (query : Query) (scene : Scene σ) : Scene σ :=
  if expander.needed = 0 then scene
  else sceneAfter (expander.generate query.text expander.needed) scene

/-- What an expansion comes to, given the usable texts: queries, at least one, with the history and
the context of the one that was asked. If there are too few texts, this is the query alone, and one
warning is given. Otherwise there are as many queries as the expander is set to. -/
structure FansOut (expander : MultiQueryExpander σ) (query : Query) (scene : Scene σ)
    (texts : List String) (expanded : List Query) : Prop where
  outcome : (expander.expand query).outcome scene = .ok expanded
  nonempty : expanded ≠ []
  kept : ∀ each ∈ expanded, each.history = query.history ∧ each.context = query.context
  abandoned : texts.length < expander.needed → expanded = [query] ∧
    sceneAfter (expander.expand query) scene =
      sceneAfter (Action.warn (.tooFewVariations expander.needed texts.length))
        (expander.called query scene)
  complete : expander.needed ≤ texts.length → expanded.length = expander.numberOfQueries ∧
    expanded = (if expander.includeAsked then [query] else []) ++
      (texts.take expander.needed.toNat).map query.withText ∧
    sceneAfter (expander.expand query) scene = expander.called query scene

/-- Assumes: an expander for one query, which is the one that is asked. -/
theorem fansOut_of_none_needed (hcount : 1 ≤ expander.numberOfQueries)
    (h : expander.needed = 0) (query : Query) (scene : Scene σ) (texts : List String) :
    expander.FansOut query scene texts [query] := by
  have hasked : expander.includeAsked = true := by
    by_contra hothers
    have : expander.needed = expander.numberOfQueries := if_neg hothers
    omega
  have hone : expander.numberOfQueries = 1 := by
    have : expander.needed = expander.numberOfQueries - 1 := if_pos hasked
    omega
  constructor
  case outcome => rw [expand_of_none_needed h, outcome_pure]
  case nonempty => simp
  case kept => simp
  case abandoned =>
    intro hfew
    omega
  case complete =>
    intro _
    simp [hasked, hone, h, expand_of_none_needed, called]

/-- Assumes: a callback that answers with suggestions. The expansion settles with those that are
usable. -/
theorem expand_settles {suggested : Option (List (Option String))} {scene : Scene σ}
    (hneeded : expander.needed ≠ 0)
    (hanswer : (expander.generate query.text expander.needed).outcome scene =
      .ok (Value.suggestions suggested)) :
    (expander.expand query).outcome scene =
        (expander.settle query (usableSuggestions suggested)).outcome
          (expander.called query scene) ∧
      sceneAfter (expander.expand query) scene =
        sceneAfter (expander.settle query (usableSuggestions suggested))
          (expander.called query scene) := by
  have hgenerated : (Grounding.generate name
      (expander.generate query.text expander.needed)).outcome scene =
        .ok (Value.suggestions suggested) := outcome_protect_eq_ok_iff.mpr hanswer
  have hcalled : sceneAfter (Grounding.generate name
      (expander.generate query.text expander.needed)) scene = expander.called query scene := by
    unfold Grounding.generate called
    rw [sceneAfter_protect, if_neg hneeded]
  rw [expand_eq hneeded, outcome_bind_ok hgenerated, sceneAfter_bind_ok hgenerated, hcalled,
    variations_suggestions]
  exact ⟨rfl, rfl⟩

/-- Assumes: an expander for at least one query, and a callback that answers with suggestions if it
is asked for any. The expansion fans out with those that are usable, in order. The callback is
called once with the text of the query and the number that is needed, or not at all if none is. -/
theorem expand_fansOut (expander : MultiQueryExpander σ) (hcount : 1 ≤ expander.numberOfQueries)
    (query : Query) (scene : Scene σ) (suggested : Option (List (Option String)))
    (hanswer : expander.needed ≠ 0 →
      (expander.generate query.text expander.needed).outcome scene =
        .ok (Value.suggestions suggested)) :
    (∃ expanded, expander.FansOut query scene (usableSuggestions suggested) expanded ∧
      (expander.recording.expand query).outcome (scene.withRecord []) = .ok expanded) ∧
      expander.calls query scene =
        if expander.needed = 0 then [] else [(query.text, expander.needed)] := by
  have hrecorded := (recording_simulates expander query (scene.withRecord []) scene rfl).1
  suffices ∃ expanded, expander.FansOut query scene (usableSuggestions suggested) expanded by
    obtain ⟨expanded, hexpanded⟩ := this
    exact ⟨⟨expanded, hexpanded, hrecorded.trans hexpanded.outcome⟩, calls_eq expander query scene⟩
  by_cases hneeded : expander.needed = 0
  · exact ⟨[query], fansOut_of_none_needed hcount hneeded query scene _⟩
  obtain ⟨houtcome, hafter⟩ := expand_settles hneeded (hanswer hneeded)
  by_cases hfew : (usableSuggestions suggested).length < expander.needed
  · obtain ⟨hsettled, hwarned⟩ := settle_of_few hfew query (expander.called query scene)
    refine ⟨[query], houtcome.trans hsettled, by simp, by simp, fun _ ↦ ⟨rfl, hafter.trans hwarned⟩,
      fun henough ↦ ?_⟩
    omega
  · have henough : expander.needed ≤ (usableSuggestions suggested).length := by omega
    obtain ⟨hsettled, hquiet⟩ := settle_of_enough henough query
      (expander.called query scene)
    have hlength := length_fanOut hcount henough query
    refine ⟨expander.fanOut query (usableSuggestions suggested), houtcome.trans hsettled, ?_,
      fun each ↦ mem_fanOut, fun h ↦ absurd h hfew, fun _ ↦ ⟨hlength, rfl, hafter.trans hquiet⟩⟩
    intro hnil
    rw [hnil] at hlength
    simp at hlength
    omega

/-- An expander whose callback suggests a null, a blank text and two others. -/
def suggesting (numberOfQueries : Int) : MultiQueryExpander Unit where
  generate _ _ := pure (.suggestions (some [none, some " ", some " a ", some "b"]))
  numberOfQueries := numberOfQueries
  includeAsked := true

/-- Two usable texts are as many as three queries need, and too few for four. -/
theorem expand_fansOut_suggesting :
    usableSuggestions (some [none, some " ", some " a ", some "b"]) = ["a", "b"] ∧
      1 ≤ (suggesting 3).numberOfQueries ∧ 1 ≤ (suggesting 4).numberOfQueries ∧
      ((suggesting 3).expand ⟨"q", [], []⟩).outcome ⟨(), []⟩ =
        .ok [⟨"q", [], []⟩, ⟨"a", [], []⟩, ⟨"b", [], []⟩] ∧
      ((suggesting 4).expand ⟨"q", [], []⟩).outcome ⟨(), []⟩ = .ok [⟨"q", [], []⟩] ∧
      (sceneAfter ((suggesting 4).expand ⟨"q", [], []⟩) ⟨(), []⟩).warnings =
        [.tooFewVariations 3 2] ∧
      (suggesting 3).calls ⟨"q", [], []⟩ ⟨(), []⟩ = [("q", 2)] ∧
      (suggesting 4).calls ⟨"q", [], []⟩ ⟨(), []⟩ = [("q", 3)] := by
  have husable : usableSuggestions (some [none, some " ", some " a ", some "b"]) = ["a", "b"] := by
    decide
  obtain ⟨⟨three, hthree, -⟩, hcalls⟩ := expand_fansOut (suggesting 3) (by decide) ⟨"q", [], []⟩
    ⟨(), []⟩ (some [none, some " ", some " a ", some "b"]) fun _ ↦ rfl
  obtain ⟨⟨four, hfour, -⟩, hmore⟩ := expand_fansOut (suggesting 4) (by decide) ⟨"q", [], []⟩
    ⟨(), []⟩ (some [none, some " ", some " a ", some "b"]) fun _ ↦ rfl
  rw [husable] at hthree hfour
  obtain ⟨-, rfl, -⟩ := hthree.complete (by decide)
  obtain ⟨rfl, hwarned⟩ := hfour.abandoned (by decide)
  exact ⟨husable, by decide, by decide, hthree.outcome, hfour.outcome,
    congrArg Scene.warnings hwarned, hcalls, hmore⟩

end MultiQueryExpander

end Grounding
