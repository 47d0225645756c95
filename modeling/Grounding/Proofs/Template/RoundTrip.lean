import Grounding.Proofs.Template.Plain
import Grounding.Template.Types

/-!
# Plain templates give back what they were written from

Segments can be read back from the template that writes them, in two ways. To list its placeholders
is to list the names of the fields, each once (`Template.fieldNames_segments`). To render it, on any
platform, is to join the literal texts and the texts that are bound to the names, as they are, if
all names are bound (`Segment.fill_of_allBound`); otherwise the rendering fails for the first name
that is not (`Segment.fill_of_firstUnbound`).

Main statement: `Template.givesBack_encode`.
-/

set_option autoImplicit false
set_option relaxedAutoImplicit false

namespace Grounding

/-! ### Filling segments in -/

namespace Segment

/-- The name of a segment that is a field. -/
def name? : Segment → Option String
  | .literal _ => none
  | .field name => some name

/-- The text of a segment when names are bound to texts. -/
def textWith (texts : Dict String) : Segment → String
  | .literal text => text
  | .field name => (Dict.get? texts name).getD ""

/-- Every field has a name that is bound to a text. -/
def AllBound (texts : Dict String) (segments : List Segment) : Prop :=
  ∀ name, .field name ∈ segments → ∃ text, Dict.get? texts name = some text

/-- The first field whose name is not bound to a text has this name. -/
def FirstUnbound (texts : Dict String) (segments : List Segment) (name : String) : Prop :=
  ∃ before after, segments = before ++ .field name :: after ∧ AllBound texts before ∧
    Dict.get? texts name = none

variable {texts : Dict String}

theorem mem_filterMap_name? {segments : List Segment} {name : String} :
    name ∈ segments.filterMap name? ↔ .field name ∈ segments := by
  rw [List.mem_filterMap]
  constructor
  · rintro ⟨segment, hmem, hname⟩
    cases segment with
    | literal text => cases hname
    | field other =>
      obtain ⟨⟩ := hname
      exact hmem
  · exact fun hmem ↦ ⟨_, hmem, rfl⟩

theorem allBound_nil : AllBound texts [] := fun _ hmem ↦ absurd hmem List.not_mem_nil

theorem allBound_cons {segment : Segment} {rest : List Segment} :
    AllBound texts (segment :: rest) ↔ AllBound texts [segment] ∧ AllBound texts rest := by
  constructor
  · intro h
    refine ⟨fun name hmem ↦ h name ?_, fun name hmem ↦ h name (List.mem_cons_of_mem _ hmem)⟩
    rw [List.mem_singleton.mp hmem]
    exact List.mem_cons_self
  · rintro ⟨hsegment, hrest⟩ name hmem
    rcases List.mem_cons.mp hmem with hhead | htail
    · exact hsegment name (List.mem_singleton.mpr hhead)
    · exact hrest name htail

/-- Either all names are bound, or there is a first one that is not. -/
theorem allBound_or_firstUnbound (texts : Dict String) (segments : List Segment) :
    AllBound texts segments ∨ ∃ name, FirstUnbound texts segments name := by
  induction segments with
  | nil => exact Or.inl allBound_nil
  | cons segment rest ih =>
    by_cases hsegment : AllBound texts [segment]
    · rcases ih with hrest | ⟨name, before, after, rfl, hbefore, hnone⟩
      · exact Or.inl (allBound_cons.mpr ⟨hsegment, hrest⟩)
      · exact Or.inr ⟨name, segment :: before, after, rfl,
          allBound_cons.mpr ⟨hsegment, hbefore⟩, hnone⟩
    · refine Or.inr ?_
      cases segment with
      | literal text =>
        refine absurd (fun name hmem ↦ ?_) hsegment
        cases List.mem_singleton.mp hmem
      | field name =>
        refine ⟨name, [], rest, rfl, allBound_nil, ?_⟩
        by_contra hsome
        refine hsegment fun other hmem ↦ ?_
        obtain ⟨⟩ := List.mem_singleton.mp hmem
        exact Option.ne_none_iff_exists'.mp hsome

/-- Assumes: a literal text, or a field whose name is bound. It stands for its text. -/
theorem filled_of_allBound {segment : Segment} (h : AllBound texts [segment]) :
    segment.filled texts = .ok (segment.textWith texts) := by
  cases segment with
  | literal text => rfl
  | field name =>
    obtain ⟨text, htext⟩ := h name (List.mem_singleton.mpr rfl)
    rw [filled, textWith, htext]
    rfl

/-- Assumes: segments whose names are all bound. Their texts are joined. -/
theorem fill_of_allBound {segments : List Segment} (h : AllBound texts segments) :
    fill texts segments = .ok (String.join (segments.map (textWith texts))) := by
  induction segments with
  | nil => rfl
  | cons segment rest ih =>
    obtain ⟨hsegment, hrest⟩ := allBound_cons.mp h
    rw [fill, filled_of_allBound hsegment, ih hrest, List.map_cons, String.join_cons]
    rfl

/-- Assumes: segments with a name that is the first not to be bound. They are not filled in, for
want of this name. -/
theorem fill_of_firstUnbound {segments : List Segment} {name : String}
    (h : FirstUnbound texts segments name) : fill texts segments = .error name := by
  obtain ⟨before, after, rfl, hbefore, hnone⟩ := h
  induction before with
  | nil =>
    rw [List.nil_append, fill, filled, hnone]
    rfl
  | cons segment rest ih =>
    obtain ⟨hsegment, hrest⟩ := allBound_cons.mp hbefore
    rw [List.cons_append, fill, filled_of_allBound hsegment, ih hrest]
    rfl

end Segment

/-! ### Listing the fields -/

/-- In a list from which repetitions are removed nothing is repeated. -/
theorem nodup_eraseDups (names : List String) : names.eraseDups.Nodup := by
  induction hlength : names.length using Nat.strongRecOn generalizing names with
  | ind length ih =>
    cases names with
    | nil => exact List.nodup_nil
    | cons name rest =>
      rw [List.eraseDups_cons, List.nodup_cons, List.mem_eraseDups]
      constructor
      · intro hmem
        have hother := (List.mem_filter.mp hmem).2
        rw [beq_self_eq_true] at hother
        cases hother
      · have hshorter : (rest.filter fun other ↦ !other == name).length < length := by
          rw [← hlength, List.length_cons]
          exact Nat.lt_succ_of_le (List.length_filter_le _ _)
        exact ih _ hshorter _ rfl

namespace Template

/-- Assumes: a plain name. It is the name of its field. -/
theorem fieldName_name {name : String} (h : (Segment.field name).IsPlain) :
    fieldName ⟨name.toList, none, []⟩ = .ok name := by
  have hroot := Placeholder.root_name h
  obtain ⟨first, others, hname, hdigit, -⟩ := h
  unfold fieldName
  rw [hroot, hname, Text.isNumeral, List.all_cons, hdigit, Bool.false_and, Bool.and_false,
    List.isEmpty_cons, Bool.or_false, if_neg Bool.false_ne_true, ← hname, String.ofList_toList]

theorem fieldNames_literal (text : List Char) (rest : Markup) :
    fieldNames (text.foldr .literal rest) = fieldNames rest := by
  induction text with
  | nil => rfl
  | cons c text ih => exact ih

/-- Assumes: plain segments. The fields of their markup are theirs. -/
theorem fieldNames_segments {segments : List Segment}
    (hplain : ∀ segment ∈ segments, segment.IsPlain) :
    fieldNames (segments.foldr Segment.markup .done) =
      .ok (segments.filterMap Segment.name?) := by
  induction segments with
  | nil => rfl
  | cons segment rest ih =>
    obtain ⟨hhead, hrest⟩ := List.forall_mem_cons.mp hplain
    rw [List.foldr_cons, List.filterMap_cons]
    cases segment with
    | literal text => rw [Segment.markup, fieldNames_literal, ih hrest, Segment.name?]
    | field name =>
      rw [Segment.markup, fieldNames, fieldName_name hhead, ih hrest, Segment.name?]
      rfl

/-! ### Both ways -/

/-- The template that segments write. -/
def encode (segments : List Segment) : String :=
  String.ofList (segments.flatMap Segment.written)

theorem writes_encode (segments : List Segment) : Writes segments (encode segments) :=
  String.toList_ofList

theorem placeholders_encode {segments : List Segment}
    (hplain : ∀ segment ∈ segments, segment.IsPlain) :
    placeholders (encode segments) = .ok (segments.filterMap Segment.name?).eraseDups := by
  unfold placeholders
  rw [writes_encode, Markup.ofChars_written hplain, fieldNames_segments hplain]
  rfl

section Rendering

variable {segments : List Segment} {texts : Dict String}
  (hplain : ∀ segment ∈ segments, segment.IsPlain)
include hplain

/-- Assumes: plain segments whose names are all bound. Their template is rendered to their texts. -/
theorem render_encode_of_allBound (platform : Platform) (h : Segment.AllBound texts segments) :
    render platform (encode segments) (Context.ofTexts texts) =
      .ok (String.join (segments.map (Segment.textWith texts))) := by
  rw [render_of_writes hplain (writes_encode segments), Segment.fill_of_allBound h]

/-- Assumes: plain segments with a name that is the first not to be bound. The rendering of their
template fails and names it. -/
theorem render_encode_of_firstUnbound (platform : Platform) {name : String}
    (h : Segment.FirstUnbound texts segments name) :
    render platform (encode segments) (Context.ofTexts texts) =
      .error (.unboundPlaceholder (.missingKey (.text name))) := by
  rw [render_of_writes hplain (writes_encode segments), Segment.fill_of_firstUnbound h]

end Rendering

/-- What a template gives back on a platform of the segments that it is written from, when names are
bound to texts. -/
structure GivesBack (platform : Platform) (segments : List Segment) (texts : Dict String)
    (template : String) : Prop where
  /-- The placeholders are the names of the fields, each once. -/
  listed : ∃ names, placeholders template = .ok names ∧ names.Nodup ∧
    ∀ name, name ∈ names ↔ .field name ∈ segments
  /-- It is rendered if and only if all names are bound, to the literal texts and the texts that are
  bound, as they are. -/
  rendered_iff : ∀ text, render platform template (Context.ofTexts texts) = .ok text ↔
    Segment.AllBound texts segments ∧ text = String.join (segments.map (Segment.textWith texts))
  /-- It fails if and only if some name is not bound, and names the first one. -/
  failed_iff : ∀ failure, render platform template (Context.ofTexts texts) = .error failure ↔
    ∃ name, Segment.FirstUnbound texts segments name ∧
      failure = .unboundPlaceholder (.missingKey (.text name))
  /-- A failure is one of configuration that is worded with the name. -/
  worded : ∀ failure, render platform template (Context.ofTexts texts) = .error failure →
    failure.kind = .reported .configuration ∧
      ∃ name, Segment.FirstUnbound texts segments name ∧ failure.message =
        "Template placeholder " ++ Text.quoted name ++ " has no bound value"

/-- Assumes: plain segments. On every platform the template that they write gives them back. -/
theorem givesBack_encode {segments : List Segment}
    (hplain : ∀ segment ∈ segments, segment.IsPlain) (platform : Platform)
    (texts : Dict String) : GivesBack platform segments texts (encode segments) := by
  have hfailed : ∀ failure,
      render platform (encode segments) (Context.ofTexts texts) = .error failure →
        ∃ name, Segment.FirstUnbound texts segments name ∧
          failure = .unboundPlaceholder (.missingKey (.text name)) := by
    intro failure h
    rcases Segment.allBound_or_firstUnbound texts segments with hbound | ⟨name, hfirst⟩
    · cases h.symm.trans (render_encode_of_allBound hplain platform hbound)
    · have hname := h.symm.trans (render_encode_of_firstUnbound hplain platform hfirst)
      exact ⟨name, hfirst, Except.error.inj hname⟩
  refine ⟨?listed, fun text ↦ ⟨fun h ↦ ?rendered, ?bound⟩, fun failure ↦ ⟨hfailed failure, ?first⟩,
    fun failure h ↦ ?worded⟩
  case listed =>
    refine ⟨_, placeholders_encode hplain, nodup_eraseDups _, fun name ↦ ?_⟩
    rw [List.mem_eraseDups, Segment.mem_filterMap_name?]
  case rendered =>
    rcases Segment.allBound_or_firstUnbound texts segments with hbound | ⟨name, hfirst⟩
    · have htext := h.symm.trans (render_encode_of_allBound hplain platform hbound)
      exact ⟨hbound, Except.ok.inj htext⟩
    · cases h.symm.trans (render_encode_of_firstUnbound hplain platform hfirst)
  case bound =>
    rintro ⟨hbound, rfl⟩
    exact render_encode_of_allBound hplain platform hbound
  case first =>
    rintro ⟨name, hfirst, rfl⟩
    exact render_encode_of_firstUnbound hplain platform hfirst
  case worded =>
    obtain ⟨name, hfirst, rfl⟩ := hfailed failure h
    exact ⟨rfl, name, hfirst, rfl⟩

/-- A field between literal braces, with a text that has braces itself. -/
theorem givesBack_encode_braces :
    encode [.literal "\x7b", .field "a", .literal "\x7d"] = "\x7b\x7b\x7ba\x7d\x7d\x7d" ∧
      GivesBack .typed [.literal "\x7b", .field "a", .literal "\x7d"] [("a", "\x7bb\x7d")]
        (encode [.literal "\x7b", .field "a", .literal "\x7d"]) := by
  refine ⟨by decide, givesBack_encode (fun segment hmem ↦ ?_) _ _⟩
  simp only [List.mem_cons, List.not_mem_nil, or_false] at hmem
  obtain rfl | rfl | rfl := hmem
  · exact trivial
  · refine ⟨'a', [], by decide, by decide, fun c hc ↦ ?_⟩
    rw [List.mem_singleton.mp hc]
    simp [Segment.IsSpecial]
  · exact trivial

end Template

end Grounding
