import Mathlib.Data.List.Basic
import Mathlib.Data.List.TakeWhile
import Grounding.Template.Renderer

/-!
# Plain templates

A plain template is written by a list of segments (`Writes`): literal texts, with their braces
doubled, and fields that are no more than a name. `Markup.ofChars_written` reads the segments back
from the template. A field whose name is plain leads to the value bound to that name and to nothing
else, and a text without a format specification stands for itself.

`render_of_writes`: to render a plain template with texts is to put the texts in place of the
fields, once and as they are. If some name is not bound, the rendering fails with the first such
name.
-/

set_option autoImplicit false
set_option relaxedAutoImplicit false

namespace Grounding

/-! ### Names that are no numbers -/

/-- Every run of decimal digits lies within the digits. -/
theorem Text.exists_digitRange : ∀ start ∈ Text.decimalZeros,
    ∃ range ∈ Text.digitRanges, range.1 ≤ start ∧ start + 9 ≤ range.2 := by
  decide +kernel

theorem Text.decimalValue?_eq_none {c : Char} (h : Text.isDigit c = false) :
    Text.decimalValue? c = none := by
  unfold Text.decimalValue?
  rw [Option.map_eq_none_iff, List.find?_eq_none]
  intro start hstart hcovered
  obtain ⟨hlower, hupper⟩ : start ≤ c.toNat ∧ c.toNat < start + 10 := by simpa using hcovered
  obtain ⟨range, hrange, hfirst, hlast⟩ := Text.exists_digitRange start hstart
  have hdigit : Text.isDigit c = true := Text.Ranges.covers_iff.mpr
    ⟨range, hrange, Nat.le_trans hfirst hlower, by omega⟩
  exact Bool.noConfusion (h.symm.trans hdigit)

/-- Assumes: a text that does not start with a digit. It writes no number. -/
theorem readIndex_eq_none {c : Char} (h : Text.isDigit c = false) (rest : List Char) :
    readIndex (c :: rest) = .ok none := by
  have hnumber : readNumberFrom 0 (c :: rest) = .ok (0, c :: rest) := by
    rw [readNumberFrom, Text.decimalValue?_eq_none h]
  simp [readIndex, readNumber, hnumber, Except.map]

/-! ### Segments -/

/-- A part of a plain template. -/
inductive Segment
  | literal (text : String)
  | field (name : String)

namespace Segment

/-- A character of a literal text as a template writes it. -/
def doubled (c : Char) : List Char :=
  if c = '{' ∨ c = '}' then [c, c] else [c]

/-- A segment as a template writes it. -/
def written : Segment → List Char
  | .literal text => text.toList.flatMap doubled
  | .field name => '{' :: (name.toList ++ ['}'])

/-- Whether a character means something in the path of a field, or ends it. -/
def IsSpecial (c : Char) : Prop :=
  c ∈ ['{', '}', '[', '.', ':', '!']

/-- A segment that is a literal text, or a field with a name that means nothing else: without
special characters, not empty, and not starting with a digit. -/
def IsPlain : Segment → Prop
  | .literal _ => True
  | .field name => ∃ first rest, name.toList = first :: rest ∧ Text.isDigit first = false ∧
      ∀ c ∈ first :: rest, ¬ IsSpecial c

theorem isPlain_literal (text : String) : (literal text).IsPlain := trivial

/-- A segment in front of other markup. -/
def markup : Segment → Markup → Markup
  | .literal text, rest => text.toList.foldr .literal rest
  | .field name, rest => .field ⟨name.toList, none, []⟩ rest

end Segment

/-! ### Reading -/

theorem Markup.ofChars_doubled (c : Char) (rest : List Char) :
    Markup.ofChars (Segment.doubled c ++ rest) = .literal c (Markup.ofChars rest) := by
  unfold Segment.doubled
  by_cases hclose : c = '}'
  · subst hclose
    rw [if_pos (Or.inr rfl)]
    show Markup.ofChars ('}' :: '}' :: rest) = _
    rw [Markup.ofChars, if_pos rfl]
  · by_cases hopen : c = '{'
    · subst hopen
      rw [if_pos (Or.inl rfl)]
      show Markup.ofChars ('{' :: '{' :: rest) = _
      rw [Markup.ofChars, if_neg hclose, if_pos rfl]
    · rw [if_neg (not_or.mpr ⟨hopen, hclose⟩)]
      show Markup.ofChars (c :: rest) = _
      rw [Markup.ofChars.eq_def]
      simp only [if_neg hclose, if_neg hopen]

theorem Markup.ofChars_literal (text rest : List Char) :
    Markup.ofChars (text.flatMap Segment.doubled ++ rest) =
      text.foldr .literal (Markup.ofChars rest) := by
  induction text with
  | nil => rfl
  | cons c text ih =>
    rw [List.flatMap_cons, List.append_assoc, Markup.ofChars_doubled, ih]
    rfl

/-- Assumes: a name without special characters. The path of a field reads it up to the brace. -/
theorem Placeholder.readPath_name {name : List Char} (h : ∀ c ∈ name, ¬ Segment.IsSpecial c)
    (rest : List Char) :
    Placeholder.readPath false (name ++ '}' :: rest) = .ok (name, '}', rest) := by
  induction name with
  | nil => rfl
  | cons c name ih =>
    obtain ⟨hhead, hrest⟩ := List.forall_mem_cons.mp h
    simp only [Segment.IsSpecial, List.mem_cons, List.not_mem_nil, or_false, not_or] at hhead
    obtain ⟨hopen, hclose, hbracket, -, hcolon, hmark⟩ := hhead
    have hstop : (c == '[') = false := beq_eq_false_iff_ne.mpr hbracket
    simp [Placeholder.readPath, hopen, hclose, hcolon, hmark, hstop, ih hrest, Except.map]

/-- Assumes: a field that can be read from behind an opening brace. It is a field of the markup. -/
theorem Markup.ofChars_open {c : Char} {text rest : List Char} {field : Placeholder}
    (hopen : c ≠ '{') (hread : Placeholder.read (c :: text) = .ok (field, rest)) :
    Markup.ofChars ('{' :: c :: text) = .field field (Markup.ofChars rest) := by
  rw [Markup.ofChars.eq_def]
  simp only [Char.reduceEq, if_false, if_true]
  split
  · rename_i hnil
    cases hnil
  · rename_i hdoubled
    exact absurd (List.cons.inj hdoubled).1 hopen
  · split
    · rename_i fault herror
      cases herror.symm.trans hread
    · rename_i found left hfound
      obtain ⟨⟩ := hfound.symm.trans hread
      rfl

theorem Markup.ofChars_field {name : String} (h : (Segment.field name).IsPlain)
    (rest : List Char) :
    Markup.ofChars ((Segment.field name).written ++ rest) =
      .field ⟨name.toList, none, []⟩ (Markup.ofChars rest) := by
  obtain ⟨first, others, hname, -, hspecial⟩ := h
  have hopen : first ≠ '{' := by
    rintro rfl
    exact hspecial '{' List.mem_cons_self (by simp [Segment.IsSpecial])
  have hread : Placeholder.read (first :: (others ++ '}' :: rest)) =
      .ok (⟨first :: others, none, []⟩, rest) := by
    rw [Placeholder.read, ← List.cons_append, Placeholder.readPath_name hspecial]
    rfl
  have hwritten : (Segment.field name).written ++ rest =
      '{' :: first :: (others ++ '}' :: rest) := by
    simp [Segment.written, hname]
  rw [hwritten, hname, Markup.ofChars_open hopen hread]

theorem Markup.ofChars_written {segments : List Segment}
    (hplain : ∀ segment ∈ segments, segment.IsPlain) :
    Markup.ofChars (segments.flatMap Segment.written) = segments.foldr Segment.markup .done := by
  induction segments with
  | nil => rw [List.flatMap_nil, Markup.ofChars, List.foldr_nil]
  | cons segment rest ih =>
    obtain ⟨hhead, hrest⟩ := List.forall_mem_cons.mp hplain
    rw [List.flatMap_cons, List.foldr_cons, ← ih hrest]
    cases segment with
    | literal text => exact Markup.ofChars_literal text.toList _
    | field name => exact Markup.ofChars_field hhead _

/-! ### Rendering -/

/-- Texts that are bound to names, as values. -/
def Context.ofTexts (texts : Dict String) : Context :=
  texts.map fun (name, text) ↦ (name, .text text)

theorem Context.get?_ofTexts (texts : Dict String) (name : String) :
    Dict.get? (Context.ofTexts texts) name = (Dict.get? texts name).map .text := by
  induction texts with
  | nil => rfl
  | cons entry rest ih =>
    obtain ⟨key, text⟩ := entry
    show Dict.get? ((key, Value.text text) :: Context.ofTexts rest) name = _
    rw [Dict.get?_cons, Dict.get?_cons, ih]
    by_cases hkey : key = name
    · rw [if_pos hkey, if_pos hkey, Option.map_some]
    · rw [if_neg hkey, if_neg hkey]

/-- What stands for a segment when names are bound to texts, or the name that is not bound. -/
def Segment.filled (texts : Dict String) : Segment → Except String String
  | .literal text => .ok text
  | .field name =>
    match Dict.get? texts name with
    | some text => .ok text
    | none => .error name

/-- Segments with texts in place of the fields, or the first name that is not bound. -/
def Segment.fill (texts : Dict String) : List Segment → Except String String
  | [] => .ok ""
  | segment :: rest => do
    let text ← segment.filled texts
    let tail ← fill texts rest
    return text ++ tail

section Fill

variable {texts : Dict String}

theorem Segment.fill_literal (text : String) : Segment.fill texts [.literal text] = .ok text :=
  congrArg Except.ok (String.append_empty (s := text))

/-- Assumes: a name that is bound to a text. -/
theorem Segment.fill_field {name text : String} (h : Dict.get? texts name = some text) :
    Segment.fill texts [.field name] = .ok text := by
  rw [Segment.fill, Segment.filled, h]
  exact congrArg Except.ok (String.append_empty (s := text))

/-- Assumes: segments whose names are all bound. In a row they are filled one after the other. -/
theorem Segment.fill_append {first second : List Segment} {front back : String}
    (hfirst : Segment.fill texts first = .ok front)
    (hsecond : Segment.fill texts second = .ok back) :
    Segment.fill texts (first ++ second) = .ok (front ++ back) := by
  induction first generalizing front with
  | nil =>
    obtain ⟨⟩ := hfirst
    rw [List.nil_append, hsecond, String.empty_append]
  | cons segment rest ih =>
    rw [Segment.fill] at hfirst
    rw [List.cons_append, Segment.fill]
    cases hhead : segment.filled texts with
    | error name =>
      rw [hhead] at hfirst
      cases hfirst
    | ok text =>
      rw [hhead] at hfirst
      cases hrest : Segment.fill texts rest with
      | error name =>
        rw [hrest] at hfirst
        cases hfirst
      | ok tail =>
        rw [hrest] at hfirst
        obtain ⟨⟩ := hfirst
        rw [ih hrest, String.append_assoc]
        rfl

end Fill

/-- A filled text as characters, or a failure for the name that is not bound. -/
def Segment.bound : Except String String → Except Failure (List Char)
  | .ok text => .ok text.toList
  | .error name => .error (.missingKey (.text name))

/-- Assumes: a plain name. It starts no step of a path. -/
theorem Segment.name_has_no_step {name : String} (h : (Segment.field name).IsPlain) :
    ∀ c ∈ name.toList, (c != '.' && c != '[') = true := by
  obtain ⟨first, others, hname, -, hspecial⟩ := h
  intro c hmem
  have hnot := hspecial c (hname ▸ hmem)
  simp only [Segment.IsSpecial, List.mem_cons, List.not_mem_nil, or_false, not_or] at hnot
  simp [hnot.2.2.1, hnot.2.2.2.1]

theorem Placeholder.root_name {name : String} (h : (Segment.field name).IsPlain) :
    (Placeholder.mk name.toList none []).root = name.toList :=
  List.takeWhile_eq_self_iff.mpr (Segment.name_has_no_step h)

/-- Assumes: a plain name. Its field leads to the value that is bound to it. -/
theorem Placeholder.reached_name {name : String} (h : (Segment.field name).IsPlain)
    (platform : Platform) (bindings : Context) :
    Placeholder.reached platform bindings ⟨name.toList, none, []⟩ =
      match Dict.get? bindings name with
      | none => .error (.missingKey (.text name))
      | some value => .ok (.value value) := by
  have hroot := Placeholder.root_name h
  have htrail : (Placeholder.mk name.toList none []).trail = [] :=
    List.dropWhile_eq_nil_iff.mpr (Segment.name_has_no_step h)
  obtain ⟨first, others, hname, hdigit, -⟩ := h
  have hindex : readIndex name.toList = .ok none := by
    rw [hname]
    exact readIndex_eq_none hdigit others
  have hempty : name.toList.isEmpty = false := by
    rw [hname]
    rfl
  unfold Placeholder.reached
  rw [hroot, htrail, hindex, hempty, String.ofList_toList, Trail.ofChars]
  rfl

theorem Placeholder.text_name {name : String} (h : (Segment.field name).IsPlain)
    (platform : Platform) (expand : List Char → Except Failure (List Char))
    (texts : Dict String) :
    Placeholder.text platform expand (Context.ofTexts texts) ⟨name.toList, none, []⟩ =
      Segment.bound ((Segment.field name).filled texts) := by
  have hfilled : (Segment.field name).filled texts =
      match Dict.get? texts name with
      | some text => .ok text
      | none => .error name := rfl
  unfold Placeholder.text
  rw [Placeholder.reached_name h, Context.get?_ofTexts, hfilled]
  cases Dict.get? texts name <;> rfl

theorem Markup.render_literal (platform : Platform)
    (expand : List Char → Except Failure (List Char)) (bindings : Context) (text : List Char)
    (rest : Markup) :
    (text.foldr Markup.literal rest).render platform expand bindings =
      (rest.render platform expand bindings).map (text ++ ·) := by
  induction text with
  | nil =>
    cases hrest : rest.render platform expand bindings <;> simp [hrest, Except.map]
  | cons c text ih =>
    rw [List.foldr_cons, Markup.render, ih]
    cases rest.render platform expand bindings <;> rfl

/-- Assumes: plain segments. Their markup is rendered as they are filled. -/
theorem Markup.render_segments {segments : List Segment}
    (hplain : ∀ segment ∈ segments, segment.IsPlain)
    (platform : Platform) (expand : List Char → Except Failure (List Char))
    (texts : Dict String) :
    (segments.foldr Segment.markup .done).render platform expand (Context.ofTexts texts) =
      Segment.bound (Segment.fill texts segments) := by
  induction segments with
  | nil => rfl
  | cons segment rest ih =>
    obtain ⟨hhead, hrest⟩ := List.forall_mem_cons.mp hplain
    rw [List.foldr_cons, Segment.fill]
    cases segment with
    | literal text =>
      rw [Segment.markup, Markup.render_literal, ih hrest, Segment.filled]
      cases Segment.fill texts rest with
      | ok tail => exact congrArg Except.ok String.toList_append.symm
      | error name => rfl
    | field name =>
      rw [Segment.markup, Markup.render, Placeholder.text_name hhead, ih hrest]
      cases (Segment.field name).filled texts with
      | error name => rfl
      | ok text =>
        cases Segment.fill texts rest with
        | ok tail => exact congrArg Except.ok String.toList_append.symm
        | error name => rfl

/-! ### Templates -/

namespace Template

/-- A template that is written by segments. -/
def Writes (segments : List Segment) (template : String) : Prop :=
  template.toList = segments.flatMap Segment.written

theorem Writes.append {first second : List Segment} {front back : String}
    (hfirst : Writes first front) (hsecond : Writes second back) :
    Writes (first ++ second) (front ++ back) := by
  unfold Writes at hfirst hsecond ⊢
  rw [String.toList_append, hfirst, hsecond, List.flatMap_append]

/-- Assumes: characters without braces. Their text is a template for itself. -/
theorem writes_literal {chars : List Char}
    (h : (chars.all fun c ↦ c != '{' && c != '}') = true) :
    Writes [.literal (String.ofList chars)] (String.ofList chars) := by
  have hsingle : ∀ c ∈ chars, Segment.doubled c = [c] := by
    intro c hmem
    have hbrace := List.all_eq_true.mp h c hmem
    simp only [Bool.and_eq_true, bne_iff_ne] at hbrace
    rw [Segment.doubled, if_neg (not_or.mpr hbrace)]
  unfold Writes
  rw [List.flatMap_singleton, Segment.written, String.toList_ofList,
    List.flatMap_congr hsingle, List.flatMap_singleton']

/-- Assumes: a template that plain segments write, and texts that are bound to names. On every
platform the template is rendered to what these segments are filled with, or the first name that is
not bound is refused. -/
theorem render_of_writes {segments : List Segment} {template : String}
    (hplain : ∀ segment ∈ segments, segment.IsPlain) (hwrites : Writes segments template)
    (platform : Platform) (texts : Dict String) :
    render platform template (Context.ofTexts texts) =
      match Segment.fill texts segments with
      | .ok text => .ok text
      | .error name => .error (.unboundPlaceholder (.missingKey (.text name))) := by
  have hmarkup : Markup.ofChars template.toList = segments.foldr Segment.markup .done := by
    rw [hwrites, Markup.ofChars_written hplain]
  unfold render
  rw [renderNested, hmarkup, Markup.render_segments hplain]
  cases Segment.fill texts segments with
  | ok text => exact congrArg Except.ok (String.ofList_toList (s := text))
  | error name => rfl

end Template

end Grounding
