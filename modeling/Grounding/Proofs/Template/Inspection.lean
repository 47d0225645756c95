import Grounding.Proofs.Template.Failures
import Grounding.Proofs.Template.Plain

/-!
# What the placeholders of a template promise

`fieldNames_eq_ok`: a template whose placeholders can be listed has no fault, and each of its fields
has a name that is listed. The parts of a text are texts, which have no keys. So a field whose name
is bound to a text may fail for what is asked of the text, but not for want of a value, unless its
path names an attribute and misses a key behind it (`Placeholder.reached_of_text`).

The fields of format specifications (`nestedFields`) are not listed. Main statement:
`Template.render_unsupplied`. If every listed name is bound to a text and the rendering still fails
for want of a value, then one of these fields is to blame, and its name is not listed, or an
attribute is. `Template.placeholders_nested` shows templates of the first kind.
-/

set_option autoImplicit false
set_option relaxedAutoImplicit false

namespace Grounding

/-! ### Numbers -/

/-- Assumes: a number at the start of a text. What it is read from are digits. -/
theorem readNumberFrom_digits {value number : Nat} {text rest : List Char}
    (h : readNumberFrom value text = .ok (number, rest)) :
    ∃ digits, text = digits ++ rest ∧ digits.all Text.isDigit = true := by
  induction text generalizing value with
  | nil =>
    obtain ⟨⟩ := h
    exact ⟨[], rfl, rfl⟩
  | cons c tail ih =>
    rw [readNumberFrom] at h
    cases hdigit : Text.decimalValue? c with
    | none =>
      rw [hdigit] at h
      obtain ⟨⟩ := h
      exact ⟨[], rfl, rfl⟩
    | some digit =>
      rw [hdigit] at h
      dsimp only at h
      split at h
      · cases h
      · obtain ⟨digits, rfl, hdigits⟩ := ih h
        have hc : Text.isDigit c = true := by
          by_contra hnot
          have hnone := Text.decimalValue?_eq_none (Bool.eq_false_iff.mpr hnot)
          cases hdigit.symm.trans hnone
        exact ⟨c :: digits, rfl, by rw [List.all_cons, hc, hdigits, Bool.true_and]⟩

/-- What is read as a position is a numeral. -/
theorem isNumeral_of_readIndex {text : List Char} {position : Nat}
    (h : readIndex text = .ok (some position)) : Text.isNumeral text = true := by
  unfold readIndex readNumber at h
  cases hread : readNumberFrom 0 text with
  | error fault =>
    rw [hread] at h
    cases h
  | ok result =>
    obtain ⟨number, rest⟩ := result
    obtain ⟨digits, rfl, hdigits⟩ := readNumberFrom_digits hread
    rw [hread] at h
    cases rest with
    | cons c rest => cases h
    | nil =>
      cases digits with
      | nil => cases h
      | cons c digits =>
        rw [List.append_nil, Text.isNumeral, hdigits]
        rfl

/-! ### Want of a value -/

namespace Template

/-- A cause of a failed rendering that there is no value: none under a key, or a field without a
name. -/
def Lacks (cause : Failure) : Prop :=
  cause.kind = .key ∨ cause = .argument (.template .positional)

/-- A failure to render a template because a name has no bound value or a field has no name. -/
def Unsupplied (failure : Failure) : Prop :=
  (∃ cause, failure = .unboundPlaceholder cause) ∨
    failure = .unrenderable (.argument (.template .positional))

theorem not_lacks_of_ofValue {cause : Failure} (h : cause.OfValue) : ¬ Lacks cause := by
  rintro (hkey | rfl)
  · cases h <;> cases hkey
  · cases h with
    | refused hfault => exact hfault rfl

/-- Assumes: a failure that in the words of the library is want of a value. It was want of a
value. -/
theorem lacks_of_describe {cause : Failure} (h : Unsupplied (describe cause)) : Lacks cause := by
  unfold describe at h
  split at h
  · rename_i hkey
    exact Or.inl hkey
  · split at h
    · obtain ⟨other, hother⟩ | hpositional := h
      · cases hother
      · exact Or.inr (Failure.unrenderable.inj hpositional)
    · rename_i hrefusal
      obtain ⟨other, rfl⟩ | rfl := h
      · exact absurd rfl hrefusal
      · exact absurd rfl hrefusal

/-- Want of a value is a key error behind an attribute, if it is one at all. -/
def Excuses (attributes : Prop) (cause : Failure) : Prop :=
  Lacks cause → attributes ∧ cause.kind = .key

theorem excuses_of_ofValue {attributes : Prop} (cause : Failure) (h : cause.OfValue) :
    Excuses attributes cause :=
  fun hlacks ↦ absurd hlacks (not_lacks_of_ofValue h)

theorem excuses_of_ofReached {attributes : Prop} (cause : Failure)
    (h : cause.OfReached attributes) : Excuses attributes cause := by
  cases h with
  | ofValue hvalue => exact excuses_of_ofValue cause hvalue
  | foreign hattributes incident =>
    rintro (hkey | hpositional)
    · exact ⟨hattributes, hkey⟩
    · cases hpositional

/-- Assumes: named attributes. A key behind them may be missing. -/
theorem excuses_of_ofPart {attributes : Prop} (hattributes : attributes) (cause : Failure)
    (h : cause.OfPart attributes) : Excuses attributes cause := by
  cases h with
  | ofReached hreached => exact excuses_of_ofReached cause hreached
  | missingKey key => exact fun _ ↦ ⟨hattributes, rfl⟩

end Template

/-! ### Parts of a text -/

/-- A text was reached. -/
def Reached.IsText {Thing : Type} (reached : Reached Thing) : Prop :=
  ∃ content, reached = .value (.text content)

namespace Reached.IsText

variable {platform : Platform} {reached : Reached platform.Thing} (h : reached.IsText)
include h

theorem entry_endsIn (key : String) : EndsIn IsText Failure.OfValue (reached.entry key) := by
  obtain ⟨content, rfl⟩ := h
  exact .mistyped _

theorem element_endsIn (position : Nat) :
    EndsIn IsText Failure.OfValue (reached.element position) := by
  obtain ⟨content, rfl⟩ := h
  unfold Reached.element Value.element
  dsimp only
  split
  · exact ⟨_, rfl⟩
  · exact .outOfRange _

theorem valueUnless {attributes : Prop} : reached.ValueUnless attributes := by
  obtain ⟨content, rfl⟩ := h
  exact trivial

end Reached.IsText

/-- Assumes: a trail from a text. It fails for want of a value only if it names an attribute. -/
theorem Trail.follow_text {platform : Platform} (trail : Trail) (hpath : trail.IsPath)
    (text : String) :
    EndsIn (Reached.ValueUnless trail.NamesAttribute) (Template.Excuses trail.NamesAttribute)
      (trail.follow (.value (.text text) : Reached platform.Thing)) := by
  by_cases hnamed : trail.NamesAttribute
  · have hvalue : Reached.ValueUnless trail.NamesAttribute
        (.value (.text text) : Reached platform.Thing) := trivial
    exact (follow_valueUnless hpath id hvalue).weaken (Template.excuses_of_ofPart hnamed)
  · have hfollow : EndsIn Reached.IsText Failure.OfValue
        (trail.follow (.value (.text text) : Reached platform.Thing)) :=
      Trail.follow_endsIn Reached.IsText (fun _ ↦ id) (fun h ↦ absurd h hnamed)
        (fun _ h ↦ h.entry_endsIn) (fun _ h ↦ h.element_endsIn) hpath id ⟨text, rfl⟩
    cases hpart : trail.follow (.value (.text text) : Reached platform.Thing) with
    | ok part =>
      rw [hpart] at hfollow
      exact hfollow.valueUnless
    | error cause =>
      rw [hpart] at hfollow
      exact Template.excuses_of_ofValue cause hfollow

/-! ### Fields with a name -/

namespace Placeholder

/-- A field with a name that is not a number. -/
def IsNamed (field : Placeholder) : Prop :=
  field.root.isEmpty = false ∧ Text.isNumeral field.root = false

/-- The name of a field. -/
def name (field : Placeholder) : String :=
  String.ofList field.root

/-- Assumes: a named field whose name is bound to a text. It fails for want of a value only if its
path names an attribute. -/
theorem reached_of_text {platform : Platform} {bindings : Context} {field : Placeholder}
    {text : String} (hnamed : field.IsNamed)
    (htext : Dict.get? bindings field.name = some (.text text)) :
    EndsIn (Reached.ValueUnless field.NamesAttribute) (Template.Excuses field.NamesAttribute)
      (field.reached platform bindings) := by
  unfold reached
  have hindex := readIndex_endsIn field.root
  cases hread : readIndex field.root with
  | error fault =>
    rw [hread] at hindex
    exact Template.excuses_of_ofValue _ (.refused hindex)
  | ok index =>
    cases index with
    | some position =>
      cases hnamed.2.symm.trans (isNumeral_of_readIndex hread)
    | none =>
      rw [name] at htext
      show EndsIn _ _ (if field.root.isEmpty || false then _ else _)
      rw [hnamed.1, Bool.or_false, if_neg Bool.false_ne_true, htext]
      exact Trail.follow_text _ (Trail.isPath_ofChars _) text

end Placeholder

/-! ### Reading a template -/

namespace Placeholder

theorem readPath_endsIn (bracketed : Bool) (text : List Char) :
    EndsIn anything (· ≠ .positional) (readPath bracketed text) := by
  induction text generalizing bracketed with
  | nil => exact TemplateFault.noConfusion
  | cons c rest ih =>
    rw [readPath]
    split
    · exact (ih _).map fun _ _ ↦ trivial
    · split
      · exact TemplateFault.noConfusion
      · split
        · exact trivial
        · exact (ih _).map fun _ _ ↦ trivial

theorem readSpec_endsIn (depth : Nat) (text : List Char) :
    EndsIn anything (· ≠ .positional) (readSpec depth text) := by
  induction text generalizing depth with
  | nil => exact TemplateFault.noConfusion
  | cons c rest ih =>
    unfold readSpec
    split
    · cases depth with
      | zero => exact trivial
      | succ depth => exact (ih _).map fun _ _ ↦ trivial
    · exact (ih _).map fun _ _ ↦ trivial

theorem read_endsIn (text : List Char) : EndsIn anything (· ≠ .positional) (read text) := by
  unfold read
  have hpath := readPath_endsIn false text
  cases hread : readPath false text with
  | error fault =>
    rw [hread] at hpath
    exact hpath
  | ok result =>
    obtain ⟨path, stop, rest⟩ := result
    dsimp only
    split
    · exact trivial
    · split
      · exact (readSpec_endsIn _ _).map fun _ _ ↦ trivial
      · split
        · exact TemplateFault.noConfusion
        · exact TemplateFault.noConfusion
        · split
          · exact trivial
          · split
            · exact (readSpec_endsIn _ _).map fun _ _ ↦ trivial
            · exact TemplateFault.noConfusion

end Placeholder

/-- Reading finds no fault with a field for having no name. -/
theorem Markup.fault?_ofChars (text : List Char) :
    (Markup.ofChars text).fault? ≠ some .positional := by
  fun_induction Markup.ofChars text with
  | case1 => simp [fault?]
  | case2 rest ih => exact ih
  | case3 => simp [fault?]
  | case4 => simp [fault?]
  | case5 rest hclose ih => exact ih
  | case6 text _ _ fault hread _ =>
    have hfault := Placeholder.read_endsIn text
    rw [hread] at hfault
    exact fun h ↦ hfault (Option.some.inj h)
  | case7 text _ _ placeholder rest hread hlength _ ih => exact ih
  | case8 c text hclose hopen ih => exact ih

/-! ### Listing the fields -/

namespace Template

theorem fieldName_eq_ok {field : Placeholder} {name : String} (h : fieldName field = .ok name) :
    field.IsNamed ∧ name = field.name := by
  unfold fieldName at h
  split at h
  · cases h
  · rename_i hnot
    obtain ⟨⟩ := h
    obtain ⟨hempty, hnumeral⟩ := Bool.or_eq_false_iff.mp (Bool.eq_false_iff.mpr hnot)
    exact ⟨⟨hempty, hnumeral⟩, rfl⟩

/-- Assumes: markup whose fields can be listed. It has no fault, all fields are named, and the list
is that of their names. -/
theorem fieldNames_eq_ok {markup : Markup} {names : List String}
    (h : fieldNames markup = .ok names) :
    markup.fault? = none ∧ (∀ field ∈ markup.fields, field.IsNamed) ∧
      names = markup.fields.map Placeholder.name := by
  induction markup generalizing names with
  | done =>
    obtain ⟨⟩ := h
    exact ⟨rfl, fun _ hmem ↦ absurd hmem List.not_mem_nil, rfl⟩
  | broken fault => cases h
  | literal c rest ih => exact ih h
  | field placeholder rest ih =>
    rw [fieldNames] at h
    cases hname : fieldName placeholder with
    | error failure =>
      rw [hname] at h
      cases h
    | ok name =>
      rw [hname] at h
      cases hrest : fieldNames rest with
      | error failure =>
        rw [hrest] at h
        cases h
      | ok others =>
        rw [hrest] at h
        obtain ⟨⟩ := h
        obtain ⟨hnamed, rfl⟩ := fieldName_eq_ok hname
        obtain ⟨hfault, hfields, rfl⟩ := ih hrest
        exact ⟨hfault, List.forall_mem_cons.mpr ⟨hnamed, hfields⟩, rfl⟩

/-- Assumes: a template whose placeholders can be listed. It has no fault, all its fields are named,
and the names that are listed are theirs. -/
theorem placeholders_eq_ok {template : String} {names : List String}
    (h : placeholders template = .ok names) :
    (Markup.ofChars template.toList).fault? = none ∧
      (∀ field ∈ (Markup.ofChars template.toList).fields, field.IsNamed) ∧
      ∀ name, name ∈ names ↔ ∃ field ∈ (Markup.ofChars template.toList).fields,
        field.name = name := by
  unfold placeholders at h
  cases hnames : fieldNames (Markup.ofChars template.toList) with
  | error failure =>
    rw [hnames] at h
    cases h
  | ok listed =>
    rw [hnames] at h
    obtain ⟨⟩ := h
    obtain ⟨hfault, hfields, rfl⟩ := fieldNames_eq_ok hnames
    refine ⟨hfault, hfields, fun name ↦ ?_⟩
    rw [List.mem_eraseDups, List.mem_map]

/-- Assumes: a template that is a single field, and its name. This name is listed. -/
theorem placeholders_of_field {template name : String} {field : Placeholder}
    (hfield : Markup.ofChars template.toList = .field field .done)
    (hname : fieldName field = .ok name) : placeholders template = .ok [name] := by
  unfold placeholders
  rw [hfield, fieldNames, hname]
  rfl

/-! ### Fields that are to blame -/

/-- The fields in the format specifications of the fields of a template. -/
def nestedFields (template : String) : List Placeholder :=
  (Markup.ofChars template.toList).fields.flatMap fun field ↦ (Markup.ofChars field.spec).fields

theorem mem_fieldsWithin {template : String} {field : Placeholder}
    (h : field ∈ (Markup.ofChars template.toList).fields) :
    field ∈ fieldsWithin 2 template.toList :=
  List.mem_flatMap.mpr ⟨field, h, List.mem_cons_self⟩

theorem mem_fieldsWithin_nested {template : String} {inner : Placeholder}
    (h : inner ∈ nestedFields template) : inner ∈ fieldsWithin 2 template.toList := by
  obtain ⟨field, hfield, hinner⟩ := List.mem_flatMap.mp h
  have hwithin : inner ∈ fieldsWithin 1 field.spec :=
    List.mem_flatMap.mpr ⟨inner, hinner, List.mem_cons_self⟩
  exact List.mem_flatMap.mpr ⟨field, hfield, List.mem_cons_of_mem field hwithin⟩

/-- A field of a specification has failed for a cause, and its name is not listed. -/
def Unlisted (platform : Platform) (template : String) (names : List String)
    (bindings : Context) (cause : Failure) : Prop :=
  ∃ inner ∈ nestedFields template, inner.name ∉ names ∧
    inner.reached platform bindings = .error cause

/-- A field has failed for a cause, which is a key error behind an attribute that it names. -/
def BehindAttribute (platform : Platform) (template : String) (bindings : Context)
    (cause : Failure) : Prop :=
  cause.kind = .key ∧ ∃ field ∈ fieldsWithin 2 template.toList, field.NamesAttribute ∧
    ∃ depth, field.text platform (renderNested platform bindings depth) bindings = .error cause

section Listed

variable {platform : Platform} {template : String} {names : List String} {bindings : Context}

/-- If a cause is want of a value, then a field whose name is not listed is to blame, or an
attribute. -/
def Blamed (platform : Platform) (template : String) (names : List String) (bindings : Context)
    (cause : Failure) : Prop :=
  Lacks cause → Unlisted platform template names bindings cause ∨
    BehindAttribute platform template bindings cause

/-- Assumes: a field that fails in a way that can be blamed, or for want of a value only behind an
attribute that it names. All its failures can be blamed. -/
theorem blamed_of_excuses {field : Placeholder} {depth : Nat}
    (hfield : field ∈ fieldsWithin 2 template.toList)
    (h : EndsIn anything
      (fun cause ↦ Excuses field.NamesAttribute cause ∨
        Blamed platform template names bindings cause)
      (field.text platform (renderNested platform bindings depth) bindings)) :
    EndsIn anything (Blamed platform template names bindings)
      (field.text platform (renderNested platform bindings depth) bindings) := by
  cases htext : field.text platform (renderNested platform bindings depth) bindings with
  | ok text => exact trivial
  | error cause =>
    rw [htext] at h
    obtain hexcuses | hblamed := h
    · intro hlacks
      obtain ⟨hnamed, hkey⟩ := hexcuses hlacks
      exact Or.inr ⟨hkey, field, hfield, hnamed, depth, htext⟩
    · exact hblamed

variable (hnames : placeholders template = .ok names)
  (hbound : ∀ name ∈ names, ∃ text, Dict.get? bindings name = some (.text text))
include hnames hbound

/-- Assumes: texts that are bound to all listed names. A field with such a name, wherever it stands,
fails for want of a value only if it names an attribute. -/
theorem reached_of_listed {field : Placeholder} (hmem : field.name ∈ names) :
    EndsIn (Reached.ValueUnless field.NamesAttribute) (Excuses field.NamesAttribute)
      (field.reached platform bindings) := by
  obtain ⟨-, hnamed, hlisted⟩ := placeholders_eq_ok hnames
  obtain ⟨text, htext⟩ := hbound _ hmem
  obtain ⟨other, hother, hsame⟩ := (hlisted _).mp hmem
  have hroot : other.root = field.root := String.ofList_injective hsame
  have hfield : field.IsNamed := by
    unfold Placeholder.IsNamed
    rw [← hroot]
    exact hnamed other hother
  exact Placeholder.reached_of_text hfield htext

/-- Assumes: texts that are bound to all listed names. If a specification cannot be filled in for
want of a value, one of its fields is to blame. -/
theorem renderNested_spec {field : Placeholder}
    (hfield : field ∈ (Markup.ofChars template.toList).fields) :
    EndsIn anything (Blamed platform template names bindings)
      (renderNested platform bindings 1 field.spec) := by
  refine Markup.render_endsIn (fun inner hinner ↦ ?_) fun fault hfault hlacks ↦ ?_
  · have hnested : inner ∈ nestedFields template :=
      List.mem_flatMap.mpr ⟨field, hfield, hinner⟩
    refine blamed_of_excuses (mem_fieldsWithin_nested hnested) ?_
    have hreached : EndsIn (Reached.ValueUnless inner.NamesAttribute)
        (fun cause ↦ Excuses inner.NamesAttribute cause ∨
          Blamed platform template names bindings cause)
        (inner.reached platform bindings) := by
      by_cases hlisted : inner.name ∈ names
      · exact (reached_of_listed hnames hbound hlisted).weaken fun _ ↦ Or.inl
      · have hends : EndsIn (Reached.ValueUnless inner.NamesAttribute) _
            (inner.reached platform bindings) := Placeholder.reached_endsIn id
        cases hinner : inner.reached platform bindings with
        | ok reached =>
          rw [hinner] at hends
          exact hends
        | error cause => exact Or.inr fun _ ↦ Or.inl ⟨inner, hnested, hlisted, hinner⟩
    refine Placeholder.text_endsIn hreached
      (fun cause h ↦ Or.inl (excuses_of_ofReached cause h)) fun _ ↦ ?_
    exact Or.inl (excuses_of_ofValue _ (.refused TemplateFault.noConfusion))
  · obtain hkey | hpositional := hlacks
    · cases hkey
    · obtain ⟨⟩ := hpositional
      exact absurd hfault (Markup.fault?_ofChars field.spec)

/-- Assumes: texts that are bound to all listed names. If the template cannot be rendered for want
of a value, a field of a specification is to blame, or an attribute. -/
theorem renderNested_listed :
    EndsIn anything (Blamed platform template names bindings)
      (renderNested platform bindings 2 template.toList) := by
  obtain ⟨hfault, -, hlisted⟩ := placeholders_eq_ok hnames
  refine Markup.render_endsIn (fun field hfield ↦ ?_) fun fault hbroken ↦ ?_
  · have hreached : EndsIn _ _ (field.reached platform bindings) :=
      reached_of_listed hnames hbound ((hlisted _).mpr ⟨field, hfield, rfl⟩)
    refine blamed_of_excuses (mem_fieldsWithin hfield) ?_
    refine Placeholder.text_endsIn (hreached.weaken fun _ ↦ Or.inl)
      (fun cause h ↦ Or.inl (excuses_of_ofReached cause h)) fun _ ↦ ?_
    exact (renderNested_spec hnames hbound hfield).weaken fun _ ↦ Or.inr
  · cases hfault.symm.trans hbroken

/-- Assumes: a template whose placeholders are listed, with a text bound to every listed name, and a
rendering of it on any platform that fails for want of a value. A field of a format specification
has failed, and its name is not listed; or a field has failed that names an attribute, and the value
was missed under a key behind it. -/
theorem render_unsupplied {failure : Failure}
    (hrender : render platform template bindings = .error failure)
    (hfailure : Unsupplied failure) :
    ∃ cause, failure = describe cause ∧
      (Unlisted platform template names bindings cause ∨
        BehindAttribute platform template bindings cause) := by
  obtain ⟨cause, hnested, rfl⟩ := exists_cause hrender
  have hends : EndsIn _ _ (renderNested platform bindings 2 template.toList) :=
    renderNested_listed hnames hbound
  rw [hnested] at hends
  exact ⟨cause, rfl, hends (lacks_of_describe hfailure)⟩

end Listed

theorem render_unsupplied_nested :
    ∃ cause, Failure.unboundPlaceholder (.missingKey (.text "b")) = describe cause ∧
      (Unlisted .typed "\x7ba:\x7bb\x7d\x7d" ["a"] [("a", .text "x")] cause ∨
        BehindAttribute .typed "\x7ba:\x7bb\x7d\x7d" [("a", .text "x")] cause) := by
  have hfield : Markup.ofChars "\x7ba:\x7bb\x7d\x7d".toList =
      .field ⟨['a'], none, ['{', 'b', '}']⟩ .done := by cbv
  have hnames : placeholders "\x7ba:\x7bb\x7d\x7d" = .ok ["a"] :=
    placeholders_of_field hfield rfl
  have hrender : render .typed "\x7ba:\x7bb\x7d\x7d" [("a", .text "x")] =
      .error (.unboundPlaceholder (.missingKey (.text "b"))) := by cbv
  refine render_unsupplied hnames (fun name hmem ↦ ⟨"x", ?_⟩) hrender (Or.inl ⟨_, rfl⟩)
  obtain rfl := List.mem_singleton.mp hmem
  rfl

/-- A field of a format specification is not listed, and its rendering fails for want of a value.
The same goes for one without a name. -/
theorem placeholders_nested :
    placeholders "\x7ba:\x7bb\x7d\x7d" = .ok ["a"] ∧
      render .typed "\x7ba:\x7bb\x7d\x7d" [("a", .text "x")] =
        .error (.unboundPlaceholder (.missingKey (.text "b"))) ∧
      placeholders "\x7ba:\x7b\x7d\x7d" = .ok ["a"] ∧
      render .typed "\x7ba:\x7b\x7d\x7d" [("a", .text "x")] =
        .error (.unrenderable (.argument (.template .positional))) := by
  have hnamed : Markup.ofChars "\x7ba:\x7bb\x7d\x7d".toList =
      .field ⟨['a'], none, ['{', 'b', '}']⟩ .done := by cbv
  have hunnamed : Markup.ofChars "\x7ba:\x7b\x7d\x7d".toList =
      .field ⟨['a'], none, ['{', '}']⟩ .done := by cbv
  refine ⟨placeholders_of_field hnamed rfl, ?_, placeholders_of_field hunnamed rfl, ?_⟩ <;> cbv

end Template

end Grounding
