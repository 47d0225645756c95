import Grounding.Proofs.Template.Values
import Grounding.Template.Renderer
import Grounding.Template.Types

/-!
# How a rendering fails

Whatever the platform, the path of a field leads to a value, unless it names an attribute
(`Reached.ValueUnless`). What can go wrong there is what can with a value. Behind an attribute there
may be things of the platform, with which it has incidents of its own (`Failure.OfReached`). Finding
a part can also fail for a key without a value, and a field may have no name
(`Placeholder.reached_endsIn`).

Main statement: `Template.render_fails`. Every failure of a rendering is one of configuration, with
the cause behind it, except for the causes that are handed on as they are (`Template.HandsOn`):
misuse of a type, results that are out of range or too long, values that are nested too deeply, and,
if an attribute is named, incidents of a kind that is not put into words. `Template.render_mistyped`
is a rendering that fails for such a cause.
-/

set_option autoImplicit false
set_option relaxedAutoImplicit false

namespace Grounding

/-! ### Things of a platform -/

section Reached

variable {platform : Platform} {attributes : Prop}

/-- A value was reached, unless attributes are named. -/
def Reached.ValueUnless (attributes : Prop) : Reached platform.Thing → Prop
  | .value _ => True
  | .thing _ => attributes

/-- What can go wrong with what was reached: what can with a value, and, if attributes are named,
every incident. -/
inductive Failure.OfReached (attributes : Prop) : Failure → Prop
  | ofValue {failure : Failure} (h : failure.OfValue) : OfReached attributes failure
  | foreign (h : attributes) (incident : Incident) : OfReached attributes (.foreign incident)

/-- A failure of what was reached, or a key under which there is no part. -/
inductive Failure.OfPart (attributes : Prop) : Failure → Prop
  | ofReached {failure : Failure} (h : failure.OfReached attributes) : OfPart attributes failure
  | missingKey (key : Value) : OfPart attributes (.missingKey key)

theorem EndsIn.ofValue {α : Type} {result : Except Failure α}
    (h : EndsIn anything Failure.OfValue result) :
    EndsIn anything (Failure.OfReached attributes) result :=
  h.weaken fun _ ↦ .ofValue

/-- Assumes: named attributes. Whatever a platform makes of a thing is allowed. -/
theorem EndsIn.incident {α : Type} (h : attributes) (result : Except Incident α) :
    EndsIn anything (Failure.OfReached attributes) (Incident.lift result) := by
  cases result with
  | ok value => exact trivial
  | error incident => exact .foreign h incident

namespace Reached

/-- Assumes: named attributes. Everything may be reached. -/
theorem valueUnless (h : attributes) (reached : Reached platform.Thing) :
    reached.ValueUnless attributes := by
  cases reached with
  | value content => exact trivial
  | thing found => exact h

/-- Assumes: named attributes. Whatever a platform gives as a part is allowed. -/
theorem lift_endsIn (h : attributes) (result : Except Incident (Reached platform.Thing)) :
    EndsIn (ValueUnless attributes) (Failure.OfPart attributes) (Incident.lift result) := by
  cases result with
  | ok part => exact part.valueUnless h
  | error incident => exact .ofReached (.foreign h incident)

theorem property_endsIn (h : attributes) (reached : Reached platform.Thing) (name : String) :
    EndsIn (ValueUnless attributes) (Failure.OfPart attributes) (reached.property name) :=
  lift_endsIn h _

variable {reached : Reached platform.Thing} (h : reached.ValueUnless attributes)
include h

theorem entry_endsIn (key : String) :
    EndsIn (ValueUnless attributes) (Failure.OfPart attributes) (reached.entry key) := by
  cases reached with
  | thing found => exact lift_endsIn h _
  | value content =>
    have hentry : EndsIn anything (Failure.OfPart attributes) (content.entry key) := by
      unfold Value.entry
      split
      · split
        · exact trivial
        · exact .missingKey _
      · exact .ofReached (.ofValue (.mistyped _))
      · exact .ofReached (.ofValue (.mistyped _))
      · exact .ofReached (.ofValue (.mistyped _))
    exact hentry.map fun _ _ ↦ trivial

theorem element_endsIn (position : Nat) :
    EndsIn (ValueUnless attributes) (Failure.OfPart attributes) (reached.element position) := by
  cases reached with
  | thing found => exact lift_endsIn h _
  | value content =>
    have helement : EndsIn anything (Failure.OfPart attributes) (content.element position) := by
      unfold Value.element
      split
      · split
        · exact trivial
        · exact .ofReached (.ofValue (.outOfRange _))
      · split
        · exact trivial
        · exact .ofReached (.ofValue (.outOfRange _))
      · exact .missingKey _
      · exact .ofReached (.ofValue (.mistyped _))
    exact helement.map fun _ _ ↦ trivial

theorem literal_endsIn : EndsIn anything (Failure.OfReached attributes) reached.literal := by
  cases reached with
  | value content => exact (platform.toLimits.literal_endsIn content).ofValue
  | thing found => exact .incident h _

theorem display_endsIn : EndsIn anything (Failure.OfReached attributes) reached.display := by
  cases reached with
  | value content => exact (platform.toLimits.display_endsIn content).ofValue
  | thing found => exact .incident h _

theorem formatted_endsIn (spec : List Char) :
    EndsIn anything (Failure.OfReached attributes) (reached.formatted spec) := by
  cases reached with
  | value content => exact (content.formatted_endsIn platform.toLimits spec).ofValue
  | thing found => exact .incident h _

end Reached

end Reached

/-! ### Following a path -/

namespace Trail

/-- A trail that is not broken for want of a name. -/
def IsPath : Trail → Prop
  | .done => True
  | .broken fault => fault ≠ .positional
  | .property _ rest => rest.IsPath
  | .key _ rest => rest.IsPath
  | .index _ rest => rest.IsPath

/-- Some step of a trail leads to an attribute. -/
def NamesAttribute : Trail → Prop
  | .done => False
  | .broken _ => False
  | .property _ _ => True
  | .key _ rest => rest.NamesAttribute
  | .index _ rest => rest.NamesAttribute

theorem isPath_ofChars (text : List Char) : (ofChars text).IsPath := by
  fun_induction ofChars text with
  | case1 => exact trivial
  | case2 => exact TemplateFault.noConfusion
  | case3 text name hname ih => exact ih
  | case4 => exact TemplateFault.noConfusion
  | case5 text stop rest hrest hlength name fault hindex hpoint =>
    have hfault := readIndex_endsIn name
    rw [hindex] at hfault
    exact hfault
  | case6 text stop rest hrest hlength name position hindex hpoint ih => exact ih
  | case7 => exact TemplateFault.noConfusion
  | case8 text stop rest hrest hlength name hindex hname hpoint ih => exact ih
  | case9 => exact TemplateFault.noConfusion

/-- Assumes: steps that lead from wanted parts to wanted parts or fail in allowed ways, those to an
attribute if there are any. So does a whole trail of them. -/
theorem follow_endsIn {platform : Platform} {attributes : Prop}
    (wanted : Reached platform.Thing → Prop) {allowed : Failure → Prop}
    (hrefused : ∀ failure, Failure.OfValue failure → allowed failure)
    (hproperty : attributes → ∀ reached, wanted reached → ∀ name,
      EndsIn wanted allowed (reached.property name))
    (hentry : ∀ reached, wanted reached → ∀ key, EndsIn wanted allowed (reached.entry key))
    (helement : ∀ reached, wanted reached → ∀ position,
      EndsIn wanted allowed (reached.element position))
    {trail : Trail} (hpath : trail.IsPath) (hnamed : trail.NamesAttribute → attributes)
    {reached : Reached platform.Thing} (h : wanted reached) :
    EndsIn wanted allowed (trail.follow reached) := by
  induction trail generalizing reached with
  | done => exact h
  | broken fault => exact hrefused _ (.refused hpath)
  | property name rest ih =>
    have hattributes := hnamed trivial
    exact (hproperty hattributes reached h _).bind fun _ hpart ↦
      ih hpath (fun _ ↦ hattributes) hpart
  | key name rest ih => exact (hentry reached h _).bind fun _ hpart ↦ ih hpath hnamed hpart
  | index position rest ih =>
    exact (helement reached h _).bind fun _ hpart ↦ ih hpath hnamed hpart

/-- Assumes: attributes if a trail names any. It leads to a value unless there are any. -/
theorem follow_valueUnless {platform : Platform} {attributes : Prop} {trail : Trail}
    (hpath : trail.IsPath) (hnamed : trail.NamesAttribute → attributes)
    {reached : Reached platform.Thing} (h : reached.ValueUnless attributes) :
    EndsIn (Reached.ValueUnless attributes) (Failure.OfPart attributes)
      (trail.follow reached) := by
  refine follow_endsIn _ ?_ ?_ ?_ ?_ hpath hnamed h
  · exact fun _ hvalue ↦ .ofReached (.ofValue hvalue)
  · exact fun hattributes part _ name ↦ part.property_endsIn hattributes name
  · exact fun _ hpart key ↦ Reached.entry_endsIn hpart key
  · exact fun _ hpart position ↦ Reached.element_endsIn hpart position

end Trail

/-! ### Fields -/

/-- A failure of a rendering before it is put into words: one of a part, or a fault of a template.
-/
inductive Failure.OfRendering (attributes : Prop) : Failure → Prop
  | ofPart {failure : Failure} (h : failure.OfPart attributes) : OfRendering attributes failure
  | template (fault : TemplateFault) : OfRendering attributes (.argument (.template fault))

theorem Failure.OfReached.ofRendering {attributes : Prop} {failure : Failure}
    (h : failure.OfReached attributes) : failure.OfRendering attributes :=
  .ofPart (.ofReached h)

namespace Placeholder

/-- The path of a field names an attribute. -/
def NamesAttribute (field : Placeholder) : Prop :=
  (Trail.ofChars field.trail).NamesAttribute

variable {platform : Platform} {attributes : Prop} {bindings : Context} {field : Placeholder}

theorem reached_endsIn (hnamed : field.NamesAttribute → attributes) :
    EndsIn (Reached.ValueUnless attributes) (Failure.OfRendering attributes)
      (field.reached platform bindings) := by
  unfold reached
  refine ((readIndex_endsIn _).lift.weaken fun _ h ↦ .ofPart (.ofReached (.ofValue h))).bind
    fun index _ ↦ ?_
  split
  · exact .template _
  · dsimp only
    cases Dict.get? bindings (String.ofList field.root) with
    | none => exact .ofPart (.missingKey _)
    | some value =>
      have hvalue : Reached.ValueUnless attributes (.value value : Reached platform.Thing) :=
        trivial
      exact (Trail.follow_valueUnless (Trail.isPath_ofChars _) hnamed hvalue).weaken
        fun _ ↦ .ofPart

theorem convert_endsIn {reached : Reached platform.Thing} (h : reached.ValueUnless attributes) :
    EndsIn (Reached.ValueUnless attributes) (Failure.OfReached attributes)
      (field.convert platform reached) := by
  unfold convert
  split
  · exact h
  · exact (Reached.display_endsIn h).map fun _ _ ↦ trivial
  · exact (Reached.literal_endsIn h).map fun _ _ ↦ trivial
  · exact (Reached.literal_endsIn h).map fun _ _ ↦ trivial
  · exact Failure.OfReached.ofValue (.refused TemplateFault.noConfusion)

/-- Assumes: a field whose path leads to a value, unless attributes are named, or fails in allowed
ways, and a specification that can be filled in or fails in such ways. So does the text of the
field. -/
theorem text_endsIn {allowed : Failure → Prop} {expand : List Char → Except Failure (List Char)}
    (hreached : EndsIn (Reached.ValueUnless attributes) allowed (field.reached platform bindings))
    (hvalue : ∀ failure, Failure.OfReached attributes failure → allowed failure)
    (hspec : field.spec.contains '{' = true → EndsIn anything allowed (expand field.spec)) :
    EndsIn anything allowed (field.text platform expand bindings) := by
  unfold text
  refine hreached.bind fun reached h ↦ ?_
  refine ((convert_endsIn h).weaken hvalue).bind fun converted h ↦ ?_
  have hlast : ∀ spec, anything spec → EndsIn anything allowed (converted.formatted spec) :=
    fun spec _ ↦ (Reached.formatted_endsIn h spec).weaken hvalue
  split
  · rename_i hnested
    exact (hspec hnested).bind hlast
  · exact hlast _ trivial

end Placeholder

/-! ### Templates -/

/-- Assumes: fields whose texts can be found or fail in allowed ways, and a fault that is allowed if
there is one. So does the whole text. -/
theorem Markup.render_endsIn {platform : Platform} {allowed : Failure → Prop}
    {bindings : Context} {expand : List Char → Except Failure (List Char)} {markup : Markup}
    (hfields : ∀ field ∈ markup.fields,
      EndsIn anything allowed (field.text platform expand bindings))
    (hfault : ∀ fault, markup.fault? = some fault → allowed (.argument (.template fault))) :
    EndsIn anything allowed (markup.render platform expand bindings) := by
  induction markup with
  | done => exact trivial
  | broken fault => exact hfault fault rfl
  | literal c rest ih => exact (ih hfields hfault).map fun _ _ ↦ trivial
  | field placeholder rest ih =>
    obtain ⟨hhead, hrest⟩ := List.forall_mem_cons.mp hfields
    exact hhead.bind fun _ _ ↦ (ih hrest hfault).bind fun _ _ ↦ trivial

namespace Template

/-- The fields of a template whose fields may be nested to a given depth, with those of their
specifications. -/
def fieldsWithin : Nat → List Char → List Placeholder
  | 0, _ => []
  | depth + 1, text =>
    (Markup.ofChars text).fields.flatMap fun field ↦ field :: fieldsWithin depth field.spec

/-- Some field of a template names an attribute, or one in a format specification. -/
def NamesAttribute (template : String) : Prop :=
  ∃ field ∈ fieldsWithin 2 template.toList, field.NamesAttribute

theorem renderNested_endsIn {attributes : Prop} (platform : Platform) (bindings : Context)
    (depth : Nat) (text : List Char)
    (hnamed : ∀ field ∈ fieldsWithin depth text, field.NamesAttribute → attributes) :
    EndsIn anything (Failure.OfRendering attributes)
      (renderNested platform bindings depth text) := by
  induction depth generalizing text with
  | zero => exact .template _
  | succ depth ih =>
    refine Markup.render_endsIn (fun field hfield ↦ ?_) fun fault _ ↦ .template fault
    have hwithin : ∀ inner ∈ field :: fieldsWithin depth field.spec,
        inner.NamesAttribute → attributes :=
      fun inner hinner ↦ hnamed inner (List.mem_flatMap.mpr ⟨field, hfield, hinner⟩)
    obtain ⟨hhead, hrest⟩ := List.forall_mem_cons.mp hwithin
    exact Placeholder.text_endsIn (Placeholder.reached_endsIn hhead)
      (fun _ ↦ Failure.OfReached.ofRendering) fun _ ↦ ih field.spec hrest

/-- A cause that a rendering hands on as it is: a use that a type does not allow, a number out of
range, a text that is too long, a value that is nested too deeply, or, if attributes are named, an
incident that is neither a key error nor an index, value or attribute error. -/
inductive HandsOn (attributes : Prop) : Failure → Prop
  | mistyped (fault : TypeFault) : HandsOn attributes (.mistyped fault)
  | overflow (fault : OverflowFault) : HandsOn attributes (.overflow fault)
  | tooLong : HandsOn attributes .tooLong
  | tooDeep : HandsOn attributes .tooDeep
  | foreign (h : attributes) {incident : Incident} (hkey : incident.kind ≠ .key)
    (hrefusal : incident.kind.isRefusal = false) : HandsOn attributes (.foreign incident)

theorem describe_foreign (incident : Incident) :
    describe (.foreign incident) =
      if incident.kind = .key then .unboundPlaceholder (.foreign incident)
      else if incident.kind.isRefusal then .unrenderable (.foreign incident)
      else .foreign incident := rfl

theorem describe_of_handsOn {attributes : Prop} {cause : Failure} (h : HandsOn attributes cause) :
    describe cause = cause := by
  cases h with
  | mistyped fault => rfl
  | overflow fault => rfl
  | tooLong => rfl
  | tooDeep => rfl
  | foreign _ hkey hrefusal =>
    rw [describe_foreign, if_neg hkey, hrefusal, if_neg Bool.false_ne_true]

/-- Assumes: what can go wrong in a rendering, and is not handed on. In the words of the library it
is a failure of configuration that was caused by it. -/
theorem describe_ofRendering {attributes : Prop} {cause : Failure}
    (h : cause.OfRendering attributes) (hhands : ¬ HandsOn attributes cause) :
    (describe cause).kind = .reported .configuration ∧ (describe cause).cause = some cause := by
  cases h with
  | template fault => exact ⟨rfl, rfl⟩
  | ofPart hpart =>
    cases hpart with
    | missingKey key => exact ⟨rfl, rfl⟩
    | ofReached hreached =>
      cases hreached with
      | ofValue hvalue =>
        cases hvalue with
        | refused hfault => exact ⟨rfl, rfl⟩
        | tooManyDigits limit => exact ⟨rfl, rfl⟩
        | outOfRange sequence => exact ⟨rfl, rfl⟩
        | mistyped fault => exact absurd (.mistyped fault) hhands
        | overflow fault => exact absurd (.overflow fault) hhands
        | tooLong => exact absurd .tooLong hhands
        | tooDeep => exact absurd .tooDeep hhands
      | foreign hattributes incident =>
        rw [describe_foreign]
        by_cases hkey : incident.kind = .key
        · rw [if_pos hkey]
          exact ⟨rfl, rfl⟩
        · cases hrefusal : incident.kind.isRefusal with
          | true =>
            rw [if_neg hkey, if_pos rfl]
            exact ⟨rfl, rfl⟩
          | false => exact absurd (.foreign hattributes hkey hrefusal) hhands

/-- Assumes: a rendering that fails. It fails for a cause in the words of the library. -/
theorem exists_cause {platform : Platform} {template : String} {bindings : Context}
    {failure : Failure} (h : render platform template bindings = .error failure) :
    ∃ cause, renderNested platform bindings 2 template.toList = .error cause ∧
      failure = describe cause := by
  unfold render at h
  cases hnested : renderNested platform bindings 2 template.toList with
  | ok text =>
    rw [hnested] at h
    cases h
  | error cause =>
    rw [hnested] at h
    obtain ⟨⟩ := h
    exact ⟨cause, rfl, rfl⟩

/-- Assumes: a rendering that fails, on any platform. It fails for a cause. Unless the cause is
handed on as it is, the failure is one of configuration, with the cause behind it. -/
theorem render_fails {platform : Platform} {template : String} {bindings : Context}
    {failure : Failure} (h : render platform template bindings = .error failure) :
    ∃ cause, renderNested platform bindings 2 template.toList = .error cause ∧
      (¬ HandsOn (NamesAttribute template) cause →
        failure.kind = .reported .configuration ∧ failure.cause = some cause) ∧
      (HandsOn (NamesAttribute template) cause → failure = cause) := by
  obtain ⟨cause, hnested, rfl⟩ := exists_cause h
  have hcause : cause.OfRendering (NamesAttribute template) := by
    have hends := renderNested_endsIn platform bindings 2 template.toList
      fun field hfield hnamed ↦ (⟨field, hfield, hnamed⟩ : NamesAttribute template)
    rw [hnested] at hends
    exact hends
  exact ⟨cause, hnested, describe_ofRendering hcause, describe_of_handsOn⟩

/-- A key of a text is a use that its type does not allow, which is handed on and is no failure of
configuration. -/
theorem render_mistyped :
    render .typed "\x7bquery[x]\x7d" [("query", .text "q")] =
        .error (.mistyped (.textIndex "str")) ∧
      (Failure.mistyped (.textIndex "str")).kind ≠ .reported .configuration := by
  refine ⟨?_, FailureKind.noConfusion⟩
  cbv

/-- An attribute that a text does not have is named in a failure of configuration. -/
theorem render_fails_missing_attribute :
    ∃ incident cause,
      renderNested .typed [("query", .text "q")] 2 "\x7bquery.size\x7d".toList = .error cause ∧
      incident.message = "'str' object has no attribute 'size'" ∧
      (¬ HandsOn (NamesAttribute "\x7bquery.size\x7d") cause →
        (Failure.unrenderable (.foreign incident)).kind = .reported .configuration ∧
          (Failure.unrenderable (.foreign incident)).cause = some cause) ∧
      (HandsOn (NamesAttribute "\x7bquery.size\x7d") cause →
        Failure.unrenderable (.foreign incident) = cause) := by
  have hrender : render .typed "\x7bquery.size\x7d" [("query", .text "q")] =
      .error (.unrenderable (.foreign
        ⟨.attribute, "AttributeError", "'str' object has no attribute 'size'"⟩)) := by cbv
  obtain ⟨cause, hcause, hdescribed⟩ := render_fails hrender
  exact ⟨_, cause, hcause, rfl, hdescribed⟩

end Template

end Grounding
