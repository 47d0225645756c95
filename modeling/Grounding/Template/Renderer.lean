import Grounding.Action
import Grounding.Template.FormatSpec
import Grounding.Template.Markup
import Grounding.Text.Sorted

/-!
Rendering templates. A renderer puts bound values into a template; one that can list the
placeholders of a template lets it be checked before the first use.

* `Template.render` renders a template of fields between braces on a platform,
  `Template.placeholders` lists the names of its fields, each once and in order of appearance.
* `Renderer` is any way to render, `Renderer.braces` this one.
* `Renderer.validate` refuses a template that lacks a required placeholder.
* Literals and fields are rendered from left to right, and the first fault ends the rendering.
-/

set_option autoImplicit false
set_option relaxedAutoImplicit false

namespace Grounding

/-! ### Fields -/

namespace Placeholder

variable (platform : Platform)

/-- What the path of a field leads to. A field without a name, or with a number for one, stands for
no bound value. -/
def reached (bindings : Context) (field : Placeholder) :
    Except Failure (Reached platform.Thing) := do
  let index ← TemplateFault.lift (readIndex field.root)
  if field.root.isEmpty || index.isSome then .error (.argument (.template .positional))
  else
    let name := String.ofList field.root
    match Dict.get? bindings name with
    | none => .error (.missingKey (.text name))
    | some value => (Trail.ofChars field.trail).follow (.value value)

/-- What a field stands for after its conversion. -/
def convert (field : Placeholder) (reached : Reached platform.Thing) :
    Except Failure (Reached platform.Thing) :=
  match field.conversion with
  | none => .ok reached
  | some 's' => reached.display.map fun text ↦ .value (.text text)
  | some 'r' => reached.literal.map fun text ↦ .value (.text text)
  | some 'a' => reached.literal.map fun text ↦ .value (.text (Text.asciiOnly text))
  | some conversion => .error (.argument (.template (.unknownConversion conversion)))

/-- The text of a field, given a way to fill in the fields of its specification. -/
def text (expand : List Char → Except Failure (List Char)) (bindings : Context)
    (field : Placeholder) : Except Failure (List Char) := do
  let reached ← field.reached platform bindings
  let reached ← field.convert platform reached
  let spec ← if field.spec.contains '{' then expand field.spec else .ok field.spec
  reached.formatted spec

end Placeholder

/-! ### Templates -/

namespace Markup

/-- The text of a template, given a way to fill in the fields of specifications. -/
def render (platform : Platform) (expand : List Char → Except Failure (List Char))
    (bindings : Context) : Markup → Except Failure (List Char)
  | .done => .ok []
  | .broken fault => .error (.argument (.template fault))
  | .literal c rest => (render platform expand bindings rest).map (c :: ·)
  | .field placeholder rest => do
    let text ← placeholder.text platform expand bindings
    let tail ← render platform expand bindings rest
    return text ++ tail

end Markup

/-- Whether failures of a kind are index errors, value errors or attribute errors. -/
def FailureKind.isRefusal : FailureKind → Bool
  | .reported .index => true
  | .reported .value => true
  | .reported .configuration => true
  | .validation => true
  | .attribute => true
  | _ => false

namespace Template

/-- The text of a template whose fields may be nested to a given depth. -/
def renderNested (platform : Platform) (bindings : Context) :
    Nat → List Char → Except Failure (List Char)
  | 0, _ => .error (.argument (.template .nestedTooDeep))
  | depth + 1, text =>
    (Markup.ofChars text).render platform (renderNested platform bindings depth) bindings

/-- A failure of rendering in the words of the library. Failures of other kinds, such as misuse of a
value's type and results out of range, are handed on as they are. -/
def describe (failure : Failure) : Failure :=
  if failure.kind = .key then .unboundPlaceholder failure
  else if failure.kind.isRefusal then .unrenderable failure
  else failure

/-- The text of a template. The specification of a field may hold fields, but these none of their
own. -/
def render (platform : Platform) (template : String) (bindings : Context) :
    Except Failure String :=
  match renderNested platform bindings 2 template.toList with
  | .ok text => .ok (String.ofList text)
  | .error failure => .error (describe failure)

/-- The name of a field, if it has one that is not a number. -/
def fieldName (field : Placeholder) : Except Failure String :=
  if field.root.isEmpty || Text.isNumeral field.root then
    .error (.configuration (.positionalPlaceholder (String.ofList field.path)))
  else .ok (String.ofList field.root)

/-- The names of the fields of a template, with repetitions. -/
def fieldNames : Markup → Except Failure (List String)
  | .done => .ok []
  | .broken fault => .error (.malformedTemplate fault)
  | .literal _ rest => fieldNames rest
  | .field placeholder rest => do
    let name ← fieldName placeholder
    let names ← fieldNames rest
    return name :: names

/-- The names of the fields of a template. -/
def placeholders (template : String) : Except Failure (List String) :=
  (fieldNames (Markup.ofChars template.toList)).map List.eraseDups

end Template

/-! ### Renderers -/

/-- A way to render templates, which may be able to list placeholders. -/
structure Renderer (σ : Type) where
  placeholders : Option (String → Except Failure (List String))
  render : String → Context → Action σ String

namespace Renderer

variable {σ : Type}

/-- The renderer for fields between braces, on a platform. -/
def braces (platform : Platform) : Renderer σ where
  placeholders := some Template.placeholders
  render template bindings := Action.ofExcept (Template.render platform template bindings)

/-- How the renderer for fields between braces is written. -/
def bracesLiteral : String := "FormatTemplateRenderer()"

/-- Refuses a template that lacks one of the required placeholders; what cannot be listed is not
checked. -/
def validate (renderer : Renderer σ) (template : String) (required : List String)
    (name : String) : Except Failure Unit :=
  match renderer.placeholders with
  | none => .ok ()
  | some placeholders => do
    let present ← placeholders template
    let missing := required.eraseDups.filter fun placeholder ↦ !present.contains placeholder
    if missing.isEmpty then .ok ()
    else .error (.configuration (.missingPlaceholders name (Text.sorted missing)))

end Renderer

end Grounding
