import Grounding.Action
import Grounding.Query
import Grounding.Text.Lowercase

/-!
Query transformers: what changes a query before documents are retrieved for it.

* `QueryTransformer` is any transformer as a pipeline sees it.
* `Rephrasing` is one of the three built-in transformers, which ask a generation callback for
  another text: `compression` makes a follow-up understandable without the history, `forSystem`
  suits the query to a search system, `intoLanguage` to a language. A blank answer keeps the query
  as it is.
* A generation callback may answer with any value; a text is expected, and null counts as blank.
-/

set_option autoImplicit false
set_option relaxedAutoImplicit false

namespace Grounding

/-- What changes a query; `none` stands for anything but a query. -/
structure QueryTransformer (σ : Type) where
  name : String
  literal : String
  transform : Query → Action σ (Option Query)

/-- The text of a value without the white space at its ends; only texts have it. -/
def Value.stripped (value : Value) : Except Failure String :=
  match value with
  | .text content => .ok (Text.strip content)
  | _ => .error (.missingAttribute value.typeName "strip")

/-- Calls a generation callback on behalf of a transformer. -/
def generate {σ : Type} (transformer : String) (callback : Action σ Value) : Action σ Value :=
  Action.protect (.generationFailed transformer) callback

/-- The query with a generated text, or the query itself if that is null or blank. -/
def Query.withGenerated {σ : Type} (query : Query) (transformer : String) (generated : Value) :
    Action σ Query := do
  let text ← match generated with
    | .null => pure ""
    | value => Action.ofExcept value.stripped
  if text.isEmpty then
    Action.warn (.emptyGeneration transformer)
    return query
  else return query.withText text

/-- A built-in transformer, with its callbacks. -/
inductive Rephrasing (σ : Type)
  | compression (generate : List Message → String → Action σ Value)
  | forSystem (system : String) (generate : String → String → Action σ Value)
  | intoLanguage (language : String) (detect : Option (String → Action σ Value))
    (generate : String → String → Action σ Value)

namespace Rephrasing

variable {σ : Type}

/-- The search system that queries are suited to unless another one is named. -/
def defaultSystem : String := "vector store"

/-- A transformer that suits queries to a search system, which has to be named. -/
def suitedTo (system : String) (callback : String → String → Action σ Value) :
    Except Failure (Rephrasing σ) :=
  if Text.isBlank system then .error (.argument .blankTargetSystem)
  else .ok (.forSystem system callback)

/-- A transformer that puts queries into a language, which has to be named. -/
def spokenIn (language : String) (detect : Option (String → Action σ Value))
    (callback : String → String → Action σ Value) : Except Failure (Rephrasing σ) :=
  if Text.isBlank language then .error (.argument .blankTargetLanguage)
  else .ok (.intoLanguage language detect callback)

/-- The name of a transformer. -/
def name : Rephrasing σ → String
  | .compression _ => "CompressionQueryTransformer"
  | .forSystem _ _ => "RewriteQueryTransformer"
  | .intoLanguage _ _ _ => "TranslationQueryTransformer"

/-- How a transformer is written. -/
def literal (rephrasing : Rephrasing σ) : String :=
  rephrasing.name ++ "(" ++
    (match rephrasing with
      | .compression _ => ""
      | .forSystem system _ => "target_search_system=" ++ Text.quoted system
      | .intoLanguage language _ _ => "target_language=" ++ Text.quoted language) ++ ")"

/-- Whether a detected language is to be kept: it is null, or it is the target itself up to
case and the white space around it. -/
def isTarget (language : String) (detected : Value) : Except Failure Bool :=
  match detected with
  | .null => .ok true
  | value => value.stripped.map fun text ↦ Text.lower text == Text.lower language

/-- Whether a query is to be left alone, as far as the detection of its language goes. -/
def isSettled (language : String) (detect : Option (String → Action σ Value)) (text : String) :
    Action σ Bool :=
  match detect with
  | none => pure false
  | some detect => do
    let detected ← generate "TranslationQueryTransformer" (detect text)
    Action.ofExcept (isTarget language detected)

/-- The transformed query. -/
def transform (rephrasing : Rephrasing σ) (query : Query) : Action σ Query :=
  match rephrasing with
  | .compression callback =>
    if query.history.isEmpty then pure query
    else do
      let generated ← generate rephrasing.name (callback query.history query.text)
      query.withGenerated rephrasing.name generated
  | .forSystem system callback => do
    let generated ← generate rephrasing.name (callback query.text system)
    query.withGenerated rephrasing.name generated
  | .intoLanguage language detect callback => do
    if ← isSettled language detect query.text then return query
    else
      let generated ← generate rephrasing.name (callback query.text language)
      query.withGenerated rephrasing.name generated

/-- The transformer as a pipeline sees it. -/
def toTransformer (rephrasing : Rephrasing σ) : QueryTransformer σ where
  name := rephrasing.name
  literal := rephrasing.literal
  transform query := do return some (← rephrasing.transform query)

end Rephrasing

end Grounding
