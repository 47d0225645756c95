import Grounding.Document
import Grounding.Query
import Grounding.Template.Renderer

/-!
Augmenters: what turns a query and the documents found for it into the text for the model.

* `Augmenter` is any augmenter as a pipeline sees it.
* `ContextualAugmenter` renders one of three templates: with documents the prompt, without documents
  the refusal, or, if an empty context is allowed, the prompt for an empty context.
* `ContextualAugmenter.build` checks that the templates hold the placeholders they need.
-/

set_option autoImplicit false
set_option relaxedAutoImplicit false

namespace Grounding

/-- What turns a query and documents into another query. -/
structure Augmenter (σ : Type) where
  literal : String
  augment : Query → List Document → Action σ Query

namespace ContextualAugmenter

/-- The placeholder for the text of the query. -/
def queryKey : String := "query"

/-- The placeholder for the texts of the documents. -/
def contextKey : String := "context"

/-- The usual template for documents. -/
def defaultPrompt : String :=
  "Context information is below.\n\n---------------------\n\x7bcontext\x7d\n" ++
  "---------------------\n\n" ++
  "Given the context information and no prior knowledge, answer the query.\n\n" ++
  "Follow these rules:\n\n" ++
  "1. If the answer is not in the context, just say that you don't know.\n" ++
  "2. Avoid statements like \"Based on the context...\" or " ++
  "\"The provided information...\".\n\n" ++
  "Query: \x7bquery\x7d\n\nAnswer:\n"

/-- The usual template for a refusal. -/
def defaultRefusal : String :=
  "The user query is outside your knowledge base.\n" ++
  "Politely inform the user that you can't answer it.\n"

/-- The usual template for an empty context. -/
def defaultEmptyContext : String :=
  "No context information was found for this query.\n\n" ++
  "Answer the query using only the conversation history.\n" ++
  "If the history does not contain the answer, just say that you don't know.\n\n" ++
  "Query: \x7bquery\x7d\n\nAnswer:\n"

end ContextualAugmenter

/-- The texts of documents, one line after the other. -/
def joinTexts (documents : List Document) : String :=
  "\n".intercalate (documents.map Document.text)

/-- An augmenter with templates for the outcomes of retrieval. -/
structure ContextualAugmenter (σ : Type) where
  prompt : String := ContextualAugmenter.defaultPrompt
  refusal : String := ContextualAugmenter.defaultRefusal
  emptyContext : String := ContextualAugmenter.defaultEmptyContext
  allowEmptyContext : Bool := false
  format : List Document → Action σ String := fun documents ↦ pure (joinTexts documents)
  renderer : Renderer σ

namespace ContextualAugmenter

variable {σ : Type}

/-- The augmenter itself if its templates hold what they need. -/
def build (augmenter : ContextualAugmenter σ) : Except Failure (ContextualAugmenter σ) := do
  augmenter.renderer.validate augmenter.prompt [queryKey, contextKey] "prompt_template"
  augmenter.renderer.validate augmenter.emptyContext [queryKey] "empty_context_prompt_template"
  augmenter.renderer.validate augmenter.refusal [] "refusal_prompt_template"
  return augmenter

/-- How an augmenter is written. -/
def literal (augmenter : ContextualAugmenter σ) : String :=
  "ContextualQueryAugmenter(allow_empty_context=" ++ truthText augmenter.allowEmptyContext ++ ")"

/-- The template for an empty context. -/
def templateWithout (augmenter : ContextualAugmenter σ) : String :=
  if augmenter.allowEmptyContext then augmenter.emptyContext else augmenter.refusal

/-- The augmented query. -/
def augment (augmenter : ContextualAugmenter σ) (query : Query) (documents : List Document) :
    Action σ Query := do
  if documents.isEmpty then
    let text ← augmenter.renderer.render augmenter.templateWithout [(queryKey, .text query.text)]
    return query.withText text
  else
    let context ← augmenter.format documents
    let text ← augmenter.renderer.render augmenter.prompt
      [(queryKey, .text query.text), (contextKey, .text context)]
    return query.withText text

/-- The augmenter as a pipeline sees it. -/
def toAugmenter (augmenter : ContextualAugmenter σ) : Augmenter σ where
  literal := augmenter.literal
  augment := augmenter.augment

end ContextualAugmenter

end Grounding
