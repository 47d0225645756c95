import Grounding.Advisor.QuestionAnswer
import Grounding.Proofs.Action
import Grounding.Proofs.Template.Plain

/-!
# What the usual templates make of a query

The usual templates of an augmenter are plain: `promptSegments`, `emptyContextSegments` and
`refusalSegments` write them. Rendering them is therefore to put texts in place of the two
placeholders, as they are (`promptWith`, `emptyContextWith`), and never fails on any platform.

`augment_usual`: an augmenter with its usual templates only changes the text of a query, to one of
these texts.

The usual template of an advisor that answers questions is plain as well, with one placeholder
(`QuestionAnswerAdvisor.render_prompt`).
-/

set_option autoImplicit false
set_option relaxedAutoImplicit false

namespace Grounding.ContextualAugmenter

open Grounding.Template

variable {σ : Type}

/-! ### Texts -/

/-- The usual prompt with texts in place of its placeholders. -/
def promptWith (context query : String) : String :=
  ("Context information is below.\n\n---------------------\n" ++ context ++ "\n") ++
  "---------------------\n\n" ++
  "Given the context information and no prior knowledge, answer the query.\n\n" ++
  "Follow these rules:\n\n" ++
  "1. If the answer is not in the context, just say that you don't know.\n" ++
  "2. Avoid statements like \"Based on the context...\" or " ++
  "\"The provided information...\".\n\n" ++
  ("Query: " ++ query ++ "\n\nAnswer:\n")

/-- The usual prompt for an empty context with a text in place of its placeholder. -/
def emptyContextWith (query : String) : String :=
  "No context information was found for this query.\n\n" ++
  "Answer the query using only the conversation history.\n" ++
  "If the history does not contain the answer, just say that you don't know.\n\n" ++
  ("Query: " ++ query ++ "\n\nAnswer:\n")

theorem promptWith_placeholders :
    promptWith "\x7bcontext\x7d" "\x7bquery\x7d" = defaultPrompt := by
  have hhead : "Context information is below.\n\n---------------------\n" ++ "\x7bcontext\x7d" ++
      "\n" = "Context information is below.\n\n---------------------\n\x7bcontext\x7d\n" := by
    decide
  have hlast : "Query: " ++ "\x7bquery\x7d" ++ "\n\nAnswer:\n" =
      "Query: \x7bquery\x7d\n\nAnswer:\n" := by
    decide
  unfold promptWith defaultPrompt
  rw [hhead, hlast]

theorem emptyContextWith_placeholder :
    emptyContextWith "\x7bquery\x7d" = defaultEmptyContext := by
  have hlast : "Query: " ++ "\x7bquery\x7d" ++ "\n\nAnswer:\n" =
      "Query: \x7bquery\x7d\n\nAnswer:\n" := by
    decide
  unfold emptyContextWith defaultEmptyContext
  rw [hlast]

/-! ### Segments -/

/-- The segments with which two of the usual templates end. -/
def querySegments : List Segment :=
  [Segment.literal "Query: "] ++ [Segment.field queryKey] ++ [Segment.literal "\n\nAnswer:\n"]

/-- The segments of the usual prompt. -/
def promptSegments : List Segment :=
  ([Segment.literal "Context information is below.\n\n---------------------\n"] ++
    [Segment.field contextKey] ++ [Segment.literal "\n"]) ++
  [Segment.literal "---------------------\n\n"] ++
  [Segment.literal "Given the context information and no prior knowledge, answer the query.\n\n"] ++
  [Segment.literal "Follow these rules:\n\n"] ++
  [Segment.literal "1. If the answer is not in the context, just say that you don't know.\n"] ++
  [Segment.literal "2. Avoid statements like \"Based on the context...\" or "] ++
  [Segment.literal "\"The provided information...\".\n\n"] ++
  querySegments

/-- The segments of the usual prompt for an empty context. -/
def emptyContextSegments : List Segment :=
  [Segment.literal "No context information was found for this query.\n\n"] ++
  [Segment.literal "Answer the query using only the conversation history.\n"] ++
  [Segment.literal
    "If the history does not contain the answer, just say that you don't know.\n\n"] ++
  querySegments

/-- The segments of the usual refusal. -/
def refusalSegments : List Segment :=
  [Segment.literal "The user query is outside your knowledge base.\n"] ++
  [Segment.literal "Politely inform the user that you can't answer it.\n"]

theorem writes_query : Writes querySegments "Query: \x7bquery\x7d\n\nAnswer:\n" := by
  unfold Writes
  decide

theorem writes_prompt : Writes promptSegments defaultPrompt := by
  refine .append (.append (.append (.append (.append (.append (.append ?_ ?_) ?_) ?_) ?_) ?_) ?_)
    writes_query
  · unfold Writes
    decide
  all_goals
    refine writes_literal ?_
    decide +kernel

theorem writes_emptyContext : Writes emptyContextSegments defaultEmptyContext := by
  refine .append (.append (.append ?_ ?_) ?_) writes_query
  all_goals
    refine writes_literal ?_
    decide +kernel

theorem writes_refusal : Writes refusalSegments defaultRefusal := by
  refine .append ?_ ?_
  all_goals
    refine writes_literal ?_
    decide +kernel

theorem isPlain_query : (Segment.field queryKey).IsPlain :=
  ⟨'q', "uery".toList, by decide, by decide, by simp [Segment.IsSpecial]⟩

theorem isPlain_context : (Segment.field contextKey).IsPlain :=
  ⟨'c', "ontext".toList, by decide, by decide, by simp [Segment.IsSpecial]⟩

/-! ### Rendering -/

section Fill

variable {texts : Dict String} {context query : String}
  (hquery : Dict.get? texts queryKey = some query)
include hquery

theorem fill_query :
    Segment.fill texts querySegments = .ok ("Query: " ++ query ++ "\n\nAnswer:\n") :=
  Segment.fill_append (Segment.fill_append (Segment.fill_literal _) (Segment.fill_field hquery))
    (Segment.fill_literal _)

theorem fill_prompt (hcontext : Dict.get? texts contextKey = some context) :
    Segment.fill texts promptSegments = .ok (promptWith context query) := by
  refine Segment.fill_append ?_ (fill_query hquery)
  iterate 6 refine Segment.fill_append ?_ (Segment.fill_literal _)
  refine Segment.fill_append (Segment.fill_append ?_ ?_) ?_
  · exact Segment.fill_literal _
  · exact Segment.fill_field hcontext
  · exact Segment.fill_literal _

theorem fill_emptyContext :
    Segment.fill texts emptyContextSegments = .ok (emptyContextWith query) := by
  refine Segment.fill_append ?_ (fill_query hquery)
  iterate 2 refine Segment.fill_append ?_ (Segment.fill_literal _)
  exact Segment.fill_literal _

end Fill

theorem fill_refusal (texts : Dict String) :
    Segment.fill texts refusalSegments = .ok defaultRefusal :=
  Segment.fill_append (Segment.fill_literal _) (Segment.fill_literal _)

theorem render_prompt (platform : Platform) (context query : String) :
    render platform defaultPrompt [(queryKey, .text query), (contextKey, .text context)] =
      .ok (promptWith context query) := by
  have hplain : ∀ segment ∈ promptSegments, segment.IsPlain := by
    simp [promptSegments, querySegments, Segment.isPlain_literal, isPlain_query, isPlain_context]
  have hcontext : Dict.get? [(queryKey, query), (contextKey, context)] contextKey =
    some context := rfl
  have hrender := render_of_writes hplain writes_prompt platform
    [(queryKey, query), (contextKey, context)]
  rw [fill_prompt rfl hcontext] at hrender
  exact hrender

theorem render_emptyContext (platform : Platform) (query : String) :
    render platform defaultEmptyContext [(queryKey, .text query)] =
      .ok (emptyContextWith query) := by
  have hplain : ∀ segment ∈ emptyContextSegments, segment.IsPlain := by
    simp [emptyContextSegments, querySegments, Segment.isPlain_literal, isPlain_query]
  have hrender := render_of_writes hplain writes_emptyContext platform [(queryKey, query)]
  rw [fill_emptyContext rfl] at hrender
  exact hrender

theorem render_refusal (platform : Platform) (query : String) :
    render platform defaultRefusal [(queryKey, .text query)] = .ok defaultRefusal := by
  have hplain : ∀ segment ∈ refusalSegments, segment.IsPlain := by
    simp [refusalSegments, Segment.isPlain_literal]
  have hrender := render_of_writes hplain writes_refusal platform [(queryKey, query)]
  rw [fill_refusal] at hrender
  exact hrender

/-! ### Augmenting -/

/-- The text that an augmenter with its usual templates makes of a query and documents. -/
def usualText (allowEmptyContext : Bool) (query : String) (documents : List Document) : String :=
  if documents = [] then
    if allowEmptyContext then emptyContextWith query else defaultRefusal
  else promptWith (joinTexts documents) query

/-- Assumes: a template that is rendered. The renderer hands its text on. -/
theorem braces_bind {α : Type} {platform : Platform} {template text : String}
    {bindings : Context} (h : render platform template bindings = .ok text)
    (next : String → Action σ α) :
    ((Renderer.braces platform : Renderer σ).render template bindings >>= next) = next text := by
  show Action.ofExcept (render platform template bindings) >>= next = _
  rw [h]
  exact pure_bind text next

/-- With its usual templates an augmenter changes the text of a query and nothing else, and it never
fails. -/
theorem augment_usual (platform : Platform) (allowEmptyContext : Bool) (query : Query)
    (documents : List Document) :
    augment ({ allowEmptyContext, renderer := .braces platform } : ContextualAugmenter σ) query
        documents =
      pure (query.withText (usualText allowEmptyContext query.text documents)) := by
  unfold augment usualText
  cases documents with
  | nil =>
    rw [List.isEmpty_nil, if_pos rfl, if_pos rfl, templateWithout]
    cases allowEmptyContext with
    | true =>
      exact braces_bind (render_emptyContext platform query.text) _
    | false =>
      exact braces_bind (render_refusal platform query.text) _
  | cons document rest =>
    rw [List.isEmpty_cons, if_neg Bool.false_ne_true, if_neg (List.cons_ne_nil document rest),
      pure_bind]
    exact braces_bind (render_prompt platform _ query.text) _

theorem toAugmenter_usual (platform : Platform) (allowEmptyContext : Bool) :
    (toAugmenter { allowEmptyContext, renderer := .braces platform } : Augmenter σ) =
      { literal := literal
          ({ allowEmptyContext, renderer := .braces platform } : ContextualAugmenter σ)
        augment := fun query documents ↦
          pure (query.withText (usualText allowEmptyContext query.text documents)) } := by
  unfold toAugmenter
  congr
  funext query documents
  exact augment_usual platform allowEmptyContext query documents

end Grounding.ContextualAugmenter

/-! ### Answering questions -/

namespace Grounding.QuestionAnswerAdvisor

open Grounding.Template

/-- The usual prompt with a text in place of its placeholder. -/
def promptWith (context : String) : String :=
  "\nContext information is below, surrounded by ---------------------\n\n" ++
  ("---------------------\n" ++ context ++ "\n---------------------\n\n") ++
  "Given the context and provided history information and not prior knowledge,\n" ++
  "reply to the user comment. If the answer is not in the context, inform\n" ++
  "the user that you can't answer the question.\n"

/-- The segments of the usual prompt. -/
def promptSegments : List Segment :=
  [Segment.literal "\nContext information is below, surrounded by ---------------------\n\n"] ++
  ([Segment.literal "---------------------\n"] ++ [Segment.field contextKey] ++
    [Segment.literal "\n---------------------\n\n"]) ++
  [Segment.literal
    "Given the context and provided history information and not prior knowledge,\n"] ++
  [Segment.literal "reply to the user comment. If the answer is not in the context, inform\n"] ++
  [Segment.literal "the user that you can't answer the question.\n"]

theorem writes_prompt : Writes promptSegments defaultPrompt := by
  refine .append (.append (.append (.append ?_ ?_) ?_) ?_) ?_
  case refine_2 =>
    unfold Writes
    decide
  all_goals
    refine writes_literal ?_
    decide +kernel

theorem isPlain_context : (Segment.field contextKey).IsPlain :=
  ⟨'q', "uestion_answer_context".toList, by decide, by decide, by simp [Segment.IsSpecial]⟩

theorem fill_prompt (context : String) :
    Segment.fill [(contextKey, context)] promptSegments = .ok (promptWith context) := by
  iterate 3 refine Segment.fill_append ?_ (Segment.fill_literal _)
  refine Segment.fill_append (Segment.fill_literal _) ?_
  exact Segment.fill_append
    (Segment.fill_append (Segment.fill_literal _) (Segment.fill_field rfl)) (Segment.fill_literal _)

theorem render_prompt (platform : Platform) (context : String) :
    render platform defaultPrompt [(contextKey, .text context)] = .ok (promptWith context) := by
  have hplain : ∀ segment ∈ promptSegments, segment.IsPlain := by
    simp [promptSegments, Segment.isPlain_literal, isPlain_context]
  have hrender := render_of_writes hplain writes_prompt platform [(contextKey, context)]
  rw [fill_prompt] at hrender
  exact hrender

end Grounding.QuestionAnswerAdvisor
