import Grounding.Proofs.Joining
import Grounding.Proofs.Pipeline.Completion
import Grounding.Proofs.Pipeline.Groups
import Grounding.Proofs.Pipeline.Order
import Grounding.Proofs.Template.Usual
import Grounding.Template.Types

/-!
# When a pipeline refuses to answer

With an augmenter that has its usual templates, the text for the model is a refusal, or the prompt
for an empty context, exactly if there are no joined documents. The two built-in joiners make
nothing only of empty lists (`Joiner.KeepsSome`), and every found list is filed in the groups. So
there are no joined documents exactly if every retrieval has found nothing (`FindsNothing`).

`run_refuses` says so about the calls of a run and its result, and what the augmented query is in
either case: the query that was asked in the first place with another text, in which the texts of
the documents and of the query stand as they are.
-/

set_option autoImplicit false
set_option relaxedAutoImplicit false

namespace Grounding

open Grounding.Action

variable {σ : Type}

namespace Pipeline

open ContextualAugmenter

/-- Every retrieval of a run has found nothing. -/
def FindsNothing (pipeline : Pipeline σ) (query : Query) (scene : Scene σ) : Prop :=
  ∀ exchange ∈ pipeline.exchanges query scene, ∀ asked, exchange.call = .retrieve asked →
    exchange.outcome = .ok (.documents (some []))

/-- Assumes: a run with a result. Its retrievals have found nothing exactly if all lists of its
groups are empty. -/
theorem findsNothing_iff {pipeline : Pipeline σ} {query : Query} {scene : Scene σ}
    {result : PipelineResult} (h : (pipeline.run query).outcome scene = .ok result) :
    pipeline.FindsNothing query scene ↔ ∀ list ∈ result.documentsByQuery.lists, list = [] := by
  obtain ⟨plan, hexchanges, rfl⟩ := exists_plan_of_run pipeline h
  have hgroups : plan.result.documentsByQuery = groupsOf plan.found := rfl
  rw [FindsNothing, hexchanges, hgroups]
  constructor
  · intro hnothing list hlist
    obtain ⟨asked, hfound⟩ := mem_lists_groupsOf_iff.mp hlist
    have houtcome := hnothing _ (plan.mem_exchanges_of_found hfound) asked rfl
    obtain ⟨⟩ := houtcome
    rfl
  · intro hempty exchange hmem asked hcall
    obtain ⟨documents, hfound, houtcome⟩ := plan.exists_found hmem hcall
    rw [houtcome, hempty documents (mem_lists_groupsOf_iff.mpr ⟨asked, hfound⟩)]

/-- Assumes: a joiner that concatenates or fuses, an augmenter with its usual templates, and a run
with a result. The context counts as empty exactly if there are no joined documents, and there are
none exactly if every retrieval has found nothing. The augmented query is the one that was asked in
the first place, with another text: the refusal, or the prompt for an empty context if that is
allowed, if there are no documents, and otherwise the prompt. In these the texts of the query and of
the documents stand as they are, in place of the placeholders, whatever the platform. -/
theorem run_refuses (pipeline : Pipeline σ) (platform : Platform) (allowEmptyContext : Bool)
    (query : Query) (scene : Scene σ) (result : PipelineResult)
    (hjoiner : pipeline.joiner = .concatenation ∨
      ∃ smoothing limit, Joiner.fusion smoothing limit = .ok pipeline.joiner)
    (haugmenter : pipeline.augmenter =
      toAugmenter { allowEmptyContext, renderer := .braces platform })
    (hrun : (pipeline.run query).outcome scene = .ok result) :
    (result.diagnostics.emptyContext = true ↔ result.documents = []) ∧
      (result.documents = [] ↔ pipeline.FindsNothing query scene) ∧
      (result.documents = [] → result.augmentedQuery.text =
        if allowEmptyContext then emptyContextWith query.text else defaultRefusal) ∧
      (result.documents ≠ [] →
        result.augmentedQuery.text = promptWith (joinTexts result.documents) query.text) ∧
      result.augmentedQuery.history = query.history ∧
      result.augmentedQuery.context = query.context ∧
      promptWith "\x7bcontext\x7d" "\x7bquery\x7d" = defaultPrompt ∧
      emptyContextWith "\x7bquery\x7d" = defaultEmptyContext := by
  have hcompletion := completion_of_run hrun
  have hkeeps : pipeline.joiner.KeepsSome := by
    rcases hjoiner with hconcatenation | ⟨smoothing, limit, hfusion⟩
    · rw [hconcatenation]
      exact Joiner.concatenation_keepsSome
    · exact Joiner.fusion_keepsSome hfusion
  obtain ⟨joining, hjoined⟩ := hcompletion.joined
  obtain ⟨augmenting, haugmented⟩ := hcompletion.augmented
  rw [haugmenter, toAugmenter_usual] at haugmented
  have hquery := Except.ok.inj haugmented
  rw [← hquery]
  refine ⟨?_, ?_, ?_, ?_, rfl, rfl, promptWith_placeholders, emptyContextWith_placeholder⟩
  · rw [hcompletion.emptyContext_eq, List.isEmpty_iff]
  · rw [findsNothing_iff hrun]
    exact hkeeps _ joining _ hjoined
  · intro hnone
    exact if_pos hnone
  · intro hsome
    exact if_neg hsome

/-- A pipeline that always finds a document whose text looks like a placeholder. -/
def quoting : Pipeline Unit where
  retriever := {
    name := "quoting"
    literal := "quoting"
    retrieve := fun _ ↦ pure (some [{ id := "1", text := "\x7bquery\x7d" }]) }
  augmenter := toAugmenter { renderer := .braces .typed }

/-- A document and a query that look like templates: both stand in the prompt as they are. -/
theorem run_refuses_quoting :
    ∃ result, (quoting.run { text := "What is \x7bcontext\x7d?" }).outcome ⟨(), []⟩ = .ok result ∧
      result.diagnostics.emptyContext = false ∧
      result.augmentedQuery.text =
        promptWith "\x7bquery\x7d" "What is \x7bcontext\x7d?" := by
  have hrun : ∃ result,
      (quoting.run { text := "What is \x7bcontext\x7d?" }).outcome ⟨(), []⟩ = .ok result ∧
        result.documents = [{ id := "1", text := "\x7bquery\x7d" }] := by
    unfold quoting
    rw [toAugmenter_usual]
    exact ⟨_, rfl, rfl⟩
  obtain ⟨result, hresult, hdocuments⟩ := hrun
  obtain ⟨hempty, -, -, hprompt, -⟩ := run_refuses quoting .typed false
    { text := "What is \x7bcontext\x7d?" } ⟨(), []⟩ result (Or.inl rfl) rfl hresult
  have hsome : result.documents ≠ [] := by
    rw [hdocuments]
    exact List.cons_ne_nil _ _
  refine ⟨result, hresult, ?_, ?_⟩
  · exact Bool.eq_false_iff.mpr (mt hempty.mp hsome)
  · rw [hprompt hsome, hdocuments]
    rfl

end Pipeline

end Grounding
