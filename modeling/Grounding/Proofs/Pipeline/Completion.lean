import Grounding.Pipeline
import Grounding.Proofs.Action

/-!
# What a run that gets through has done

`Completion` takes a run with a result apart: every expanded query has been answered with a list by
the retriever, the groups of the result hold these lists, the joiner has made its documents of the
groups, and the augmenter its query of the documents. `completion_of_run` is that every such run has
done so. The callbacks and what happens in between are left out, as the result does not tell about
them.
-/

set_option autoImplicit false
set_option relaxedAutoImplicit false

namespace Grounding

open Grounding.Action
open Grounding.Stream (sceneAfter)

variable {σ : Type}

namespace Pipeline

variable {pipeline : Pipeline σ} {query : Query} {scene : Scene σ}

theorem retrieve_of_retrieveOne {documents : List Document}
    (h : (pipeline.retrieveOne query).outcome scene = .ok documents) :
    (pipeline.retriever.retrieve query).outcome scene = .ok (some documents) := by
  obtain ⟨answer, hanswer, hrest⟩ := outcome_bind_eq_ok_iff.mp h
  rw [outcome_protect_eq_ok_iff] at hanswer
  cases answer with
  | none => cases hrest
  | some found =>
    obtain ⟨_, -, hlast⟩ := outcome_bind_eq_ok_iff.mp hrest
    obtain ⟨⟩ := hlast
    exact hanswer

/-- Assumes: retrievals that succeed. There is one for every query, in order, and each is what the
retriever has answered in some scene. -/
theorem retrieve_of_retrieveAll {queries : List Query} {found : List (Query × List Document)}
    (h : (pipeline.retrieveAll queries).outcome scene = .ok found) :
    found.map Prod.fst = queries ∧
      ∀ entry ∈ found, ∃ asked,
        (pipeline.retriever.retrieve entry.1).outcome asked = .ok (some entry.2) := by
  induction queries generalizing scene found with
  | nil =>
    obtain ⟨⟩ := h
    simp
  | cons query rest ih =>
    obtain ⟨documents, hdocuments, hrest⟩ := outcome_bind_eq_ok_iff.mp h
    obtain ⟨others, hothers, hlast⟩ := outcome_bind_eq_ok_iff.mp hrest
    obtain ⟨⟩ := hlast
    obtain ⟨hqueries, hanswers⟩ := ih hothers
    refine ⟨congrArg (query :: ·) hqueries, List.forall_mem_cons.mpr ⟨?_, hanswers⟩⟩
    exact ⟨scene, retrieve_of_retrieveOne hdocuments⟩

theorem join_of_joinGroups {groups : Groups} {documents : List Document}
    (h : (pipeline.joinGroups groups).outcome scene = .ok documents) :
    (pipeline.joiner.join groups).outcome scene = .ok (some documents) := by
  obtain ⟨answer, hanswer, hlast⟩ := outcome_bind_eq_ok_iff.mp h
  cases answer with
  | none => cases hlast
  | some joined =>
    obtain ⟨⟩ := hlast
    exact hanswer

/-- What a run has done that gets through: every component has answered, in some scene, what the
result tells. -/
structure Completion (pipeline : Pipeline σ) (query : Query) (result : PipelineResult) :
    Prop where
  retrieved : ∃ found, found.map Prod.fst = result.expandedQueries ∧
    result.documentsByQuery = groupsOf found ∧
    ∀ entry ∈ found, ∃ asked,
      (pipeline.retriever.retrieve entry.1).outcome asked = .ok (some entry.2)
  joined : ∃ asked,
    (pipeline.joiner.join result.documentsByQuery).outcome asked = .ok (some result.documents)
  augmented : ∃ asked,
    (pipeline.augmenter.augment query result.documents).outcome asked = .ok result.augmentedQuery
  emptyContext_eq : result.diagnostics.emptyContext = result.documents.isEmpty

theorem completion_of_stages {result : PipelineResult}
    (h : (pipeline.stages query).outcome scene = .ok result) :
    Completion pipeline query result := by
  obtain ⟨transformed, -, h⟩ := outcome_bind_eq_ok_iff.mp h
  obtain ⟨_, -, h⟩ := outcome_bind_eq_ok_iff.mp h
  obtain ⟨expanded, -, h⟩ := outcome_bind_eq_ok_iff.mp h
  obtain ⟨found, hfound, h⟩ := outcome_bind_eq_ok_iff.mp h
  obtain ⟨documents, hdocuments, h⟩ := outcome_bind_eq_ok_iff.mp h
  obtain ⟨augmented, haugmented, h⟩ := outcome_bind_eq_ok_iff.mp h
  obtain ⟨⟩ := h
  obtain ⟨hqueries, hanswers⟩ := retrieve_of_retrieveAll hfound
  exact {
    retrieved := ⟨found, hqueries, rfl, hanswers⟩
    joined := ⟨_, join_of_joinGroups hdocuments⟩
    augmented := ⟨_, haugmented⟩
    emptyContext_eq := rfl }

/-- Every run with a result has done what the result tells. -/
theorem completion_of_run {result : PipelineResult}
    (h : (pipeline.run query).outcome scene = .ok result) :
    Completion pipeline query result := by
  obtain ⟨_, -, h⟩ := outcome_bind_eq_ok_iff.mp h
  obtain ⟨attempted, hattempted, h⟩ := outcome_bind_eq_ok_iff.mp h
  rw [outcome_attempt] at hattempted
  cases attempted with
  | error failure =>
    obtain ⟨_, -, hlast⟩ := outcome_bind_eq_ok_iff.mp h
    cases hlast
  | ok completed =>
    obtain ⟨_, -, hlast⟩ := outcome_bind_eq_ok_iff.mp h
    obtain ⟨⟩ := hlast
    exact completion_of_stages (Except.ok.inj hattempted)

end Pipeline

end Grounding
