import Grounding.Proofs.Joining
import Grounding.Proofs.Pipeline.Completion
import Grounding.Proofs.Pipeline.Groups

/-!
# Grouping by query and joining by first occurrence

A pipeline files the found lists by query before it joins them, so that the lists of equal queries
come to stand next to each other, and in another order than they were found in. The joined documents
do not show it. To file a list under a query has the same first occurrences as to put it at the end
(`Groups.firstOccurrences_add`): in a group of an equal query the same list stands already, and a
group of its own stands at the end anyway.

`run_joins_answers`: if the answers of the retriever depend on the query alone, equal queries having
equal ones, the joined documents are the first occurrences in the answers to the expanded queries,
one after the other.
-/

set_option autoImplicit false
set_option relaxedAutoImplicit false

namespace Grounding

open Grounding.Action

variable {σ : Type}

namespace Groups

/-- Groups that hold the answer to the query that they are filed under. -/
def Hold (answers : Query → List Document) (groups : Groups) : Prop :=
  ∀ group ∈ groups, answers group.1 ∈ group.2

theorem hold_add {answers : Query → List Document} {groups : Groups} (h : groups.Hold answers)
    (query : Query) : (groups.add query (answers query)).Hold answers := by
  unfold add
  induction groups with
  | nil => exact List.forall_mem_singleton.mpr List.mem_cons_self
  | cons group rest ih =>
    obtain ⟨key, present⟩ := group
    obtain ⟨hhead, hrest⟩ := List.forall_mem_cons.mp h
    rw [addAll]
    by_cases hequal : key.equal query = true
    · rw [if_pos hequal]
      exact List.forall_mem_cons.mpr ⟨List.mem_append_left _ hhead, hrest⟩
    · rw [if_neg hequal]
      exact List.forall_mem_cons.mpr ⟨hhead, ih hrest⟩

/-- Assumes: a list that stands in every group of an equal query. To file it under the query has the
same first occurrences as to put it at the end. -/
theorem firstOccurrences_add {groups : Groups} {query : Query} {documents : List Document}
    (h : ∀ group ∈ groups, group.1.equal query = true → documents ∈ group.2)
    (seen : List String) :
    firstOccurrences seen (groups.add query documents).lists.flatten =
      firstOccurrences seen (groups.lists.flatten ++ documents) := by
  unfold add
  induction groups generalizing seen with
  | nil => simp [addAll, lists]
  | cons group rest ih =>
    obtain ⟨key, present⟩ := group
    obtain ⟨hhead, hrest⟩ := List.forall_mem_cons.mp h
    rw [addAll]
    by_cases hequal : key.equal query = true
    · have hpresent : documents ⊆ present.flatten :=
        fun document hmem ↦ List.mem_flatten_of_mem (hhead hequal) hmem
      have hall : documents ⊆ present.flatten ++ (Groups.lists rest).flatten :=
        List.subset_append_of_subset_left _ hpresent
      have hmiddle := firstOccurrences_absorb hpresent seen (Groups.lists rest).flatten
      have hend := firstOccurrences_absorb hall seen []
      rw [List.append_nil, List.append_nil] at hend
      rw [if_pos hequal, lists_cons, lists_cons, List.flatten_append, List.flatten_append,
        List.flatten_append, List.flatten_singleton, hmiddle, hend]
    · rw [if_neg hequal, lists_cons, lists_cons, List.flatten_append, List.flatten_append,
        List.append_assoc, firstOccurrences_append, firstOccurrences_append, ih hrest]

end Groups

namespace Pipeline

section Answers

variable {answers : Query → List Document}
  (hequal : ∀ first second : Query, first.equal second = true → answers first = answers second)
include hequal

/-- Assumes: equal answers to equal queries. The groups of the answers to some queries hold them,
and have the same first occurrences as the answers one after the other. -/
theorem groupsOf_answers (queries : List Query) :
    (groupsOf (queries.map fun query ↦ (query, answers query))).Hold answers ∧
      Joiner.concatenate (groupsOf (queries.map fun query ↦ (query, answers query))) =
        firstOccurrences [] (queries.flatMap answers) := by
  induction queries using List.reverseRecOn with
  | nil => exact ⟨fun group hmem ↦ absurd hmem List.not_mem_nil, rfl⟩
  | append_singleton queries query ih =>
    obtain ⟨hhold, hsame⟩ := ih
    rw [List.map_append, List.map_singleton, groupsOf_concat, List.flatMap_append,
      List.flatMap_singleton]
    refine ⟨Groups.hold_add hhold query, ?_⟩
    have hpresent : ∀ group ∈ groupsOf (queries.map fun query ↦ (query, answers query)),
        group.1.equal query = true → answers query ∈ group.2 := by
      intro group hmem hkey
      rw [← hequal group.1 query hkey]
      exact hhold group hmem
    rw [Joiner.concatenate, Groups.firstOccurrences_add hpresent]
    exact firstOccurrences_append_congr hsame (answers query)

end Answers

/-- Assumes: the joiner that concatenates; a retriever whose answers, when it gives one, are lists
that depend on the query alone, with equal ones for equal queries; and a run with a result. The
documents are the first occurrences in the answers to the expanded queries, in the order of these,
although the groups hold the answers to equal queries together. -/
theorem run_joins_answers (pipeline : Pipeline σ) (query : Query) (scene : Scene σ)
    (result : PipelineResult) (answers : Query → List Document)
    (hjoiner : pipeline.joiner = .concatenation)
    (hequal : ∀ first second : Query, first.equal second = true → answers first = answers second)
    (hanswers : ∀ asked found documents,
      (pipeline.retriever.retrieve asked).outcome found = .ok documents →
        documents = some (answers asked))
    (hrun : (pipeline.run query).outcome scene = .ok result) :
    result.documents =
        (result.expandedQueries.flatMap answers).eraseDupsBy Document.sameId ∧
      result.documentsByQuery =
        groupsOf (result.expandedQueries.map fun query ↦ (query, answers query)) := by
  have hcompletion := completion_of_run hrun
  obtain ⟨found, hqueries, hgroups, hretrieved⟩ := hcompletion.retrieved
  have hentries : ∀ entry ∈ found, (entry.1, answers entry.1) = entry := by
    intro entry hmem
    obtain ⟨asked, hasked⟩ := hretrieved entry hmem
    rw [← Option.some.inj (hanswers entry.1 asked _ hasked)]
  have hfound : (result.expandedQueries.map fun query ↦ (query, answers query)) = found := by
    rw [← hqueries, List.map_map]
    exact (List.map_congr_left hentries).trans (List.map_id found)
  obtain ⟨asked, hjoined⟩ := hcompletion.joined
  rw [hjoiner, hgroups, ← hfound] at hjoined
  have hdocuments := Option.some.inj (Except.ok.inj hjoined)
  rw [(groupsOf_answers hequal result.expandedQueries).2, firstOccurrences_nil_eq] at hdocuments
  exact ⟨hdocuments.symm, by rw [hgroups, hfound]⟩

/-- What a retriever knows about two topics, with one document in common. -/
def topics (query : Query) : List Document :=
  if query.text = "leaves" then [{ id := "1" }, { id := "2" }] else [{ id := "3" }, { id := "2" }]

/-- A pipeline that asks about one topic, then about another one, and then about the first one
again. -/
def returning : Pipeline Unit where
  retriever := {
    name := "topics"
    literal := "topics"
    retrieve := fun query ↦ pure (some (topics query)) }
  expander := some {
    name := "topics"
    literal := "topics"
    expand := fun query ↦ pure [query, query.withText "roots", query] }
  augmenter := {
    literal := "topics"
    augment := fun query _ ↦ pure query }

/-- Two equal queries around another one: every document once, in the order of the queries. -/
theorem run_joins_answers_returning :
    ∃ result, (returning.run { text := "leaves" }).outcome ⟨(), []⟩ = .ok result ∧
      result.documents.map Document.id = ["1", "2", "3"] ∧
      result.documentsByQuery.length = 2 := by
  have hrun : ∃ result, (returning.run { text := "leaves" }).outcome ⟨(), []⟩ = .ok result ∧
      result.expandedQueries = [{ text := "leaves" }, { text := "roots" }, { text := "leaves" }] :=
    ⟨_, rfl, rfl⟩
  obtain ⟨result, hresult, hexpanded⟩ := hrun
  have hequal : ∀ first second : Query, first.equal second = true →
      topics first = topics second := by
    intro first second hequal
    simp only [Query.equal, Bool.and_eq_true, beq_iff_eq] at hequal
    rw [topics, topics, hequal.1.1]
  obtain ⟨hdocuments, hgroups⟩ := run_joins_answers returning { text := "leaves" } ⟨(), []⟩ result
    topics rfl hequal (fun asked found documents hfound ↦ (Except.ok.inj hfound).symm) hresult
  refine ⟨result, hresult, ?_, ?_⟩
  · rw [hdocuments, hexpanded]
    decide
  · rw [hgroups, hexpanded]
    decide

end Pipeline

end Grounding
