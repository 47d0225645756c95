import Grounding.MemoryStore
import Grounding.Proofs.Action

/-!
# What a search in memory finds

`Holds` is the relation between a content and what a search may find in it: a stored document whose
metadata satisfy the filter expression, with some score. Everything that `candidates` keeps and
`best` picks is found in this sense, and so is everything that `EmbeddedStore.search` answers with
(`search_holds`). The content is the one that the search leaves, since nothing changes the store
after it has been read. If there is a document for every embedding, a search of the content fails
for one of these documents only (`candidates_error`).
-/

set_option autoImplicit false
set_option relaxedAutoImplicit false

namespace Grounding

open Grounding.Action
open Grounding.Stream (sceneAfter)

variable {σ α : Type}

/-! ### Places in a world -/

namespace Slot

variable (slot : Slot σ α)

@[simp] theorem outcome_read (scene : Scene σ) :
    slot.read.outcome scene = .ok (slot.get scene.world) := rfl

@[simp] theorem sceneAfter_read (scene : Scene σ) : sceneAfter slot.read scene = scene := rfl

end Slot

/-! ### Searches -/

namespace MemoryStore

/-- A content holds a document under a filter expression: it is a stored one with some score, and
the metadata of that one satisfy the expression. -/
def Holds (content : MemoryStore) (callables : Callables) (expression : Value)
    (document : Document) : Prop :=
  ∃ id stored score, Dict.get? content.documents id = some stored ∧
    document = { stored with score := some score } ∧
    Filter.accepts stored.metadata expression callables = .ok true

variable {callables : Callables} {request : SearchRequest} {query : List Float}

theorem consider_eq_some {document : Document} {embedding : List Float} {entry : Document × Float}
    (h : consider callables request query document embedding = .ok (some entry)) :
    entry.1 = document ∧
      Filter.accepts document.metadata request.filterExpression callables = .ok true := by
  obtain ⟨accepted, haccepts, hrest⟩ := bind_eq_ok_iff.mp h
  cases accepted with
  | false => cases hrest
  | true =>
    obtain ⟨score, -, hkept⟩ := bind_eq_ok_iff.mp hrest
    have hentry := Except.ok.inj hkept
    split at hentry
    · obtain ⟨⟩ := hentry
      exact ⟨rfl, haccepts⟩
    · cases hentry

/-- Every candidate is a stored document whose metadata satisfy the filter expression. -/
theorem candidates_accepted {documents : Dict Document} {embeddings : Dict (List Float)}
    {scored : List (Document × Float)}
    (h : candidates callables request query documents embeddings = .ok scored) :
    ∀ entry ∈ scored, ∃ id, Dict.get? documents id = some entry.1 ∧
      Filter.accepts entry.1.metadata request.filterExpression callables = .ok true := by
  induction embeddings generalizing scored with
  | nil =>
    obtain ⟨⟩ := h
    intro entry hmem
    cases hmem
  | cons head rest ih =>
    obtain ⟨id, embedding⟩ := head
    unfold candidates at h
    cases hstored : Dict.get? documents id with
    | none =>
      rw [hstored] at h
      cases h
    | some stored =>
      rw [hstored] at h
      obtain ⟨considered, hconsidered, hrest⟩ := bind_eq_ok_iff.mp h
      obtain ⟨others, hothers, hscored⟩ := bind_eq_ok_iff.mp hrest
      obtain rfl := Except.ok.inj hscored
      intro entry hmem
      rcases List.mem_append.mp hmem with hhead | htail
      · obtain rfl := Option.mem_toList.mp hhead
        obtain ⟨hentry, haccepts⟩ := consider_eq_some hconsidered
        rw [hentry]
        exact ⟨id, hstored, haccepts⟩
      · exact ih hothers entry htail

/-- Assumes: a document for every embedding. If the candidates cannot be found, that is because of
the filter or the score of one of these documents. -/
theorem candidates_error {documents : Dict Document} {embeddings : Dict (List Float)}
    {failure : Failure}
    (hpresent : ∀ entry ∈ embeddings, ∃ document, Dict.get? documents entry.1 = some document)
    (h : candidates callables request query documents embeddings = .error failure) :
    ∃ entry ∈ embeddings, ∃ document, Dict.get? documents entry.1 = some document ∧
      consider callables request query document entry.2 = .error failure := by
  induction embeddings with
  | nil => cases h
  | cons head rest ih =>
    obtain ⟨id, embedding⟩ := head
    obtain ⟨document, hdocument⟩ := hpresent (id, embedding) List.mem_cons_self
    have hrest := fun entry hmem ↦ hpresent entry (List.mem_cons_of_mem (id, embedding) hmem)
    unfold candidates at h
    rw [hdocument] at h
    rcases bind_eq_error_iff.mp h with hconsidered | ⟨considered, -, hothers⟩
    · exact ⟨(id, embedding), List.mem_cons_self, document, hdocument, hconsidered⟩
    · rcases bind_eq_error_iff.mp hothers with hrefused | ⟨_, -, hdone⟩
      · obtain ⟨entry, hmem, hfailed⟩ := ih hrest hrefused
        exact ⟨entry, List.mem_cons_of_mem (id, embedding) hmem, hfailed⟩
      · cases hdone

/-- The best candidates are candidates, with their scores. -/
theorem mem_best {count : Nat} {scored : List (Document × Float)} {document : Document}
    (h : document ∈ best count scored) :
    ∃ entry ∈ scored, document = { entry.1 with score := some entry.2 } := by
  obtain ⟨entry, hentry, rfl⟩ := List.mem_map.mp h
  exact ⟨entry, List.mem_mergeSort.mp (List.mem_of_mem_take hentry), rfl⟩

end MemoryStore

namespace EmbeddedStore

/-- Assumes: a search that succeeds. The content that it leaves holds everything that was found. -/
theorem search_holds (store : EmbeddedStore σ) {request : SearchRequest} {scene : Scene σ}
    {documents : List Document}
    (h : (store.search request).outcome scene = .ok documents) :
    ∀ document ∈ documents,
      (store.slot.get (sceneAfter (store.search request) scene).world).Holds store.callables
        request.filterExpression document := by
  obtain ⟨query, hquery, hsearch⟩ := outcome_bind_eq_ok_iff.mp h
  obtain ⟨_, hwarned, hread⟩ := outcome_bind_eq_ok_iff.mp hsearch
  obtain ⟨content, hcontent, hscored⟩ := outcome_bind_eq_ok_iff.mp hread
  obtain ⟨scored, hcandidates, hbest⟩ := outcome_bind_eq_ok_iff.mp hscored
  have hafter : store.slot.get (sceneAfter (store.search request) scene).world = content := by
    unfold search
    rw [sceneAfter_bind_ok hquery, sceneAfter_bind_ok hwarned, sceneAfter_bind_ok hcontent,
      sceneAfter_bind_ok hcandidates, sceneAfter_pure, sceneAfter_ofExcept, Slot.sceneAfter_read]
    exact Except.ok.inj hcontent
  obtain rfl := Except.ok.inj hbest
  rw [outcome_ofExcept] at hcandidates
  rw [hafter]
  intro document hmem
  obtain ⟨entry, hentry, rfl⟩ := MemoryStore.mem_best hmem
  obtain ⟨id, hstored, haccepts⟩ := MemoryStore.candidates_accepted hcandidates entry hentry
  exact ⟨id, entry.1, entry.2, hstored, rfl, haccepts⟩

end EmbeddedStore

end Grounding
