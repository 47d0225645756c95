import Mathlib.Data.List.Infix
import Grounding.Proofs.Store.Ranking

/-!
# Asking a search for less

A search over what a store holds is made for a number of documents and a threshold. Asking for fewer
documents does not change the candidates at all (`MemoryStore.candidates_topK`), and under a higher
threshold they are those that reach it (`MemoryStore.candidates_raised`). In either case the search
fails for the same reason or not at all, since the threshold is looked at only after a document has
been scored.

On the side of the result, fewer of the best are the beginning of more of them. A threshold cuts the
sorted candidates off, because the order is that of the scores and ties keep their places
(`MemoryStore.best_filter_prefix`). This needs scores that are no NaN: one of them among the
candidates would be sorted anywhere and reach no threshold.

Main statement: `EmbeddedStore.search_truncates`, for two searches that find the same tables and the
same embedding of their query, in whatever order they are made.
-/

set_option autoImplicit false
set_option relaxedAutoImplicit false

namespace Grounding

open Grounding.Action
open Grounding.Binary64
open Grounding.Stream (sceneAfter)

variable {σ : Type}

namespace MemoryStore

variable {callables : Callables} {request : SearchRequest} {query : List Float}

/-! ### Candidates -/

/-- Every candidate has a score from zero to one. -/
theorem candidates_between {documents : Dict Document} {embeddings : Dict (List Float)}
    {scored : List (Document × Float)}
    (h : candidates callables request query documents embeddings = .ok scored) :
    ∀ entry ∈ scored, Between 0.0 1.0 entry.2 := by
  induction embeddings generalizing scored with
  | nil =>
    obtain ⟨⟩ := h
    simp
  | cons head rest ih =>
    unfold candidates at h
    split at h
    · cases h
    · rename_i document _
      obtain ⟨considered, hconsidered, hrest⟩ := bind_eq_ok_iff.mp h
      obtain ⟨others, hothers, hscored⟩ := bind_eq_ok_iff.mp hrest
      obtain rfl := Except.ok.inj hscored
      intro entry hmem
      rcases List.mem_append.mp hmem with hhead | htail
      · obtain rfl := Option.mem_toList.mp hhead
        have hqualifies : qualify? callables request query (document, head.2) = some entry :=
          (consider_eq_ok_iff.mp hconsidered).2
        exact (qualify?_eq_some hqualifies).2
      · exact ih hothers entry htail

/-- The candidates do not depend on how many documents are asked for. -/
theorem candidates_topK (count : Nat) (documents : Dict Document)
    (embeddings : Dict (List Float)) :
    candidates callables { request with topK := count } query documents embeddings =
      candidates callables request query documents embeddings := by
  induction embeddings with
  | nil => rfl
  | cons head rest ih =>
    unfold candidates
    rw [ih]
    rfl

/-- Whether the score of an entry reaches a threshold. -/
def reaches (threshold : Float) (entry : Document × Float) : Bool :=
  le threshold entry.2

section Raised

variable {higher : Float} (hraised : le request.similarityThreshold higher = true)
include hraised

/-- Under a higher threshold a document is considered as before, and kept if it reaches that one. -/
theorem consider_raised (document : Document) (embedding : List Float) :
    consider callables { request with similarityThreshold := higher } query document embedding =
      (consider callables request query document embedding).map
        (Option.filter (reaches higher)) := by
  unfold consider
  dsimp only
  cases Filter.accepts document.metadata request.filterExpression callables with
  | error failure => rfl
  | ok accepted =>
    cases accepted with
    | false => rfl
    | true =>
      cases score query embedding with
      | error failure => rfl
      | ok similarity =>
        refine congrArg Except.ok ?_
        by_cases hhigher : le higher similarity = true
        · simp [Option.filter, reaches, hhigher, le_trans hraised hhigher]
        · by_cases hlower : le request.similarityThreshold similarity = true
          · simp [Option.filter, reaches, hhigher, hlower]
          · simp [hhigher, hlower]

/-- Under a higher threshold the candidates are those that reach it. -/
theorem candidates_raised (callables : Callables) (query : List Float)
    (documents : Dict Document) (embeddings : Dict (List Float)) :
    candidates callables { request with similarityThreshold := higher } query documents
        embeddings =
      (candidates callables request query documents embeddings).map
        (List.filter (reaches higher)) := by
  induction embeddings with
  | nil => rfl
  | cons head rest ih =>
    unfold candidates
    rw [ih]
    cases Dict.get? documents head.1 with
    | none => rfl
    | some document =>
      dsimp only
      rw [consider_raised hraised]
      cases consider callables request query document head.2 with
      | error failure => rfl
      | ok considered =>
        cases candidates callables request query documents rest with
        | error failure => rfl
        | ok others =>
          refine congrArg Except.ok ?_
          rw [List.filter_append]
          cases considered with
          | none => rfl
          | some entry =>
            by_cases hreaches : reaches higher entry = true
            · rw [Option.filter_some_pos hreaches]
              simp [hreaches]
            · simp [hreaches]

end Raised

/-! ### The best of them -/

/-- Fewer of the best are the beginning of more of them. -/
theorem best_prefix_of_le {fewer more : Nat} (h : fewer ≤ more)
    (scored : List (Document × Float)) : best fewer scored <+: best more scored :=
  (List.take_prefix_take_left h).map _

/-- Assumes: scores that are no NaN. The best of those that reach a threshold are the beginning of
the best of all. -/
theorem best_filter_prefix (count : Nat) (threshold : Float) {scored : List (Document × Float)}
    (h : ∀ entry ∈ scored, isNaN entry.2 = false) :
    best count (scored.filter (reaches threshold)) <+: best count scored := by
  have hkept : ∀ entry ∈ scored.filter (reaches threshold), isNaN entry.2 = false :=
    fun entry hmem ↦ h entry (List.mem_of_mem_filter hmem)
  have hordered : (scored.mergeSort ranksAhead).Pairwise fun a b ↦
      reaches threshold b = true → reaches threshold a = true := by
    have hsorted := List.pairwise_mergeSort ranksAhead_trans ranksAhead_total scored
    refine hsorted.imp_of_mem fun {a b} ha hb hab hreaches ↦ ?_
    have hle : le b.2 a.2 = true := by
      rw [le_score_eq (h a (List.mem_mergeSort.mp ha)) (h b (List.mem_mergeSort.mp hb))]
      exact hab
    exact le_trans hreaches hle
  unfold best
  rw [mergeSort_scores h, mergeSort_scores hkept,
    ← filter_mergeSort ranksAhead_trans ranksAhead_total]
  exact ((filter_prefix_self hordered).take count).map _

end MemoryStore

/-! ### Searches -/

/-- How searches compare of which the first one asks for less. If they succeed, it finds the
beginning of what the other one finds; otherwise both fail in the same way. -/
inductive Truncates :
    Except Failure (List Document) → Except Failure (List Document) → Prop
  | found {fewer more : List Document} (h : fewer <+: more) : Truncates (.ok fewer) (.ok more)
  | failed (failure : Failure) : Truncates (.error failure) (.error failure)

namespace EmbeddedStore

variable {store : EmbeddedStore σ}

/-- Assumes: a query that can be embedded. The search ends with the best of the candidates in the
tables that are left when it has been. -/
theorem outcome_search_embedded {request : SearchRequest} {scene : Scene σ} {query : List Float}
    (h : (store.embed request.query).outcome scene = .ok query) :
    (store.search request).outcome scene =
      (MemoryStore.candidates store.callables request query
        (store.content (sceneAfter (store.embed request.query) scene)).documents
        (store.content (sceneAfter (store.embed request.query) scene)).embeddings).map
          (MemoryStore.best request.topK) := by
  obtain ⟨hdocuments, hembeddings⟩ := warnIfLarge_tables store
    (sceneAfter (store.embed request.query) scene)
  rw [outcome_search_of_ok h, sceneAfter_search_of_ok h, hdocuments, hembeddings]

/-- Assumes: two scenes from which the embedding of a query ends in the same way and leaves the same
tables, and two requests for that query whose candidates in these tables end in results of which
the first one is the beginning of the second. So do the searches. -/
theorem truncates_of_candidates {first second : SearchRequest} {scene other : Scene σ}
    (hquery : first.query = second.query)
    (hembedded : (store.embed second.query).outcome scene =
      (store.embed second.query).outcome other)
    (htables : store.SameTables (sceneAfter (store.embed second.query) scene)
      (sceneAfter (store.embed second.query) other))
    (h : ∀ query documents embeddings, Truncates
      ((MemoryStore.candidates store.callables first query documents embeddings).map
        (MemoryStore.best first.topK))
      ((MemoryStore.candidates store.callables second query documents embeddings).map
        (MemoryStore.best second.topK))) :
    Truncates ((store.search first).outcome scene) ((store.search second).outcome other) := by
  cases houtcome : (store.embed second.query).outcome scene with
  | error failure =>
    rw [(search_of_error (hquery ▸ houtcome)).1,
      (search_of_error (hembedded ▸ houtcome)).1]
    exact .failed failure
  | ok query =>
    rw [outcome_search_embedded (hquery ▸ houtcome),
      outcome_search_embedded (hembedded ▸ houtcome), hquery, htables.1, htables.2]
    exact h query _ _

/-- Assumes: two scenes from which the embedding of the query ends in the same way and leaves the
same tables. A search for fewer documents finds the beginning of what one for more documents finds,
a search under a higher threshold the beginning of what one under a lower threshold finds, with all
scores; and in either case one search fails exactly if the other one does, in the same way. -/
theorem search_truncates (store : EmbeddedStore σ) (request : SearchRequest)
    (scene other : Scene σ)
    (hembedded : (store.embed request.query).outcome scene =
      (store.embed request.query).outcome other)
    (htables : store.SameTables (sceneAfter (store.embed request.query) scene)
      (sceneAfter (store.embed request.query) other)) :
    (∀ fewer more, fewer ≤ more →
      Truncates ((store.search { request with topK := fewer }).outcome scene)
        ((store.search { request with topK := more }).outcome other)) ∧
    ∀ lower higher, le lower higher = true →
      Truncates ((store.search { request with similarityThreshold := higher }).outcome scene)
        ((store.search { request with similarityThreshold := lower }).outcome other) := by
  refine ⟨fun fewer more hle ↦ ?_, fun lower higher hle ↦ ?_⟩
  · refine truncates_of_candidates rfl hembedded htables fun query documents embeddings ↦ ?_
    rw [MemoryStore.candidates_topK fewer, MemoryStore.candidates_topK more]
    cases MemoryStore.candidates store.callables request query documents embeddings with
    | error failure => apply Truncates.failed
    | ok scored => exact .found (MemoryStore.best_prefix_of_le hle scored)
  · refine truncates_of_candidates rfl hembedded htables fun query documents embeddings ↦ ?_
    have hthreshold : le ({ request with similarityThreshold := lower } :
        SearchRequest).similarityThreshold higher = true := hle
    have hraised := MemoryStore.candidates_raised hthreshold store.callables query documents
      embeddings
    rw [hraised]
    cases hscored : MemoryStore.candidates store.callables
        { request with similarityThreshold := lower } query documents embeddings with
    | error failure => apply Truncates.failed
    | ok scored =>
      refine .found (MemoryStore.best_filter_prefix _ _ fun entry hmem ↦ ?_)
      exact (MemoryStore.candidates_between hscored entry hmem).isNaN_eq_false

/-- The scene of the store in the plane after its history. -/
def planarScene : Scene MemoryStore :=
  planar.afterAll planarHistory ⟨{}, []⟩

/-- The scene after one search more. -/
def planarLater : Scene MemoryStore :=
  sceneAfter (planar.search planarRequest) planarScene

/-- The identifiers of the candidates for a search in the plane. -/
def planarCandidates (request : SearchRequest) (scene : Scene MemoryStore) : List String :=
  match MemoryStore.candidates planar.callables request [1.0, 0.0]
      (planar.content scene).documents (planar.content scene).embeddings with
  | .ok scored => scored.map fun entry ↦ entry.1.id
  | .error _ => []

/-- The searches succeed. Of the three candidates two reach half the similarity. -/
theorem search_truncates_planar :
    (planar.embed planarRequest.query).outcome planarScene =
        (planar.embed planarRequest.query).outcome planarLater ∧
      planar.SameTables (sceneAfter (planar.embed planarRequest.query) planarScene)
        (sceneAfter (planar.embed planarRequest.query) planarLater) ∧
      Truncates ((planar.search { planarRequest with topK := 1 }).outcome planarScene)
        ((planar.search { planarRequest with topK := 3 }).outcome planarLater) ∧
      Truncates
        ((planar.search { planarRequest with similarityThreshold := 0.5 }).outcome planarScene)
        ((planar.search { planarRequest with similarityThreshold := 0.0 }).outcome planarLater) ∧
      ((planar.search planarRequest).outcome planarScene).toOption.isSome = true ∧
      planarCandidates { planarRequest with similarityThreshold := 0.5 } planarScene =
        ["b", "c"] ∧
      planarCandidates planarRequest planarLater = ["a", "b", "c"] := by
  have hembed : ∀ scene other, (planar.embed planarRequest.query).outcome scene =
      (planar.embed planarRequest.query).outcome other := fun _ _ ↦ rfl
  have hscene : ∀ scene, sceneAfter (planar.embed planarRequest.query) scene = scene :=
    fun _ ↦ rfl
  have hembedded := hembed planarScene planarLater
  have htables : planar.SameTables (sceneAfter (planar.embed planarRequest.query) planarScene)
      (sceneAfter (planar.embed planarRequest.query) planarLater) := by
    rw [hscene, hscene]
    exact search_tables planar_embedsApart planarRequest planarScene
  have hle : le 0.0 0.5 = true := by decide +kernel
  obtain ⟨htopK, hthreshold⟩ := search_truncates planar planarRequest planarScene planarLater
    hembedded htables
  exact ⟨hembedded, htables, htopK 1 3 (by decide), hthreshold _ _ hle, by decide +kernel,
    by decide +kernel, by decide +kernel⟩

end EmbeddedStore

end Grounding
