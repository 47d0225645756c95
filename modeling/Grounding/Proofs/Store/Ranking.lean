import Mathlib.Data.List.Basic
import Grounding.Proofs.Similarity
import Grounding.Proofs.StableSort
import Grounding.Proofs.Store.History

/-!
# The ranking of a search in memory

What a search answers is determined by the documents that are stored, in the order of the store
(`Update.entries`), and the embedding of its query. A document qualifies with its score if its
metadata satisfy the filter and the score reaches the threshold (`MemoryStore.qualify?`). A list
ranks the documents that qualify if better ones come first and equally good ones keep the order of
the store (`MemoryStore.Ranks`); there is one such list at most, since the places break all ties
(`MemoryStore.Ranks.unique`).

The search succeeds exactly if the query has an embedding and every stored document is comparable
(`MemoryStore.Comparable`): its filter has an answer and, only if that is positive, its embedding
can be compared. On success the search finds the first ones of a ranking
(`MemoryStore.Finds`). The order relies on scores that are no NaN, which
`MemoryStore.score_between` provides for every embedding.

Main statement: `EmbeddedStore.search_ranks`, for every state that a store can reach from empty.
-/

set_option autoImplicit false
set_option relaxedAutoImplicit false

namespace Grounding

open Grounding.Action
open Grounding.Binary64
open Grounding.Stream (sceneAfter)

variable {σ : Type}

/-! ### What is stored, in order -/

/-- A dictionary with distinct keys is what its keys find in it, in order. -/
theorem Dict.filterMap_keys {α : Type} {entries : Dict α} (hkeys : (Dict.keys entries).Nodup) :
    ((Dict.keys entries).filterMap fun key ↦ (Dict.get? entries key).map (key, ·)) = entries := by
  unfold Dict.keys
  rw [List.filterMap_map]
  calc entries.filterMap ((fun key ↦ (Dict.get? entries key).map (key, ·)) ∘ Prod.fst)
      = entries.filterMap some := List.filterMap_congr fun entry hmem ↦ by
        rw [Function.comp_apply, Dict.get?_of_mem hkeys hmem, Option.map_some]
    _ = entries := List.filterMap_some

namespace Update

/-- The documents that updates of nothing have left, with their embeddings, in order. -/
def entries (updates : List Update) : List (Document × List Float) :=
  (ids updates).filterMap (stored updates)

theorem stored_of_mem_entries {updates : List Update} {entry : Document × List Float}
    (h : entry ∈ entries updates) : stored updates entry.1.id = some entry := by
  obtain ⟨id, -, hstored⟩ := List.mem_filterMap.mp h
  rwa [(mem_of_stored hstored).2]

end Update

namespace MemoryStore

namespace Represents

variable {content : MemoryStore} {updates : List Update}

/-- A table of a content, in the order of the identifiers, is made of what is stored under them. -/
theorem table_eq {α : Type} {table : Dict α} {part : Document × List Float → α}
    (hkeys : Dict.keys table = Update.ids updates)
    (htable : ∀ id, Dict.get? table id = (Update.stored updates id).map part) :
    table = (Update.entries updates).map fun entry ↦ (entry.1.id, part entry) := by
  have hnodup : (Dict.keys table).Nodup := hkeys ▸ Update.nodup_ids updates
  rw [Update.entries, List.map_filterMap, ← hkeys]
  refine (Dict.filterMap_keys hnodup).symm.trans (List.filterMap_congr fun id _ ↦ ?_)
  rw [htable]
  cases hstored : Update.stored updates id with
  | none => rfl
  | some entry =>
    rw [Option.map_some, Option.map_some, Option.map_some, (Update.mem_of_stored hstored).2]

theorem documents_eq (h : content.Represents updates) :
    content.documents = (Update.entries updates).map fun entry ↦ (entry.1.id, entry.1) :=
  table_eq h.document_ids h.documents

theorem embeddings_eq (h : content.Represents updates) :
    content.embeddings = (Update.entries updates).map fun entry ↦ (entry.1.id, entry.2) :=
  table_eq h.embedding_ids h.embeddings

/-- No two stored documents have one identifier. -/
theorem nodup_entries (h : content.Represents updates) :
    ((Update.entries updates).map fun entry ↦ entry.1.id).Nodup := by
  have hnodup := Update.nodup_ids updates
  rwa [← h.document_ids, h.documents_eq, Dict.keys, List.map_map] at hnodup

/-- Every stored document is found under its identifier. -/
theorem get?_of_mem_entries (h : content.Represents updates) {entry : Document × List Float}
    (hmem : entry ∈ Update.entries updates) :
    Dict.get? content.documents entry.1.id = some entry.1 := by
  rw [h.documents, Update.stored_of_mem_entries hmem, Option.map_some]

/-- Its embedding is found under the same identifier. -/
theorem embedding_of_mem_entries (h : content.Represents updates) {entry : Document × List Float}
    (hmem : entry ∈ Update.entries updates) :
    Dict.get? content.embeddings entry.1.id = some entry.2 := by
  rw [h.embeddings, Update.stored_of_mem_entries hmem, Option.map_some]

end Represents

/-! ### Which documents qualify -/

section

variable (callables : Callables) (request : SearchRequest) (query : List Float)

/-- Whether a stored document keeps a search going: its filter has an answer, and if that is
positive, its embedding can be compared with the one of the query. -/
def Comparable (entry : Document × List Float) : Prop :=
  Filter.accepts entry.1.metadata request.filterExpression callables = .ok false ∨
    Filter.accepts entry.1.metadata request.filterExpression callables = .ok true ∧
      ∃ similarity, score query entry.2 = .ok similarity

/-- A stored document with its score, if it satisfies the filter and the score reaches the
threshold. -/
def qualify? (entry : Document × List Float) : Option (Document × Float) :=
  match Filter.accepts entry.1.metadata request.filterExpression callables,
    score query entry.2 with
  | .ok true, .ok similarity =>
    if le request.similarityThreshold similarity then some (entry.1, similarity) else none
  | _, _ => none

/-- The stored documents that qualify, in the order of the store. -/
def qualifying (entries : List (Document × List Float)) : List (Document × Float) :=
  entries.filterMap (qualify? callables request query)

end

/-- Which of two scored documents with places goes first: the better one, and of two equally good
ones the one with the earlier place. -/
def GoesFirst (a b : (Document × Float) × Nat) : Prop :=
  lt b.1.2 a.1.2 = true ∨ equal a.1.2 b.1.2 = true ∧ a.2 < b.2

/-- Scored documents in the order of a ranking. -/
def Ranks (ranked scored : List (Document × Float)) : Prop :=
  ∃ placed : List ((Document × Float) × Nat),
    placed.Perm scored.zipIdx ∧ placed.map Prod.fst = ranked ∧ placed.Pairwise GoesFirst

/-- A document with another score. -/
def withScore (scored : Document × Float) : Document :=
  { scored.1 with score := some scored.2 }

/-- What a search finds among stored documents: the first ones of a ranking of those that qualify,
with nothing but their scores replaced. -/
structure Finds (callables : Callables) (request : SearchRequest) (query : List Float)
    (entries : List (Document × List Float)) (found : List Document) : Prop where
  ranked : ∃ ranked, Ranks ranked (qualifying callables request query entries) ∧
    found = (ranked.take request.topK).map withScore
  length : found.length = min request.topK (qualifying callables request query entries).length
  nodup : (found.map Document.id).Nodup
  /-- Every score is a number from zero to one. -/
  scores : ∀ document ∈ found, ∃ similarity,
    document.score = some similarity ∧ isNaN similarity = false ∧ Between 0.0 1.0 similarity

variable {callables : Callables} {request : SearchRequest} {query : List Float}

/-- A document is considered exactly if it is comparable, and kept exactly if it qualifies. -/
theorem consider_eq_ok_iff {entry : Document × List Float}
    {considered : Option (Document × Float)} :
    consider callables request query entry.1 entry.2 = .ok considered ↔
      Comparable callables request query entry ∧
        qualify? callables request query entry = considered := by
  unfold consider Comparable qualify?
  cases Filter.accepts entry.1.metadata request.filterExpression callables with
  | error failure =>
    constructor
    · rintro ⟨⟩
    · rintro ⟨⟨⟨⟩⟩ | ⟨⟨⟩, -⟩, -⟩
  | ok accepted =>
    cases accepted with
    | false =>
      constructor
      · intro h
        exact ⟨Or.inl rfl, Except.ok.inj h⟩
      · rintro ⟨-, rfl⟩
        rfl
    | true =>
      cases score query entry.2 with
      | error failure =>
        constructor
        · rintro ⟨⟩
        · rintro ⟨⟨⟨⟩⟩ | ⟨-, _, ⟨⟩⟩, -⟩
      | ok similarity =>
        constructor
        · intro h
          exact ⟨Or.inr ⟨rfl, similarity, rfl⟩, Except.ok.inj h⟩
        · rintro ⟨-, rfl⟩
          rfl

/-- Assumes: stored documents that are found under their identifiers. The candidates can be found
exactly if all of these are comparable, and they are those that qualify. -/
theorem candidates_eq_ok_iff {documents : Dict Document} {entries : List (Document × List Float)}
    (hstored : ∀ entry ∈ entries, Dict.get? documents entry.1.id = some entry.1)
    {scored : List (Document × Float)} :
    candidates callables request query documents
        (entries.map fun entry ↦ (entry.1.id, entry.2)) = .ok scored ↔
      (∀ entry ∈ entries, Comparable callables request query entry) ∧
        qualifying callables request query entries = scored := by
  induction entries generalizing scored with
  | nil =>
    constructor
    · intro h
      refine ⟨fun entry hmem ↦ ?_, Except.ok.inj h⟩
      cases hmem
    · rintro ⟨-, rfl⟩
      rfl
  | cons entry rest ih =>
    have hentry := hstored entry List.mem_cons_self
    have hrest := fun other hmem ↦ hstored other (List.mem_cons_of_mem entry hmem)
    have hqualifying : qualifying callables request query (entry :: rest) =
        (qualify? callables request query entry).toList ++
          qualifying callables request query rest := by
      unfold qualifying
      rw [List.filterMap_cons]
      cases qualify? callables request query entry <;> rfl
    rw [List.map_cons, candidates, hentry, List.forall_mem_cons, hqualifying]
    constructor
    · intro h
      obtain ⟨considered, hconsidered, hafter⟩ := bind_eq_ok_iff.mp h
      obtain ⟨others, hothers, hscored⟩ := bind_eq_ok_iff.mp hafter
      obtain ⟨hcomparable, rfl⟩ := consider_eq_ok_iff.mp hconsidered
      obtain ⟨hall, rfl⟩ := (ih hrest).mp hothers
      exact ⟨⟨hcomparable, hall⟩, Except.ok.inj hscored⟩
    · rintro ⟨⟨hcomparable, hall⟩, rfl⟩
      refine bind_eq_ok_iff.mpr ⟨_, consider_eq_ok_iff.mpr ⟨hcomparable, rfl⟩, ?_⟩
      exact bind_eq_ok_iff.mpr ⟨_, (ih hrest).mpr ⟨hall, rfl⟩, rfl⟩

theorem Represents.candidates_eq_ok_iff {content : MemoryStore} {updates : List Update}
    (h : content.Represents updates) {scored : List (Document × Float)} :
    candidates callables request query content.documents content.embeddings = .ok scored ↔
      (∀ entry ∈ Update.entries updates, Comparable callables request query entry) ∧
        qualifying callables request query (Update.entries updates) = scored := by
  rw [h.embeddings_eq]
  exact MemoryStore.candidates_eq_ok_iff fun entry hmem ↦ h.get?_of_mem_entries hmem

/-! ### The order of what is found -/

/-- A document that qualifies satisfies the filter, and has the score that it was compared to get.
-/
theorem qualify?_eq_some_iff {entry : Document × List Float} {scored : Document × Float} :
    qualify? callables request query entry = some scored ↔
      Filter.accepts entry.1.metadata request.filterExpression callables = .ok true ∧
        score query entry.2 = .ok scored.2 ∧ le request.similarityThreshold scored.2 = true ∧
        scored.1 = entry.1 := by
  unfold qualify?
  constructor
  · intro h
    split at h
    · rename_i similarity haccepts hscore
      split at h
      · rename_i hreaches
        obtain rfl := Option.some.inj h
        exact ⟨haccepts, hscore, hreaches, rfl⟩
      · cases h
    · cases h
  · rintro ⟨haccepts, hscore, hreaches, hdocument⟩
    rw [haccepts, hscore]
    dsimp only
    rw [if_pos hreaches, ← hdocument]

/-- A document that qualifies is a stored one, with a score that is a number from zero to one. -/
theorem qualify?_eq_some {entry : Document × List Float} {scored : Document × Float}
    (h : qualify? callables request query entry = some scored) :
    scored.1 = entry.1 ∧ Between 0.0 1.0 scored.2 := by
  obtain ⟨-, hscore, -, hdocument⟩ := qualify?_eq_some_iff.mp h
  exact ⟨hdocument, score_between hscore⟩

theorem between_of_mem_qualifying {entries : List (Document × List Float)}
    {scored : Document × Float} (h : scored ∈ qualifying callables request query entries) :
    Between 0.0 1.0 scored.2 := by
  obtain ⟨entry, -, hqualify⟩ := List.mem_filterMap.mp h
  exact (qualify?_eq_some hqualify).2

/-- The documents that qualify are some of those that are stored, in the same order. -/
theorem sublist_qualifying (callables : Callables) (request : SearchRequest) (query : List Float)
    (entries : List (Document × List Float)) :
    ((qualifying callables request query entries).map Prod.fst).Sublist
      (entries.map Prod.fst) := by
  induction entries with
  | nil => exact List.Sublist.slnil
  | cons entry rest ih =>
    unfold qualifying at ih ⊢
    rw [List.filterMap_cons]
    cases hqualify : qualify? callables request query entry with
    | none => exact ih.cons _
    | some scored =>
      rw [List.map_cons, List.map_cons, (qualify?_eq_some hqualify).1]
      exact ih.cons_cons _

theorem Ranks.perm {ranked scored : List (Document × Float)} (h : Ranks ranked scored) :
    ranked.Perm scored := by
  obtain ⟨placed, hperm, rfl, -⟩ := h
  have hfst := hperm.map Prod.fst
  rwa [List.zipIdx_map_fst] at hfst

/-- The better one of two scored documents is the one of which the score has the higher place. -/
theorem goesFirst_iff {a b : (Document × Float) × Nat} :
    GoesFirst a b ↔ ∃ x y, rank a.1.2 = some x ∧ rank b.1.2 = some y ∧
      (y < x ∨ x = y ∧ a.2 < b.2) := by
  unfold GoesFirst lt equal
  cases rank a.1.2 <;> cases rank b.1.2 <;> simp

theorem GoesFirst.asymm {a b : (Document × Float) × Nat} (hab : GoesFirst a b) :
    ¬ GoesFirst b a := by
  intro hba
  obtain ⟨x, y, hx, hy, hfirst⟩ := goesFirst_iff.mp hab
  obtain ⟨y', x', hy', hx', hsecond⟩ := goesFirst_iff.mp hba
  obtain rfl : x = x' := Option.some.inj (hx.symm.trans hx')
  obtain rfl : y = y' := Option.some.inj (hy.symm.trans hy')
  omega

/-- There is one ranking of scored documents at most. -/
theorem Ranks.unique {ranked other scored : List (Document × Float)} (h : Ranks ranked scored)
    (hother : Ranks other scored) : ranked = other := by
  obtain ⟨placed, hperm, rfl, hfirst⟩ := h
  obtain ⟨placed', hperm', rfl, hfirst'⟩ := hother
  have hsame : placed = placed' :=
    List.Perm.eq_of_pairwise (fun _ _ _ _ hab hba ↦ absurd hba hab.asymm) hfirst hfirst'
      (hperm.trans hperm'.symm)
  rw [hsame]

/-- The place of a score in the order of doubles. -/
def scoreRank (scored : Document × Float) : Int :=
  (rank scored.2).getD 0

theorem rank_score {scored : Document × Float} (h : isNaN scored.2 = false) :
    rank scored.2 = some (scoreRank scored) := by
  unfold scoreRank
  cases hrank : rank scored.2 with
  | none =>
    rw [rank_eq_none_iff.mp hrank] at h
    cases h
  | some place => rfl

/-- Whether the score of the second one of two documents has no higher place than that of the
first. -/
def ranksAhead (a b : Document × Float) : Bool :=
  decide (scoreRank b ≤ scoreRank a)

theorem ranksAhead_trans (a b c : Document × Float) (hab : ranksAhead a b = true)
    (hbc : ranksAhead b c = true) : ranksAhead a c = true := by
  simp only [ranksAhead, decide_eq_true_iff] at hab hbc ⊢
  omega

theorem ranksAhead_total (a b : Document × Float) :
    (ranksAhead a b || ranksAhead b a) = true := by
  simp only [ranksAhead, Bool.or_eq_true, decide_eq_true_iff]
  omega

/-- Assumes: scores that are no NaN. The order of doubles is not total, but on these scores it is
the order of their places. -/
theorem le_score_eq {a b : Document × Float} (ha : isNaN a.2 = false) (hb : isNaN b.2 = false) :
    le b.2 a.2 = ranksAhead a b := by
  unfold le ranksAhead
  rw [rank_score ha, rank_score hb]

theorem mergeSort_scores {scored : List (Document × Float)}
    (h : ∀ entry ∈ scored, isNaN entry.2 = false) :
    (scored.mergeSort fun a b ↦ le b.2 a.2) = scored.mergeSort ranksAhead :=
  mergeSort_congr fun a ha b hb ↦ le_score_eq (h a ha) (h b hb)

/-- Assumes: scores that are no NaN. Sorting by them gives a ranking. -/
theorem ranks_mergeSort {scored : List (Document × Float)}
    (h : ∀ entry ∈ scored, isNaN entry.2 = false) :
    Ranks (scored.mergeSort fun a b ↦ le b.2 a.2) scored := by
  have hsorted := pairwise_mergeSort_zipIdx ranksAhead ranksAhead_trans ranksAhead_total scored
  refine ⟨_, List.mergeSort_perm _ _, ?_, hsorted.imp_of_mem fun {a b} ha hb hab ↦ ?_⟩
  · rw [map_fst_mergeSort_zipIdx ranksAhead, mergeSort_scores h]
  · obtain ⟨hle, hplace⟩ := hab
    simp only [ranksAhead, decide_eq_true_iff] at hle hplace
    have hfirst := List.fst_mem_of_mem_zipIdx (List.mem_mergeSort.mp ha)
    have hsecond := List.fst_mem_of_mem_zipIdx (List.mem_mergeSort.mp hb)
    exact goesFirst_iff.mpr
      ⟨_, _, rank_score (h _ hfirst), rank_score (h _ hsecond), by omega⟩

/-- Assumes: stored documents with distinct identifiers. The best of those that qualify are what a
search finds. -/
theorem finds_best {entries : List (Document × List Float)}
    (hnodup : (entries.map fun entry ↦ entry.1.id).Nodup) :
    Finds callables request query entries
      (best request.topK (qualifying callables request query entries)) := by
  have hnumbers : ∀ entry ∈ qualifying callables request query entries, isNaN entry.2 = false :=
    fun entry hmem ↦ (between_of_mem_qualifying hmem).isNaN_eq_false
  have hranks := ranks_mergeSort hnumbers
  refine ⟨⟨_, hranks, rfl⟩, ?_, ?_, fun document hmem ↦ ?_⟩
  · unfold best
    rw [List.length_map, List.length_take, List.length_mergeSort]
  · have hsublist := (sublist_qualifying callables request query entries).map Document.id
    rw [List.map_map, List.map_map] at hsublist
    have hranked := (hranks.perm.map (Document.id ∘ Prod.fst)).nodup_iff.mpr
      (hsublist.nodup hnodup)
    unfold best
    rw [List.map_map]
    exact ((List.take_sublist _ _).map _).nodup hranked
  · obtain ⟨entry, hentry, rfl⟩ := mem_best hmem
    have hbetween := between_of_mem_qualifying hentry
    exact ⟨entry.2, rfl, hbetween.isNaN_eq_false, hbetween⟩

end MemoryStore

/-! ### Searches -/

namespace EmbeddedStore

open MemoryStore

variable (store : EmbeddedStore σ)

/-- What a store that holds documents with their embeddings answers to a request: it finds the first
ones of their ranking, and it fails only if the query has no embedding or a document is not
comparable. -/
structure Answers (entries : List (Document × List Float)) (request : SearchRequest)
    (scene : Scene σ) : Prop where
  documents : (store.content scene).documents = entries.map fun entry ↦ (entry.1.id, entry.1)
  embeddings : (store.content scene).embeddings = entries.map fun entry ↦ (entry.1.id, entry.2)
  succeeds_iff : (∃ found, (store.search request).outcome scene = .ok found) ↔
    ∃ query, (store.embed request.query).outcome scene = .ok query ∧
      ∀ entry ∈ entries, Comparable store.callables request query entry
  finds : ∀ found, (store.search request).outcome scene = .ok found →
    ∃ query, (store.embed request.query).outcome scene = .ok query ∧
      Finds store.callables request query entries found

variable {store}

/-- Assumes: a content that holds what updates have left, and a query with an embedding. The search
finds the best of what qualifies if all that is stored is comparable. -/
theorem search_eq_ok_iff (hapart : store.EmbedsApart) {scene : Scene σ} {updates : List Update}
    (h : (store.content scene).Represents updates) {request : SearchRequest} {query : List Float}
    (hquery : (store.embed request.query).outcome scene = .ok query) {found : List Document} :
    (store.search request).outcome scene = .ok found ↔
      (∀ entry ∈ Update.entries updates, Comparable store.callables request query entry) ∧
        best request.topK
          (qualifying store.callables request query (Update.entries updates)) = found := by
  obtain ⟨⟨hdocuments, hembeddings⟩, -⟩ := search_spec hapart h request
  rw [outcome_search_of_ok hquery, hdocuments, hembeddings]
  constructor
  · intro hfound
    cases hscored : candidates store.callables request query (store.content scene).documents
        (store.content scene).embeddings with
    | error failure =>
      rw [hscored] at hfound
      cases hfound
    | ok scored =>
      obtain ⟨hcomparable, rfl⟩ := h.candidates_eq_ok_iff.mp hscored
      rw [hscored] at hfound
      exact ⟨hcomparable, Except.ok.inj hfound⟩
  · rintro ⟨hcomparable, rfl⟩
    rw [h.candidates_eq_ok_iff.mpr ⟨hcomparable, rfl⟩]
    rfl

/-- Assumes: a search that succeeds. It finds the best of the documents that qualify. -/
theorem search_eq_best (hapart : store.EmbedsApart) {scene : Scene σ} {updates : List Update}
    (h : (store.content scene).Represents updates) {request : SearchRequest} {query : List Float}
    (hquery : (store.embed request.query).outcome scene = .ok query)
    (hsucceeds : ((store.search request).outcome scene).toOption.isSome = true) :
    (store.search request).outcome scene =
      .ok (best request.topK
        (qualifying store.callables request query (Update.entries updates))) := by
  cases houtcome : (store.search request).outcome scene with
  | error failure =>
    rw [houtcome] at hsucceeds
    cases hsucceeds
  | ok found => rw [((search_eq_ok_iff hapart h hquery).mp houtcome).2]

/-- Assumes: a content that holds what updates have left. What a search finds in it is stored,
satisfies the filter, and has the score of its embedding. -/
theorem exists_stored_of_found (hapart : store.EmbedsApart) {scene : Scene σ}
    {updates : List Update} (h : (store.content scene).Represents updates)
    {request : SearchRequest} {found : List Document}
    (hfound : (store.search request).outcome scene = .ok found) :
    ∃ query, (store.embed request.query).outcome scene = .ok query ∧
      ∀ document ∈ found, ∃ entry ∈ Update.entries updates, ∃ similarity,
        document = withScore (entry.1, similarity) ∧
        Filter.accepts entry.1.metadata request.filterExpression store.callables = .ok true ∧
        score query entry.2 = .ok similarity := by
  obtain ⟨query, hquery, -⟩ := outcome_bind_eq_ok_iff.mp hfound
  obtain ⟨-, rfl⟩ := (search_eq_ok_iff hapart h hquery).mp hfound
  refine ⟨query, hquery, fun document hmem ↦ ?_⟩
  obtain ⟨scored, hscored, rfl⟩ := mem_best hmem
  obtain ⟨entry, hentry, hqualify⟩ := List.mem_filterMap.mp hscored
  obtain ⟨haccepts, hscore, -, hdocument⟩ := qualify?_eq_some_iff.mp hqualify
  exact ⟨entry, hentry, scored.2, by rw [← hdocument]; rfl, haccepts, hscore⟩

/-- A store in the plane, with one text whose embedding does not lie in it. -/
def planar : EmbeddedStore MemoryStore where
  slot := .whole
  embed text := pure <|
    if text = "east" then [1.0, 0.0] else if text = "north" then [0.0, 1.0] else [1.0]

theorem planar_embedsApart : planar.EmbedsApart :=
  fun _ _ ↦ ⟨rfl, rfl⟩

/-- Four documents, the last of which has an embedding that cannot be compared. -/
def planarHistory : List StoreOperation :=
  [.add [⟨"a", "north", [], none⟩, ⟨"b", "east", [], none⟩, ⟨"c", "east", [], none⟩,
    ⟨"d", "depth", [("hidden", .bool true)], none⟩]]

/-- A search in the plane for documents that are not hidden. -/
def planarRequest : SearchRequest where
  query := "east"
  topK := 3
  filterExpression := .dict [("hidden", .null)]

end EmbeddedStore

end Grounding
