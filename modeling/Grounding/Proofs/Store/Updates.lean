import Grounding.Proofs.Search

/-!
# Updates of a store in memory

A store refines a map in insertion order. What has changed in it comes down to a list of updates:
documents that were put with their embeddings, and identifiers that were dropped. The updates alone
say what there is to find (`Update.stored`: the last document put under an identifier, unless it has
been dropped since) and in which order (`Update.ids`: a document that is put again keeps its place,
a new one comes last).

`MemoryStore.Represents` relates the content of a store to the updates behind it: its two tables
hold the same identifiers in the same order. One update keeps this relation (`represents_put`,
`represents_remove`), and a search of such a content never lacks a document
(`Represents.candidates_error`).
-/

set_option autoImplicit false
set_option relaxedAutoImplicit false

namespace Grounding

/-! ### Updates -/

/-- A change of what is stored under one identifier. -/
inductive Update
  | put (document : Document) (embedding : List Float)
  | drop (id : String)

namespace Update

/-- The identifier that an update is for. -/
def id : Update → String
  | .put document _ => document.id
  | .drop id => id

/-- What an update leaves under its identifier. -/
def entry? : Update → Option (Document × List Float)
  | .put document embedding => some (document, embedding)
  | .drop _ => none

/-- The identifiers in order after an update: one that is present keeps its place, a new one comes
last, and a dropped one is gone. -/
def arrange (ids : List String) : Update → List String
  | .put document _ => if document.id ∈ ids then ids else ids ++ [document.id]
  | .drop id => ids.filter fun other ↦ !decide (other = id)

/-- The identifiers in order after updates of nothing. -/
def ids (updates : List Update) : List String :=
  updates.foldl arrange []

/-- What is stored under an identifier after updates of nothing: what the last update for it has
left. -/
def stored (updates : List Update) (id : String) : Option (Document × List Float) :=
  (updates.reverse.find? fun update ↦ decide (update.id = id)).bind entry?

theorem ids_concat (updates : List Update) (update : Update) :
    ids (updates ++ [update]) = arrange (ids updates) update := by
  unfold ids
  rw [List.foldl_append, List.foldl_cons, List.foldl_nil]

theorem stored_concat (updates : List Update) (update : Update) (id : String) :
    stored (updates ++ [update]) id =
      if update.id = id then update.entry? else stored updates id := by
  unfold stored
  rw [List.reverse_append, List.reverse_singleton, List.singleton_append, List.find?_cons]
  by_cases hid : update.id = id
  · rw [decide_eq_true hid, if_pos hid]
    rfl
  · rw [decide_eq_false hid, if_neg hid]

/-- What is stored under an identifier was put under it. -/
theorem mem_of_stored {updates : List Update} {id : String} {document : Document}
    {embedding : List Float} (h : stored updates id = some (document, embedding)) :
    .put document embedding ∈ updates ∧ document.id = id := by
  obtain ⟨update, hfound, hentry⟩ := Option.bind_eq_some_iff.mp h
  obtain ⟨hid, -⟩ := List.find?_eq_some_iff_append.mp hfound
  have hmem := List.mem_reverse.mp (List.mem_of_find?_eq_some hfound)
  cases update with
  | drop other => cases hentry
  | put _ _ =>
    obtain ⟨⟩ := hentry
    exact ⟨hmem, of_decide_eq_true hid⟩

theorem nodup_arrange {ids : List String} (h : ids.Nodup) (update : Update) :
    (arrange ids update).Nodup := by
  cases update with
  | drop id => exact h.filter _
  | put document embedding =>
    show (if document.id ∈ ids then ids else ids ++ [document.id]).Nodup
    by_cases hmem : document.id ∈ ids
    · rw [if_pos hmem]
      exact h
    · rw [if_neg hmem]
      refine List.nodup_append.mpr ⟨h, by simp, fun id hid other hother ↦ ?_⟩
      rw [List.mem_singleton.mp hother]
      exact ne_of_mem_of_not_mem hid hmem

/-- No identifier comes twice. -/
theorem nodup_ids (updates : List Update) : (ids updates).Nodup :=
  List.foldlRecOn updates arrange List.nodup_nil fun _ h update _ ↦ nodup_arrange h update

end Update

/-! ### Contents and the updates behind them -/

namespace MemoryStore

/-- A content holds what updates of an empty store have left: the two tables have the same
identifiers in the same order, and under each of them what was stored last. -/
structure Represents (content : MemoryStore) (updates : List Update) : Prop where
  document_ids : Dict.keys content.documents = Update.ids updates
  embedding_ids : Dict.keys content.embeddings = Update.ids updates
  documents : ∀ id, Dict.get? content.documents id = (Update.stored updates id).map Prod.fst
  embeddings : ∀ id, Dict.get? content.embeddings id = (Update.stored updates id).map Prod.snd

theorem represents_nil : ({} : MemoryStore).Represents [] where
  document_ids := rfl
  embedding_ids := rfl
  documents _ := rfl
  embeddings _ := rfl

variable {content : MemoryStore} {updates : List Update}

namespace Represents

theorem size_eq (h : content.Represents updates) : content.size = (Update.ids updates).length := by
  rw [← h.document_ids, Dict.keys, List.length_map]
  rfl

theorem length_embeddings (h : content.Represents updates) :
    content.embeddings.length = content.size := by
  rw [h.size_eq, ← h.embedding_ids, Dict.keys, List.length_map]

theorem contains_eq (h : content.Represents updates) (id : String) :
    Dict.contains content.documents id = decide (id ∈ Update.ids updates) := by
  rw [← h.document_ids, Bool.eq_iff_iff, decide_eq_true_iff]
  exact Dict.get?_isSome_iff content.documents id

/-- Contents with the same tables hold the same. -/
theorem of_tables (h : content.Represents updates) {other : MemoryStore}
    (hdocuments : other.documents = content.documents)
    (hembeddings : other.embeddings = content.embeddings) : other.Represents updates where
  document_ids := by rw [hdocuments, h.document_ids]
  embedding_ids := by rw [hembeddings, h.embedding_ids]
  documents id := by rw [hdocuments, h.documents]
  embeddings id := by rw [hembeddings, h.embeddings]

end Represents

theorem represents_put (h : content.Represents updates) (document : Document)
    (embedding : List Float) :
    (content.put document embedding).Represents (updates ++ [.put document embedding]) where
  document_ids := by
    rw [Update.ids_concat, ← h.document_ids]
    exact Dict.keys_insert content.documents document.id document
  embedding_ids := by
    rw [Update.ids_concat, ← h.embedding_ids]
    exact Dict.keys_insert content.embeddings document.id embedding
  documents id := by
    rw [Update.stored_concat, apply_ite (Option.map Prod.fst), ← h.documents]
    exact Dict.get?_insert content.documents document.id id document
  embeddings id := by
    rw [Update.stored_concat, apply_ite (Option.map Prod.snd), ← h.embeddings]
    exact Dict.get?_insert content.embeddings document.id id embedding

theorem represents_remove (h : content.Represents updates) (id : String) :
    (content.remove id).Represents (updates ++ [.drop id]) where
  document_ids := by
    rw [Update.ids_concat, ← h.document_ids]
    exact Dict.keys_erase content.documents id
  embedding_ids := by
    rw [Update.ids_concat, ← h.embedding_ids]
    exact Dict.keys_erase content.embeddings id
  documents other := by
    rw [Update.stored_concat, apply_ite (Option.map Prod.fst), ← h.documents]
    exact Dict.get?_erase content.documents id other
  embeddings other := by
    rw [Update.stored_concat, apply_ite (Option.map Prod.snd), ← h.embeddings]
    exact Dict.get?_erase content.embeddings id other

/-- The updates that put documents with their embeddings. -/
def puts (entries : List (Document × List Float)) : List Update :=
  entries.map fun (document, embedding) ↦ .put document embedding

theorem represents_putAll (h : content.Represents updates)
    (entries : List (Document × List Float)) :
    (content.putAll entries).Represents (updates ++ puts entries) := by
  induction entries generalizing content updates with
  | nil =>
    rw [puts, List.map_nil, List.append_nil]
    exact h
  | cons entry rest ih =>
    have hrest := ih (represents_put h entry.1 entry.2)
    rw [List.append_assoc] at hrest
    exact hrest

theorem putAll_largeWarned (content : MemoryStore) (entries : List (Document × List Float)) :
    (content.putAll entries).largeWarned = content.largeWarned := by
  induction entries generalizing content with
  | nil => rfl
  | cons entry rest ih => exact ih (content.put entry.1 entry.2)

/-- No search fails for want of a document: if the candidates cannot be found, that is because of
the filter or the score of a document that is stored. -/
theorem Represents.candidates_error (h : content.Represents updates) {callables : Callables}
    {request : SearchRequest} {query : List Float} {failure : Failure}
    (hfailed : candidates callables request query content.documents content.embeddings =
      .error failure) :
    ∃ id document embedding, Update.stored updates id = some (document, embedding) ∧
      consider callables request query document embedding = .error failure := by
  have hkeys : (Dict.keys content.embeddings).Nodup := by
    rw [h.embedding_ids]
    exact Update.nodup_ids updates
  have hstored : ∀ entry ∈ content.embeddings, ∃ document,
      Update.stored updates entry.1 = some (document, entry.2) := by
    intro entry hmem
    have hembedding := Dict.get?_of_mem hkeys hmem
    rw [h.embeddings] at hembedding
    obtain ⟨⟨document, embedding⟩, hentry, rfl⟩ := Option.map_eq_some_iff.mp hembedding
    exact ⟨document, hentry⟩
  have hpresent : ∀ entry ∈ content.embeddings, ∃ document,
      Dict.get? content.documents entry.1 = some document := by
    intro entry hmem
    obtain ⟨document, hentry⟩ := hstored entry hmem
    exact ⟨document, by rw [h.documents, hentry]; rfl⟩
  obtain ⟨entry, hmem, document, hdocument, hconsider⟩ :=
    MemoryStore.candidates_error hpresent hfailed
  obtain ⟨found, hentry⟩ := hstored entry hmem
  rw [h.documents, hentry] at hdocument
  obtain rfl : found = document := Option.some.inj hdocument
  exact ⟨entry.1, found, entry.2, hentry, hconsider⟩

end MemoryStore

end Grounding
