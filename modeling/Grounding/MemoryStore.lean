import Grounding.Similarity
import Grounding.Store

/-!
A store of documents in memory, searched by comparing embeddings one by one.

* `MemoryStore` is the content of a store: a table of documents and a table of embeddings.
* `EmbeddedStore` is a store at a place in a world, with a way to embed texts; `add`, `delete` and
  `search` are its operations.
* `MemoryStore.score` is the similarity of a document, never below zero; `MemoryStore.candidates`
  are the documents that satisfy filter and threshold, in the order of the store, and
  `MemoryStore.best` the best of them, equal ones in that order.
* A search over many documents gives a warning, once in the life of a store.
-/

set_option autoImplicit false
set_option relaxedAutoImplicit false

namespace Grounding

/-- The content of a store. -/
structure MemoryStore where
  documents : Dict Document := []
  embeddings : Dict (List Float) := []
  largeWarned : Bool := false

namespace MemoryStore

/-- The number of documents. -/
def size (store : MemoryStore) : Nat :=
  store.documents.length

/-- The store with a document and its embedding, in place of one with the same identifier. -/
def put (store : MemoryStore) (document : Document) (embedding : List Float) : MemoryStore :=
  { store with
    documents := store.documents.insert document.id document
    embeddings := store.embeddings.insert document.id embedding }

/-- The store with several documents, put one after the other. -/
def putAll (store : MemoryStore) (entries : List (Document × List Float)) : MemoryStore :=
  entries.foldl (fun store (document, embedding) ↦ store.put document embedding) store

/-- The store without a document. -/
def remove (store : MemoryStore) (id : String) : MemoryStore :=
  { store with documents := store.documents.erase id, embeddings := store.embeddings.erase id }

/-- The similarity of two embeddings, zero where they point away from each other. -/
def score (query embedding : List Float) : Except Failure Float :=
  (Similarity.cosine query embedding).map fun similarity ↦
    if Binary64.lt 0.0 similarity then similarity else 0.0

/-- The score of a document, unless filter or threshold exclude it. -/
def consider (callables : Callables) (request : SearchRequest) (query : List Float)
    (document : Document) (embedding : List Float) :
    Except Failure (Option (Document × Float)) := do
  if ← Filter.accepts document.metadata request.filterExpression callables then
    let score ← score query embedding
    return if Binary64.le request.similarityThreshold score then some (document, score) else none
  else return none

/-- The documents that satisfy filter and threshold, with their scores. -/
def candidates (callables : Callables) (request : SearchRequest) (query : List Float)
    (documents : Dict Document) : Dict (List Float) → Except Failure (List (Document × Float))
  | [] => .ok []
  | (id, embedding) :: rest =>
    match Dict.get? documents id with
    | none => .error (.missingKey (.text id))
    | some document => do
      let considered ← consider callables request query document embedding
      let others ← candidates callables request query documents rest
      return considered.toList ++ others

/-- The best candidates, with their scores. -/
def best (count : Nat) (scored : List (Document × Float)) : List Document :=
  ((scored.mergeSort fun a b ↦ Binary64.le b.2 a.2).take count).map fun (document, score) ↦
    { document with score := some score }

end MemoryStore

/-- A store in memory at a place in a world. -/
structure EmbeddedStore (σ : Type) where
  slot : Slot σ MemoryStore
  embed : String → Action σ (List Float)
  name : String := "InMemoryVectorStore"
  largeThreshold : Int := 5000
  callables : Callables := fun _ ↦ none

namespace EmbeddedStore

variable {σ : Type}

/-- The embeddings of documents, in order. -/
def embedAll (store : EmbeddedStore σ) : List Document → Action σ (List (Document × List Float))
  | [] => pure []
  | document :: rest => do
    let embedding ← store.embed document.text
    let others ← store.embedAll rest
    return (document, embedding) :: others

/-- Adds documents and counts them. Nothing is added unless all of them can be embedded. -/
def add (store : EmbeddedStore σ) (documents : List Document) : Action σ Nat := do
  let entries ← store.embedAll documents
  let content ← store.slot.read
  store.slot.write (content.putAll entries)
  return entries.length

/-- Deletes a document and tells whether it was there. -/
def delete (store : EmbeddedStore σ) (id : String) : Action σ Bool := do
  let content ← store.slot.read
  store.slot.write (content.remove id)
  return content.documents.contains id

/-- Gives the warning about many documents unless it has been given. -/
def warnIfLarge (store : EmbeddedStore σ) : Action σ Unit := do
  let content ← store.slot.read
  if store.largeThreshold < content.embeddings.length && !content.largeWarned then
    Action.warn (.largeStore content.embeddings.length)
    store.slot.write { content with largeWarned := true }

/-- The documents that are most similar to a text. -/
def search (store : EmbeddedStore σ) (request : SearchRequest) : Action σ (List Document) := do
  let query ← store.embed request.query
  store.warnIfLarge
  let content ← store.slot.read
  let scored ← Action.ofExcept
    (MemoryStore.candidates store.callables request query content.documents content.embeddings)
  return MemoryStore.best request.topK scored

/-- The store as one that can be searched. -/
def toStore (store : EmbeddedStore σ) : DocumentStore σ := fun request ↦ do
  return some (← store.search request)

/-- How a store is written. -/
def literal (store : EmbeddedStore σ) (content : MemoryStore) : String :=
  store.name ++ "(documents=" ++ toString content.size ++ ")"

end EmbeddedStore

end Grounding
