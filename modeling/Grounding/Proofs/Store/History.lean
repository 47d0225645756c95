import Grounding.Proofs.Store.Updates

/-!
# The history of a store in memory

The history of a store is a list of operations, of which some fail. It comes down to a list of
updates (`EmbeddedStore.updates`): those of the documents that were added, all of a list or none,
and those of the identifiers that were deleted. One operation adds its updates to those behind a
content (`step_represents`), and by induction so does a history (`afterAll_represents`). The warning
about many documents is given once, by the first search in a large store (`step_warnsOnce`,
`afterAll_warnings`).

`EmbeddedStore.Refines` says what a store is to its clients when it holds what updates have left:
what it contains, how each operation changes it and what it answers. A store that starts empty is
such a store after every history (`history_refines`).

The embedding function is any action on the world that keeps away from the store
(`EmbeddedStore.EmbedsApart`); it may fail on any text at any time.
-/

set_option autoImplicit false
set_option relaxedAutoImplicit false

namespace Grounding

open Grounding.Action
open Grounding.Stream (sceneAfter)

variable {σ : Type}

/-! ### Operations -/

/-- An operation on a store. -/
inductive StoreOperation
  | add (documents : List Document)
  | delete (id : String)
  | search (request : SearchRequest)

/-- Whether a warning is about many documents. -/
def Warning.isLargeStore : Warning → Bool
  | .largeStore _ => true
  | _ => false

/-- The warnings about many documents. -/
def Scene.largeWarnings (scene : Scene σ) : List Warning :=
  scene.warnings.filter Warning.isLargeStore

namespace EmbeddedStore

variable (store : EmbeddedStore σ)

/-- The content of a store. -/
def content (scene : Scene σ) : MemoryStore :=
  store.slot.get scene.world

/-- Two scenes with the same content of a store and the same warnings about many documents. -/
def SameStore (scene other : Scene σ) : Prop :=
  store.content other = store.content scene ∧ other.largeWarnings = scene.largeWarnings

/-- Two scenes with the same tables of a store. -/
def SameTables (scene other : Scene σ) : Prop :=
  (store.content other).documents = (store.content scene).documents ∧
    (store.content other).embeddings = (store.content scene).embeddings

/-- A store whose embedding function keeps away from it: whether it fails or not, it leaves the
content as it is and does not warn of many documents. -/
def EmbedsApart : Prop :=
  ∀ text scene, store.SameStore scene (sceneAfter (store.embed text) scene)

/-- An embedding that the embedding function has answered with for a document. -/
def Computes (document : Document) (embedding : List Float) : Prop :=
  ∃ scene, (store.embed document.text).outcome scene = .ok embedding

/-- The scene after an operation, whether it fails or not. -/
def step (operation : StoreOperation) (scene : Scene σ) : Scene σ :=
  match operation with
  | .add documents => sceneAfter (store.add documents) scene
  | .delete id => sceneAfter (store.delete id) scene
  | .search request => sceneAfter (store.search request) scene

/-- The scene after a history of operations. -/
def afterAll (history : List StoreOperation) (scene : Scene σ) : Scene σ :=
  history.foldl (fun scene operation ↦ store.step operation scene) scene

/-- The updates that an operation comes down to. -/
def updatesOf (operation : StoreOperation) (scene : Scene σ) : List Update :=
  match operation with
  | .add documents =>
    match (store.embedAll documents).outcome scene with
    | .ok entries => MemoryStore.puts entries
    | .error _ => []
  | .delete id => [.drop id]
  | .search _ => []

/-- The updates that a history comes down to. -/
def updates : List StoreOperation → Scene σ → List Update
  | [], _ => []
  | operation :: rest, scene =>
    store.updatesOf operation scene ++ updates rest (store.step operation scene)

/-- The number of documents in a store if there are more than the threshold. -/
def large? (scene : Scene σ) : Option Nat :=
  if store.largeThreshold < (store.content scene).size then some (store.content scene).size
  else none

/-- What becomes of the warning about many documents, given the number of documents if a large store
is searched: it is given and kept in mind unless it has been. -/
def WarnsOnce (scene after : Scene σ) (large : Option Nat) : Prop :=
  (store.content after).largeWarned = ((store.content scene).largeWarned || large.isSome) ∧
    after.largeWarnings = scene.largeWarnings ++
      if (store.content scene).largeWarned then [] else large.toList.map .largeStore

/-- The number of documents in a large store if an operation searches one, and its query can be
embedded. -/
def largeSearch? (operation : StoreOperation) (scene : Scene σ) : Option Nat :=
  match operation with
  | .search request =>
    match (store.embed request.query).outcome scene with
    | .ok _ => store.large? scene
    | .error _ => none
  | _ => none

/-- The numbers of documents in a large store at every search of a history in one. -/
def largeSearches : List StoreOperation → Scene σ → List Nat
  | [], _ => []
  | operation :: rest, scene =>
    (store.largeSearch? operation scene).toList ++ largeSearches rest (store.step operation scene)

variable {store}

/-! ### What an operation does -/

theorem SameStore.trans {scene middle other : Scene σ} (hfirst : store.SameStore scene middle)
    (hsecond : store.SameStore middle other) : store.SameStore scene other :=
  ⟨hsecond.1.trans hfirst.1, hsecond.2.trans hfirst.2⟩

theorem embedAll_apart (hapart : store.EmbedsApart) (documents : List Document)
    (scene : Scene σ) : store.SameStore scene (sceneAfter (store.embedAll documents) scene) := by
  induction documents generalizing scene with
  | nil => exact ⟨rfl, rfl⟩
  | cons document rest ih =>
    have hhead := hapart document.text scene
    unfold embedAll
    rw [sceneAfter_bind]
    cases (store.embed document.text).outcome scene with
    | error failure => exact hhead
    | ok embedding =>
      show store.SameStore scene (sceneAfter (store.embedAll rest >>= fun others ↦
        pure ((document, embedding) :: others)) _)
      rw [sceneAfter_bind_pure]
      exact hhead.trans (ih _)

/-- Documents are embedded in order, each one with an embedding that was computed for it. -/
theorem embedAll_ok {documents : List Document} {scene : Scene σ}
    {entries : List (Document × List Float)}
    (h : (store.embedAll documents).outcome scene = .ok entries) :
    entries.map Prod.fst = documents ∧ ∀ entry ∈ entries, store.Computes entry.1 entry.2 := by
  induction documents generalizing scene entries with
  | nil =>
    obtain rfl := Except.ok.inj h
    refine ⟨rfl, fun entry hmem ↦ ?_⟩
    cases hmem
  | cons document rest ih =>
    obtain ⟨embedding, hembedding, hothers⟩ := outcome_bind_eq_ok_iff.mp h
    obtain ⟨others, hrest, hentries⟩ := outcome_bind_eq_ok_iff.mp hothers
    obtain rfl := Except.ok.inj hentries
    obtain ⟨hdocuments, hcomputed⟩ := ih hrest
    refine ⟨by rw [List.map_cons, hdocuments], fun entry hmem ↦ ?_⟩
    rcases List.mem_cons.mp hmem with rfl | htail
    · exact ⟨scene, hembedding⟩
    · exact hcomputed entry htail

/-- Assumes: a document that cannot be embedded after those before it. None are embedded. -/
theorem embedAll_error {earlier later : List Document} {document : Document} {scene : Scene σ}
    {entries : List (Document × List Float)} {failure : Failure}
    (hearlier : (store.embedAll earlier).outcome scene = .ok entries)
    (hdocument : (store.embed document.text).outcome (sceneAfter (store.embedAll earlier) scene) =
      .error failure) :
    (store.embedAll (earlier ++ document :: later)).outcome scene = .error failure := by
  induction earlier generalizing scene entries with
  | nil => exact outcome_bind_error hdocument _
  | cons first rest ih =>
    obtain ⟨embedding, hfirst, hothers⟩ := outcome_bind_eq_ok_iff.mp hearlier
    obtain ⟨others, hrest, -⟩ := outcome_bind_eq_ok_iff.mp hothers
    unfold embedAll at hdocument
    rw [sceneAfter_bind_ok hfirst, sceneAfter_bind_pure] at hdocument
    rw [List.cons_append, embedAll, outcome_bind_ok hfirst,
      outcome_bind_error (ih hrest hdocument)]

/-- Assumes: a document that cannot be embedded. The store stays as it is. -/
theorem add_of_error (hapart : store.EmbedsApart) {documents : List Document} {scene : Scene σ}
    {failure : Failure} (h : (store.embedAll documents).outcome scene = .error failure) :
    (store.add documents).outcome scene = .error failure ∧
      store.SameStore scene (sceneAfter (store.add documents) scene) := by
  unfold add
  rw [outcome_bind_error h, sceneAfter_bind_error h]
  exact ⟨rfl, embedAll_apart hapart documents scene⟩

/-- Assumes: documents that can be embedded. They are put one after the other. -/
theorem add_of_ok (hapart : store.EmbedsApart) {documents : List Document} {scene : Scene σ}
    {entries : List (Document × List Float)}
    (h : (store.embedAll documents).outcome scene = .ok entries) :
    (store.add documents).outcome scene = .ok documents.length ∧
      store.content (sceneAfter (store.add documents) scene) =
        (store.content scene).putAll entries ∧
      (sceneAfter (store.add documents) scene).largeWarnings = scene.largeWarnings := by
  obtain ⟨hcontent, hwarnings⟩ := embedAll_apart hapart documents scene
  have hlength : entries.length = documents.length := by
    rw [← (embedAll_ok h).1, List.length_map]
  unfold add
  rw [outcome_bind_ok h, sceneAfter_bind_ok h]
  refine ⟨congrArg Except.ok hlength, ?_, hwarnings⟩
  rw [← hcontent]
  exact store.slot.get_set _ _

variable (store) in
theorem delete_spec (id : String) (scene : Scene σ) :
    (store.delete id).outcome scene = .ok (Dict.contains (store.content scene).documents id) ∧
      store.content (sceneAfter (store.delete id) scene) = (store.content scene).remove id ∧
      (sceneAfter (store.delete id) scene).largeWarnings = scene.largeWarnings :=
  ⟨rfl, store.slot.get_set _ _, rfl⟩

/-- The scene in which the warning about many documents has been given and is kept in mind. -/
def warned (scene : Scene σ) : Scene σ where
  world := store.slot.set { store.content scene with largeWarned := true } scene.world
  warnings := scene.warnings ++ [.largeStore (store.content scene).embeddings.length]

theorem content_warned (scene : Scene σ) :
    store.content (store.warned scene) = { store.content scene with largeWarned := true } :=
  store.slot.get_set _ _

/-- The warning is given in a large store that has not warned. -/
theorem warnIfLarge_eq (scene : Scene σ) :
    store.warnIfLarge scene = .ok () (
      if store.largeThreshold < (store.content scene).embeddings.length ∧
          (store.content scene).largeWarned = false then store.warned scene
      else scene) := by
  show (if _ then _ else _ : Action σ Unit) scene = _
  unfold warned content
  simp only [Bool.and_eq_true, decide_eq_true_iff, Bool.not_eq_true']
  split
  · rfl
  · rfl

theorem sceneAfter_warnIfLarge (scene : Scene σ) :
    sceneAfter store.warnIfLarge scene =
      if store.largeThreshold < (store.content scene).embeddings.length ∧
          (store.content scene).largeWarned = false then store.warned scene
      else scene := by
  unfold sceneAfter
  rw [warnIfLarge_eq]

/-- The warning leaves the tables as they are. -/
theorem warnIfLarge_tables (store : EmbeddedStore σ) (scene : Scene σ) :
    store.SameTables scene (sceneAfter store.warnIfLarge scene) := by
  unfold SameTables
  rw [sceneAfter_warnIfLarge]
  split
  · rw [content_warned]
    exact ⟨rfl, rfl⟩
  · exact ⟨rfl, rfl⟩

/-- Without a search in a large store, nothing becomes of the warning. -/
theorem warnsOnce_none {scene after : Scene σ}
    (hwarned : (store.content after).largeWarned = (store.content scene).largeWarned)
    (hwarnings : after.largeWarnings = scene.largeWarnings) :
    store.WarnsOnce scene after none := by
  refine ⟨by rw [hwarned]; exact (Bool.or_false _).symm, ?_⟩
  rw [hwarnings, Option.toList_none, List.map_nil, ite_self, List.append_nil]

/-- The warning is given once. -/
theorem warnIfLarge_warnsOnce {scene : Scene σ} {updates : List Update}
    (h : (store.content scene).Represents updates) :
    store.WarnsOnce scene (sceneAfter store.warnIfLarge scene) (store.large? scene) := by
  have hkept : store.content (store.warned scene) = _ := content_warned scene
  unfold large?
  rw [sceneAfter_warnIfLarge, h.length_embeddings]
  by_cases hlarge : store.largeThreshold < (store.content scene).size
  · rw [if_pos hlarge]
    cases hwarned : (store.content scene).largeWarned with
    | true =>
      rw [if_neg (by simp)]
      refine ⟨?_, ?_⟩
      · rw [hwarned]
        rfl
      · rw [hwarned, if_pos rfl, List.append_nil]
    | false =>
      rw [if_pos ⟨hlarge, rfl⟩]
      refine ⟨?_, ?_⟩
      · rw [hkept]
        exact (Bool.or_true _).symm
      · rw [hwarned, ← h.length_embeddings]
        exact List.filter_append ..
  · rw [if_neg fun hboth ↦ hlarge hboth.1, if_neg hlarge]
    exact warnsOnce_none rfl rfl

theorem outcome_warnIfLarge (scene : Scene σ) : store.warnIfLarge.outcome scene = .ok () := by
  unfold outcome
  rw [warnIfLarge_eq]

/-- Assumes: a query that can be embedded. The search changes nothing but what the warning does. -/
theorem sceneAfter_search_of_ok {request : SearchRequest} {scene : Scene σ} {query : List Float}
    (h : (store.embed request.query).outcome scene = .ok query) :
    sceneAfter (store.search request) scene =
      sceneAfter store.warnIfLarge (sceneAfter (store.embed request.query) scene) := by
  unfold search
  rw [sceneAfter_bind_ok h, sceneAfter_bind_ok (outcome_warnIfLarge _),
    sceneAfter_bind_ok (Slot.outcome_read _ _), Slot.sceneAfter_read, sceneAfter_bind_pure,
    sceneAfter_ofExcept]

/-- Assumes: a query that can be embedded. The search ends with the best of the candidates that its
scene holds. -/
theorem outcome_search_of_ok {request : SearchRequest} {scene : Scene σ} {query : List Float}
    (h : (store.embed request.query).outcome scene = .ok query) :
    (store.search request).outcome scene =
      (MemoryStore.candidates store.callables request query
        (store.content (sceneAfter (store.search request) scene)).documents
        (store.content (sceneAfter (store.search request) scene)).embeddings).map
          (MemoryStore.best request.topK) := by
  rw [sceneAfter_search_of_ok h]
  unfold search
  rw [outcome_bind_ok h, outcome_bind_ok (outcome_warnIfLarge _),
    outcome_bind_ok (Slot.outcome_read _ _), Slot.sceneAfter_read, outcome_bind, outcome_ofExcept]
  unfold content
  cases MemoryStore.candidates _ _ _ _ _ <;> rfl

/-- Assumes: a query that cannot be embedded. The search ends with that failure. -/
theorem search_of_error {request : SearchRequest} {scene : Scene σ} {failure : Failure}
    (h : (store.embed request.query).outcome scene = .error failure) :
    (store.search request).outcome scene = .error failure ∧
      sceneAfter (store.search request) scene = sceneAfter (store.embed request.query) scene := by
  unfold search
  exact ⟨outcome_bind_error h _, sceneAfter_bind_error h _⟩

/-- A search leaves the tables as they are, whether it fails or not. -/
theorem search_tables (hapart : store.EmbedsApart) (request : SearchRequest) (scene : Scene σ) :
    store.SameTables scene (sceneAfter (store.search request) scene) := by
  have hembedded : store.SameTables scene (sceneAfter (store.embed request.query) scene) := by
    obtain ⟨hcontent, -⟩ := hapart request.query scene
    exact ⟨congrArg MemoryStore.documents hcontent, congrArg MemoryStore.embeddings hcontent⟩
  cases hquery : (store.embed request.query).outcome scene with
  | error failure =>
    rw [(search_of_error hquery).2]
    exact hembedded
  | ok query =>
    obtain ⟨hdocuments, hembeddings⟩ :=
      warnIfLarge_tables store (sceneAfter (store.embed request.query) scene)
    rw [sceneAfter_search_of_ok hquery]
    exact ⟨hdocuments.trans hembedded.1, hembeddings.trans hembedded.2⟩

/-- A search leaves the tables as they are, and warns in a large store. -/
theorem search_spec (hapart : store.EmbedsApart) {scene : Scene σ} {updates : List Update}
    (h : (store.content scene).Represents updates) (request : SearchRequest) :
    store.SameTables scene (sceneAfter (store.search request) scene) ∧
      store.WarnsOnce scene (sceneAfter (store.search request) scene)
        (store.largeSearch? (.search request) scene) := by
  refine ⟨search_tables hapart request scene, ?_⟩
  obtain ⟨hcontent, hwarnings⟩ := hapart request.query scene
  cases hquery : (store.embed request.query).outcome scene with
  | error failure =>
    have hlarge : store.largeSearch? (.search request) scene = none := by
      simp only [largeSearch?, hquery]
    rw [(search_of_error hquery).2, hlarge]
    exact warnsOnce_none (congrArg MemoryStore.largeWarned hcontent) hwarnings
  | ok query =>
    have hlarge : store.largeSearch? (.search request) scene = store.large? scene := by
      simp only [largeSearch?, hquery]
    rw [sceneAfter_search_of_ok hquery, hlarge]
    rw [← hcontent] at h
    have hwarn := warnIfLarge_warnsOnce h
    unfold WarnsOnce large? at hwarn
    rw [hcontent, hwarnings] at hwarn
    exact hwarn

/-! ### Steps and histories -/

theorem updatesOf_add_ok {documents : List Document} {scene : Scene σ}
    {entries : List (Document × List Float)}
    (h : (store.embedAll documents).outcome scene = .ok entries) :
    store.updatesOf (.add documents) scene = MemoryStore.puts entries := by
  simp only [updatesOf, h]

theorem updatesOf_add_error {documents : List Document} {scene : Scene σ} {failure : Failure}
    (h : (store.embedAll documents).outcome scene = .error failure) :
    store.updatesOf (.add documents) scene = [] := by
  simp only [updatesOf, h]

/-- One operation adds its updates to those behind a content. -/
theorem step_represents (hapart : store.EmbedsApart) {scene : Scene σ} {updates : List Update}
    (h : (store.content scene).Represents updates) (operation : StoreOperation) :
    (store.content (store.step operation scene)).Represents
      (updates ++ store.updatesOf operation scene) := by
  cases operation with
  | add documents =>
    cases hentries : (store.embedAll documents).outcome scene with
    | error failure =>
      obtain ⟨-, hsame, -⟩ := add_of_error hapart hentries
      rw [updatesOf_add_error hentries, List.append_nil, step, hsame]
      exact h
    | ok entries =>
      obtain ⟨-, hput, -⟩ := add_of_ok hapart hentries
      rw [updatesOf_add_ok hentries, step, hput]
      exact MemoryStore.represents_putAll h entries
  | delete id =>
    obtain ⟨-, hremoved, -⟩ := delete_spec store id scene
    exact hremoved ▸ MemoryStore.represents_remove h id
  | search request =>
    obtain ⟨⟨hdocuments, hembeddings⟩, -⟩ := search_spec hapart h request
    exact (List.append_nil updates).symm ▸ h.of_tables hdocuments hembeddings

/-- One operation warns of many documents if it is a search that does. -/
theorem step_warnsOnce (hapart : store.EmbedsApart) {scene : Scene σ} {updates : List Update}
    (h : (store.content scene).Represents updates) (operation : StoreOperation) :
    store.WarnsOnce scene (store.step operation scene) (store.largeSearch? operation scene) := by
  cases operation with
  | add documents =>
    cases hentries : (store.embedAll documents).outcome scene with
    | error failure =>
      obtain ⟨-, hsame, hwarnings⟩ := add_of_error hapart hentries
      exact warnsOnce_none (congrArg MemoryStore.largeWarned hsame) hwarnings
    | ok entries =>
      obtain ⟨-, hput, hwarnings⟩ := add_of_ok hapart hentries
      refine warnsOnce_none ?_ hwarnings
      exact (congrArg MemoryStore.largeWarned hput).trans (MemoryStore.putAll_largeWarned _ entries)
  | delete id =>
    obtain ⟨-, hremoved, hwarnings⟩ := delete_spec store id scene
    refine warnsOnce_none ?_ hwarnings
    rw [step, hremoved]
    rfl
  | search request => exact (search_spec hapart h request).2

theorem afterAll_represents (hapart : store.EmbedsApart) {scene : Scene σ} {updates : List Update}
    (h : (store.content scene).Represents updates) (history : List StoreOperation) :
    (store.content (store.afterAll history scene)).Represents
      (updates ++ store.updates history scene) := by
  induction history generalizing scene updates with
  | nil =>
    rw [EmbeddedStore.updates, List.append_nil]
    exact h
  | cons operation rest ih =>
    have hrest := ih (step_represents hapart h operation)
    rw [List.append_assoc] at hrest
    exact hrest

/-- A store that starts empty holds what its updates have left. -/
theorem represents_of_empty (hapart : store.EmbedsApart) {scene : Scene σ}
    (hempty : store.content scene = {}) (history : List StoreOperation) :
    (store.content (store.afterAll history scene)).Represents (store.updates history scene) := by
  have hstart : (store.content scene).Represents [] := hempty ▸ MemoryStore.represents_nil
  exact List.nil_append (store.updates history scene) ▸ afterAll_represents hapart hstart history

/-- The first search of a history in a large store warns, unless one has done so before. -/
theorem afterAll_warnings (hapart : store.EmbedsApart) {scene : Scene σ} {updates : List Update}
    (h : (store.content scene).Represents updates) (history : List StoreOperation) :
    (store.afterAll history scene).largeWarnings = scene.largeWarnings ++
      if (store.content scene).largeWarned then []
      else ((store.largeSearches history scene).take 1).map .largeStore := by
  induction history generalizing scene updates with
  | nil =>
    rw [largeSearches, List.take_nil, List.map_nil, ite_self, List.append_nil]
    rfl
  | cons operation rest ih =>
    obtain ⟨hwarned, hwarnings⟩ := step_warnsOnce hapart h operation
    have hrest := ih (step_represents hapart h operation)
    rw [hwarned, hwarnings, List.append_assoc] at hrest
    refine hrest.trans (congrArg (scene.largeWarnings ++ ·) ?_)
    rw [largeSearches]
    cases (store.content scene).largeWarned with
    | true => rfl
    | false =>
      cases store.largeSearch? operation scene with
      | none => rfl
      | some count => rfl

theorem updatesOf_computed {operation : StoreOperation} {scene : Scene σ} {document : Document}
    {embedding : List Float} (h : .put document embedding ∈ store.updatesOf operation scene) :
    store.Computes document embedding := by
  cases operation with
  | delete id => cases List.mem_singleton.mp h
  | search request => cases h
  | add documents =>
    cases hentries : (store.embedAll documents).outcome scene with
    | error failure =>
      rw [updatesOf_add_error hentries] at h
      cases h
    | ok entries =>
      rw [updatesOf_add_ok hentries] at h
      obtain ⟨entry, hmem, hput⟩ := List.mem_map.mp h
      obtain ⟨⟩ := hput
      exact (embedAll_ok hentries).2 entry hmem

/-- Every embedding that a history puts was computed for its document. -/
theorem updates_computed {history : List StoreOperation} {scene : Scene σ} {document : Document}
    {embedding : List Float} (h : .put document embedding ∈ store.updates history scene) :
    store.Computes document embedding := by
  induction history generalizing scene with
  | nil => cases h
  | cons operation rest ih =>
    rcases List.mem_append.mp h with hfirst | hrest
    · exact updatesOf_computed hfirst
    · exact ih hrest

/-! ### The refinement -/

variable (store)

/-- A store refines a map in insertion order, given by the updates behind it: it holds what they
leave, and each operation changes it and answers as it should. -/
structure Refines (updates : List Update) (scene : Scene σ) : Prop where
  represents : (store.content scene).Represents updates
  size : (store.content scene).size = (Update.ids updates).length
  nodup : (Update.ids updates).Nodup
  /-- What is stored under an identifier is a document with that identifier and an embedding that
  was computed for it. -/
  computed : ∀ id document embedding, Update.stored updates id = some (document, embedding) →
    document.id = id ∧ store.Computes document embedding
  /-- Adding documents fails if one of them cannot be embedded, even after others have been. -/
  add_fails : ∀ earlier document later entries failure,
    (store.embedAll earlier).outcome scene = .ok entries →
    (store.embed document.text).outcome (sceneAfter (store.embedAll earlier) scene) =
      .error failure →
    (store.add (earlier ++ document :: later)).outcome scene = .error failure
  /-- Adding documents changes nothing if it fails. -/
  add_error : ∀ documents failure, (store.add documents).outcome scene = .error failure →
    store.SameStore scene (sceneAfter (store.add documents) scene)
  /-- Adding documents that can be embedded puts all of them in order, with their embeddings, and
  counts them. -/
  add_ok : ∀ documents entries, (store.embedAll documents).outcome scene = .ok entries →
    (store.add documents).outcome scene = .ok documents.length ∧
      entries.map Prod.fst = documents ∧
      (store.content (sceneAfter (store.add documents) scene)).Represents
        (updates ++ MemoryStore.puts entries)
  /-- Deleting a document drops it and tells whether it was there. -/
  delete : ∀ id, (store.delete id).outcome scene = .ok (decide (id ∈ Update.ids updates)) ∧
    (store.content (sceneAfter (store.delete id) scene)).Represents (updates ++ [.drop id])
  /-- A search changes no table, whether it fails or not. -/
  search_tables : ∀ request, store.SameTables scene (sceneAfter (store.search request) scene)
  /-- A search fails because of the embedding of its query, or because of the filter or the score of
  a document that is stored: no document is ever missing. -/
  search_error : ∀ request failure, (store.search request).outcome scene = .error failure →
    (store.embed request.query).outcome scene = .error failure ∨
      ∃ query id document embedding, (store.embed request.query).outcome scene = .ok query ∧
        Update.stored updates id = some (document, embedding) ∧
        MemoryStore.consider store.callables request query document embedding = .error failure

variable {store}

/-- A search fails because of its query or because of a document that is stored. -/
theorem search_error_cases (hapart : store.EmbedsApart) {scene : Scene σ} {updates : List Update}
    (h : (store.content scene).Represents updates) {request : SearchRequest} {failure : Failure}
    (hfailed : (store.search request).outcome scene = .error failure) :
    (store.embed request.query).outcome scene = .error failure ∨
      ∃ query id document embedding, (store.embed request.query).outcome scene = .ok query ∧
        Update.stored updates id = some (document, embedding) ∧
        MemoryStore.consider store.callables request query document embedding =
          .error failure := by
  obtain ⟨⟨hdocuments, hembeddings⟩, -⟩ := search_spec hapart h request
  cases hquery : (store.embed request.query).outcome scene with
  | error cause =>
    rw [(search_of_error hquery).1] at hfailed
    obtain rfl := Except.error.inj hfailed
    exact Or.inl rfl
  | ok query =>
    rw [outcome_search_of_ok hquery, hdocuments, hembeddings] at hfailed
    cases hcandidates : MemoryStore.candidates store.callables request query
        (store.content scene).documents (store.content scene).embeddings with
    | ok scored =>
      rw [hcandidates] at hfailed
      cases hfailed
    | error cause =>
      rw [hcandidates] at hfailed
      obtain rfl := Except.error.inj hfailed
      obtain ⟨id, document, embedding, hstored, hconsider⟩ := h.candidates_error hcandidates
      exact Or.inr ⟨query, id, document, embedding, rfl, hstored, hconsider⟩

/-- Assumes: a content that holds what updates have left, with embeddings that were computed. It
behaves as the map that these updates build up. -/
theorem refines_of_represents (hapart : store.EmbedsApart) {scene : Scene σ}
    {updates : List Update} (h : (store.content scene).Represents updates)
    (hcomputed : ∀ document embedding, .put document embedding ∈ updates →
      store.Computes document embedding) : store.Refines updates scene where
  represents := h
  size := h.size_eq
  nodup := Update.nodup_ids updates
  computed id document embedding hstored := by
    obtain ⟨hput, hid⟩ := Update.mem_of_stored hstored
    exact ⟨hid, hcomputed document embedding hput⟩
  add_fails earlier document later entries failure hearlier hdocument :=
    outcome_bind_error (embedAll_error hearlier hdocument) _
  add_error documents failure hfailed := by
    cases hentries : (store.embedAll documents).outcome scene with
    | error cause => exact (add_of_error hapart hentries).2
    | ok entries =>
      rw [(add_of_ok hapart hentries).1] at hfailed
      cases hfailed
  add_ok documents entries hentries := by
    obtain ⟨hcount, hput, -⟩ := add_of_ok hapart hentries
    refine ⟨hcount, (embedAll_ok hentries).1, ?_⟩
    rw [hput]
    exact MemoryStore.represents_putAll h entries
  delete id := by
    obtain ⟨hdeleted, hremoved, -⟩ := delete_spec store id scene
    rw [hdeleted, hremoved, h.contains_eq]
    exact ⟨rfl, MemoryStore.represents_remove h id⟩
  search_tables request := (search_spec hapart h request).1
  search_error request failure := search_error_cases hapart h

/-- A store that starts empty refines, after any operations, the map that their updates build up;
and it warns of many documents once at most, on the first search in a large store. -/
theorem history_refines (store : EmbeddedStore σ) (hapart : store.EmbedsApart) (scene : Scene σ)
    (hempty : store.content scene = {}) (history : List StoreOperation) :
    store.Refines (store.updates history scene) (store.afterAll history scene) ∧
      (store.afterAll history scene).largeWarnings =
        scene.largeWarnings ++ ((store.largeSearches history scene).take 1).map .largeStore := by
  have hstart : (store.content scene).Represents [] := hempty ▸ MemoryStore.represents_nil
  have hwarnings := afterAll_warnings hapart hstart history
  rw [hempty] at hwarnings
  exact ⟨refines_of_represents hapart (afterAll_represents hapart hstart history)
    fun _ _ ↦ updates_computed, hwarnings⟩

/-- A store that is large from two documents on and cannot embed the empty text. -/
def small : EmbeddedStore MemoryStore where
  slot := .whole
  embed text := if text = "" then throw (.argument .emptyEmbeddings) else pure [1.0]
  largeThreshold := 1

theorem small_embedsApart : small.EmbedsApart := by
  intro text scene
  show small.SameStore scene (sceneAfter (if text = "" then _ else _) scene)
  split
  · exact ⟨rfl, rfl⟩
  · exact ⟨rfl, rfl⟩

/-- Of two documents the first one is deleted and added again; in between, a third one cannot be
added together with an empty one. In the end there is a search. -/
def smallHistory : List StoreOperation :=
  [.add [⟨"a", "one", [], none⟩, ⟨"b", "two", [], none⟩],
    .add [⟨"c", "three", [], none⟩, ⟨"d", "", [], none⟩],
    .delete "a", .add [⟨"a", "four", [], none⟩], .search ⟨"one", 4, 0.0, .null⟩]

/-- The document that was added again comes last, the third one is not there, and the search gives
the warning. -/
theorem history_refines_small :
    small.EmbedsApart ∧ small.content ⟨{}, []⟩ = {} ∧
      small.Refines (small.updates smallHistory ⟨{}, []⟩) (small.afterAll smallHistory ⟨{}, []⟩) ∧
      Update.ids (small.updates smallHistory ⟨{}, []⟩) = ["b", "a"] ∧
      (small.afterAll smallHistory ⟨{}, []⟩).largeWarnings = [.largeStore 2] := by
  obtain ⟨hrefines, hwarnings⟩ := history_refines small small_embedsApart ⟨{}, []⟩ rfl smallHistory
  exact ⟨small_embedsApart, rfl, hrefines, rfl, hwarnings.trans rfl⟩

end EmbeddedStore

end Grounding
