import Grounding.Proofs.Record
import Grounding.Proofs.Retriever

/-!
# The filter expression of a call and the default one

A retriever works out its default filter expression before it looks for one in the context of the
query. If the context holds a usable one, the retriever does what it would do without a default,
after this computation (`StoreRetriever.retrieve_eq_bind`). The value of the default does not matter
then, but its failure does.

`StoreRetriever.retrieve_disregards_default`: retrievers that differ in their default filters alone
send the same request for such a query and end in the same way, if both defaults can be worked out
and neither store nor parser see this. A default that cannot be worked out is the only thing that
counts: the retriever fails as it does, and sends nothing. `retrieve_fails_with_default` is such a
case, in which the query has a filter expression that would do.
-/

set_option autoImplicit false
set_option relaxedAutoImplicit false

namespace Grounding

open Grounding.Action
open Grounding.Stream (sceneAfter)

variable {σ κ : Type} {seen : σ → κ}

/-- A default filter that leaves what is seen of the world as it is when it is worked out. -/
def DefaultFilter.Spares (seen : σ → κ) (defaultFilter : DefaultFilter σ) : Prop :=
  ∀ scene, seen (sceneAfter defaultFilter.get scene).world = seen scene.world

namespace StoreRetriever

/-- The retriever with another default filter. -/
def withDefault (retriever : StoreRetriever σ) (defaultFilter : DefaultFilter σ) :
    StoreRetriever σ :=
  { retriever with defaultFilter }

/-- The retriever over a store that records the requests that it gets. -/
def recording (retriever : StoreRetriever σ) : StoreRetriever (Recorded σ SearchRequest) where
  store request := (retriever.store request).logging fun _ _ ↦ [request]
  base := retriever.base
  defaultFilter := .computed retriever.defaultFilter.get.unrecorded
  parser := retriever.parser.map fun parse text ↦ (parse text).unrecorded

/-- The requests that a retriever sends for a query, in order. -/
def requests (retriever : StoreRetriever σ) (query : Query) (scene : Scene σ) :
    List SearchRequest :=
  (sceneAfter (retriever.recording.retrieve query) (scene.withRecord [])).record

/-- A retriever whose store and parser depend on what is seen of the world. -/
structure DependsOn (seen : σ → κ) (retriever : StoreRetriever σ) : Prop where
  store : ∀ request, (retriever.store request).DependsOn seen
  parser : ∀ parse, retriever.parser = some parse → ∀ text, (parse text).DependsOn seen

variable {retriever : StoreRetriever σ} {query : Query} {override : Value} {scene : Scene σ}

/-- Recording the requests changes no retrieval. -/
theorem recording_simulates (retriever : StoreRetriever σ) :
    retriever.recording.Simulates Forgets retriever where
  base_eq := rfl
  defaultFilter := simulates_unrecorded retriever.defaultFilter.get
  parser := by
    show Option.Rel _ (retriever.parser.map _) retriever.parser
    cases retriever.parser with
    | none => exact .none
    | some parse => exact .some fun text ↦ simulates_unrecorded (parse text)
  store request := by
    show Action.Simulates Forgets ((retriever.store request).logging fun _ _ ↦ [request])
      (retriever.store request)
    exact simulates_logging

/-- A recorded retrieval ends as the plain one does, and leaves its scene but for the record. -/
theorem recording_retrieve (retriever : StoreRetriever σ) (query : Query) (scene : Scene σ) :
    (retriever.recording.retrieve query).outcome (scene.withRecord []) =
        (retriever.retrieve query).outcome scene ∧
      (sceneAfter (retriever.recording.retrieve query) (scene.withRecord [])).plain =
        sceneAfter (retriever.retrieve query) scene :=
  (recording_simulates retriever).documents query (scene.withRecord []) scene rfl

theorem outcome_recording_default (retriever : StoreRetriever σ) (scene : Scene σ) :
    retriever.recording.defaultFilter.get.outcome (scene.withRecord []) =
      retriever.defaultFilter.get.outcome scene := by
  show (retriever.defaultFilter.get.logging fun _ _ ↦ []).outcome (scene.withRecord []) = _
  rw [outcome_logging, Scene.plain_withRecord]

theorem sceneAfter_recording_default (retriever : StoreRetriever σ) (scene : Scene σ) :
    sceneAfter retriever.recording.defaultFilter.get (scene.withRecord []) =
      (sceneAfter retriever.defaultFilter.get scene).withRecord [] := by
  show sceneAfter (retriever.defaultFilter.get.logging fun _ _ ↦ []) (scene.withRecord []) = _
  rw [sceneAfter_logging, Scene.plain_withRecord, Scene.record_withRecord, List.append_nil]

/-! ### Usable filter expressions -/

/-- Assumes: a query with a usable filter expression. After working out its default a retriever does
what it would do without one. -/
theorem retrieve_eq_bind (hoverride : Filter.override? query.context = some override)
    (retriever : StoreRetriever σ) :
    retriever.retrieve query =
      retriever.defaultFilter.get >>= fun _ ↦
        (retriever.withDefault (.fixed .null)).retrieve query := by
  have hrequest : retriever.buildRequest query =
      retriever.defaultFilter.get >>= fun _ ↦
        (retriever.withDefault (.fixed .null)).buildRequest query := by
    unfold buildRequest
    congr 1
    funext expression
    rw [Filter.resolve_eq_of_override hoverride expression .null]
    rfl
  unfold retrieve
  rw [hrequest, bind_assoc]
  rfl

/-- Assumes: a default that cannot be worked out. The retriever fails in the same way and sends
nothing, whatever the query. -/
theorem retrieve_of_default_error {failure : Failure}
    (h : retriever.defaultFilter.get.outcome scene = .error failure) (query : Query) :
    (retriever.retrieve query).outcome scene = .error failure ∧
      retriever.requests query scene = [] := by
  have hrecorded := (outcome_recording_default retriever scene).trans h
  refine ⟨outcome_bind_error (outcome_bind_error h _) _, ?_⟩
  unfold requests retrieve buildRequest
  rw [sceneAfter_bind_error (outcome_bind_error hrecorded _), sceneAfter_bind_error hrecorded,
    sceneAfter_recording_default, Scene.record_withRecord]

/-- Without a default, a recording retriever depends on what is seen, and the requests are the
same. -/
theorem DependsOn.recording (h : retriever.DependsOn seen) :
    (retriever.recording.withDefault (.fixed .null)).Simulates (RecordedAlike seen)
      (retriever.recording.withDefault (.fixed .null)) where
  base_eq := rfl
  defaultFilter := simulates_pure _
  parser := by
    show Option.Rel _ (retriever.parser.map _) (retriever.parser.map _)
    cases hparser : retriever.parser with
    | none => exact .none
    | some parse => exact .some fun text ↦ (h.parser parse hparser text).logging fun _ ↦ []
  store request := (h.store request).logging fun _ ↦ [request]

/-- Assumes: a query with a usable filter expression; a retriever whose store and parser depend on
what is seen, and two defaults that leave it as it is and can be worked out. From scenes that look
the same, the recording retrievers end in the same way and leave scenes that look the same, with the
same requests. -/
theorem recordedAlike_retrieve {first second : DefaultFilter σ} {other : Scene σ}
    {expression default : Value} (hoverride : Filter.override? query.context = some override)
    (hdepends : retriever.DependsOn seen) (hfirst : first.Spares seen)
    (hsecond : second.Spares seen) (hseen : seen scene.world = seen other.world)
    (hworked : first.get.outcome scene = .ok expression)
    (hother : second.get.outcome other = .ok default) :
    ((retriever.withDefault first).recording.retrieve query).outcome (scene.withRecord []) =
        ((retriever.withDefault second).recording.retrieve query).outcome (other.withRecord []) ∧
      RecordedAlike seen
        (sceneAfter ((retriever.withDefault first).recording.retrieve query) (scene.withRecord []))
        (sceneAfter ((retriever.withDefault second).recording.retrieve query)
          (other.withRecord [])) := by
  have hfirstRecorded :=
    (outcome_recording_default (retriever.withDefault first) scene).trans hworked
  have hsecondRecorded :=
    (outcome_recording_default (retriever.withDefault second) other).trans hother
  have hlooks : RecordedAlike (ε := SearchRequest) seen
      ((sceneAfter first.get scene).withRecord []) ((sceneAfter second.get other).withRecord []) :=
    ⟨(hfirst scene).trans (hseen.trans (hsecond other).symm), rfl⟩
  rw [retrieve_eq_bind hoverride (retriever.withDefault first).recording,
    retrieve_eq_bind hoverride (retriever.withDefault second).recording,
    outcome_bind_ok hfirstRecorded, outcome_bind_ok hsecondRecorded,
    sceneAfter_bind_ok hfirstRecorded, sceneAfter_bind_ok hsecondRecorded,
    sceneAfter_recording_default, sceneAfter_recording_default]
  exact hdepends.recording.documents query _ _ hlooks

/-- Assumes: a query with a filter expression that is neither null nor a blank text; a retriever
whose store and parser depend on what is seen of the world, and two default filters that leave this
as it is; and worlds that look the same. If both defaults can be worked out, the retrievers end in
the same way, send the same requests, and leave the same to be seen. If the default of the first one
cannot be worked out, that one fails as its default does and sends nothing. -/
theorem retrieve_disregards_default (seen : σ → κ) (retriever : StoreRetriever σ)
    (first second : DefaultFilter σ) (query : Query) (override : Value)
    (hcontext : Dict.get? query.context Filter.contextKey = some override)
    (hnull : override ≠ .null)
    (hblank : ∀ content, override = .text content → Text.isBlank content = false)
    (hdepends : retriever.DependsOn seen) (hfirst : first.Spares seen)
    (hsecond : second.Spares seen) (scene other : Scene σ)
    (hseen : seen scene.world = seen other.world) :
    (∀ expression default, first.get.outcome scene = .ok expression →
      second.get.outcome other = .ok default →
        ((retriever.withDefault first).retrieve query).outcome scene =
            ((retriever.withDefault second).retrieve query).outcome other ∧
          (retriever.withDefault first).requests query scene =
            (retriever.withDefault second).requests query other ∧
          seen (sceneAfter ((retriever.withDefault first).retrieve query) scene).world =
            seen (sceneAfter ((retriever.withDefault second).retrieve query) other).world) ∧
    ∀ failure, first.get.outcome scene = .error failure →
      ((retriever.withDefault first).retrieve query).outcome scene = .error failure ∧
        (retriever.withDefault first).requests query scene = [] := by
  have hoverride := Filter.override?_eq_some hcontext hnull hblank
  refine ⟨fun expression default hworked hother ↦ ?_, fun failure hfailure ↦ ?_⟩
  · obtain ⟨houtcome, hworld, hrequests⟩ :=
      recordedAlike_retrieve hoverride hdepends hfirst hsecond hseen hworked hother
    obtain ⟨hleft, hleftAfter⟩ := recording_retrieve (retriever.withDefault first) query scene
    obtain ⟨hright, hrightAfter⟩ := recording_retrieve (retriever.withDefault second) query other
    rw [← hleft, ← hright, ← hleftAfter, ← hrightAfter]
    exact ⟨houtcome, hrequests, hworld⟩
  · exact retrieve_of_default_error hfailure query

/-- A retriever over a store whose only document shows the filter expression of the search. -/
def echoing : StoreRetriever Nat where
  store request := pure (some [{ id := "d", metadata := [("filter", request.filterExpression)] }])

/-- A query that names a tenant. -/
def tenantQuery : Query where
  text := "q"
  context := [(Filter.contextKey, .dict [("tenant", .text "b")])]

/-- A default filter that counts how often it has been worked out. -/
def countedDefault : DefaultFilter Nat :=
  .computed (onWorld fun count ↦ (.int count, count + 1))

/-- A retriever that counts and one without a default find the same for a tenant. -/
theorem retrieve_disregards_default_counted :
    Dict.get? tenantQuery.context Filter.contextKey = some (.dict [("tenant", .text "b")]) ∧
      countedDefault.get.outcome ⟨0, []⟩ = .ok (.int 0) ∧
      ((echoing.withDefault countedDefault).retrieve tenantQuery).outcome ⟨0, []⟩ =
        ((echoing.withDefault (.fixed .null)).retrieve tenantQuery).outcome ⟨0, []⟩ ∧
      (echoing.withDefault countedDefault).requests tenantQuery ⟨0, []⟩ =
        (echoing.withDefault (.fixed .null)).requests tenantQuery ⟨0, []⟩ := by
  have hdepends : echoing.DependsOn fun _ ↦ () := by
    constructor
    · exact fun request ↦ simulates_pure _
    · intro parse hparse
      cases hparse
  obtain ⟨hsame, -⟩ := retrieve_disregards_default (fun _ ↦ ()) echoing countedDefault
    (.fixed .null) tenantQuery (.dict [("tenant", .text "b")]) rfl (by simp) (by simp) hdepends
    (fun _ ↦ rfl) (fun _ ↦ rfl) ⟨0, []⟩ ⟨0, []⟩ rfl
  obtain ⟨houtcome, hrequests, -⟩ := hsame (.int 0) .null rfl rfl
  exact ⟨rfl, rfl, houtcome, hrequests⟩

/-- A default filter that cannot be worked out. -/
def failingDefault : DefaultFilter Nat :=
  .computed (throw (.reported .runtime "no tenant"))

/-- A query with a filter expression that is used if the retriever has no default. If the default
cannot be worked out, the retriever fails with it instead. -/
theorem retrieve_fails_with_default :
    Filter.override? tenantQuery.context = some (.dict [("tenant", .text "b")]) ∧
      ((echoing.withDefault (.fixed .null)).retrieve tenantQuery).outcome ⟨0, []⟩ =
        .ok [{ id := "d", metadata := [("filter", .dict [("tenant", .text "b")])] }] ∧
      ((echoing.withDefault failingDefault).retrieve tenantQuery).outcome ⟨0, []⟩ =
        .error (.reported .runtime "no tenant") :=
  ⟨rfl, rfl, rfl⟩

end StoreRetriever

end Grounding
