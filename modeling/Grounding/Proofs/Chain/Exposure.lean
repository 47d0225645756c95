import Grounding.Proofs.Chain.Sides

/-!
# The documents that a response shows

Every retrieving advisor writes its documents into the advise context on the way to the model, over
those that stand there, and attaches what the context holds to the response on the way back.

`DocumentAdvisor.retrieve` is what the request side of one of the two advisors retrieves. It is the
last to write if nothing lies between it and the model, so that the request reaches the model with
its documents (`Reaches`); all other entries of the context are those of the caller
(`requestSide_keeps`). The response sides attach the same documents, as often as there are
advisors, and change nothing else (`exposes_marked`).

`response_exposes`: a whole response, and every terminal fragment of a stream, shows the documents
of the innermost advisor, in its metadata and in its context, whatever outer advisors, the caller
and the model have put there.
-/

set_option autoImplicit false
set_option relaxedAutoImplicit false

namespace Grounding

open Grounding.Action
open Grounding.Stream (sceneAfter)
open Grounding.RetrievalAdvisor (documentsKey)

variable {σ : Type}

/-- Entries that are the same but for that of the documents. -/
def Context.SameOthers (old new : Context) : Prop :=
  ∀ key, key ≠ documentsKey → Dict.get? new key = Dict.get? old key

theorem Context.sameOthers_insert (entries : Context) (documents : Value) :
    Context.SameOthers entries (Dict.insert entries documentsKey documents) := by
  intro key hkey
  rw [Dict.get?_insert, if_neg (Ne.symm hkey)]

theorem Context.SameOthers.trans {first second third : Context}
    (hfirst : Context.SameOthers first second) (hsecond : Context.SameOthers second third) :
    Context.SameOthers first third :=
  fun key hkey ↦ (hsecond key hkey).trans (hfirst key hkey)

namespace RetrievalAdvisor

/-- The request side of advisors in a row is that of the first ones, and then that of the rest. -/
theorem requestSide_append (outer rest : List (RetrievalAdvisor σ)) (request : AdvisedRequest) :
    requestSide (outer ++ rest) request = requestSide outer request >>= requestSide rest := by
  induction outer generalizing request with
  | nil => exact (pure_bind request _).symm
  | cons advisor outer ih =>
    simp only [List.cons_append, requestSide, bind_assoc, ih]

theorem requestSide_singleton (advisor : RetrievalAdvisor σ) (request : AdvisedRequest) :
    requestSide [advisor] request = advisor.before advisor.placement request :=
  bind_pure _

end RetrievalAdvisor

namespace DocumentAdvisor

/-! ### One advisor -/

/-- What the request side of an advisor retrieves. -/
def retrieve : DocumentAdvisor σ → AdvisedRequest → Action σ (List Document)
  | .augmentation advisor, request => do
    let result ← advisor.pipeline.run (AugmentationAdvisor.queryOf request)
    return result.documents
  | .questionAnswer advisor, request => do
    let search ← advisor.buildRequest request
    Action.protect (.searchFailed search) (advisor.found search)

/-- Assumes: a request side that succeeds. It has retrieved documents, and its request has these in
the context, where nothing else has changed. -/
theorem before_retrieves (advisor : DocumentAdvisor σ) {placement : Placement}
    {request advised : AdvisedRequest} {scene : Scene σ}
    (h : (advisor.toRetrieval.before placement request).outcome scene = .ok advised) :
    ∃ documents, (advisor.retrieve request).outcome scene = .ok documents ∧
      advised.adviseContext =
        request.adviseContext.insert documentsKey (Document.listValue documents) := by
  cases advisor with
  | augmentation advisor =>
    obtain ⟨result, hresult, hlast⟩ := outcome_bind_eq_ok_iff.mp h
    obtain ⟨⟩ := hlast
    exact ⟨result.documents, outcome_bind_ok hresult _, rfl⟩
  | questionAnswer advisor =>
    obtain ⟨search, hsearch, hfound⟩ := outcome_bind_eq_ok_iff.mp h
    obtain ⟨documents, hdocuments, hrendered⟩ := outcome_bind_eq_ok_iff.mp hfound
    obtain ⟨advice, -, hlast⟩ := outcome_bind_eq_ok_iff.mp hrendered
    obtain ⟨⟩ := hlast
    exact ⟨documents, (outcome_bind_ok hsearch _).trans hdocuments, rfl⟩

theorem before_keeps (advisor : DocumentAdvisor σ) {placement : Placement}
    {request advised : AdvisedRequest} {scene : Scene σ}
    (h : (advisor.toRetrieval.before placement request).outcome scene = .ok advised) :
    Context.SameOthers request.adviseContext advised.adviseContext := by
  obtain ⟨documents, -, hcontext⟩ := advisor.before_retrieves h
  rw [hcontext]
  exact Context.sameOthers_insert _ _

theorem placedFreely (advisor : DocumentAdvisor σ) : advisor.toRetrieval.PlacedFreely := by
  cases advisor <;> rfl

/-! ### The way to the model -/

/-- Assumes: request sides that succeed. They change nothing in the context but the documents. -/
theorem requestSide_keeps (advisors : List (DocumentAdvisor σ)) {request advised : AdvisedRequest}
    {scene : Scene σ}
    (h : (RetrievalAdvisor.requestSide (advisors.map toRetrieval) request).outcome scene =
      .ok advised) :
    Context.SameOthers request.adviseContext advised.adviseContext := by
  induction advisors generalizing request scene with
  | nil =>
    obtain ⟨⟩ := h
    exact fun _ _ ↦ rfl
  | cons advisor rest ih =>
    obtain ⟨first, hfirst, hrest⟩ := outcome_bind_eq_ok_iff.mp h
    exact (advisor.before_keeps hfirst).trans (ih hrest)

/-- How a request reaches the model. The outer advisors lead to a request for which the innermost
one retrieves documents. What its request side makes of this is the request `advised` that the model
gets, in the scene `asked`. -/
def Reaches (outer : List (DocumentAdvisor σ)) (innermost : DocumentAdvisor σ)
    (request : AdvisedRequest) (scene : Scene σ) (documents : List Document)
    (advised : AdvisedRequest) (asked : Scene σ) : Prop :=
  ∃ inner found,
    (RetrievalAdvisor.requestSide (outer.map toRetrieval) request).outcome scene = .ok inner ∧
    sceneAfter (RetrievalAdvisor.requestSide (outer.map toRetrieval) request) scene = found ∧
    (innermost.retrieve inner).outcome found = .ok documents ∧
    (innermost.toRetrieval.before .inPlace inner).outcome found = .ok advised ∧
    sceneAfter (innermost.toRetrieval.before .inPlace inner) found = asked

/-- Assumes: request sides that succeed, of one advisor at least. Their request reaches the
model. -/
theorem exists_reaches {outer : List (DocumentAdvisor σ)} {innermost : DocumentAdvisor σ}
    {request advised : AdvisedRequest} {scene : Scene σ}
    (h : (RetrievalAdvisor.requestSide (outer.map toRetrieval ++ [innermost.toRetrieval])
      request).outcome scene = .ok advised) :
    ∃ documents, Reaches outer innermost request scene documents advised
      (sceneAfter (RetrievalAdvisor.requestSide (outer.map toRetrieval ++ [innermost.toRetrieval])
        request) scene) := by
  rw [RetrievalAdvisor.requestSide_append] at h ⊢
  obtain ⟨inner, hinner, hbefore⟩ := outcome_bind_eq_ok_iff.mp h
  rw [sceneAfter_bind_ok hinner]
  rw [RetrievalAdvisor.requestSide_singleton,
    innermost.placedFreely.before_placement] at hbefore ⊢
  obtain ⟨documents, hretrieved, -⟩ := innermost.before_retrieves hbefore
  exact ⟨documents, inner, _, hinner, rfl, hretrieved, hbefore, rfl⟩

section Reaches

variable {outer : List (DocumentAdvisor σ)} {innermost : DocumentAdvisor σ}
  {request advised : AdvisedRequest} {scene asked : Scene σ} {documents : List Document}

theorem Reaches.get?_documents
    (h : Reaches outer innermost request scene documents advised asked) :
    Dict.get? advised.adviseContext documentsKey = some (Document.listValue documents) := by
  obtain ⟨inner, found, -, -, hretrieved, hbefore, -⟩ := h
  obtain ⟨others, hothers, hcontext⟩ := innermost.before_retrieves hbefore
  obtain rfl : others = documents := Except.ok.inj (hothers.symm.trans hretrieved)
  rw [hcontext, Dict.get?_insert, if_pos rfl]

theorem Reaches.sameOthers (h : Reaches outer innermost request scene documents advised asked) :
    Context.SameOthers request.adviseContext advised.adviseContext := by
  obtain ⟨inner, found, hinner, -, -, hbefore, -⟩ := h
  exact (requestSide_keeps outer hinner).trans (innermost.before_keeps hbefore)

end Reaches

/-! ### The way back -/

/-- A response, with its context, that shows documents. Beside them it has the generations and the
metadata of what the model gave, and the context of the caller. -/
structure Exposes (documents : List Document) (caller : Context) (given : ChatResponse)
    (shown : AdvisedResponse) : Prop where
  response_shows : ∃ response, shown.response = some response ∧
    response.results = given.results ∧
    Dict.get? response.metadata documentsKey = some (Document.listValue documents) ∧
    Context.SameOthers given.metadata response.metadata
  context_shows : Dict.get? shown.adviseContext documentsKey = some (Document.listValue documents)
  context_keeps : Context.SameOthers caller shown.adviseContext

/-- Assumes: a request that reaches the model. With the documents attached, what the model gives for
it shows them. -/
theorem Reaches.exposes_marked {outer : List (DocumentAdvisor σ)} {innermost : DocumentAdvisor σ}
    {request advised : AdvisedRequest} {scene asked : Scene σ} {documents : List Document}
    (h : Reaches outer innermost request scene documents advised asked) (given : ChatResponse) :
    Exposes documents request.adviseContext given
      (marked (Document.listValue documents) (.ofRequest advised (some given))) where
  response_shows := by
    refine ⟨_, rfl, rfl, ?_, Context.sameOthers_insert given.metadata _⟩
    exact (Dict.get?_insert _ _ _ _).trans (if_pos rfl)
  context_shows := h.get?_documents
  context_keeps := h.sameOthers

theorem inOrder_map_toRetrieval (advisors : List (DocumentAdvisor σ)) :
    RetrievalAdvisor.inOrder (advisors.map toRetrieval) = (inOrder advisors).map toRetrieval := by
  refine (List.map_mergeSort fun a _ b _ ↦ ?_).symm
  rfl

theorem chain_eq (model : ChatModel σ) (advisors : List (DocumentAdvisor σ)) :
    chain model advisors = RetrievalAdvisor.chain model (advisors.map toRetrieval) := by
  unfold chain RetrievalAdvisor.chain
  rw [List.map_map]
  rfl

section Chain

variable {model : ChatModel σ} {advisors outer : List (DocumentAdvisor σ)}
  {innermost : DocumentAdvisor σ} {request : AdvisedRequest} {scene : Scene σ}

theorem map_toRetrieval_of_split (hsplit : inOrder advisors = outer ++ [innermost]) :
    (inOrder advisors).map toRetrieval = outer.map toRetrieval ++ [innermost.toRetrieval] := by
  rw [hsplit, List.map_append, List.map_singleton]

/-- Assumes: advisors of which one is the innermost, and a call that succeeds. Its response shows
the documents of that advisor. -/
theorem call_exposes (hsplit : inOrder advisors = outer ++ [innermost]) {shown : AdvisedResponse}
    (hshown : ((chain model advisors).call request).outcome scene = .ok shown) :
    ∃ documents advised asked given,
      Reaches outer innermost request scene documents advised asked ∧
      (model.call advised.prompt).outcome asked = .ok given ∧
      Exposes documents request.adviseContext given shown := by
  have hplaced : ∀ advisor ∈ outer.map toRetrieval ++ [innermost.toRetrieval],
      advisor.PlacedFreely := by
    rw [← map_toRetrieval_of_split hsplit]
    intro advisor hmem
    obtain ⟨plain, -, rfl⟩ := List.mem_map.mp hmem
    exact plain.placedFreely
  have hremaining := RetrievalAdvisor.remaining_call model (advisors.map toRetrieval)
  rw [inOrder_map_toRetrieval, map_toRetrieval_of_split hsplit, ← chain_eq] at hremaining
  cases hadvised : (RetrievalAdvisor.requestSide (outer.map toRetrieval ++ [innermost.toRetrieval])
      request).outcome scene with
  | error failure =>
    rw [RetrievalAdvisor.call_eq hplaced hremaining, outcome_bind_error hadvised] at hshown
    cases hshown
  | ok advised =>
    obtain ⟨documents, hreaches⟩ := exists_reaches hadvised
    rw [RetrievalAdvisor.outcome_call hplaced hremaining hadvised] at hshown
    obtain ⟨given, hgiven, hside⟩ := bind_eq_ok_iff.mp hshown
    have hcarries : RetrievalAdvisor.Carries (documents.map Document.toValue)
        (.ofRequest advised (some given)) := hreaches.get?_documents
    rw [RetrievalAdvisor.responseSide_eq_after (by simp),
      RetrievalAdvisor.after_of_carries hcarries] at hside
    obtain rfl := Except.ok.inj hside
    exact ⟨documents, advised, _, given, hreaches, hgiven, hreaches.exposes_marked given⟩

/-- Assumes: advisors of which one is the innermost, and a terminal fragment at some position of a
stream. It shows the documents of that advisor. -/
theorem fragment_exposes (hsplit : inOrder advisors = outer ++ [innermost]) {position : Nat}
    {shown : AdvisedResponse}
    (hshown : (((chain model advisors).stream request).drain scene).fragments[position]? =
      some shown)
    (hterminal : shown.isTerminal = true) :
    ∃ documents advised asked given,
      Reaches outer innermost request scene documents advised asked ∧
      (model.drain advised.prompt asked).fragments[position]? = some given ∧
      Exposes documents request.adviseContext given shown := by
  have hremaining := remaining_chain model advisors
  rw [map_toRetrieval_of_split hsplit] at hremaining
  cases hadvised : (RetrievalAdvisor.requestSide (outer.map toRetrieval ++ [innermost.toRetrieval])
      request).outcome scene with
  | error failure =>
    rw [RetrievalAdvisor.stream_eq hremaining, RetrievalAdvisor.drain_entering, hadvised] at hshown
    cases hshown
  | ok advised =>
    obtain ⟨documents, hreaches⟩ := exists_reaches hadvised
    rw [RetrievalAdvisor.drain_stream _ _ hremaining hadvised hreaches.get?_documents rfl,
      List.getElem?_map] at hshown
    obtain ⟨given, hgiven, rfl⟩ := Option.map_eq_some_iff.mp hshown
    rw [RetrievalAdvisor.isTerminal_delivering] at hterminal
    have hmarked : RetrievalAdvisor.delivering (documents.map Document.toValue) advised given =
        marked (Document.listValue documents) (.ofRequest advised (some given)) :=
      if_pos hterminal
    rw [hmarked]
    exact ⟨documents, advised, _, given, hreaches, hgiven, hreaches.exposes_marked given⟩

end Chain

/-- Assumes: at least one advisor. A whole response of their chain, and every terminal fragment of a
stream, belongs to a response or a fragment that the model has given for the request that reached
it. It shows the documents which the innermost advisor has retrieved for this request. -/
theorem response_exposes (model : ChatModel σ) (advisors : List (DocumentAdvisor σ))
    (request : AdvisedRequest) (scene : Scene σ) (hadvisors : advisors ≠ []) :
    ∃ outer innermost, inOrder advisors = outer ++ [innermost] ∧
      (∀ shown, ((chain model advisors).call request).outcome scene = .ok shown →
        ∃ documents advised asked given,
          Reaches outer innermost request scene documents advised asked ∧
          (model.call advised.prompt).outcome asked = .ok given ∧
          Exposes documents request.adviseContext given shown) ∧
      ∀ (position : Nat) (shown : AdvisedResponse),
        (((chain model advisors).stream request).drain scene).fragments[position]? = some shown →
        shown.isTerminal = true →
        ∃ documents advised asked given,
          Reaches outer innermost request scene documents advised asked ∧
          (model.drain advised.prompt asked).fragments[position]? = some given ∧
          Exposes documents request.adviseContext given shown := by
  obtain ⟨outer, innermost, hsplit⟩ := exists_innermost hadvisors
  refine ⟨outer, innermost, hsplit, ?_, ?_⟩
  · intro shown hshown
    exact call_exposes hsplit hshown
  · intro position shown hshown hterminal
    exact fragment_exposes hsplit hshown hterminal

/-- An advisor that always finds one document. -/
def finding (id : String) : DocumentAdvisor Unit :=
  .questionAnswer {
    store := fun _ ↦ pure (some [{ id := id }])
    renderer := { placeholders := none, render := fun _ _ ↦ pure "" } }

/-- A model with documents of its own. -/
def citing : ChatModel Unit where
  call _ := pure { metadata := [(documentsKey, .text "mine")] }
  stream _ := pure (.ended none)

/-- Two advisors, a caller and a model that all name documents: those of the second advisor are
shown. -/
theorem response_exposes_second :
    ∃ shown response,
      ((chain citing [finding "a", finding "b"]).call
        (.ofText "Why?" [(documentsKey, .text "yours")])).outcome ⟨(), []⟩ = .ok shown ∧
      shown.response = some response ∧
      Dict.get? response.metadata documentsKey = some (Document.listValue [{ id := "b" }]) := by
  have horder : inOrder [finding "a", finding "b"] = [finding "a", finding "b"] := by
    refine List.mergeSort_of_pairwise ?_
    simp [finding, toRetrieval, QuestionAnswerAdvisor.toRetrieval]
  have hremaining := RetrievalAdvisor.remaining_call citing
    ([finding "a", finding "b"].map toRetrieval)
  rw [inOrder_map_toRetrieval, horder, ← chain_eq] at hremaining
  obtain ⟨outer, innermost, hsplit, hcall, -⟩ :=
    response_exposes citing [finding "a", finding "b"]
      (.ofText "Why?" [(documentsKey, .text "yours")]) ⟨(), []⟩ (List.cons_ne_nil _ _)
  have hboth : [finding "a"] ++ [finding "b"] = outer ++ [innermost] := horder.symm.trans hsplit
  obtain ⟨rfl, hlast⟩ := List.append_inj' hboth rfl
  obtain rfl := List.singleton_inj.mp hlast
  have hshown : ∃ shown, ((chain citing [finding "a", finding "b"]).call
      (.ofText "Why?" [(documentsKey, .text "yours")])).outcome ⟨(), []⟩ = .ok shown := by
    rw [RetrievalAdvisor.call_eq (by simp [placedFreely]) hremaining]
    exact ⟨_, rfl⟩
  obtain ⟨shown, hshown⟩ := hshown
  obtain ⟨documents, advised, asked, given, hreaches, -, hexposes⟩ := hcall shown hshown
  obtain ⟨inner, found, hinner, -, hretrieved, -, -⟩ := hreaches
  obtain ⟨⟩ := hinner
  obtain rfl : [{ id := "b" }] = documents := Except.ok.inj hretrieved
  obtain ⟨response, hresponse, -, hdocuments, -⟩ := hexposes.response_shows
  exact ⟨shown, response, hshown, hresponse, hdocuments⟩

end DocumentAdvisor

end Grounding
