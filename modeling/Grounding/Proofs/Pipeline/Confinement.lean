import Grounding.Proofs.Pipeline.Groups
import Grounding.Proofs.Record

/-!
# Pipelines that confine what they retrieve

Suppose that retrieval for a query in a certain context writes only allowed entries to the record,
and finds only documents that some entry vouches for. A pipeline is confined by this
(`Pipeline.Confined`) if its transformers and its expander keep the context of a query, if its
joiner adds no documents, and if nothing but the retriever writes to the record.

`run_confined`: a run for a query in that context writes only allowed entries, and every document of
its result is vouched for by one of them. The context is handed on from stage to stage; the
transformers and the retrievals are inductions over the list.
-/

set_option autoImplicit false
set_option relaxedAutoImplicit false

namespace Grounding

open Grounding.Action

variable {σ ε α β : Type}

/-! ### Silent and confined actions -/

/-- An action that writes nothing to the record, and whose results satisfy a condition. -/
def Silent (action : Action (Recorded σ ε) α) (post : α → Prop) : Prop :=
  Records action fun result record ↦ record = [] ∧ ∀ value, result = .ok value → post value

/-- An action that writes only allowed entries. Every document of its result is a given one, or some
entry vouches for it. -/
def Confines (allowed : ε → Prop) (vouches : ε → Document → Prop) (given : List Document)
    (documents : α → List Document) (action : Action (Recorded σ ε) α) : Prop :=
  Records action fun result record ↦ (∀ entry ∈ record, allowed entry) ∧
    ∀ value, result = .ok value → ∀ document ∈ documents value,
      document ∈ given ∨ ∃ entry ∈ record, vouches entry document

section Rules

variable {post : α → Prop}

theorem silent_pure {value : α} (h : post value) :
    Silent (pure value : Action (Recorded σ ε) α) post := by
  refine records_pure ⟨rfl, ?_⟩
  rintro _ ⟨⟩
  exact h

theorem silent_throw (failure : Failure) :
    Silent (throw failure : Action (Recorded σ ε) α) post := by
  refine records_throw ⟨rfl, ?_⟩
  rintro _ ⟨⟩

theorem silent_bind {action : Action (Recorded σ ε) α} {next : α → Action (Recorded σ ε) β}
    {final : β → Prop} (haction : Silent action post)
    (hnext : ∀ value, post value → Silent (next value) final) :
    Silent (action >>= next) final := by
  refine records_bind (records_mono haction fun result record hsilent ↦ ?_)
  obtain ⟨rfl, hpost⟩ := hsilent
  cases result with
  | ok value => exact hnext value (hpost value rfl)
  | error failure =>
    refine ⟨rfl, ?_⟩
    rintro _ ⟨⟩

theorem silent_protect {action : Action (Recorded σ ε) α} (wrap : Failure → Failure)
    (h : Silent action post) : Silent (protect wrap action) post := by
  refine records_protect (records_mono h fun result record hsilent ↦ ⟨hsilent.1, ?_⟩)
  cases result with
  | ok value => exact hsilent.2
  | error failure => rintro _ ⟨⟩

/-- Assumes: results that satisfy the condition. An action that is not recorded is silent. -/
theorem silent_unrecorded {action : Action σ α}
    (h : ∀ scene value, action.outcome scene = .ok value → post value) :
    Silent (action.unrecorded : Action (Recorded σ ε) α) post :=
  records_logging fun scene ↦ ⟨rfl, h scene⟩

variable {allowed : ε → Prop} {vouches : ε → Document → Prop} {given : List Document}
  {documents : α → List Document}

theorem confines_pure {value : α} (h : ∀ document ∈ documents value, document ∈ given) :
    Confines allowed vouches given documents (pure value : Action (Recorded σ ε) α) := by
  refine records_pure ⟨fun entry hmem ↦ absurd hmem List.not_mem_nil, ?_⟩
  rintro _ ⟨⟩ document hmem
  exact Or.inl (h document hmem)

theorem confines_throw (failure : Failure) :
    Confines allowed vouches given documents (throw failure : Action (Recorded σ ε) α) := by
  refine records_throw ⟨fun entry hmem ↦ absurd hmem List.not_mem_nil, ?_⟩
  rintro _ ⟨⟩

/-- Assumes: a silent first part, and for its results a confined second part. -/
theorem confines_bind_silent {action : Action (Recorded σ ε) β}
    {next : β → Action (Recorded σ ε) α} {post : β → Prop} (haction : Silent action post)
    (hnext : ∀ value, post value → Confines allowed vouches given documents (next value)) :
    Confines allowed vouches given documents (action >>= next) := by
  refine records_bind (records_mono haction fun result record hsilent ↦ ?_)
  obtain ⟨rfl, hpost⟩ := hsilent
  cases result with
  | ok value => exact hnext value (hpost value rfl)
  | error failure =>
    refine ⟨fun entry hmem ↦ absurd hmem List.not_mem_nil, ?_⟩
    rintro _ ⟨⟩

/-- Assumes: a confined first part, and a second part that is confined when the documents of the
first one are given as well. -/
theorem confines_bind {action : Action (Recorded σ ε) β} {next : β → Action (Recorded σ ε) α}
    {found : β → List Document} (haction : Confines allowed vouches given found action)
    (hnext : ∀ value, Confines allowed vouches (given ++ found value) documents (next value)) :
    Confines allowed vouches given documents (action >>= next) := by
  refine records_bind (records_mono haction fun result record hfirst ↦ ?_)
  obtain ⟨hallowed, hfound⟩ := hfirst
  cases result with
  | error failure =>
    refine ⟨hallowed, ?_⟩
    rintro _ ⟨⟩
  | ok value =>
    refine records_mono (hnext value) fun final more hmore ↦ ⟨?_, ?_⟩
    · intro entry hmem
      rcases List.mem_append.mp hmem with hold | hnew
      · exact hallowed entry hold
      · exact hmore.1 entry hnew
    · intro result hresult document hmem
      rcases hmore.2 result hresult document hmem with hgiven | ⟨entry, hentry, hvouches⟩
      · rcases List.mem_append.mp hgiven with hbefore | hbetween
        · exact Or.inl hbefore
        · rcases hfound value rfl document hbetween with hbefore | ⟨entry, hentry, hvouches⟩
          · exact Or.inl hbefore
          · exact Or.inr ⟨entry, List.mem_append_left more hentry, hvouches⟩
      · exact Or.inr ⟨entry, List.mem_append_right record hentry, hvouches⟩

/-- Assumes: an action that is confined without given documents. It is so with any. -/
theorem confines_of_nil {action : Action (Recorded σ ε) α}
    (h : Confines allowed vouches [] documents action) :
    Confines allowed vouches given documents action := by
  refine records_mono h fun result record hrecord ↦ ⟨hrecord.1, ?_⟩
  intro value hvalue document hmem
  rcases hrecord.2 value hvalue document hmem with hnone | hvouched
  · cases hnone
  · exact Or.inr hvouched

theorem confines_protect {action : Action (Recorded σ ε) α} (wrap : Failure → Failure)
    (h : Confines allowed vouches given documents action) :
    Confines allowed vouches given documents (protect wrap action) := by
  refine records_protect (records_mono h fun result record hrecord ↦ ⟨hrecord.1, ?_⟩)
  cases result with
  | ok value => exact hrecord.2
  | error failure => rintro _ ⟨⟩

/-- The documents of a result, none for a failure. -/
def documentsOf (documents : α → List Document) : Except Failure α → List Document
  | .ok value => documents value
  | .error _ => []

theorem confines_attempt {action : Action (Recorded σ ε) α}
    (h : Confines allowed vouches given documents action) :
    Confines allowed vouches given (documentsOf documents) (attempt action) := by
  refine records_attempt (records_mono h fun result record hrecord ↦ ⟨hrecord.1, ?_⟩)
  rintro _ ⟨⟩ document hmem
  cases result with
  | ok value => exact hrecord.2 value rfl document hmem
  | error failure => cases hmem

end Rules

/-! ### Confined pipelines -/

namespace Pipeline

/-- A pipeline that is confined for queries in a context. -/
structure Confined (context : Context) (allowed : ε → Prop) (vouches : ε → Document → Prop)
    (pipeline : Pipeline (Recorded σ ε)) : Prop where
  transform : ∀ transformer ∈ pipeline.transformers, ∀ query, query.context = context →
    Silent (transformer.transform query) fun answer ↦
      ∀ transformed, answer = some transformed → transformed.context = context
  expand : ∀ expander, pipeline.expander = some expander → ∀ query, query.context = context →
    Silent (expander.expand query) fun answer ↦
      ∀ expanded, answer = some expanded → ∀ other ∈ expanded, other.context = context
  retrieve : ∀ query, query.context = context →
    Confines allowed vouches [] (Option.getD · []) (pipeline.retriever.retrieve query)
  join : ∀ groups, Silent (pipeline.joiner.join groups) fun answer ↦
    ∀ joined, answer = some joined → ∀ document ∈ joined, ∃ list ∈ groups.lists, document ∈ list
  augment : ∀ query documents, Silent (pipeline.augmenter.augment query documents) fun _ ↦ True
  tell : ∀ notice, Silent (pipeline.tell notice) fun _ ↦ True

variable {allowed : ε → Prop} {vouches : ε → Document → Prop} {context : Context}
  {pipeline : Pipeline (Recorded σ ε)}

theorem transformAll_silent {transformers : List (QueryTransformer (Recorded σ ε))}
    (htransform : ∀ transformer ∈ transformers, ∀ query, query.context = context →
      Silent (transformer.transform query) fun answer ↦
        ∀ transformed, answer = some transformed → transformed.context = context)
    {query : Query} (hquery : query.context = context) :
    Silent (transformAll transformers query) fun transformed ↦ transformed.context = context := by
  induction transformers generalizing query with
  | nil => exact silent_pure hquery
  | cons transformer rest ih =>
    have hhead := htransform transformer List.mem_cons_self query hquery
    have hrest := fun other hmem ↦ htransform other (List.mem_cons_of_mem transformer hmem)
    have honce : Silent (transformOnce transformer query)
        fun transformed ↦ transformed.context = context := by
      refine silent_bind (silent_protect _ hhead) fun answer hanswer ↦ ?_
      cases answer with
      | none => exact silent_throw _
      | some transformed => exact silent_pure (hanswer transformed rfl)
    exact silent_bind honce fun transformed htransformed ↦ ih hrest htransformed

namespace Confined

theorem tellTransformed (h : pipeline.Confined context allowed vouches)
    (query transformed : Query) :
    Silent (pipeline.tellTransformed query transformed) fun _ ↦ True := by
  unfold Pipeline.tellTransformed
  split
  · exact silent_pure trivial
  · exact h.tell _

theorem expandQuery (h : pipeline.Confined context allowed vouches) {query : Query}
    (hquery : query.context = context) :
    Silent (pipeline.expandQuery query) fun expanded ↦
      ∀ other ∈ expanded, other.context = context := by
  unfold Pipeline.expandQuery
  cases hexpander : pipeline.expander with
  | none =>
    refine silent_pure fun other hmem ↦ ?_
    rw [List.mem_singleton.mp hmem]
    exact hquery
  | some expander =>
    have hexpand := h.expand expander hexpander query hquery
    refine silent_bind (silent_protect _ hexpand) fun answer hanswer ↦ ?_
    match answer with
    | none => exact silent_throw _
    | some [] => exact silent_throw _
    | some (first :: rest) => exact silent_pure (hanswer (first :: rest) rfl)

theorem retrieveOne (h : pipeline.Confined context allowed vouches) {query : Query}
    (hquery : query.context = context) :
    Confines allowed vouches [] id (pipeline.retrieveOne query) := by
  refine confines_bind (confines_protect _ (h.retrieve query hquery)) fun answer ↦ ?_
  cases answer with
  | none => exact confines_throw _
  | some documents =>
    refine confines_bind_silent (h.tell _) fun _ _ ↦ ?_
    exact confines_pure fun document hmem ↦ hmem

/-- The documents of found lists. -/
def foundDocuments (found : List (Query × List Document)) : List Document :=
  found.flatMap Prod.snd

theorem retrieveAll (h : pipeline.Confined context allowed vouches) {queries : List Query}
    (hqueries : ∀ query ∈ queries, query.context = context) :
    Confines allowed vouches [] foundDocuments (pipeline.retrieveAll queries) := by
  induction queries with
  | nil => exact confines_pure fun document hmem ↦ hmem
  | cons query rest ih =>
    have hhead := hqueries query List.mem_cons_self
    have hrest := fun other hmem ↦ hqueries other (List.mem_cons_of_mem query hmem)
    refine confines_bind (h.retrieveOne hhead) fun documents ↦ ?_
    refine confines_bind (confines_of_nil (ih hrest)) fun others ↦ ?_
    exact confines_pure fun document hmem ↦ hmem

theorem joinGroups (h : pipeline.Confined context allowed vouches)
    (found : List (Query × List Document)) :
    Silent (pipeline.joinGroups (groupsOf found)) fun joined ↦
      ∀ document ∈ joined, document ∈ foundDocuments found := by
  refine silent_bind (h.join (groupsOf found)) fun answer hanswer ↦ ?_
  cases answer with
  | none => exact silent_throw _
  | some joined =>
    refine silent_pure fun document hmem ↦ ?_
    obtain ⟨documents, hlist, hdocument⟩ := hanswer joined rfl document hmem
    obtain ⟨query, hquery⟩ := mem_lists_groupsOf_iff.mp hlist
    exact List.mem_flatMap.mpr ⟨(query, documents), hquery, hdocument⟩

theorem stages (h : pipeline.Confined context allowed vouches) {query : Query}
    (hquery : query.context = context) :
    Confines allowed vouches [] PipelineResult.documents (pipeline.stages query) := by
  refine confines_bind_silent (transformAll_silent h.transform hquery)
    fun transformed htransformed ↦ ?_
  refine confines_bind_silent (h.tellTransformed query transformed) fun _ _ ↦ ?_
  refine confines_bind_silent (h.expandQuery htransformed) fun expanded hexpanded ↦ ?_
  refine confines_bind (h.retrieveAll hexpanded) fun found ↦ ?_
  refine confines_bind_silent (h.joinGroups found) fun joined hjoined ↦ ?_
  refine confines_bind_silent (h.augment query joined) fun augmented _ ↦ ?_
  exact confines_pure hjoined

/-- A run of a confined pipeline writes only allowed entries, and these vouch for all documents of
its result. -/
theorem run_confined (h : pipeline.Confined context allowed vouches) {query : Query}
    (hquery : query.context = context) :
    Confines allowed vouches [] PipelineResult.documents (pipeline.run query) := by
  refine confines_bind_silent (h.tell _) fun _ _ ↦ ?_
  refine confines_bind (confines_attempt (h.stages hquery)) fun result ↦ ?_
  cases result with
  | ok result =>
    refine confines_bind_silent (h.tell _) fun _ _ ↦ ?_
    exact confines_pure fun document hmem ↦ hmem
  | error failure =>
    refine confines_bind_silent (h.tell _) fun _ _ ↦ ?_
    exact confines_throw failure

end Confined

end Pipeline

end Grounding
