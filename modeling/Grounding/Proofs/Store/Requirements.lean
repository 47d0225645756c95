import Grounding.Proofs.Store.Ranking

/-!
# What a dictionary of required values asks for

Metadata have a required value if they hold a value under its key, and that is equal to it
(`Filter.Has`). A store in memory looks a key up and counts one that is absent as null, which equals
nothing but null (`Value.equal_null_iff`). So metadata satisfy a dictionary exactly if they have
every required value, or lack the key of one that is null (`Filter.Lacks`,
`Filter.accepts_dict_iff`). A requirement of null is the only one that can be met in two ways.

Main statement: `EmbeddedStore.search_requires`, for every state that a store can reach from empty.
A search that requires a null finds documents that lack its key
(`EmbeddedStore.search_finds_lacking`).
-/

set_option autoImplicit false
set_option relaxedAutoImplicit false

namespace Grounding

open Grounding.Action

variable {σ : Type}

/-- Null equals nothing but null. -/
theorem Value.equal_null_iff (value : Value) : equal .null value = true ↔ value = .null := by
  cases value <;> simp [equal]

namespace Filter

/-- Metadata have a required value: under its key there is one that is equal to it. -/
def Has (metadata : Context) (required : String × Value) : Prop :=
  ∃ value, Dict.get? metadata required.1 = some value ∧ Value.equal value required.2 = true

/-- Metadata lack a required value that is null: there is nothing under its key. -/
def Lacks (metadata : Context) (required : String × Value) : Prop :=
  Dict.get? metadata required.1 = none ∧ required.2 = .null

/-- What is looked up under a key is equal to a required value. -/
theorem equal_lookup_iff (metadata : Context) (required : String × Value) :
    Value.equal ((Dict.get? metadata required.1).getD .null) required.2 = true ↔
      Has metadata required ∨ Lacks metadata required := by
  unfold Has Lacks
  cases Dict.get? metadata required.1 with
  | none => simp [Value.equal_null_iff]
  | some value => simp

/-- Metadata satisfy a dictionary exactly if they have every required value, or lack one that is
null. -/
theorem accepts_dict_iff {metadata wanted : Context} {callables : Callables} :
    accepts metadata (.dict wanted) callables = .ok true ↔
      ∀ required ∈ wanted, Has metadata required ∨ Lacks metadata required := by
  unfold accepts
  rw [Except.ok.injEq, List.all_eq_true]
  exact forall₂_congr fun required _ ↦ equal_lookup_iff metadata required

/-- Assumes: no null among the required values. Metadata satisfy the dictionary exactly if they have
all of them. -/
theorem accepts_dict_iff_has {metadata wanted : Context} {callables : Callables}
    (h : ∀ required ∈ wanted, required.2 ≠ .null) :
    accepts metadata (.dict wanted) callables = .ok true ↔
      ∀ required ∈ wanted, Has metadata required := by
  rw [accepts_dict_iff]
  refine forall₂_congr fun required hmem ↦ or_iff_left ?_
  rintro ⟨-, hnull⟩
  exact h required hmem hnull

end Filter

namespace EmbeddedStore

open Grounding.Filter

/-- Assumes: a search for documents that satisfy a dictionary, in a store that started empty. Every
document that is found is stored, and its metadata have every required value, or lack one that is
null. Metadata satisfy the dictionary exactly under this condition. If no null is required, they
satisfy it exactly if they have all required values. -/
theorem search_requires (store : EmbeddedStore σ) (hapart : store.EmbedsApart) (scene : Scene σ)
    (hempty : store.content scene = {}) (history : List StoreOperation) (request : SearchRequest)
    (wanted : Context) (hwanted : request.filterExpression = .dict wanted) :
    (∀ found, (store.search request).outcome (store.afterAll history scene) = .ok found →
      ∀ document ∈ found, ∃ stored,
        Dict.get? (store.content (store.afterAll history scene)).documents document.id =
          some stored ∧
        document = { stored with score := document.score } ∧
        ∀ required ∈ wanted, Has stored.metadata required ∨ Lacks stored.metadata required) ∧
    (∀ metadata, accepts metadata (.dict wanted) store.callables = .ok true ↔
      ∀ required ∈ wanted, Has metadata required ∨ Lacks metadata required) ∧
    ((∀ required ∈ wanted, required.2 ≠ .null) →
      ∀ metadata, accepts metadata (.dict wanted) store.callables = .ok true ↔
        ∀ required ∈ wanted, Has metadata required) := by
  have h := represents_of_empty hapart hempty history
  refine ⟨fun found hfound document hmem ↦ ?_, fun _ ↦ accepts_dict_iff,
    fun hvalues _ ↦ accepts_dict_iff_has hvalues⟩
  obtain ⟨query, -, hstored⟩ := exists_stored_of_found hapart h hfound
  obtain ⟨entry, hentry, similarity, rfl, haccepts, -⟩ := hstored document hmem
  rw [hwanted] at haccepts
  exact ⟨entry.1, h.get?_of_mem_entries hentry, rfl, accepts_dict_iff.mp haccepts⟩

/-- The search in the plane, which requires that a document is not hidden by asking for a null,
succeeds and finds three documents that lack the key. -/
theorem planar_search_found : ∃ found, (planar.search planarRequest).outcome
      (planar.afterAll planarHistory ⟨{}, []⟩) = .ok found ∧
    found.length = 3 ∧ ∀ document ∈ found, Lacks document.metadata ("hidden", .null) := by
  have hempty : planar.content ⟨{}, []⟩ = {} := rfl
  have h := represents_of_empty planar_embedsApart hempty planarHistory
  have hquery : (planar.embed planarRequest.query).outcome
      (planar.afterAll planarHistory ⟨{}, []⟩) = .ok [1.0, 0.0] := rfl
  have hsucceeds : ((planar.search planarRequest).outcome
      (planar.afterAll planarHistory ⟨{}, []⟩)).toOption.isSome = true := by decide +kernel
  have hlength : (MemoryStore.qualifying planar.callables planarRequest [1.0, 0.0]
      (Update.entries (planar.updates planarHistory ⟨{}, []⟩))).length = 3 := by
    decide +kernel
  have hlacking : (MemoryStore.qualifying planar.callables planarRequest [1.0, 0.0]
      (Update.entries (planar.updates planarHistory ⟨{}, []⟩))).all
        (fun scored ↦ (Dict.get? scored.1.metadata "hidden").isNone) = true := by
    decide +kernel
  refine ⟨_, search_eq_best planar_embedsApart h hquery hsucceeds, ?_, fun document hmem ↦ ?_⟩
  · unfold MemoryStore.best
    rw [List.length_map, List.length_take, List.length_mergeSort, hlength]
    rfl
  · obtain ⟨scored, hscored, rfl⟩ := MemoryStore.mem_best hmem
    exact ⟨Option.isNone_iff_eq_none.mp (List.all_eq_true.mp hlacking scored hscored), rfl⟩

/-- The search is for documents that satisfy a dictionary, and it finds some. -/
theorem search_requires_planar :
    planar.EmbedsApart ∧ planar.content ⟨{}, []⟩ = {} ∧
      planarRequest.filterExpression = .dict [("hidden", .null)] ∧
      ∃ found, (planar.search planarRequest).outcome
          (planar.afterAll planarHistory ⟨{}, []⟩) = .ok found ∧
        found.length = 3 ∧
        ∀ document ∈ found, ∃ stored,
          Dict.get? (planar.content (planar.afterAll planarHistory ⟨{}, []⟩)).documents
            document.id = some stored ∧
          document = { stored with score := document.score } ∧
          ∀ required ∈ [("hidden", Value.null)],
            Has stored.metadata required ∨ Lacks stored.metadata required := by
  obtain ⟨hfound, -, -⟩ := search_requires planar planar_embedsApart ⟨{}, []⟩ rfl planarHistory
    planarRequest [("hidden", .null)] rfl
  obtain ⟨found, houtcome, hlength, -⟩ := planar_search_found
  exact ⟨planar_embedsApart, rfl, rfl, found, houtcome, hlength, hfound found houtcome⟩

/-- Empty metadata satisfy a dictionary that requires a null, although its key is not there; and a
search finds documents with such metadata. -/
theorem search_finds_lacking :
    accepts [] (.dict [("hidden", .null)]) = .ok true ∧ ¬ Has [] ("hidden", .null) ∧
      ∃ found, (planar.search planarRequest).outcome
          (planar.afterAll planarHistory ⟨{}, []⟩) = .ok found ∧
        found ≠ [] ∧ ∀ document ∈ found, ¬ Has document.metadata ("hidden", .null) := by
  have hlacks : ∀ metadata : Context, Lacks metadata ("hidden", .null) →
      ¬ Has metadata ("hidden", .null) := by
    rintro metadata ⟨hnone, -⟩ ⟨value, hvalue, -⟩
    rw [hnone] at hvalue
    cases hvalue
  obtain ⟨found, houtcome, hlength, hlacking⟩ := planar_search_found
  refine ⟨rfl, hlacks [] ⟨rfl, rfl⟩, found, houtcome, ?_,
    fun document hmem ↦ hlacks _ (hlacking document hmem)⟩
  exact List.ne_nil_of_length_eq_add_one hlength

end EmbeddedStore

end Grounding
