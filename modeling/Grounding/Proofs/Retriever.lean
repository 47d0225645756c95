import Grounding.Proofs.Action
import Grounding.Retriever

/-!
# Retrievers over different worlds

The filter expression of a call, the search request of a query and the documents that a store has
for it depend on the world only through parser, default filter and store. Retrievers with the same
parameters whose parts simulate each other (`StoreRetriever.Simulates`) therefore answer queries
alike (`Simulates.documents`, `Simulates.retrieve`).
-/

set_option autoImplicit false
set_option relaxedAutoImplicit false

namespace Grounding

open Grounding.Action

variable {σ τ : Type} {related : Scene σ → Scene τ → Prop}

/-- Assumes: a filter expression that is neither null nor a blank text. It is used. -/
theorem Filter.override?_eq_some {context : Context} {override : Value}
    (hcontext : Dict.get? context Filter.contextKey = some override) (hnull : override ≠ .null)
    (hblank : ∀ content, override = .text content → Text.isBlank content = false) :
    Filter.override? context = some override := by
  unfold Filter.override?
  rw [hcontext]
  cases override with
  | null => exact absurd rfl hnull
  | text content =>
    simp only [hblank content rfl]
    rfl
  | _ => rfl

/-- Assumes: a filter expression that is used. What it comes to does not depend on the default. -/
theorem Filter.resolve_eq_of_override {context : Context} {override : Value}
    (hoverride : Filter.override? context = some override) (first second : Value)
    (parser : Option (FilterParser σ)) :
    Filter.resolve context first parser = Filter.resolve context second parser := by
  unfold Filter.resolve
  rw [hoverride]
  cases override <;> cases parser <;> rfl

/-- Parsers that simulate each other. -/
def FilterParser.Simulates (related : Scene σ → Scene τ → Prop) (first : FilterParser σ)
    (second : FilterParser τ) : Prop :=
  ∀ text, Action.Simulates related (first text) (second text)

/-- Assumes: parsers that simulate each other, if there are any. They resolve a filter expression
alike. -/
theorem Filter.resolve_simulates {first : Option (FilterParser σ)}
    {second : Option (FilterParser τ)}
    (h : Option.Rel (FilterParser.Simulates related) first second) (context : Context)
    (expression : Value) :
    Action.Simulates related (Filter.resolve context expression first)
      (Filter.resolve context expression second) := by
  unfold Filter.resolve
  cases Filter.override? context with
  | none => exact simulates_pure _
  | some override =>
    cases h with
    | none => cases override <;> exact simulates_pure _
    | some hparse =>
      cases override with
      | text content => exact hparse content
      | _ => exact simulates_pure _

namespace StoreRetriever

/-- Retrievers with the same parameters whose parts simulate each other. -/
structure Simulates (related : Scene σ → Scene τ → Prop) (first : StoreRetriever σ)
    (second : StoreRetriever τ) : Prop where
  base_eq : first.base = second.base
  defaultFilter : Action.Simulates related first.defaultFilter.get second.defaultFilter.get
  parser : Option.Rel (FilterParser.Simulates related) first.parser second.parser
  store : ∀ request, Action.Simulates related (first.store request) (second.store request)

variable {first : StoreRetriever σ} {second : StoreRetriever τ}

theorem Simulates.buildRequest (h : first.Simulates related second) (query : Query) :
    Action.Simulates related (first.buildRequest query) (second.buildRequest query) := by
  unfold StoreRetriever.buildRequest
  rw [h.base_eq]
  refine simulates_bind h.defaultFilter fun expression ↦ ?_
  refine simulates_bind (Filter.resolve_simulates h.parser query.context expression) fun _ ↦ ?_
  exact simulates_pure _

/-- The documents for a query come from the request for it and the store. -/
theorem Simulates.documents (h : first.Simulates related second) (query : Query) :
    Action.Simulates related (first.retrieve query) (second.retrieve query) := by
  refine simulates_bind (h.buildRequest query) fun request ↦ ?_
  refine simulates_bind (simulates_protect _ (h.store request)) fun answer ↦ ?_
  cases answer with
  | none => exact simulates_throw _
  | some documents => exact simulates_pure documents

theorem Simulates.retrieve (h : first.Simulates related second) (query : Query) :
    Action.Simulates related (first.toRetriever.retrieve query)
      (second.toRetriever.retrieve query) :=
  simulates_bind (h.documents query) fun documents ↦ simulates_pure (some documents)

end StoreRetriever

end Grounding
