import Mathlib.Data.List.Forall2
import Grounding.Advisor
import Grounding.Proofs.Action

/-!
# The links of a chain

What a chain still has to go through for one shape of advice is a list: the advice of its advisors
in the order in which they act, without what has been passed (`AdvisorChain.remaining`). The first
entry is what acts next (`next_of_remaining_cons`), its successor has the other entries before it
(`remaining_successor`), and when nothing remains the model answers (`next_of_remaining_nil`). Of a
new chain everything remains, sorted (`remaining_ofAdvisors`). A statement about a whole chain is
therefore an induction over this list; positions and the sorting of every successor need not be
looked at again.

`AdvisorChain.Simulates` compares chains over different worlds link by link, and `call_simulates`
is the first such induction: chains that simulate each other have calls that do.
-/

set_option autoImplicit false
set_option relaxedAutoImplicit false

namespace Grounding

open Grounding.Action

variable {σ τ Result : Type}

namespace AdvisorChain

/-! ### What remains of a chain -/

/-- The advice of one shape that a chain has not passed yet, in the order in which it is given. -/
def remaining (shape : Advisor σ → Option (Advice Result)) (chain : AdvisorChain σ) :
    List (Advice Result) :=
  (chain.advisors.filterMap shape).drop chain.position

variable {shape : Advisor σ → Option (Advice Result)}
  {answer : ChatModel σ → AdvisedRequest → Result} {chain : AdvisorChain σ}

/-- Assumes: nothing remains of a chain. The model answers. -/
theorem next_of_remaining_nil (h : chain.remaining shape = []) (request : AdvisedRequest) :
    chain.next shape answer request = answer chain.model request := by
  have hlength : (chain.advisors.filterMap shape).length ≤ chain.position :=
    List.drop_eq_nil_iff.mp h
  rw [next, dif_neg (Nat.not_lt.mpr hlength)]

variable {advice : Advice Result} {rest : List (Advice Result)}

/-- Assumes: some advice remains of a chain. It is given, with the successor behind it. -/
theorem next_of_remaining_cons (h : chain.remaining shape = advice :: rest)
    (request : AdvisedRequest) :
    chain.next shape answer request =
      advice request ⟨chain.successor.literal, chain.successor.next shape answer⟩ := by
  have hposition : chain.position < (chain.advisors.filterMap shape).length := by
    by_contra hle
    have hnil : chain.remaining shape = [] := List.drop_eq_nil_iff.mpr (Nat.not_lt.mp hle)
    exact List.cons_ne_nil advice rest (h.symm.trans hnil)
  have hsplit := List.drop_eq_getElem_cons hposition
  obtain ⟨hadvice, -⟩ := List.cons.inj (h.symm.trans hsplit)
  rw [next, dif_pos hposition, ← hadvice]

/-- Assumes: some advice remains of a chain. Everything behind it remains of the successor. -/
theorem remaining_successor (h : chain.remaining shape = advice :: rest) :
    chain.successor.remaining shape = rest := by
  unfold remaining at h ⊢
  rw [successor_advisors, successor_position, ← List.drop_drop, h]
  rfl

/-- Assumes: things with an order that a chain sees as advisors of this order, with advice of one
shape. What remains of a new chain is the advice of all of them, in the order in which they act. -/
theorem remaining_ofAdvisors {ι : Type} {order : ι → Int} {view : ι → Advisor σ}
    {given : ι → Advice Result} (horder : ∀ item, (view item).order = order item)
    (hshape : ∀ item, shape (view item) = some (given item)) (model : ChatModel σ)
    (items : List ι) :
    (ofAdvisors model (items.map view)).remaining shape =
      (items.mergeSort fun a b ↦ decide (order a ≤ order b)).map given := by
  have hsorted : Advisor.inOrder (items.map view) =
      (items.mergeSort fun a b ↦ decide (order a ≤ order b)).map view := by
    refine (List.map_mergeSort fun a _ b _ ↦ ?_).symm
    rw [Advisor.mayPrecede, horder, horder]
  have hadvice : shape ∘ view = some ∘ given := funext hshape
  show (Advisor.inOrder (items.map view)).filterMap shape = _
  rw [hsorted, List.filterMap_map, hadvice, List.filterMap_eq_map]

end AdvisorChain

/-! ### Simulation -/

/-- Advice on requests that simulates each other if what lies behind it does, is written in the same
way and is asked for the same. -/
def Advice.Simulates (related : Scene σ → Scene τ → Prop)
    (first : Advice (Action σ AdvisedResponse)) (second : Advice (Action τ AdvisedResponse)) :
    Prop :=
  ∀ request (behind : Successor (Action σ AdvisedResponse))
    (other : Successor (Action τ AdvisedResponse)),
    behind.literal = other.literal →
    (∀ advised, Action.Simulates related (behind.next advised) (other.next advised)) →
    Action.Simulates related (first request behind) (second request other)

/-- Advisors of one name that support calls both or neither, with advice that simulates each
other. -/
structure Advisor.Simulates (related : Scene σ → Scene τ → Prop) (first : Advisor σ)
    (second : Advisor τ) : Prop where
  name_eq : first.name = second.name
  call : Option.Rel (Advice.Simulates related) first.call second.call

theorem Advisor.Simulates.isSome_eq {related : Scene σ → Scene τ → Prop} {first : Advisor σ}
    {second : Advisor τ} (h : first.Simulates related second) :
    first.call.isSome = second.call.isSome := by
  have hcall := h.call
  generalize first.call = left at hcall
  generalize second.call = right at hcall
  cases hcall <;> rfl

/-- Chains that simulate each other link by link. -/
structure AdvisorChain.Simulates (related : Scene σ → Scene τ → Prop) (first : AdvisorChain σ)
    (second : AdvisorChain τ) : Prop where
  model : ∀ prompt, Action.Simulates related (first.model.call prompt) (second.model.call prompt)
  advisors : List.Forall₂ (Advisor.Simulates related) first.advisors second.advisors
  position_eq : first.position = second.position

namespace AdvisorChain

variable {related : Scene σ → Scene τ → Prop} {first : AdvisorChain σ} {second : AdvisorChain τ}

theorem callNames_eq_of_simulates (h : first.Simulates related second) :
    first.callNames = second.callNames := by
  have hnames : ∀ {left : List (Advisor σ)} {right : List (Advisor τ)},
      List.Forall₂ (Advisor.Simulates related) left right →
      (left.filter (·.call.isSome)).map Advisor.name =
        (right.filter (·.call.isSome)).map Advisor.name := by
    intro left right hadvisors
    induction hadvisors with
    | nil => rfl
    | cons hhead _ ih =>
      rw [List.filter_cons, List.filter_cons, hhead.isSome_eq]
      split
      · rw [List.map_cons, List.map_cons, hhead.name_eq, ih]
      · exact ih
  exact hnames h.advisors

theorem literal_eq_of_simulates (h : first.Simulates related second) :
    first.literal = second.literal := by
  unfold literal
  rw [callNames_eq_of_simulates h, h.position_eq]

theorem successor_simulates (h : first.Simulates related second) :
    first.successor.Simulates related second.successor where
  model := h.model
  advisors := by
    rw [successor_advisors, successor_advisors]
    exact h.advisors
  position_eq := congrArg (· + 1) h.position_eq

theorem remaining_simulates (h : first.Simulates related second) :
    List.Forall₂ (Advice.Simulates related) (first.remaining Advisor.call)
      (second.remaining Advisor.call) := by
  unfold remaining
  rw [h.position_eq]
  refine List.forall₂_drop _ (List.rel_filterMap (fun a b hab ↦ ?_) h.advisors)
  exact hab.call

theorem answer_simulates (h : first.Simulates related second) (request : AdvisedRequest) :
    Action.Simulates related (first.model.answer request) (second.model.answer request) :=
  simulates_bind (h.model request.prompt) fun response ↦
    simulates_pure (AdvisedResponse.ofRequest request (some response))

/-- Calls of chains that simulate each other simulate each other. -/
theorem call_simulates (h : first.Simulates related second) (request : AdvisedRequest) :
    Action.Simulates related (first.call request) (second.call request) := by
  have hremaining := remaining_simulates h
  generalize hleft : first.remaining Advisor.call = left at hremaining
  generalize hright : second.remaining Advisor.call = right at hremaining
  unfold call
  induction hremaining generalizing first second request with
  | nil =>
    rw [next_of_remaining_nil hleft, next_of_remaining_nil hright]
    exact answer_simulates h request
  | cons hadvice _ ih =>
    rw [next_of_remaining_cons hleft, next_of_remaining_cons hright]
    refine hadvice request _ _ (literal_eq_of_simulates (successor_simulates h)) fun advised ↦ ?_
    exact ih (successor_simulates h) advised (remaining_successor hleft)
      (remaining_successor hright)

end AdvisorChain

end Grounding
