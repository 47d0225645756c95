import Grounding.Proofs.Record

/-!
# Calls that follow a plan

An `Exchange` is an entry for one call, with the answer or the failure that it got. A plan is a list
of answered exchanges. `Interrupts` says that a record follows a plan up to a call that stops the
rest, which is the last one of the record. `relayed` is the plan of calls in a row of which each is
handed the answer of the one before.

`Follows` is the judgement about actions that record their calls: with a result they have recorded a
plan for that result, and with a failure they have interrupted some plan. `follows_bind` joins the
plans of a sequence, `follows_bind_silent` passes over what calls nothing, and `follows_checked` is
for one call whose answer is checked. `exists_plan` is what the judgement says about a single run.
-/

set_option autoImplicit false
set_option relaxedAutoImplicit false

namespace Grounding

open Grounding.Action
open Grounding.Stream (sceneAfter)

variable {σ α β κ ρ ι : Type}

/-! ### Exchanges -/

/-- A call, with the answer or the failure that it got. -/
structure Exchange (κ ρ : Type) where
  call : κ
  outcome : Except Failure ρ

namespace Exchange

/-- The exchange for a call that ended with an outcome. -/
def entry (call : κ) (answer : α → ρ) (outcome : Except Failure α) : Exchange κ ρ :=
  ⟨call, outcome.map answer⟩

/-- The exchange for a call that was answered. -/
def answered (call : κ) (answer : ρ) : Exchange κ ρ :=
  ⟨call, .ok answer⟩

end Exchange

/-- An action that records the call that it stands for. -/
def Action.exchanging (call : κ) (answer : α → ρ) (action : Action σ α) :
    Action (Recorded σ (Exchange κ ρ)) α :=
  action.logging fun outcome _ ↦ [.entry call answer outcome]

/-- A record follows a plan up to its last exchange, which has the planned call and stops the
rest. -/
def Interrupts (stops : Exchange κ ρ → Prop) (plan record : List (Exchange κ ρ)) : Prop :=
  ∃ done planned last rest,
    plan = done ++ planned :: rest ∧ record = done ++ [last] ∧ last.call = planned.call ∧ stops last

namespace Interrupts

variable {stops : Exchange κ ρ → Prop} {plan record : List (Exchange κ ρ)}

theorem head {last : Exchange κ ρ} (hstops : stops last) (answer : ρ)
    (rest : List (Exchange κ ρ)) : Interrupts stops (.answered last.call answer :: rest) [last] :=
  ⟨[], _, last, rest, rfl, rfl, rfl, hstops⟩

theorem append_left (h : Interrupts stops plan record) (before : List (Exchange κ ρ)) :
    Interrupts stops (before ++ plan) (before ++ record) := by
  obtain ⟨done, planned, last, rest, rfl, rfl, hcall, hstops⟩ := h
  exact ⟨before ++ done, planned, last, rest, by simp, by simp, hcall, hstops⟩

theorem append_right (h : Interrupts stops plan record) (behind : List (Exchange κ ρ)) :
    Interrupts stops (plan ++ behind) record := by
  obtain ⟨done, planned, last, rest, rfl, rfl, hcall, hstops⟩ := h
  exact ⟨done, planned, last, rest ++ behind, by simp, rfl, hcall, hstops⟩

/-- The calls of an interrupted record are the first calls of the plan. -/
theorem calls_prefix (h : Interrupts stops plan record) :
    record.map Exchange.call <+: plan.map Exchange.call := by
  obtain ⟨done, planned, last, rest, rfl, rfl, hcall, -⟩ := h
  exact ⟨rest.map Exchange.call, by simp [hcall]⟩

/-- Assumes: exchanges that are stopped by less. -/
theorem mono {fewer : Exchange κ ρ → Prop} (h : Interrupts fewer plan record)
    (hstops : ∀ exchange, fewer exchange → stops exchange) : Interrupts stops plan record := by
  obtain ⟨done, planned, last, rest, hplan, hrecord, hcall, hlast⟩ := h
  exact ⟨done, planned, last, rest, hplan, hrecord, hcall, hstops last hlast⟩

/-- A record is interrupted by its last exchange, whatever it is that stops the rest. -/
theorem exists_last {others : Exchange κ ρ → Prop} {other : List (Exchange κ ρ)}
    (h : Interrupts stops plan record) (hother : Interrupts others other record) :
    ∃ last, stops last ∧ others last := by
  obtain ⟨done, _, last, _, -, hrecord, -, hstops⟩ := h
  obtain ⟨before, _, final, _, -, hsame, -, hothers⟩ := hother
  obtain ⟨-, heq⟩ := List.append_inj' (hrecord.symm.trans hsame) rfl
  obtain rfl := List.singleton_inj.mp heq
  exact ⟨last, hstops, hothers⟩

/-- Assumes: a plan of which no exchange stops a run. The plan as a whole is not an interrupted
record of itself. -/
theorem ne_plan (h : Interrupts stops plan record) (hplan : ∀ exchange ∈ plan, ¬ stops exchange) :
    record ≠ plan := by
  obtain ⟨done, planned, last, rest, rfl, rfl, -, hstops⟩ := h
  intro heq
  have hmem : last ∈ done ++ planned :: rest := heq ▸ by simp
  exact hplan last hmem hstops

/-- Assumes: a plan of which no exchange stops a run. No exchange comes after one that does. -/
theorem eq_nil_of_stops (h : Interrupts stops plan record)
    (hplan : ∀ exchange ∈ plan, ¬ stops exchange) {before after : List (Exchange κ ρ)}
    {exchange : Exchange κ ρ} (hrecord : record = before ++ exchange :: after)
    (hstops : stops exchange) : after = [] := by
  obtain ⟨done, planned, last, rest, rfl, rfl, -, -⟩ := h
  rcases List.eq_nil_or_concat after with hnil | ⟨middle, final, rfl⟩
  · exact hnil
  · have hsplit : done ++ [last] = (before ++ exchange :: middle) ++ [final] := by
      simpa using hrecord
    have hdone : done = before ++ exchange :: middle := (List.append_inj' hsplit rfl).1
    have hmem : exchange ∈ done ++ planned :: rest := by simp [hdone]
    exact absurd hstops (hplan exchange hmem)

end Interrupts

/-- Answered calls in a row, each of which is handed the answer of the one before. -/
def relayed (call : ι → α → κ) (answer : α → ρ) : List ι → α → List α → List (Exchange κ ρ)
  | index :: indices, input, output :: outputs =>
    .answered (call index input) (answer output) :: relayed call answer indices output outputs
  | _, _, _ => []

/-- Every call in a row has been answered. -/
theorem outcome_of_mem_relayed {call : ι → α → κ} {answer : α → ρ} {indices : List ι} {input : α}
    {outputs : List α} {exchange : Exchange κ ρ}
    (h : exchange ∈ relayed call answer indices input outputs) :
    ∃ output, exchange.outcome = .ok (answer output) := by
  induction indices generalizing input outputs with
  | nil => cases h
  | cons index indices ih =>
    cases outputs with
    | nil => cases h
    | cons output outputs =>
      rcases List.mem_cons.mp h with rfl | hrest
      · exact ⟨output, rfl⟩
      · exact ih hrest

/-- Every call in a row is one of those that are made. -/
theorem call_of_mem_relayed {call : ι → α → κ} {answer : α → ρ} {indices : List ι} {input : α}
    {outputs : List α} {exchange : Exchange κ ρ}
    (h : exchange ∈ relayed call answer indices input outputs) :
    ∃ index handed, exchange.call = call index handed := by
  induction indices generalizing input outputs with
  | nil => cases h
  | cons index indices ih =>
    cases outputs with
    | nil => cases h
    | cons output outputs =>
      rcases List.mem_cons.mp h with rfl | hrest
      · exact ⟨index, input, rfl⟩
      · exact ih hrest

/-- Assumes: as many answers as calls. One more call in a row is handed the last answer. -/
theorem relayed_concat (call : ι → α → κ) (answer : α → ρ) (indices : List ι) (index : ι)
    (input : α) (outputs : List α) (output : α) (hlength : outputs.length = indices.length) :
    relayed call answer (indices ++ [index]) input (outputs ++ [output]) =
      relayed call answer indices input outputs ++
        [.answered (call index (outputs.getLastD input)) (answer output)] := by
  induction indices generalizing input outputs with
  | nil =>
    obtain rfl := List.length_eq_zero_iff.mp hlength
    rfl
  | cons first indices ih =>
    cases outputs with
    | nil => cases hlength
    | cons head outputs =>
      have hrest := ih head outputs (Nat.succ.inj hlength)
      rw [List.getLastD_cons, List.cons_append, List.cons_append, relayed, hrest]
      rfl

/-! ### Following a plan -/

/-- An action that records a plan for its result, or interrupts a plan if it fails. There is a plan
in any case. -/
structure Follows (stops : Failure → Exchange κ ρ → Prop) (plans : α → List (Exchange κ ρ) → Prop)
    (action : Action (Recorded σ (Exchange κ ρ)) α) : Prop where
  feasible : ∃ value plan, plans value plan
  records : Records action fun result record ↦
    match result with
    | .ok value => plans value record
    | .error failure => ∃ value plan, plans value plan ∧ Interrupts (stops failure) plan record

variable {stops : Failure → Exchange κ ρ → Prop} {plans : α → List (Exchange κ ρ) → Prop}

theorem follows_pure {value : α} (h : plans value []) :
    Follows stops plans (pure value : Action (Recorded σ (Exchange κ ρ)) α) where
  feasible := ⟨value, [], h⟩
  records := records_pure h

/-- A result that no call is needed for. -/
theorem follows_return (value : α) :
    Follows stops (fun result plan ↦ result = value ∧ plan = [])
      (pure value : Action (Recorded σ (Exchange κ ρ)) α) :=
  follows_pure ⟨rfl, rfl⟩

/-- Assumes: a wider choice of plans for every result. -/
theorem follows_mono {action : Action (Recorded σ (Exchange κ ρ)) α}
    {wider : α → List (Exchange κ ρ) → Prop} (h : Follows stops plans action)
    (hwider : ∀ value plan, plans value plan → wider value plan) :
    Follows stops wider action where
  feasible := by
    obtain ⟨value, plan, hplan⟩ := h.feasible
    exact ⟨value, plan, hwider value plan hplan⟩
  records := by
    refine records_mono h.records fun result record hrecord ↦ ?_
    cases result with
    | ok value => exact hwider value record hrecord
    | error failure =>
      obtain ⟨value, plan, hplan, hinterrupts⟩ := hrecord
      exact ⟨value, plan, hwider value plan hplan, hinterrupts⟩

/-- Assumes: a wider choice of exchanges that stop the rest. -/
theorem follows_weaken {action : Action (Recorded σ (Exchange κ ρ)) α}
    {weaker : Failure → Exchange κ ρ → Prop} (h : Follows stops plans action)
    (hweaker : ∀ failure exchange, stops failure exchange → weaker failure exchange) :
    Follows weaker plans action where
  feasible := h.feasible
  records := by
    refine records_mono h.records fun result record hrecord ↦ ?_
    cases result with
    | ok value => exact hrecord
    | error failure =>
      obtain ⟨value, plan, hplan, hinterrupts⟩ := hrecord
      exact ⟨value, plan, hplan, hinterrupts.mono (hweaker failure)⟩

/-- Assumes: a first part that follows a plan, and for every result of it a second part that does.
The sequence follows one plan after the other. -/
theorem follows_bind {action : Action (Recorded σ (Exchange κ ρ)) α}
    {next : α → Action (Recorded σ (Exchange κ ρ)) β}
    {behind : α → β → List (Exchange κ ρ) → Prop} (haction : Follows stops plans action)
    (hnext : ∀ value, Follows stops (behind value) (next value)) :
    Follows stops (fun final plan ↦ ∃ value first second,
      plans value first ∧ behind value final second ∧ plan = first ++ second)
      (action >>= next) where
  feasible := by
    obtain ⟨value, first, hfirst⟩ := haction.feasible
    obtain ⟨final, second, hsecond⟩ := (hnext value).feasible
    exact ⟨final, first ++ second, value, first, second, hfirst, hsecond, rfl⟩
  records := by
    refine records_bind (records_mono haction.records fun result record hrecord ↦ ?_)
    cases result with
    | error failure =>
      obtain ⟨value, first, hfirst, hinterrupts⟩ := hrecord
      obtain ⟨final, second, hsecond⟩ := (hnext value).feasible
      exact ⟨final, first ++ second, ⟨value, first, second, hfirst, hsecond, rfl⟩,
        hinterrupts.append_right second⟩
    | ok value =>
      refine records_mono (hnext value).records fun final more hmore ↦ ?_
      cases final with
      | ok final => exact ⟨value, record, more, hrecord, hmore, rfl⟩
      | error failure =>
        obtain ⟨final, second, hsecond, hinterrupts⟩ := hmore
        exact ⟨final, record ++ second, ⟨value, record, second, hrecord, hsecond, rfl⟩,
          hinterrupts.append_left record⟩

/-- Assumes: a first part that never fails and records nothing. The sequence follows the plan of the
second part. -/
theorem follows_bind_silent {action : Action (Recorded σ (Exchange κ ρ)) Unit}
    {next : Unit → Action (Recorded σ (Exchange κ ρ)) α}
    (haction : Records action fun result record ↦ result = .ok () ∧ record = [])
    (hnext : Follows stops plans (next ())) :
    Follows stops plans (action >>= next) where
  feasible := hnext.feasible
  records := by
    refine records_bind (records_mono haction ?_)
    rintro _ _ ⟨rfl, rfl⟩
    exact hnext.records

/-- Assumes: plans that hold nothing that can stop the rest. A run that starts with an empty record
makes the first calls of some plan. It has a result exactly if it makes all of them, and then the
planned one; it fails exactly if it does not, and then it interrupts the plan. Nothing is called
after a call that can stop the rest. -/
theorem exists_plan {action : Action (Recorded σ (Exchange κ ρ)) α}
    (h : Follows stops plans action) {stopping : Exchange κ ρ → Prop}
    (hstopping : ∀ failure exchange, stops failure exchange → stopping exchange)
    (hplans : ∀ value plan, plans value plan → ∀ exchange ∈ plan, ¬ stopping exchange)
    {scene : Scene (Recorded σ (Exchange κ ρ))} (hscene : scene.record = [])
    {record : List (Exchange κ ρ)} (hrecord : (sceneAfter action scene).record = record) :
    ∃ value plan, plans value plan ∧
      record.map Exchange.call <+: plan.map Exchange.call ∧
      (∀ result, action.outcome scene = .ok result ↔ record = plan ∧ result = value) ∧
      (∀ failure, action.outcome scene = .error failure → Interrupts (stops failure) plan record) ∧
      (record ≠ plan → ∃ failure, action.outcome scene = .error failure) ∧
      ∀ before exchange after, record = before ++ exchange :: after → stopping exchange →
        after = [] := by
  obtain ⟨appended, happended, hfollows⟩ := h.records scene
  rw [hscene, List.nil_append, hrecord] at happended
  subst happended
  cases houtcome : action.outcome scene with
  | ok value =>
    rw [houtcome] at hfollows
    refine ⟨value, record, hfollows, List.prefix_rfl, ?_, ?_, ?_, ?_⟩
    · intro result
      constructor
      · rintro ⟨⟩
        exact ⟨rfl, rfl⟩
      · rintro ⟨-, rfl⟩
        rfl
    · rintro failure ⟨⟩
    · intro hincomplete
      exact absurd rfl hincomplete
    · intro before exchange after hsplit hstops
      have hmem : exchange ∈ record := by simp [hsplit]
      exact absurd hstops (hplans value record hfollows exchange hmem)
  | error failure =>
    rw [houtcome] at hfollows
    obtain ⟨value, plan, hplan, hinterrupts⟩ := hfollows
    have hstopped : Interrupts stopping plan record := hinterrupts.mono (hstopping failure)
    refine ⟨value, plan, hplan, hinterrupts.calls_prefix, ?_, ?_, ?_, ?_⟩
    · intro result
      constructor
      · rintro ⟨⟩
      · rintro ⟨hcomplete, -⟩
        exact absurd hcomplete (hstopped.ne_plan (hplans value plan hplan))
    · rintro _ ⟨⟩
      exact hinterrupts
    · intro _
      exact ⟨failure, rfl⟩
    · intro before exchange after hsplit hstops
      exact hstopped.eq_nil_of_stops (hplans value plan hplan) hsplit hstops

/-! ### One call -/

/-- An action that records one call, whose answer is its result. If the call fails, the action fails
with what is made of that failure. -/
def Asks (call : κ) (answer : α → ρ) (wrap : Failure → Failure)
    (action : Action (Recorded σ (Exchange κ ρ)) α) : Prop :=
  Records action fun result record ↦
    match result with
    | .ok value => record = [.answered call (answer value)]
    | .error failure => ∃ cause, failure = wrap cause ∧ record = [⟨call, .error cause⟩]

theorem asks_exchanging (call : κ) (answer : α → ρ) (action : Action σ α) :
    Asks call answer id (action.exchanging call answer) := by
  refine records_logging fun scene ↦ ?_
  cases action.outcome scene with
  | ok value => rfl
  | error failure => exact ⟨failure, rfl, rfl⟩

theorem asks_protect {call : κ} {answer : α → ρ} {action : Action (Recorded σ (Exchange κ ρ)) α}
    (h : Asks call answer id action) (wrap : Failure → Failure) :
    Asks call answer (shielded wrap) (protect wrap action) := by
  refine records_protect (records_mono h fun result record hrecord ↦ ?_)
  cases result with
  | ok value => exact hrecord
  | error failure =>
    obtain ⟨cause, hcause, hcall⟩ := hrecord
    exact ⟨cause, congrArg (shielded wrap) hcause, hcall⟩

/-- Assumes: a call that stops the rest if it fails. Nothing but this call is planned. -/
theorem follows_exchanging [Nonempty α] (call : κ) (answer : α → ρ) (action : Action σ α)
    (hfailed : ∀ failure, stops failure ⟨call, .error failure⟩) :
    Follows stops (fun value plan ↦ plan = [.answered call (answer value)])
      (action.exchanging call answer) where
  feasible := by
    obtain ⟨value⟩ := ‹Nonempty α›
    exact ⟨value, _, rfl⟩
  records := by
    obtain ⟨planned⟩ := ‹Nonempty α›
    refine records_logging fun scene ↦ ?_
    cases action.outcome scene with
    | ok value => rfl
    | error failure => exact ⟨planned, _, rfl, .head (hfailed failure) (answer planned) []⟩

/-- Assumes: a call that stops the rest if it fails, some answer that is planned for, and a check of
answers that records nothing and that only fails on an answer that stops the rest. -/
theorem follows_checked {call : κ} {answer : α → ρ} {wrap : Failure → Failure}
    {plans : β → List (Exchange κ ρ) → Prop} {action : Action (Recorded σ (Exchange κ ρ)) α}
    {check : α → Action (Recorded σ (Exchange κ ρ)) β} (haction : Asks call answer wrap action)
    (hfailed : ∀ cause, stops (wrap cause) ⟨call, .error cause⟩)
    (hfeasible : ∃ value response, plans value [.answered call response])
    (hcheck : ∀ value, Records (check value) fun result record ↦ record = [] ∧
      match result with
      | .ok final => plans final [.answered call (answer value)]
      | .error failure => stops failure (.answered call (answer value))) :
    Follows stops plans (action >>= check) where
  feasible := by
    obtain ⟨value, response, hplan⟩ := hfeasible
    exact ⟨value, _, hplan⟩
  records := by
    obtain ⟨planned, response, hplan⟩ := hfeasible
    refine records_bind (records_mono haction fun result record hrecord ↦ ?_)
    cases result with
    | error failure =>
      obtain ⟨cause, rfl, rfl⟩ := hrecord
      exact ⟨planned, _, hplan, .head (hfailed cause) response []⟩
    | ok value =>
      subst hrecord
      refine records_mono (hcheck value) fun checked more hmore ↦ ?_
      obtain ⟨rfl, hmore⟩ := hmore
      cases checked with
      | ok final => exact hmore
      | error failure => exact ⟨planned, _, hplan, .head hmore response []⟩

end Grounding
