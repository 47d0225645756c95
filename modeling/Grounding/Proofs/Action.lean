import Grounding.Stream

/-!
# Outcomes of actions and simulation between worlds

An action ends with an outcome, a result or a failure, and leaves a scene behind. `Action.outcome`
and `Stream.sceneAfter` are these two, and `outcome_bind`, `sceneAfter_bind` and the lemmas beside
them say what they are for every way of putting actions together, so that no later proof opens the
monad.

`Action.Simulates` compares actions of two worlds: from related scenes they have the same outcome
and leave related scenes. `simulates_bind` and the rules after it carry a simulation through
sequences, attempts and protected calls. A warning simulates itself if related scenes stay related
under it.
-/

set_option autoImplicit false
set_option relaxedAutoImplicit false

namespace Grounding.Action

open Grounding.Stream (sceneAfter)

variable {σ τ α β : Type}

/-! ### Outcome and scene -/

/-- Checks in a row accept exactly if the first one does and the second one does with its result. -/
theorem bind_eq_ok_iff {result : Except Failure α} {next : α → Except Failure β} {final : β} :
    (result >>= next) = .ok final ↔ ∃ value, result = .ok value ∧ next value = .ok final := by
  cases result with
  | ok value =>
    constructor
    · intro h
      exact ⟨value, rfl, h⟩
    · rintro ⟨_, ⟨⟩, h⟩
      exact h
  | error failure =>
    constructor
    · rintro ⟨⟩
    · rintro ⟨_, ⟨⟩, -⟩

/-- Checks in a row refuse exactly if the first one does, or if the second one does with its
result. -/
theorem bind_eq_error_iff {result : Except Failure α} {next : α → Except Failure β}
    {failure : Failure} :
    (result >>= next) = .error failure ↔
      result = .error failure ∨ ∃ value, result = .ok value ∧ next value = .error failure := by
  cases result with
  | ok value =>
    constructor
    · intro h
      exact Or.inr ⟨value, rfl, h⟩
    · rintro (⟨⟨⟩⟩ | ⟨_, ⟨⟩, h⟩)
      exact h
  | error cause =>
    constructor
    · rintro ⟨⟩
      exact Or.inl rfl
    · rintro (⟨⟨⟩⟩ | ⟨_, ⟨⟩, -⟩)
      rfl

/-- How an action ends. -/
def outcome (action : Action σ α) (scene : Scene σ) : Except Failure α :=
  match action scene with
  | .ok value _ => .ok value
  | .error failure _ => .error failure

@[simp] theorem outcome_pure (value : α) (scene : Scene σ) :
    outcome (pure value) scene = .ok value := rfl

@[simp] theorem sceneAfter_pure (value : α) (scene : Scene σ) :
    sceneAfter (pure value : Action σ α) scene = scene := rfl

@[simp] theorem outcome_throw (failure : Failure) (scene : Scene σ) :
    outcome (throw failure : Action σ α) scene = .error failure := rfl

/-- The outcome of a sequence is that of its second part, unless the first part fails. -/
theorem outcome_bind (action : Action σ α) (next : α → Action σ β) (scene : Scene σ) :
    outcome (action >>= next) scene =
      match action.outcome scene with
      | .ok value => (next value).outcome (sceneAfter action scene)
      | .error failure => .error failure := by
  unfold outcome sceneAfter
  simp only [bind, EStateM.bind]
  cases action scene <;> rfl

/-- A sequence leaves the scene of its second part, unless the first part fails. -/
theorem sceneAfter_bind (action : Action σ α) (next : α → Action σ β) (scene : Scene σ) :
    sceneAfter (action >>= next) scene =
      match action.outcome scene with
      | .ok value => sceneAfter (next value) (sceneAfter action scene)
      | .error _ => sceneAfter action scene := by
  unfold outcome sceneAfter
  simp only [bind, EStateM.bind]
  cases action scene <;> rfl

/-- A sequence has a result exactly if its first part has one from which the second part has it. -/
theorem outcome_bind_eq_ok_iff {action : Action σ α} {next : α → Action σ β} {scene : Scene σ}
    {final : β} :
    outcome (action >>= next) scene = .ok final ↔
      ∃ value, action.outcome scene = .ok value ∧
        (next value).outcome (sceneAfter action scene) = .ok final := by
  rw [outcome_bind, ← bind_eq_ok_iff]
  cases action.outcome scene <;> rfl

/-- A sequence fails exactly if its first part does, or if it has a result from which the second
part fails. -/
theorem outcome_bind_eq_error_iff {action : Action σ α} {next : α → Action σ β} {scene : Scene σ}
    {failure : Failure} :
    outcome (action >>= next) scene = .error failure ↔
      action.outcome scene = .error failure ∨ ∃ value, action.outcome scene = .ok value ∧
        (next value).outcome (sceneAfter action scene) = .error failure := by
  rw [outcome_bind, ← bind_eq_error_iff]
  cases action.outcome scene <;> rfl

/-- Assumes: a first part that succeeds. The sequence ends as its second part does. -/
theorem outcome_bind_ok {action : Action σ α} {scene : Scene σ} {value : α}
    (h : action.outcome scene = .ok value) (next : α → Action σ β) :
    outcome (action >>= next) scene = (next value).outcome (sceneAfter action scene) := by
  rw [outcome_bind, h]

/-- Assumes: a first part that fails. The sequence fails in the same way. -/
theorem outcome_bind_error {action : Action σ α} {scene : Scene σ} {failure : Failure}
    (h : action.outcome scene = .error failure) (next : α → Action σ β) :
    outcome (action >>= next) scene = .error failure := by
  rw [outcome_bind, h]

/-- Assumes: a first part that succeeds. The sequence leaves the scene of its second part. -/
theorem sceneAfter_bind_ok {action : Action σ α} {scene : Scene σ} {value : α}
    (h : action.outcome scene = .ok value) (next : α → Action σ β) :
    sceneAfter (action >>= next) scene = sceneAfter (next value) (sceneAfter action scene) := by
  rw [sceneAfter_bind, h]

/-- Assumes: a first part that fails. The sequence leaves the scene of that part. -/
theorem sceneAfter_bind_error {action : Action σ α} {scene : Scene σ} {failure : Failure}
    (h : action.outcome scene = .error failure) (next : α → Action σ β) :
    sceneAfter (action >>= next) scene = sceneAfter action scene := by
  rw [sceneAfter_bind, h]

/-- A result that is changed afterwards leaves the scene as it is. -/
theorem sceneAfter_bind_pure (action : Action σ α) (change : α → β) (scene : Scene σ) :
    sceneAfter (action >>= fun value ↦ pure (change value)) scene = sceneAfter action scene := by
  rw [sceneAfter_bind]
  cases action.outcome scene <;> rfl

@[simp] theorem outcome_ofExcept (result : Except Failure α) (scene : Scene σ) :
    outcome (ofExcept result : Action σ α) scene = result := by
  cases result <;> rfl

@[simp] theorem sceneAfter_ofExcept (result : Except Failure α) (scene : Scene σ) :
    sceneAfter (ofExcept result : Action σ α) scene = scene := by
  cases result <;> rfl

/-- Checks in a row, as an action. -/
theorem ofExcept_bind (result : Except Failure α) (next : α → Except Failure β) :
    (ofExcept (result >>= next) : Action σ β) =
      ofExcept result >>= fun value ↦ ofExcept (next value) := by
  cases result <;> rfl

/-- The outcome of an action is checked afterwards. -/
theorem outcome_bind_ofExcept (action : Action σ α) (check : α → Except Failure β)
    (scene : Scene σ) :
    outcome (action >>= fun value ↦ ofExcept (check value)) scene =
      action.outcome scene >>= check := by
  rw [outcome_bind]
  cases action.outcome scene with
  | error failure => rfl
  | ok value => exact outcome_ofExcept (check value) _

/-- A check leaves the scene as it is. -/
theorem sceneAfter_bind_ofExcept (action : Action σ α) (check : α → Except Failure β)
    (scene : Scene σ) :
    sceneAfter (action >>= fun value ↦ ofExcept (check value)) scene =
      sceneAfter action scene := by
  rw [sceneAfter_bind]
  cases action.outcome scene with
  | error failure => rfl
  | ok value => exact sceneAfter_ofExcept (check value) _

@[simp] theorem outcome_attempt (action : Action σ α) (scene : Scene σ) :
    outcome (attempt action) scene = .ok (action.outcome scene) := by
  unfold outcome attempt
  cases action scene <;> rfl

@[simp] theorem sceneAfter_attempt (action : Action σ α) (scene : Scene σ) :
    sceneAfter (attempt action) scene = sceneAfter action scene := by
  unfold sceneAfter attempt
  cases action scene <;> rfl

/-- The failure of an outcome, if it is one. -/
def failureOf : Except Failure α → Option Failure
  | .ok _ => none
  | .error failure => some failure

/-- The failure of an action is that of its outcome. -/
theorem failure?_eq (action : Action σ α) (scene : Scene σ) :
    action.failure? scene = failureOf (action.outcome scene) := by
  unfold failure? outcome
  cases action scene <;> rfl

@[simp] theorem outcome_withinStream (action : Action σ α) (scene : Scene σ) :
    outcome (withinStream action) scene = (action.outcome scene).mapError Failure.leaving := by
  unfold outcome withinStream
  cases action scene <;> rfl

@[simp] theorem failure?_withinStream (action : Action σ α) (scene : Scene σ) :
    action.withinStream.failure? scene = (action.failure? scene).map Failure.leaving := by
  unfold failure? withinStream
  cases action scene <;> rfl

@[simp] theorem sceneAfter_withinStream (action : Action σ α) (scene : Scene σ) :
    sceneAfter (withinStream action) scene = sceneAfter action scene := by
  unfold sceneAfter withinStream
  cases action scene <;> rfl

/-- What a protected call makes of the failure of a collaborator. -/
def shielded (wrap : Failure → Failure) (failure : Failure) : Failure :=
  if failure.passesThrough then failure else wrap failure

/-- Assumes: failures that are wrapped as ones that pass through. What a protected call makes of a
failure passes through. -/
theorem passesThrough_shielded {wrap : Failure → Failure}
    (h : ∀ failure, (wrap failure).passesThrough = true) (failure : Failure) :
    (shielded wrap failure).passesThrough = true := by
  unfold shielded
  by_cases hfailure : failure.passesThrough = true
  · rw [if_pos hfailure, hfailure]
  · rw [if_neg hfailure, h]

/-- A failure that has been wrapped as one that passes through is not wrapped again. -/
theorem shielded_shielded {wrap other : Failure → Failure}
    (h : ∀ failure, (wrap failure).passesThrough = true) (failure : Failure) :
    shielded other (shielded wrap failure) = shielded wrap failure :=
  if_pos (passesThrough_shielded h failure)

@[simp] theorem outcome_protect (wrap : Failure → Failure) (action : Action σ α)
    (scene : Scene σ) :
    outcome (protect wrap action) scene = (action.outcome scene).mapError (shielded wrap) := by
  unfold outcome protect
  cases action scene <;> rfl

@[simp] theorem sceneAfter_protect (wrap : Failure → Failure) (action : Action σ α)
    (scene : Scene σ) :
    sceneAfter (protect wrap action) scene = sceneAfter action scene := by
  unfold sceneAfter protect
  cases action scene <;> rfl

/-- What is made of the result of a call can be made of it before or after the call is protected. -/
theorem protect_bind_pure (wrap : Failure → Failure) (action : Action σ α) (change : α → β) :
    protect wrap (action >>= fun value ↦ pure (change value)) =
      protect wrap action >>= fun value ↦ pure (change value) := by
  funext scene
  simp only [protect, bind, EStateM.bind]
  cases action scene <;> rfl

/-- A protected call succeeds exactly if the call does. -/
theorem outcome_protect_eq_ok_iff {wrap : Failure → Failure} {action : Action σ α}
    {scene : Scene σ} {value : α} :
    (protect wrap action).outcome scene = .ok value ↔ action.outcome scene = .ok value := by
  rw [outcome_protect]
  cases action.outcome scene with
  | ok other => rfl
  | error failure =>
    constructor
    · rintro ⟨⟩
    · rintro ⟨⟩

/-! ### Simulation -/

/-- Two actions that have the same outcome from related scenes and leave related scenes. -/
def Simulates (related : Scene σ → Scene τ → Prop) (first : Action σ α) (second : Action τ α) :
    Prop :=
  ∀ scene other, related scene other →
    first.outcome scene = second.outcome other ∧
      related (sceneAfter first scene) (sceneAfter second other)

variable {related : Scene σ → Scene τ → Prop}

theorem simulates_pure (value : α) : Simulates related (pure value) (pure value) :=
  fun _ _ hrelated ↦ ⟨rfl, hrelated⟩

theorem simulates_throw (failure : Failure) :
    Simulates related (throw failure : Action σ α) (throw failure) :=
  fun _ _ hrelated ↦ ⟨rfl, hrelated⟩

theorem simulates_ofExcept (result : Except Failure α) :
    Simulates related (ofExcept result) (ofExcept result) := by
  cases result with
  | ok value => exact simulates_pure value
  | error failure => exact simulates_throw failure

/-- Assumes: first parts that simulate each other, and second parts that do so for every result of
the first ones. The sequences simulate each other. -/
theorem simulates_bind {first : Action σ α} {second : Action τ α} {next : α → Action σ β}
    {follow : α → Action τ β} (hfirst : Simulates related first second)
    (hnext : ∀ value, Simulates related (next value) (follow value)) :
    Simulates related (first >>= next) (second >>= follow) := by
  intro scene other hrelated
  obtain ⟨houtcome, hafter⟩ := hfirst scene other hrelated
  rw [outcome_bind, outcome_bind, sceneAfter_bind, sceneAfter_bind, ← houtcome]
  cases first.outcome scene with
  | ok value => exact hnext value _ _ hafter
  | error failure => exact ⟨rfl, hafter⟩

theorem simulates_attempt {first : Action σ α} {second : Action τ α}
    (h : Simulates related first second) :
    Simulates related (attempt first) (attempt second) := by
  intro scene other hrelated
  obtain ⟨houtcome, hafter⟩ := h scene other hrelated
  simpa [houtcome] using hafter

theorem simulates_protect {first : Action σ α} {second : Action τ α} (wrap : Failure → Failure)
    (h : Simulates related first second) :
    Simulates related (protect wrap first) (protect wrap second) := by
  intro scene other hrelated
  obtain ⟨houtcome, hafter⟩ := h scene other hrelated
  simpa [houtcome] using hafter

theorem simulates_withinStream {first : Action σ α} {second : Action τ α}
    (h : Simulates related first second) :
    Simulates related (withinStream first) (withinStream second) := by
  intro scene other hrelated
  obtain ⟨houtcome, hafter⟩ := h scene other hrelated
  simpa [houtcome] using hafter

/-- Assumes: actions that simulate each other. From related scenes they fail alike. -/
theorem Simulates.failure?_eq {first : Action σ α} {second : Action τ α}
    (h : Simulates related first second) {scene : Scene σ} {other : Scene τ}
    (hrelated : related scene other) : first.failure? scene = second.failure? other := by
  rw [Action.failure?_eq, Action.failure?_eq, (h scene other hrelated).1]

/-- Assumes: scenes that stay related under a warning. Giving it simulates itself. -/
theorem simulates_warn (warning : Warning)
    (hwarn : ∀ scene other, related scene other →
      related (sceneAfter (warn warning) scene) (sceneAfter (warn warning) other)) :
    Simulates related (warn warning) (warn warning) :=
  fun scene other hrelated ↦ ⟨rfl, hwarn scene other hrelated⟩

end Grounding.Action
