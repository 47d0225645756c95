import Grounding.Proofs.Action

/-!
# Worlds with a record

What a component calls, with what and in which order, is not part of its result. To speak about it,
a world is extended by a record (`Recorded`), and an action becomes one that works on the world as
before and appends entries to the record when it ends (`Action.logging`). The entries are a function
of how the action ended and of the world that it left. Nothing that acts on the world can see the
record, so that recording changes no run: `simulates_logging`, with `Scene.plain` forgetting the
record. The entries of `Action.witnessing` are a function of the scenes before and after as well.

`Action.Records` is the judgement about records: from every scene the action appends entries that
satisfy a condition together with its outcome. `records_bind` and the rules beside it collect the
entries of a sequence.

What is seen of a world is given by a function of it. An action that depends on this part alone
(`Action.DependsOn`) does so when it is recorded (`Action.DependsOn.logging`).
-/

set_option autoImplicit false
set_option relaxedAutoImplicit false

namespace Grounding

open Grounding.Action
open Grounding.Stream (sceneAfter)

variable {σ κ ε α β : Type}

/-- A world with a record of what happened in it. -/
structure Recorded (σ ε : Type) where
  world : σ
  record : List ε

namespace Scene

/-- The record of a scene. -/
def record (scene : Scene (Recorded σ ε)) : List ε :=
  scene.world.record

/-- A scene without its record. -/
def plain (scene : Scene (Recorded σ ε)) : Scene σ where
  world := scene.world.world
  warnings := scene.warnings

/-- A scene with a record. -/
def withRecord (scene : Scene σ) (record : List ε) : Scene (Recorded σ ε) where
  world := ⟨scene.world, record⟩
  warnings := scene.warnings

@[simp] theorem plain_withRecord (scene : Scene σ) (record : List ε) :
    (scene.withRecord record).plain = scene := rfl

@[simp] theorem record_withRecord (scene : Scene σ) (record : List ε) :
    (scene.withRecord record).record = record := rfl

end Scene

namespace Action

/-! ### Recording -/

/-- An action that works on the world of a record and then appends entries, which tell how it ended
and what world it left. -/
def logging (entries : Except Failure α → σ → List ε) (action : Action σ α) :
    Action (Recorded σ ε) α := fun scene ↦
  match action scene.plain with
  | .ok value after =>
    .ok value (after.withRecord (scene.record ++ entries (.ok value) after.world))
  | .error failure after =>
    .error failure (after.withRecord (scene.record ++ entries (.error failure) after.world))

/-- An action that leaves the record as it is. -/
def unrecorded (action : Action σ α) : Action (Recorded σ ε) α :=
  action.logging fun _ _ ↦ []

/-- An action that works on the world of a record and then appends entries, which tell how it ended
and what scenes it found and left. -/
def witnessing (entries : Scene σ → Except Failure α → Scene σ → List ε) (action : Action σ α) :
    Action (Recorded σ ε) α := fun scene ↦
  match action scene.plain with
  | .ok value after =>
    .ok value (after.withRecord (scene.record ++ entries scene.plain (.ok value) after))
  | .error failure after =>
    .error failure (after.withRecord (scene.record ++ entries scene.plain (.error failure) after))

section Witnessing

variable {entries : Scene σ → Except Failure α → Scene σ → List ε} {action : Action σ α}

@[simp] theorem outcome_witnessing (scene : Scene (Recorded σ ε)) :
    (action.witnessing entries).outcome scene = action.outcome scene.plain := by
  unfold outcome witnessing
  cases action scene.plain <;> rfl

theorem sceneAfter_witnessing (scene : Scene (Recorded σ ε)) :
    sceneAfter (action.witnessing entries) scene =
      (sceneAfter action scene.plain).withRecord (scene.record ++
        entries scene.plain (action.outcome scene.plain) (sceneAfter action scene.plain)) := by
  unfold sceneAfter outcome witnessing
  cases action scene.plain <;> rfl

end Witnessing

variable {entries : Except Failure α → σ → List ε} {action : Action σ α}

/-- A log is written by a witness that looks at the outcome and the world left. -/
theorem logging_eq_witnessing :
    action.logging entries = action.witnessing fun _ result after ↦ entries result after.world :=
  rfl

@[simp] theorem outcome_logging (scene : Scene (Recorded σ ε)) :
    (action.logging entries).outcome scene = action.outcome scene.plain := by
  rw [logging_eq_witnessing, outcome_witnessing]

theorem sceneAfter_logging (scene : Scene (Recorded σ ε)) :
    sceneAfter (action.logging entries) scene =
      (sceneAfter action scene.plain).withRecord (scene.record ++
        entries (action.outcome scene.plain) (sceneAfter action scene.plain).world) := by
  rw [logging_eq_witnessing, sceneAfter_witnessing]

/-- A scene with a record beside the same scene without one. -/
def Forgets (scene : Scene (Recorded σ ε)) (other : Scene σ) : Prop :=
  scene.plain = other

/-- Recording changes no run. -/
theorem simulates_logging : Simulates Forgets (action.logging entries) action := by
  rintro scene _ rfl
  rw [outcome_logging, sceneAfter_logging]
  exact ⟨rfl, rfl⟩

theorem simulates_unrecorded (action : Action σ α) :
    Simulates (Forgets : Scene (Recorded σ ε) → Scene σ → Prop) action.unrecorded action :=
  simulates_logging

/-! ### What is appended -/

/-- From every scene an action appends entries that satisfy a condition together with its
outcome. -/
def Records (action : Action (Recorded σ ε) α) (post : Except Failure α → List ε → Prop) : Prop :=
  ∀ scene, ∃ appended,
    (sceneAfter action scene).record = scene.record ++ appended ∧
      post (action.outcome scene) appended

variable {post : Except Failure α → List ε → Prop}

theorem records_pure {value : α} (h : post (.ok value) []) :
    Records (pure value : Action (Recorded σ ε) α) post :=
  fun scene ↦ ⟨[], by simp, h⟩

theorem records_throw {failure : Failure} (h : post (.error failure) []) :
    Records (throw failure : Action (Recorded σ ε) α) post :=
  fun _ ↦ ⟨[], (List.append_nil _).symm, h⟩

theorem records_mono {action : Action (Recorded σ ε) α}
    {weaker : Except Failure α → List ε → Prop} (h : Records action post)
    (hweaker : ∀ result appended, post result appended → weaker result appended) :
    Records action weaker := by
  intro scene
  obtain ⟨appended, hrecord, hpost⟩ := h scene
  exact ⟨appended, hrecord, hweaker _ _ hpost⟩

/-- Assumes: a condition that holds of every way in which the action can end. -/
theorem records_logging
    (h : ∀ scene, post (action.outcome scene)
      (entries (action.outcome scene) (sceneAfter action scene).world)) :
    Records (action.logging entries) post := by
  intro scene
  rw [sceneAfter_logging, outcome_logging]
  exact ⟨_, rfl, h scene.plain⟩

/-- Assumes: a first part whose failures satisfy the condition, and for every result of it a second
part that satisfies the condition with the entries of both. -/
theorem records_bind {action : Action (Recorded σ ε) α} {next : α → Action (Recorded σ ε) β}
    {post : Except Failure β → List ε → Prop}
    (h : Records action fun result appended ↦
      match result with
      | .ok value => Records (next value) fun final more ↦ post final (appended ++ more)
      | .error failure => post (.error failure) appended) :
    Records (action >>= next) post := by
  intro scene
  obtain ⟨appended, hrecord, hpost⟩ := h scene
  rw [outcome_bind, sceneAfter_bind]
  cases houtcome : action.outcome scene with
  | error failure =>
    rw [houtcome] at hpost
    exact ⟨appended, hrecord, hpost⟩
  | ok value =>
    rw [houtcome] at hpost
    obtain ⟨more, hmore, hfinal⟩ := hpost (sceneAfter action scene)
    exact ⟨appended ++ more, by rw [hmore, hrecord, List.append_assoc], hfinal⟩

theorem records_attempt {action : Action (Recorded σ ε) α}
    {post : Except Failure (Except Failure α) → List ε → Prop}
    (h : Records action fun result appended ↦ post (.ok result) appended) :
    Records (attempt action) post := by
  intro scene
  simpa using h scene

theorem records_protect {action : Action (Recorded σ ε) α} {wrap : Failure → Failure}
    (h : Records action fun result appended ↦ post (result.mapError (shielded wrap)) appended) :
    Records (protect wrap action) post := by
  intro scene
  simpa using h scene

end Action

/-! ### What is seen -/

/-- Two scenes that look the same to those who see a part of the world. -/
def LooksAlike (seen : σ → κ) (scene other : Scene σ) : Prop :=
  seen scene.world = seen other.world

/-- An action that depends on what is seen of the world: where that is the same, it ends in the same
way and leaves the same to be seen. -/
def Action.DependsOn (seen : σ → κ) (action : Action σ α) : Prop :=
  action.Simulates (LooksAlike seen) action

/-- Two scenes with the same record that look the same. -/
def RecordedAlike {ε : Type} (seen : σ → κ) (scene other : Scene (Recorded σ ε)) : Prop :=
  LooksAlike (seen ∘ Recorded.world) scene other ∧ scene.record = other.record

/-- Assumes: an action that depends on what is seen, and entries that tell how it ended. Recording
it depends on what is seen as well, and the records stay the same. -/
theorem Action.DependsOn.logging {seen : σ → κ} {action : Action σ α} (h : action.DependsOn seen)
    (entries : Except Failure α → List ε) :
    Action.Simulates (RecordedAlike seen) (action.logging fun result _ ↦ entries result)
      (action.logging fun result _ ↦ entries result) := by
  rintro scene other ⟨hseen, hrecord⟩
  obtain ⟨houtcome, hafter⟩ := h scene.plain other.plain hseen
  rw [outcome_logging, outcome_logging, sceneAfter_logging, sceneAfter_logging]
  refine ⟨houtcome, hafter, ?_⟩
  rw [Scene.record_withRecord, Scene.record_withRecord, hrecord, houtcome]

end Grounding
