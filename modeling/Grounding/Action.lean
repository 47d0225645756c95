import Grounding.Failure

/-!
Actions: what a component does when it is used. An action changes the world of its collaborators,
may give warnings on the side, and ends with a result or a failure; a failure leaves the changes
that were made before it.

* `Scene` is a world with the warnings given so far, `Action` a step on it.
* `Action.attempt` gives the result or failure of an action without failing itself;
  `Action.protect` replaces the failures of a collaborator, all but those that pass through.
-/

set_option autoImplicit false
set_option relaxedAutoImplicit false

namespace Grounding

/-- What is reported without ending an operation. -/
inductive Warning
  /-- A query transformer got a blank text and keeps the query as it is. -/
  | emptyGeneration (transformer : String)
  /-- A query expander got too few variations and keeps the query alone. -/
  | tooFewVariations (expected : Int) (got : Nat)
  /-- A store in memory has grown large. -/
  | largeStore (size : Nat)
  /-- A callback failed on an event. -/
  | callbackFailed (callback event : String)
deriving DecidableEq, Repr

/-- The words of a warning. -/
def Warning.message : Warning → String
  | .emptyGeneration transformer =>
    transformer ++ " returned an empty result; keeping the original query"
  | .tooFewVariations expected got =>
    "MultiQueryExpander expected " ++ toString expected ++ " variations but got " ++
      toString got ++ "; using the original query"
  | .largeStore size =>
    "InMemoryVectorStore has " ++ toString size ++ " documents. Consider using a dedicated " ++
      "vector database (FAISS, Chroma) for better performance."
  | .callbackFailed callback event =>
    "Pipeline callback " ++ callback ++ "." ++ event ++ " failed"

/-- A world, and the warnings given so far. -/
structure Scene (σ : Type) where
  world : σ
  warnings : List Warning := []

/-- A step on a world that may fail. -/
abbrev Action (σ α : Type) : Type := EStateM Failure (Scene σ) α

namespace Action

variable {σ α : Type}

/-- A result that does not need the world. -/
def ofExcept : Except Failure α → Action σ α
  | .ok value => pure value
  | .error failure => throw failure

/-- A step on the world that cannot fail. -/
def onWorld (step : σ → α × σ) : Action σ α := fun scene ↦
  let (value, world) := step scene.world
  .ok value { scene with world := world }

/-- A change of the world. -/
def change (step : σ → σ) : Action σ Unit :=
  onWorld fun world ↦ ((), step world)

/-- Gives a warning. -/
def warn (warning : Warning) : Action σ Unit := fun scene ↦
  .ok () { scene with warnings := scene.warnings ++ [warning] }

/-- The result or the failure of an action. -/
def attempt (action : Action σ α) : Action σ (Except Failure α) := fun scene ↦
  match action scene with
  | .ok value scene => .ok (.ok value) scene
  | .error failure scene => .ok (.error failure) scene

/-- An action whose failures are replaced, all but those that pass through. -/
def protect (wrap : Failure → Failure) (action : Action σ α) : Action σ α := fun scene ↦
  match action scene with
  | .ok value scene => .ok value scene
  | .error failure scene => .error (if failure.passesThrough then failure else wrap failure) scene

end Action

end Grounding
