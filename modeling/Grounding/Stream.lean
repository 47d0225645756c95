import Grounding.Action

/-!
Streams: answers that arrive in fragments. A stream does nothing before it is asked for a fragment;
whoever stops early releases what the stream holds, which may fail like every other step.

* `Stream` is what a generator gives: it ends, fails, acts on the world, or gives a fragment. With
  each fragment comes what releasing the stream does while it waits behind that fragment; once it
  has ended or failed there is nothing left to release.
* `Stream.raising` and `Stream.ofAction` are how failures get into a stream. A failure that signals
  an end does not get through; `Action.withinStream` says the same of a step that is taken inside.
* `Stream.drain` takes all fragments, `Stream.take` a number of them and then releases the stream.
* `Source` is anything else that gives fragments. It may be closed wherever it waits and when it has
  ended or failed, if it can be closed there at all. `Source.toStream` is the generator that hands
  on its fragments and closes it in the end, however that comes.
-/

set_option autoImplicit false
set_option relaxedAutoImplicit false

namespace Grounding

/-- A finite stream of fragments. -/
inductive Stream (σ α : Type)
  | ended
  | failed (failure : Failure) (lasting : failure.IsLasting)
  | doing (change : Scene σ → Scene σ) (rest : Scene σ → Stream σ α)
  | giving (fragment : α) (release : Action σ Unit) (rest : Stream σ α)

/-- What was taken from a stream: the fragments, the failure that ended it, and the scene left. -/
structure Delivery (σ α : Type) where
  fragments : List α
  failure : Option Failure
  scene : Scene σ

namespace Action

variable {σ α : Type}

/-- The failure that an action ends with, if it fails. -/
def failure? (action : Action σ α) (scene : Scene σ) : Option Failure :=
  match action scene with
  | .ok _ _ => none
  | .error failure _ => some failure

/-- An action that is done inside a stream, which its failures leave. -/
def withinStream (action : Action σ α) : Action σ α := fun scene ↦
  match action scene with
  | .ok value after => .ok value after
  | .error failure after => .error failure.leaving after

end Action

namespace Stream

variable {σ α β : Type}

/-- The scene that an action leaves. -/
def sceneAfter (action : Action σ α) (scene : Scene σ) : Scene σ :=
  match action scene with
  | .ok _ after => after
  | .error _ after => after

/-- A stream inside which a failure occurs. -/
def raising (failure : Failure) : Stream σ α :=
  .failed failure.leaving failure.isLasting_leaving

/-- An action, and then the stream that its result leads to. -/
def ofAction (action : Action σ α) (next : α → Stream σ β) : Stream σ β :=
  .doing (sceneAfter action) fun scene ↦
    match action scene with
    | .ok value _ => next value
    | .error failure _ => raising failure

/-- Takes everything from a stream. -/
def drain : Stream σ α → Scene σ → Delivery σ α
  | .ended, scene => ⟨[], none, scene⟩
  | .failed failure _, scene => ⟨[], some failure, scene⟩
  | .doing change rest, scene => (rest scene).drain (change scene)
  | .giving fragment _ rest, scene =>
    let delivery := rest.drain scene
    { delivery with fragments := fragment :: delivery.fragments }

/-- Takes a number of fragments, one at least, and releases the stream. -/
def takeSome : Stream σ α → Nat → Scene σ → Delivery σ α
  | .ended, _, scene => ⟨[], none, scene⟩
  | .failed failure _, _, scene => ⟨[], some failure, scene⟩
  | .doing change rest, more, scene => (rest scene).takeSome more (change scene)
  | .giving fragment release rest, more, scene =>
    match more with
    | 0 => ⟨[fragment], release.failure? scene, sceneAfter release scene⟩
    | more + 1 =>
      let delivery := rest.takeSome more scene
      { delivery with fragments := fragment :: delivery.fragments }

/-- Takes a number of fragments and releases the stream; one that has not been asked for a fragment
has nothing to release. -/
def take (stream : Stream σ α) (count : Nat) (scene : Scene σ) : Delivery σ α :=
  match count with
  | 0 => ⟨[], none, scene⟩
  | more + 1 => stream.takeSome more scene

/-- The stream with every fragment changed. -/
def map (f : α → β) : Stream σ α → Stream σ β
  | .ended => .ended
  | .failed failure lasting => .failed failure lasting
  | .doing change rest => .doing change fun scene ↦ (rest scene).map f
  | .giving fragment release rest => .giving (f fragment) release (rest.map f)

end Stream

/-- What closing something does, if it can be closed. -/
abbrev Closing (σ : Type) : Type := Option (Action σ Unit)

/-- Closes something; what cannot be closed is left alone. -/
def Closing.run {σ : Type} : Closing σ → Action σ Unit
  | some close => close
  | none => pure ()

/-- A finite source of fragments, with what closing it does where it waits, and when it has ended or
failed. Whoever waits for a fragment takes a signal of an end for the end. -/
inductive Source (σ α : Type)
  | ended (close : Closing σ)
  | failed (failure : Failure) (lasting : failure.IsLasting) (close : Closing σ)
  | doing (change : Scene σ → Scene σ) (rest : Scene σ → Source σ α)
  | giving (fragment : α) (close : Closing σ) (rest : Source σ α)

/-- The stream that hands on the fragments of a source and closes it in the end, whether it has
ended, has failed, or is released before. A failure to close it takes the place of its own. -/
def Source.toStream {σ α : Type} : Source σ α → Stream σ α
  | .ended close => .ofAction close.run fun _ ↦ .ended
  | .failed failure lasting close => .ofAction close.run fun _ ↦ .failed failure lasting
  | .doing change rest => .doing change fun scene ↦ (rest scene).toStream
  | .giving fragment close rest => .giving fragment close.run.withinStream rest.toStream

end Grounding
