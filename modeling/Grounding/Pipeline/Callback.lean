import Grounding.Action

/-!
Callbacks: observers of a pipeline. A callback handles some events and not others; its failures are
reported as warnings and change nothing else.

* `PipelineEvent` are the events, `Callback` is an observer.
* `notify` delivers one event to every callback that handles it, in order of registration.
  `notifyNamed` takes the event by its name, which has to be known.
-/

set_option autoImplicit false
set_option relaxedAutoImplicit false

namespace Grounding

/-- What can be observed of a pipeline. -/
inductive PipelineEvent
  | started
  | transformed
  | retrieved
  | ended
  | failed
deriving DecidableEq, Repr

namespace PipelineEvent

/-- The name of an event. -/
def name : PipelineEvent → String
  | .started => "on_pipeline_start"
  | .transformed => "on_query_transformed"
  | .retrieved => "on_documents_retrieved"
  | .ended => "on_pipeline_end"
  | .failed => "on_pipeline_error"

/-- The event of a name. -/
def ofName? : String → Option PipelineEvent
  | "on_pipeline_start" => some .started
  | "on_query_transformed" => some .transformed
  | "on_documents_retrieved" => some .retrieved
  | "on_pipeline_end" => some .ended
  | "on_pipeline_error" => some .failed
  | _ => none

theorem ofName?_name (event : PipelineEvent) : ofName? event.name = some event := by
  cases event <;> rfl

end PipelineEvent

/-- An observer, with a handler for each event that it handles. -/
structure Callback (σ Payload : Type) where
  name : String
  handler : PipelineEvent → Option (Payload → Action σ Unit)

variable {σ Payload : Type}

/-- Delivers an event to one callback. -/
def Callback.deliver (callback : Callback σ Payload) (event : PipelineEvent) (payload : Payload) :
    Action σ Unit :=
  match callback.handler event with
  | none => pure ()
  | some handle => do
    match ← Action.attempt (handle payload) with
    | .ok _ => pure ()
    | .error _ => Action.warn (.callbackFailed callback.name event.name)

/-- Delivers an event to all callbacks. -/
def notify (event : PipelineEvent) (payload : Payload) :
    List (Callback σ Payload) → Action σ Unit
  | [] => pure ()
  | callback :: rest => do
    callback.deliver event payload
    notify event payload rest

/-- Delivers the event of a name to all callbacks. -/
def notifyNamed (callbacks : List (Callback σ Payload)) (name : String) (payload : Payload) :
    Action σ Unit :=
  match PipelineEvent.ofName? name with
  | some event => notify event payload callbacks
  | none => throw (.argument (.unknownEvent name))

end Grounding
