import Grounding.Prompt

/-!
Responses of a chat model: a complete answer, or one fragment of an answer that arrives in pieces.

* `Generation` and `ChatResponse` are the types.
* `ChatResponse.isTerminal`: some generation has a finish reason that is not blank.
* `ChatResponse.withMetadata` sets one entry of the metadata and nothing else.
-/

set_option autoImplicit false
set_option relaxedAutoImplicit false

namespace Grounding

/-- One candidate answer of a model. -/
structure Generation where
  output : Message := { role := .assistant }
  finishReason : Option String := none

namespace Generation

/-- The generation that a dictionary of fields describes. -/
def ofFields (fields : Context) : Checked Generation :=
  ((Checked.accepted Generation.mk).ap
    (withDefault fields "output" (Message.readAs .assistant) { role := .assistant })).ap
      (withDefault fields "finish_reason" (Shape.nullable Shape.text) none)

/-- The shape of a generation. -/
def read : Shape Generation :=
  Shape.record .generation ofFields

/-- A generation as a value. -/
def toValue (generation : Generation) : Value :=
  .record .generation [("output", generation.output.toValue),
    ("finish_reason", .ofOption .text generation.finishReason)]

/-- Whether a generation is the last of its kind: its finish reason is not blank. -/
def isFinished (generation : Generation) : Bool :=
  match generation.finishReason with
  | some reason => !Text.isBlank reason
  | none => false

end Generation

/-- A response of a chat model, or a fragment of one. -/
structure ChatResponse where
  results : List Generation := []
  metadata : Context := []

namespace ChatResponse

/-- The response that a dictionary of fields describes. -/
def ofFields (fields : Context) : Checked ChatResponse :=
  ((Checked.accepted ChatResponse.mk).ap
    (withDefault fields "results" (Shape.list Generation.read) [])).ap
      (withDefault fields "metadata" Shape.dict [])

/-- The shape of a response. -/
def read : Shape ChatResponse :=
  Shape.record .chatResponse ofFields

/-- A response as a value. -/
def toValue (response : ChatResponse) : Value :=
  .record .chatResponse [("results", .list (response.results.map Generation.toValue)),
    ("metadata", .dict response.metadata)]

/-- The text of the first generation. -/
def text (response : ChatResponse) : String :=
  match response.results with
  | [] => ""
  | generation :: _ => generation.output.text

/-- Whether some generation is finished. -/
def isTerminal (response : ChatResponse) : Bool :=
  response.results.any Generation.isFinished

/-- The response with one entry of its metadata set. -/
def withMetadata (response : ChatResponse) (key : String) (value : Value) : ChatResponse :=
  { response with metadata := response.metadata.insert key value }

end ChatResponse

end Grounding
