import Grounding.ChatResponse

/-!
What travels along a chain of advisors: on the way to the model a prompt, on the way back a
response, both with the advise context of one call.

* `AdvisedRequest` and `AdvisedResponse` are the types.
* `AdvisedRequest.ofText` is a request with one user message.
-/

set_option autoImplicit false
set_option relaxedAutoImplicit false

namespace Grounding

/-- A prompt on its way to the model. -/
structure AdvisedRequest where
  prompt : Prompt
  adviseContext : Context := []

namespace AdvisedRequest

/-- The request that a dictionary of fields describes. -/
def ofFields (fields : Context) : Checked AdvisedRequest :=
  ((Checked.accepted AdvisedRequest.mk).ap (required fields "prompt" Prompt.read)).ap
    (withDefault fields "advise_context" Shape.dict [])

/-- The shape of a request. -/
def read : Shape AdvisedRequest :=
  Shape.record .advisedRequest ofFields

/-- A request as a value. -/
def toValue (request : AdvisedRequest) : Value :=
  .record .advisedRequest [("prompt", request.prompt.toValue),
    ("advise_context", .dict request.adviseContext)]

/-- A request with one user message. -/
def ofText (text : String) (context : Context) : AdvisedRequest :=
  ⟨.ofText text, context⟩

/-- The text of the last user message. -/
def userText (request : AdvisedRequest) : String :=
  request.prompt.userMessage.text

/-- The request with another prompt. -/
def withPrompt (request : AdvisedRequest) (prompt : Prompt) : AdvisedRequest :=
  { request with prompt }

/-- The request with some entries of its context set. -/
def withContext (request : AdvisedRequest) (updates : Context) : AdvisedRequest :=
  { request with adviseContext := request.adviseContext.merge updates }

end AdvisedRequest

/-- A response, or a fragment of one, on its way back. -/
structure AdvisedResponse where
  response : Option ChatResponse := none
  adviseContext : Context := []

namespace AdvisedResponse

/-- The advised response that a dictionary of fields describes. -/
def ofFields (fields : Context) : Checked AdvisedResponse :=
  ((Checked.accepted AdvisedResponse.mk).ap
    (withDefault fields "response" (Shape.nullable ChatResponse.read) none)).ap
      (withDefault fields "advise_context" Shape.dict [])

/-- The shape of an advised response. -/
def read : Shape AdvisedResponse :=
  Shape.record .advisedResponse ofFields

/-- An advised response as a value. -/
def toValue (advised : AdvisedResponse) : Value :=
  .record .advisedResponse [("response", .ofOption ChatResponse.toValue advised.response),
    ("advise_context", .dict advised.adviseContext)]

/-- A response with the context of the request that it answers. -/
def ofRequest (request : AdvisedRequest) (response : Option ChatResponse) : AdvisedResponse :=
  ⟨response, request.adviseContext⟩

/-- Whether there is a response and it is a terminal one. -/
def isTerminal (advised : AdvisedResponse) : Bool :=
  match advised.response with
  | some response => response.isTerminal
  | none => false

/-- The advised response with another response. -/
def withResponse (advised : AdvisedResponse) (response : ChatResponse) : AdvisedResponse :=
  { advised with response := some response }

end AdvisedResponse

end Grounding
