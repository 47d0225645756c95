import Grounding.Message

/-!
Prompts: the messages for one call of a chat model, with options.

* `ChatOptions` and `Prompt` are the types; `Prompt.ofText` makes a prompt from a text.
* Three views single out the last user message: `userMessage` is that message, `splitHistory` are
  the messages before it, and `replaceUserMessage` puts another message in its place. Where there
  is none, the first is an empty message, the second the whole list, and the third appends.
-/

set_option autoImplicit false
set_option relaxedAutoImplicit false

namespace Grounding

/-- Optional parameters of a chat model. -/
structure ChatOptions where
  model : Option String := none
  temperature : Option Float := none
  maxTokens : Option Nat := none
  stopSequences : List String := []

namespace ChatOptions

/-- A temperature: a double from zero. -/
def temperatureShape : Shape Float := fun value ↦
  (Shape.number value).andThen fun temperature ↦
    if Binary64.le 0.0 temperature then .accepted temperature else .fault .belowLeast

/-- A number of tokens: an integer above zero. -/
def maxTokensShape : Shape Nat := fun value ↦
  (Shape.integer value).andThen fun count ↦
    if 0 < count then .accepted count.toNat else .fault .notAbove

/-- The options that a dictionary of fields describes. -/
def ofFields (fields : Context) : Checked ChatOptions :=
  ((((Checked.accepted ChatOptions.mk).ap
    (withDefault fields "model" (Shape.nullable Shape.text) none)).ap
      (withDefault fields "temperature" (Shape.nullable temperatureShape) none)).ap
        (withDefault fields "max_tokens" (Shape.nullable maxTokensShape) none)).ap
          (withDefault fields "stop_sequences" (Shape.list Shape.text) [])

/-- The shape of options. -/
def read : Shape ChatOptions :=
  Shape.record .chatOptions ofFields

/-- The fields of options. -/
def toFields (options : ChatOptions) : Context :=
  [("model", .ofOption .text options.model), ("temperature", .ofOption .float options.temperature),
    ("max_tokens", .ofOption (fun count : Nat ↦ .int count) options.maxTokens),
    ("stop_sequences", .ofTexts options.stopSequences)]

/-- Options as a value. -/
def toValue (options : ChatOptions) : Value :=
  .record .chatOptions options.toFields

end ChatOptions

/-- The messages for one call of a chat model. -/
structure Prompt where
  messages : List Message := []
  options : ChatOptions := {}

namespace Prompt

/-- The prompt that a dictionary of fields describes. -/
def ofFields (fields : Context) : Checked Prompt :=
  ((Checked.accepted Prompt.mk).ap
    (withDefault fields "messages" (Shape.list Message.read) [])).ap
      (withDefault fields "options" ChatOptions.read {})

/-- The shape of a prompt. -/
def read : Shape Prompt :=
  Shape.record .prompt ofFields

/-- The fields of a prompt. -/
def toFields (prompt : Prompt) : Context :=
  [("messages", .list (prompt.messages.map Message.toValue)), ("options", prompt.options.toValue)]

/-- A prompt as a value. -/
def toValue (prompt : Prompt) : Value :=
  .record .prompt prompt.toFields

/-- Whether there is content that is not blank. Content is a text or null. -/
def hasContent : Value → Except Failure Bool
  | .null => .ok false
  | .text content => .ok (!Text.isBlank content)
  | value => .error (.missingAttribute value.typeName "strip")

/-- A prompt with one user message, or with none if the text is blank. -/
def ofText (text : String) : Prompt :=
  if Text.isBlank text then {} else { messages := [{ role := .user, text }] }

/-- All texts one after the other. -/
def contents (prompt : Prompt) : String :=
  String.join (prompt.messages.map Message.text)

/-! ### The last user message -/

/-- The last user message, an empty one if there is none. -/
def userMessage (prompt : Prompt) : Message :=
  (prompt.messages.reverse.find? Message.isUser).getD { role := .user }

/-- The messages before the last user message, all of them if there is none. -/
def splitHistory (messages : List Message) : List Message :=
  if messages.any Message.isUser then
    (messages.reverse.dropWhile fun message ↦ !message.isUser).tail.reverse
  else messages

/-- A list whose last user message is replaced; `none` if it has no user message. -/
def replaceLast? (replace : Message → Message) : List Message → Option (List Message)
  | [] => none
  | message :: rest =>
    match replaceLast? replace rest with
    | some replaced => some (message :: replaced)
    | none => if message.isUser then some (replace message :: rest) else none

/-- The messages with the last user message replaced, or with the replacement of an empty message at
the end. -/
def replaceUserMessage (replace : Message → Message) (messages : List Message) : List Message :=
  (replaceLast? replace messages).getD (messages ++ [replace { role := .user }])

/-- The prompt with another text in the last user message. -/
def augmentUserMessage (prompt : Prompt) (text : String) : Prompt :=
  { prompt with
    messages := replaceUserMessage (fun message ↦ message.withText text) prompt.messages }

end Prompt

end Grounding
