import Grounding.Heap.Layout
import Grounding.Joiner

/-!
The operations of records that share what they hold.

* `Heap.property` is a field or a derived property by its name; derived properties look at what the
  record holds at that moment.
* `Heap.constructNamed` makes a record of a named kind, `Heap.buildPrompt` and `Heap.request` make
  prompts and requests from texts.
* `Heap.mutate`, `Heap.augment`, `Heap.copy`, `Heap.withContext`, `Heap.withMetadata` and the like
  derive a record from another one. Each says what the new one shares with the old.
* `Heap.extend` changes a list or a dictionary in place, wherever it is held; `Heap.assign` refuses
  to change a record.
* `Heap.compare` compares two records.
-/

set_option autoImplicit false
set_option relaxedAutoImplicit false

namespace Grounding

/-- All kinds of record. -/
def RecordKind.all : List RecordKind :=
  [.userMessage, .assistantMessage, .systemMessage, .chatOptions, .prompt, .query, .document,
    .searchRequest, .generation, .chatResponse, .advisedRequest, .advisedResponse]

/-- The kind of a name. -/
def RecordKind.ofName? (name : String) : Option RecordKind :=
  RecordKind.all.find? fun kind ↦ kind.name == name

theorem RecordKind.ofName?_name (kind : RecordKind) : ofName? kind.name = some kind := by
  cases kind <;> decide

namespace Heap

/-! ### Parts -/

/-- The failure of using something that has no property of a name. -/
def missing {α : Type} (cell : Cell) (name : String) : HeapAction α :=
  throw (.missingAttribute cell.outline.typeName name)

/-- The items of a list. -/
def itemsOf (handle : Handle) : HeapAction (List Handle) := do
  match ← fetch handle with
  | .list items => return items
  | cell => throw (.mistyped (.notIterable cell.outline.typeName))

/-- The entries of a dictionary. -/
def entriesOf (handle : Handle) : HeapAction (Dict Handle) := do
  match ← fetch handle with
  | .dict entries => return entries
  | cell => throw (.mistyped (.notIterable cell.outline.typeName))

/-- A field of a record. -/
def field (handle : Handle) (name : String) : HeapAction Handle := do
  let cell ← fetch handle
  match cell with
  | .record _ fields =>
    match Dict.get? fields name with
    | some held => return held
    | none => missing cell name
  | _ => missing cell name

/-- The fields of a record of one of some kinds, which alone have a use. -/
def fieldsOf (kinds : List RecordKind) (use : String) (handle : Handle) :
    HeapAction (RecordKind × Dict Handle) := do
  let cell ← fetch handle
  match cell with
  | .record kind fields =>
    if kinds.contains kind then return (kind, fields) else missing cell use
  | _ => missing cell use

/-- A dictionary of its own with the entries of another one. -/
def copyDict (handle : Handle) : HeapAction Handle := do
  store (.dict (← entriesOf handle))

/-- A record that differs from another one in some fields and shares all others. -/
def derive (kind : RecordKind) (fields updates : Dict Handle) : HeapAction Handle :=
  store (.record kind (Dict.merge fields updates))

/-- Whether a handle holds a user message. -/
def isUserMessage (handle : Handle) : HeapAction Bool := do
  match ← fetch handle with
  | .record .userMessage _ => return true
  | _ => return false

/-- An empty user message. -/
def emptyUserMessage : HeapAction Handle :=
  plantNew ({ role := .user } : Message).toValue

/-- The last of some handles that holds a user message. -/
def lastUserMessage? : List Handle → HeapAction (Option Handle)
  | [] => pure none
  | handle :: rest => do
    match ← lastUserMessage? rest with
    | some last => return some last
    | none => return if ← isUserMessage handle then some handle else none

/-! ### Properties -/

/-- Whether a value is a finish reason: a text that is not blank. -/
def isFinishReason : Value → Except Failure Bool
  | .null => .ok false
  | .text reason => .ok (!Text.isBlank reason)
  | value => .error (.missingAttribute value.typeName "strip")

/-- The value of an action that does not need the heap. -/
def ofExcept {α : Type} : Except Failure α → HeapAction α
  | .ok value => pure value
  | .error failure => throw failure

/-- Whether one of some generations has a finish reason; those behind it are not looked at. -/
def anyFinished (property : Handle → String → HeapAction Handle) : List Handle → HeapAction Bool
  | [] => pure false
  | generation :: rest => do
    if ← ofExcept (isFinishReason (← read (← property generation "finish_reason"))) then
      return true
    else anyFinished property rest

/-- The property of a record that is derived from its fields, if its kind has one of this name. -/
def derived? (property : Handle → String → HeapAction Handle) (kind : RecordKind)
    (handle : Handle) (name : String) : Option (HeapAction Handle) :=
  match kind, name with
  | .prompt, "contents" => some do
    let texts ← (← itemsOf (← field handle "messages")).mapM fun message ↦ do
      return (← read (← property message "text")).display
    leaf (.text (String.join texts))
  | .prompt, "user_message" => some do
    match ← lastUserMessage? (← itemsOf (← field handle "messages")) with
    | some message => return message
    | none => emptyUserMessage
  | .searchRequest, "has_filter_expression" => some do
    match ← fetch (← field handle "filter_expression") with
    | .leaf .null => leaf (.bool false)
    | _ => leaf (.bool true)
  | .advisedRequest, "user_text" => some do
    property (← property (← field handle "prompt") "user_message") "text"
  | .chatResponse, "text" => some do
    match ← itemsOf (← field handle "results") with
    | [] => leaf (.text "")
    | generation :: _ => property (← property generation "output") "text"
  | .chatResponse, "is_terminal" => some do
    leaf (.bool (← anyFinished property (← itemsOf (← field handle "results"))))
  | .advisedResponse, "is_terminal" => some do
    let response ← field handle "response"
    match ← fetch response with
    | .leaf .null => leaf (.bool false)
    | _ => property response "is_terminal"
  | _, _ => none

/-- A field or a derived property, looked for down to a depth. -/
def propertyWithin : Nat → Handle → String → HeapAction Handle
  | 0, handle, name => do missing (← fetch handle) name
  | depth + 1, handle, name => do
    match ← fetch handle with
    | .record kind _ =>
      match derived? (propertyWithin depth) kind handle name with
      | some derived => derived
      | none => field handle name
    | cell => missing cell name

/-- A field or a derived property of a record. -/
def property (handle : Handle) (name : String) : HeapAction Handle := fun heap ↦
  propertyWithin (heap.cells.size + 1) handle name heap

/-! ### New records -/

/-- A record of a named kind; any other name stands for a message of the role that is given. -/
def constructNamed (fresh name : String) (data : Handle) : HeapAction Handle := do
  match RecordKind.ofName? name with
  | some kind => construct fresh kind (← entriesOf data)
  | none => accept (← Form.read fresh .message data)

/-- Whether there is content that is not blank. -/
def hasContent (content : Handle) : HeapAction Bool := do
  ofExcept (Prompt.hasContent (← fetch content).outline)

/-- Whether what is held counts as true. -/
def isTrue (handle : Handle) : HeapAction Bool := do
  match ← fetch handle with
  | .leaf value => return value.isTrue
  | .list items => return !items.isEmpty
  | .dict entries => return !entries.isEmpty
  | .record _ _ => return true

/-- What is held, one after the other: the items of a list, the characters of a text, the keys of a
dictionary. -/
def elementsOf (handle : Handle) : HeapAction (List Handle) := do
  match ← fetch handle with
  | .list items => return items
  | .dict entries => entries.mapM fun (key, _) ↦ leaf (.text key)
  | cell => (← ofExcept cell.outline.elements).mapM leaf

/-- A prompt from the content of a user message or from messages, with options. -/
def buildPrompt (content messages options : Handle) : HeapAction Handle := do
  let filled ← hasContent content
  let given ← isTrue messages
  if filled && given then throw (.configuration .contentAndMessages)
  else
    let messages ←
      if filled then
        let message ← construct "" .userMessage [("text", content)]
        pure [message]
      else if given then elementsOf messages else pure []
    let options ← if ← isTrue options then pure options else plantNew ({} : ChatOptions).toValue
    construct "" .prompt [("messages", ← store (.list messages)), ("options", options)]

/-- A request with one user message. -/
def request (text : Handle) (context : Dict Handle) : HeapAction Handle := do
  ofExcept (refuseTaken ["cls", "user_text"] context)
  let prompt ← buildPrompt text (← leaf .null) (← leaf .null)
  construct "" .advisedRequest [("prompt", prompt), ("advise_context", ← store (.dict context))]

/-! ### Derived records -/

/-- A query or a search request with some fields changed, all of them read again. A query has its
history and context to itself, but not what these hold. -/
def mutate (handle : Handle) (updates : Dict Handle) : HeapAction Handle := do
  let (kind, fields) ← fieldsOf [.query, .searchRequest] "mutate" handle
  ofExcept (refuseTaken ["self"] updates)
  construct "" kind (Dict.merge fields updates)

/-- A message with another text, the same metadata and the same role. -/
def withText (message : Handle) (text : String) : HeapAction Handle := do
  let (kind, fields) ← fieldsOf [.userMessage] "model_copy" message
  derive kind fields [("text", ← leaf (.text text))]

/-- The handles with the last one that holds a user message replaced, if there is one. -/
def replaceLast? (change : Handle → HeapAction Handle) :
    List Handle → HeapAction (Option (List Handle))
  | [] => pure none
  | message :: rest => do
    match ← replaceLast? change rest with
    | some replaced => return some (message :: replaced)
    | none =>
      if ← isUserMessage message then return some ((← change message) :: rest) else return none

/-- A prompt with the last user message replaced, or with the replacement of an empty one at the
end. The other messages and the options are shared. -/
def augment (handle : Handle) (change : Handle → HeapAction Handle) : HeapAction Handle := do
  let (_, fields) ← fieldsOf [.prompt] "augment_user_message" handle
  let messages ← itemsOf (← field handle "messages")
  let changed ← match ← replaceLast? change messages with
    | some changed => pure changed
    | none => do
      let added ← change (← emptyUserMessage)
      pure (messages ++ [added])
  construct "" .prompt (Dict.insert fields "messages" (← store (.list changed)))

/-- A message with metadata of its own, which hold what the old ones hold. -/
def copyMessage (handle : Handle) : HeapAction Handle := do
  let unsupported (cell : Cell) : HeapAction Handle :=
    throw (.mistyped (.unsupportedMessage cell.outline.typeName))
  match ← fetch handle with
  | .record kind fields =>
    match Role.ofKind? kind with
    | some _ => derive kind fields [("metadata", ← copyDict (← field handle "metadata"))]
    | none => unsupported (.record kind fields)
  | cell => unsupported cell

/-- Options with stop sequences of their own. -/
def copyOptions (handle : Handle) : HeapAction Handle := do
  let (kind, fields) ← fieldsOf [.chatOptions] "model_copy" handle
  let stops ← itemsOf (← field handle "stop_sequences")
  derive kind fields [("stop_sequences", ← store (.list stops))]

/-- A copy. That of a prompt has messages and options of its own; any other one shares all that the
old one holds. -/
def copy (handle : Handle) : HeapAction Handle := do
  match ← fetch handle with
  | .record .prompt _ => do
    let messages ← (← itemsOf (← field handle "messages")).mapM copyMessage
    construct "" .prompt [("messages", ← store (.list messages)),
      ("options", ← copyOptions (← field handle "options"))]
  | .leaf value => missing (.leaf value) "copy"
  | cell => store cell

/-- A request with another prompt and a context of its own. -/
def withPrompt (handle prompt : Handle) : HeapAction Handle := do
  let _ ← fieldsOf [.advisedRequest] "with_prompt" handle
  construct "" .advisedRequest
    [("prompt", prompt), ("advise_context", ← field handle "advise_context")]

/-- A request with some entries of its context set, and a context of its own. -/
def withContext (handle : Handle) (updates : Dict Handle) : HeapAction Handle := do
  let _ ← fieldsOf [.advisedRequest] "with_context" handle
  ofExcept (refuseTaken ["self"] updates)
  let context ← entriesOf (← field handle "advise_context")
  construct "" .advisedRequest [("prompt", ← field handle "prompt"),
    ("advise_context", ← store (.dict (Dict.merge context updates)))]

/-- A response with one entry of its metadata set, in metadata of its own. Its generations are
shared. -/
def withMetadata (handle : Handle) (key : String) (value : Handle) : HeapAction Handle := do
  let (kind, fields) ← fieldsOf [.chatResponse] "with_metadata" handle
  let metadata ← entriesOf (← field handle "metadata")
  derive kind fields [("metadata", ← store (.dict (Dict.insert metadata key value)))]

/-- A response with the context of a request, in a context of its own. -/
def respond (request response : Handle) : HeapAction Handle := do
  construct "" .advisedResponse
    [("response", response), ("advise_context", ← property request "advise_context")]

/-- An advised response with another response and a context of its own. -/
def withResponse (handle response : Handle) : HeapAction Handle := do
  let _ ← fieldsOf [.advisedResponse] "with_response" handle
  respond handle response

/-! ### Changes in place -/

/-- What a path of names and positions leads to. -/
def follow (handle : Handle) : List Value → HeapAction Handle
  | [] => pure handle
  | step :: path => do
    let cell ← fetch handle
    let next ← match cell, step with
      | .list items, .int position =>
        let position := if position < 0 then position + items.length else position
        match items[position.toNat]? with
        | some item => if position < 0 then throw (.outOfRange "list") else pure item
        | none => throw (.outOfRange "list")
      | .dict entries, .text key =>
        match Dict.get? entries key with
        | some held => pure held
        | none => throw (.missingKey step)
      | .dict _, _ => throw (.missingKey step)
      | .list _, _ => throw (.mistyped (.listIndex step.typeName))
      | _, .text name => property handle name
      | _, _ => throw (.mistyped (.notSubscriptable cell.outline.typeName))
    follow next path

/-- Sets a key of a dictionary, or adds an item to a list, wherever it is held. -/
def extend (handle : Handle) (key : String) (value : Handle) : HeapAction Unit := do
  match ← fetch handle with
  | .dict entries => replace handle (.dict (Dict.insert entries key value))
  | .list items => replace handle (.list (items ++ [value]))
  | cell => missing cell "append"

/-- Fields of a record are never assigned; nothing else has fields. -/
def assign (handle : Handle) (name : String) : HeapAction Handle := do
  match ← fetch handle with
  | .record _ _ => throw (.invalid [⟨[.name name], .frozen⟩])
  | cell => missing cell name

/-! ### Comparison -/

/-- Whether two handles hold equal values. -/
def equal (a b : Handle) : HeapAction Bool := do
  return (← read a).equal (← read b)

/-- What a query is filed under: its text, and role and text of every message before. -/
def hashKey (handle : Handle) : HeapAction Value := do
  let history ← (← itemsOf (← field handle "history")).mapM fun message ↦ do
    let role ← read (← property message "role")
    return Value.list [role, ← read (← property message "text")]
  return .list [← read (← field handle "text"), .list history]

/-- How two records compare: whether they are equal and, for two queries, whether they are filed
under the same key and how many entries a dictionary has that is keyed by both. -/
structure Comparison where
  equal : Bool
  filed : Option (Bool × Nat) := none

/-- Compares two records. -/
def compare (a b : Handle) : HeapAction Comparison := do
  let same ← equal a b
  match ← fetch a, ← fetch b with
  | .record .query _, .record .query _ =>
    let sameKey := (← hashKey a).equal (← hashKey b)
    return ⟨same, some (sameKey, if a = b || (same && sameKey) then 1 else 2)⟩
  | _, _ => return ⟨same, none⟩

end Heap

end Grounding
