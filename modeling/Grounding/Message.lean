import Grounding.Failure

/-!
Messages: what was said in a conversation, by whom, with metadata.

* `Message` is the type; its `Role` tells who speaks.
* `Message.readAs` reads a message of a known role, `Message.read` one whose role is read first.
* `Message.equal` compares messages.
* `Role.ofTag?_tag`, `Role.ofKind?_recordKind`: the tags and the kinds of record tell roles apart.
-/

set_option autoImplicit false
set_option relaxedAutoImplicit false

namespace Grounding

/-- Who speaks. -/
inductive Role
  | user
  | assistant
  | system
deriving DecidableEq, Repr

namespace Role

/-- The tag of a role in data. -/
def tag : Role → String
  | .user => "user"
  | .assistant => "assistant"
  | .system => "system"

/-- The role that a tag stands for. -/
def ofTag? : String → Option Role
  | "user" => some .user
  | "assistant" => some .assistant
  | "system" => some .system
  | _ => none

/-- The kind of record of the messages of a role. -/
def recordKind : Role → RecordKind
  | .user => .userMessage
  | .assistant => .assistantMessage
  | .system => .systemMessage

/-- The role whose messages are records of a kind. -/
def ofKind? : RecordKind → Option Role
  | .userMessage => some .user
  | .assistantMessage => some .assistant
  | .systemMessage => some .system
  | _ => none

theorem ofTag?_tag (role : Role) : ofTag? role.tag = some role := by
  cases role <;> rfl

theorem ofKind?_recordKind (role : Role) : ofKind? role.recordKind = some role := by
  cases role <;> rfl

end Role

/-- A message. -/
structure Message where
  role : Role
  text : String := ""
  metadata : Context := []

namespace Message

/-- The fields of a message. -/
def toFields (message : Message) : Context :=
  [("role", .text message.role.tag), ("text", .text message.text),
    ("metadata", .dict message.metadata)]

/-- A message as a value. -/
def toValue (message : Message) : Value :=
  .record message.role.recordKind message.toFields

/-- The tag of one role and no other. -/
def roleShape (role : Role) : Shape Role
  | .text tag => if tag = role.tag then .accepted role else .fault .wrongRole
  | _ => .fault .wrongRole

/-- The message of a role that a dictionary of fields describes. -/
def ofFields (role : Role) (fields : Context) : Checked Message :=
  (((Checked.accepted Message.mk).ap (withDefault fields "role" (roleShape role) role)).ap
    (withDefault fields "text" Shape.text "")).ap
      (withDefault fields "metadata" Shape.dict [])

/-- The shape of a message of a role. -/
def readAs (role : Role) : Shape Message :=
  Shape.record role.recordKind (ofFields role)

/-- The shape of a message of any role. The role is read first and then stands in every path. -/
def read : Shape Message
  | .dict fields =>
    match Dict.get? fields "role" with
    | none => .fault .roleMissing
    | some (.text tag) =>
      match Role.ofTag? tag with
      | some role => (ofFields role fields).under (.name tag)
      | none => .fault .roleUnknown
    | some _ => .fault .roleUnknown
  | .record kind fields =>
    match Role.ofKind? kind with
    | some role => (ofFields role fields).under (.name role.tag)
    | none => .fault .roleMissing
  | _ => .fault .notMessage

/-- Equality of messages. -/
def equal (a b : Message) : Bool :=
  decide (a.role = b.role) && a.text == b.text && Context.equal a.metadata b.metadata

/-- Equality of lists of messages, one by one. -/
def equalAll : List Message → List Message → Bool
  | [], [] => true
  | a :: rest, b :: others => a.equal b && equalAll rest others
  | _, _ => false

/-- Whether a message is one of the user. -/
def isUser (message : Message) : Bool :=
  decide (message.role = .user)

/-- The message with another text. -/
def withText (message : Message) (text : String) : Message :=
  { message with text }

theorem ofFields_toFields (message : Message) :
    ofFields message.role message.toFields = .accepted message := by
  simp [ofFields, toFields, withDefault, Dict.get?, roleShape, Shape.text, Shape.dict,
    Checked.under, Checked.ap, Checked.map₂]

/-- A message is read back from its value. -/
theorem read_toValue (message : Message) : read message.toValue = .accepted message := by
  simp [read, toValue, Role.ofKind?_recordKind, ofFields_toFields, Checked.under]

end Message

end Grounding
