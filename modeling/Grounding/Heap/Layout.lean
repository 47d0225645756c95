import Grounding.Advised
import Grounding.Document
import Grounding.Heap

/-!
Reading records that share what they hold. The fields of a record get lists and dictionaries of
their own, but these hold what the given ones held, and a record that is given for a field is held
as it is, whatever has become of it since it was read.

* `Form` is a way to read a field, `Field` a field with its form and what it holds by default.
* `RecordKind.layout` are the fields of the records of a kind.
* `Form.read` reads what stands in a field, `Heap.construct` a whole record; all faults are reported
  at once, each with its path.
-/

set_option autoImplicit false
set_option relaxedAutoImplicit false

namespace Grounding

/-- A way to read what stands in a field. -/
inductive Form
  /-- A value that holds nothing, after a conversion. -/
  | scalar (shape : Shape Value)
  /-- Anything, held as it is. -/
  | anything
  /-- A dictionary with any entries. -/
  | dict
  /-- A list with items of one form. A record stands for the list of its fields with their names. -/
  | list (item : Form)
  /-- Null, or something of a form. -/
  | optional (form : Form)
  /-- A record of a kind, or a dictionary of its fields. -/
  | record (kind : RecordKind)
  /-- A message of any role, or a dictionary of its fields. -/
  | message

/-- A field of the records of a kind. A field without a default has to be given. -/
structure Field where
  name : String
  form : Form
  default : Option Value := none

namespace Form

/-- A text. -/
def text : Form :=
  .scalar fun value ↦ (Shape.text value).map .text

/-- The tag of one role. -/
def roleTag (role : Role) : Form :=
  .scalar fun value ↦ (Message.roleShape role value).map fun role ↦ .text role.tag

/-- A double. A NaN stays the one that it is. -/
def number : Form :=
  .scalar fun
    | .nan mark => .accepted (.nan mark)
    | value => (Shape.number value).map .float

/-- A whole number that a shape accepts. -/
def count (shape : Shape Nat) : Form :=
  .scalar fun value ↦ (shape value).map fun count : Nat ↦ .int count

/-- A double that a shape accepts. -/
def bounded (shape : Shape Float) : Form :=
  .scalar fun value ↦ (shape value).map .float

end Form

/-- The fields of the messages of a role. -/
def Role.layout (role : Role) : List Field :=
  [⟨"role", .roleTag role, some (.text role.tag)⟩, ⟨"text", .text, some (.text "")⟩,
    ⟨"metadata", .dict, some (.dict [])⟩]

/-- The fields of the records of a kind. A document without an identifier gets the fresh one. -/
def RecordKind.layout (fresh : String) : RecordKind → List Field
  | .userMessage => Role.user.layout
  | .assistantMessage => Role.assistant.layout
  | .systemMessage => Role.system.layout
  | .chatOptions =>
    [⟨"model", .optional .text, some .null⟩,
      ⟨"temperature", .optional (.bounded ChatOptions.temperatureShape), some .null⟩,
      ⟨"max_tokens", .optional (.count ChatOptions.maxTokensShape), some .null⟩,
      ⟨"stop_sequences", .list .text, some (.list [])⟩]
  | .prompt =>
    [⟨"messages", .list .message, some (.list [])⟩,
      ⟨"options", .record .chatOptions, some ({} : ChatOptions).toValue⟩]
  | .query =>
    [⟨"text", .text, none⟩, ⟨"history", .list .message, some (.list [])⟩,
      ⟨"context", .dict, some (.dict [])⟩]
  | .document =>
    [⟨"id", .text, some (.text fresh)⟩, ⟨"text", .text, some (.text "")⟩,
      ⟨"metadata", .dict, some (.dict [])⟩, ⟨"score", .optional .number, some .null⟩]
  | .searchRequest =>
    [⟨"query", .text, some (.text "")⟩,
      ⟨"top_k", .count SearchRequest.topKShape, some (.int ({} : SearchRequest).topK)⟩,
      ⟨"similarity_threshold", .bounded SearchRequest.thresholdShape, some (.float 0.0)⟩,
      ⟨"filter_expression", .anything, some .null⟩]
  | .generation =>
    [⟨"output", .record .assistantMessage,
        some ({ role := .assistant } : Message).toValue⟩,
      ⟨"finish_reason", .optional .text, some .null⟩]
  | .chatResponse =>
    [⟨"results", .list (.record .generation), some (.list [])⟩,
      ⟨"metadata", .dict, some (.dict [])⟩]
  | .advisedRequest =>
    [⟨"prompt", .record .prompt, none⟩, ⟨"advise_context", .dict, some (.dict [])⟩]
  | .advisedResponse =>
    [⟨"response", .optional (.record .chatResponse), some .null⟩,
      ⟨"advise_context", .dict, some (.dict [])⟩]

/-! ### Reading -/

/-- Goes on with what was accepted. -/
def Checked.whenAccepted {α β : Type} (checked : Checked α) (use : α → HeapAction β) :
    HeapAction (Checked β) := do
  match checked with
  | .accepted value => return .accepted (← use value)
  | .refused issues => return .refused issues

/-- Reads one part after the other; the faults of all of them are reported. -/
def gather {α : Type} (readPart : α → HeapAction (Checked Handle)) :
    List α → HeapAction (Checked (List Handle))
  | [] => pure (.accepted [])
  | part :: rest => do
    let first ← readPart part
    let others ← gather readPart rest
    return Checked.map₂ List.cons first others

/-- Reads a list, every item under its position. -/
def readList (readItem : Handle → HeapAction (Checked Handle)) (items : List Handle) :
    HeapAction (Checked Handle) := do
  let held ← gather (fun (item, position) ↦ do
    return (← readItem item).under (.index position)) items.zipIdx
  held.whenAccepted fun items ↦ Heap.store (.list items)

/-- Reads what stands under the name of a field, or takes what the field holds by default. -/
def readField (readForm : Form → Handle → HeapAction (Checked Handle)) (given : Dict Handle)
    (field : Field) : HeapAction (Checked Handle) := do
  match Dict.get? given field.name, field.default with
  | some handle, _ => return (← readForm field.form handle).under (.name field.name)
  | none, some value => return .accepted (← Heap.plantNew value)
  | none, none => return .refused [⟨[.name field.name], .missing⟩]

/-- Reads a record of a kind, every field under its name. -/
def readRecord (readForm : Form → Handle → HeapAction (Checked Handle)) (fresh : String)
    (kind : RecordKind) (given : Dict Handle) : HeapAction (Checked Handle) := do
  let layout := kind.layout fresh
  let held ← gather (readField readForm given) layout
  held.whenAccepted fun handles ↦
    Heap.store (.record kind ((layout.map Field.name).zip handles))

namespace Form

/-- Reads what stands in a field, down to a depth. -/
def readWithin (fresh : String) : Nat → Form → Handle → HeapAction (Checked Handle)
  | 0, _, _ => pure (.fault .notRecord)
  | depth + 1, form, handle => do
    let again := readWithin fresh depth
    match form, ← Heap.fetch handle with
    | .scalar shape, cell => (shape cell.outline).whenAccepted Heap.leaf
    | .anything, _ => return .accepted handle
    | .dict, .dict entries => return .accepted (← Heap.store (.dict entries))
    | .dict, _ => return .fault .notDict
    | .list item, .list items => readList (again item) items
    | .list item, .record _ fields => do
      let pairs ← fields.mapM fun (name, held) ↦ do
        Heap.store (.list [← Heap.leaf (.text name), held])
      readList (again item) pairs
    | .list _, _ => return .fault .notList
    | .optional _, .leaf .null => return .accepted handle
    | .optional form, _ => again form handle
    | .record kind, .record actual _ =>
      return if actual = kind then .accepted handle else .fault .notRecord
    | .record kind, .dict entries => readRecord again fresh kind entries
    | .record _, _ => return .fault .notRecord
    | .message, .record kind _ =>
      return if (Role.ofKind? kind).isSome then .accepted handle else .fault .roleMissing
    | .message, .dict entries =>
      match Dict.get? entries "role" with
      | none => return .fault .roleMissing
      | some tag =>
        match ← Heap.fetch tag with
        | .leaf (.text tag) =>
          match Role.ofTag? tag with
          | some role => return (← readRecord again fresh role.recordKind entries).under (.name tag)
          | none => return .fault .roleUnknown
        | _ => return .fault .roleUnknown
    | .message, _ => return .fault .notMessage

/-- The greatest depth of forms: an advised response holds a response, this a list of generations,
and each of these a message with fields. -/
def greatestDepth : Nat := 8

/-- Reads what stands in a field. -/
def read (fresh : String) (form : Form) (handle : Handle) : HeapAction (Checked Handle) :=
  readWithin fresh greatestDepth form handle

end Form

namespace Heap

/-- The result of a reading, or its faults. -/
def accept {α : Type} : Checked α → HeapAction α
  | .accepted value => pure value
  | .refused issues => throw (.invalid issues)

/-- A record of a kind from its fields. -/
def construct (fresh : String) (kind : RecordKind) (fields : Dict Handle) : HeapAction Handle := do
  accept (← readRecord (Form.read fresh) fresh kind fields)

end Heap

end Grounding
