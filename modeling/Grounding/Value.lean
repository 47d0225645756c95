import Grounding.Binary64
import Grounding.Dict

/-!
Free-form values: what metadata, contexts, filter expressions and template bindings are made of,
and what a generation callback may answer.

* `Value` is the type; `Predicate` the first-order predicates over metadata that a filter may be,
  and `RecordKind` names the kinds of record that a value may hold.
* `Value.equal` is equality across number types: `1`, `1.0` and `true` are equal, integers and
  doubles are compared exactly, a NaN equals nothing, and dictionaries are compared without regard
  to order. What lists and dictionaries hold is compared with `Value.same` first, which tells
  whether two values are one and the same thing; this lets containers of one NaN be equal.
* `Value.isTrue` is the truth of a value and `Value.typeName` the name of its type in messages.
-/

set_option autoImplicit false
set_option relaxedAutoImplicit false

namespace Grounding

/-- The kinds of failure that a collaborator may report in words of its own. -/
inductive ReportKind
  | runtime
  | value
  | connection
  | timeout
  | system
  | index
  | stopIteration
  | stopAsyncIteration
  | library
  | transformation
  | retrieval
  | configuration
  | streamIntegrity
deriving DecidableEq, Repr

/-- A predicate over metadata, whose answer is then tested for truth. -/
inductive Predicate (Operand : Type)
  /-- The value under a key, which has to be present. -/
  | item (key : String)
  /-- The value under a key, or null. -/
  | lookup (key : String)
  /-- Whether the value under a key, or null, equals an operand. -/
  | equals (key : String) (operand : Operand)
  /-- The number of entries. -/
  | size
  /-- A failure of its own. -/
  | fails (kind : ReportKind) (message : String)

/-- The kinds of record that the library builds. -/
inductive RecordKind
  | userMessage
  | assistantMessage
  | systemMessage
  | chatOptions
  | prompt
  | query
  | document
  | searchRequest
  | generation
  | chatResponse
  | advisedRequest
  | advisedResponse
deriving DecidableEq, Repr

/-- The name of a kind of record. -/
def RecordKind.name : RecordKind → String
  | .userMessage => "UserMessage"
  | .assistantMessage => "AssistantMessage"
  | .systemMessage => "SystemMessage"
  | .chatOptions => "ChatOptions"
  | .prompt => "Prompt"
  | .query => "Query"
  | .document => "Document"
  | .searchRequest => "SearchRequest"
  | .generation => "Generation"
  | .chatResponse => "ChatResponse"
  | .advisedRequest => "AdvisedRequest"
  | .advisedResponse => "AdvisedResponse"

/-- A free-form value. What equals nothing but itself carries a mark that tells it from others. -/
inductive Value
  | null
  | bool (truth : Bool)
  | int (number : Int)
  | float (number : Float)
  | nan (mark : Nat)
  | text (content : String)
  | list (items : List Value)
  | dict (entries : List (String × Value))
  | predicate (mark : Nat) (rule : Predicate Value)
  | record (kind : RecordKind) (fields : List (String × Value))

instance : Inhabited Value := ⟨.null⟩

/-- Metadata and contexts. -/
abbrev Context : Type := Dict Value

namespace Value

/-- The name of the type of a value. -/
def typeName : Value → String
  | .null => "NoneType"
  | .bool _ => "bool"
  | .int _ => "int"
  | .float _ => "float"
  | .nan _ => "float"
  | .text _ => "str"
  | .list _ => "list"
  | .dict _ => "dict"
  | .predicate _ _ => "function"
  | .record kind _ => kind.name

/-- The truth of a value: null, zeros and empty texts, lists and dictionaries are false. -/
def isTrue : Value → Bool
  | .null => false
  | .bool truth => truth
  | .int number => number != 0
  | .float number => !Binary64.isZero number
  | .nan _ => true
  | .text content => !content.isEmpty
  | .list items => !items.isEmpty
  | .dict entries => !entries.isEmpty
  | .predicate _ _ => true
  | .record _ _ => true

/-- Whether an integer and a double are the same number. -/
def sameNumber (n : Int) (x : Float) : Bool :=
  match Binary64.read x with
  | .finite negative units =>
    decide (n * Binary64.unitsPerOne = Binary64.signedUnits negative units)
  | _ => false

/-- The integer that a truth value counts as. -/
def ofTruth (truth : Bool) : Int :=
  if truth then 1 else 0

/-- Whether two values are one and the same thing, for those values that equal nothing else. The
NaNs that computations give are not told apart. -/
def same : Value → Value → Bool
  | .nan a, .nan b => a == b
  | .float a, .float b => Binary64.isNaN a && Binary64.isNaN b
  | .predicate a _, .predicate b _ => a == b
  | _, _ => false

mutual

/-- Equality of values. -/
def equal : Value → Value → Bool
  | .null, .null => true
  | .bool a, .bool b => a == b
  | .bool a, .int b => decide (ofTruth a = b)
  | .bool a, .float b => sameNumber (ofTruth a) b
  | .int a, .bool b => decide (a = ofTruth b)
  | .int a, .int b => decide (a = b)
  | .int a, .float b => sameNumber a b
  | .float a, .bool b => sameNumber (ofTruth b) a
  | .float a, .int b => sameNumber b a
  | .float a, .float b => Binary64.equal a b
  | .text a, .text b => a == b
  | .list a, .list b => equalItems a b
  | .dict a, .dict b => a.length == b.length && equalEntries a b
  | .predicate a _, .predicate b _ => a == b
  | .record a fields, .record b others =>
    decide (a = b) && fields.length == others.length && equalEntries fields others
  | _, _ => false
termination_by structural value => value

/-- Equality of lists, item by item. -/
def equalItems : List Value → List Value → Bool
  | [], [] => true
  | a :: rest, b :: others => (same a b || equal a b) && equalItems rest others
  | _, _ => false
termination_by structural items => items

/-- Whether every entry of the first list has an equal one in the second. -/
def equalEntries : List (String × Value) → List (String × Value) → Bool
  | [], _ => true
  | (key, value) :: rest, others =>
    (match Dict.get? others key with
      | some other => same value other || equal value other
      | none => false) && equalEntries rest others
termination_by structural entries => entries

end

/-- What stands under the keys of a dictionary or in the fields of a record. -/
def fields : Value → Context
  | .dict entries => entries
  | .record _ entries => entries
  | _ => []

/-- A list of texts. -/
def ofTexts (texts : List String) : Value :=
  .list (texts.map .text)

/-- A value that may be missing, as a value that may be null. -/
def ofOption {α : Type} (make : α → Value) : Option α → Value
  | some value => make value
  | none => .null

end Value

/-- Equality of contexts: the same keys with equal values, in any order. -/
def Context.equal (a b : Context) : Bool :=
  Value.equal (.dict a) (.dict b)

end Grounding
