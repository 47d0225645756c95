import Grounding.Failure

/-!
What a template can ask of the platform that it is rendered on, and the texts of values under its
limits.

* `Limits` are the limits of a platform: how deeply the literal of a value may be nested, how many
  digits an integer may have, and which texts can be held. `Limits.literal` and `Limits.display` are
  the texts of a value that stay within them.
* A `Platform` knows the attributes of values. They lead to values again or to things of its own,
  such as types and methods, and it knows the parts and the texts of these. What goes wrong with
  them is an incident.
* `Reached` is what the path of a field leads to on a platform, a value or a thing;
  `Reached.property`, `Reached.entry` and `Reached.element` are the single steps of a path.

Rendering takes the platform as an argument, and what is proved of it is proved on every platform.
-/

set_option autoImplicit false
set_option relaxedAutoImplicit false

namespace Grounding

/-! ### Limits -/

/-- The limits of a platform. There may be none on the digits of an integer. -/
structure Limits where
  depth : Nat
  digits : Option Nat
  holds : Nat → Bool

namespace Limits

/-- Refuses an integer whose decimal digits are too many. -/
def checkDigits (limits : Limits) (number : Int) : Except Failure Unit :=
  match limits.digits with
  | none => .ok ()
  | some limit =>
    if limit < (Nat.toDigits 10 number.natAbs).length then .error (.argument (.tooManyDigits limit))
    else .ok ()

mutual

/-- Refuses a value whose literal cannot be written within some depth. -/
def checkLiteral (limits : Limits) (depth : Nat) : Value → Except Failure Unit
  | .int number => limits.checkDigits number
  | .list items => checkItems limits depth items
  | .dict entries => checkEntries limits depth entries
  | .record _ fields => checkEntries limits depth fields
  | _ => .ok ()

/-- Refuses the items of a list if the literal of one cannot be written, the first such one. -/
def checkItems (limits : Limits) (depth : Nat) : List Value → Except Failure Unit
  | [] => .ok ()
  | value :: rest =>
    match depth with
    | 0 => .error .tooDeep
    | inner + 1 => do
      checkLiteral limits inner value
      checkItems limits (inner + 1) rest

/-- Refuses entries if the literal of a value in them cannot be written, the first such one. -/
def checkEntries (limits : Limits) (depth : Nat) : List (String × Value) → Except Failure Unit
  | [] => .ok ()
  | (_, value) :: rest =>
    match depth with
    | 0 => .error .tooDeep
    | inner + 1 => do
      checkLiteral limits inner value
      checkEntries limits (inner + 1) rest

end

/-- The literal of a value. -/
def literal (limits : Limits) (value : Value) : Except Failure String := do
  limits.checkLiteral limits.depth value
  return value.literal

/-- A text as it is, any other value as its literal. -/
def display (limits : Limits) : Value → Except Failure String
  | .text content => .ok content
  | value => limits.literal value

end Limits

/-! ### Platforms -/

/-- What the path of a field leads to: a value, or a thing that a platform knows. -/
inductive Reached (Thing : Type)
  | value (content : Value)
  | thing (thing : Thing)

/-- What a template is rendered on. -/
structure Platform extends Limits where
  Thing : Type
  /-- The attributes of values and things. -/
  property : Reached Thing → String → Except Incident (Reached Thing)
  /-- The part of a thing under a key. -/
  entry : Thing → String → Except Incident (Reached Thing)
  /-- The part of a thing at a position. -/
  element : Thing → Nat → Except Incident (Reached Thing)
  literal : Thing → Except Incident String
  display : Thing → Except Incident String
  /-- The text of a thing under a format specification, which may be empty. -/
  formatted : Thing → String → Except Incident String

/-- An incident as a failure. -/
def Incident.lift {α : Type} : Except Incident α → Except Failure α
  | .ok value => .ok value
  | .error incident => .error (.foreign incident)

namespace Value

/-- The part of a value under a key. -/
def entry (value : Value) (key : String) : Except Failure Value :=
  match value with
  | .dict entries =>
    match Dict.get? entries key with
    | some part => .ok part
    | none => .error (.missingKey (.text key))
  | .list _ => .error (.mistyped (.listIndex "str"))
  | .text _ => .error (.mistyped (.textIndex "str"))
  | _ => .error (.mistyped (.notSubscriptable value.typeName))

/-- The part of a value at a position. -/
def element (value : Value) (position : Nat) : Except Failure Value :=
  match value with
  | .list items =>
    match items[position]? with
    | some part => .ok part
    | none => .error (.outOfRange "list")
  | .text content =>
    match content.toList[position]? with
    | some c => .ok (.text (String.ofList [c]))
    | none => .error (.outOfRange "string")
  | .dict _ => .error (.missingKey (.int position))
  | _ => .error (.mistyped (.notSubscriptable value.typeName))

end Value

namespace Reached

variable {platform : Platform}

/-- An attribute. -/
def property (reached : Reached platform.Thing) (name : String) :
    Except Failure (Reached platform.Thing) :=
  Incident.lift (platform.property reached name)

/-- The part under a key. -/
def entry (reached : Reached platform.Thing) (key : String) :
    Except Failure (Reached platform.Thing) :=
  match reached with
  | .value content => (content.entry key).map .value
  | .thing found => Incident.lift (platform.entry found key)

/-- The part at a position. -/
def element (reached : Reached platform.Thing) (position : Nat) :
    Except Failure (Reached platform.Thing) :=
  match reached with
  | .value content => (content.element position).map .value
  | .thing found => Incident.lift (platform.element found position)

/-- What was reached, written so that its type can be seen. -/
def literal (reached : Reached platform.Thing) : Except Failure String :=
  match reached with
  | .value content => platform.toLimits.literal content
  | .thing found => Incident.lift (platform.literal found)

/-- A text as it is, anything else as it is displayed. -/
def display (reached : Reached platform.Thing) : Except Failure String :=
  match reached with
  | .value content => platform.toLimits.display content
  | .thing found => Incident.lift (platform.display found)

end Reached

end Grounding
