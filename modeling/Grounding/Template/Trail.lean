import Grounding.Template.Platform
import Grounding.Text.Digits

/-!
Trails: the steps of a field path that lead from the value of a name to a part of it. A point leads
to an attribute, brackets lead to a key, or to a position if they hold a decimal number.

* `Trail.ofChars` reads the steps, `Trail.follow` takes them one after the other, so that a fault
  in a later step comes to light only after the earlier ones have been taken.
* `readNumber` reads the decimal numbers of templates, `readIndex` a text that is nothing else.
-/

set_option autoImplicit false
set_option relaxedAutoImplicit false

namespace Grounding

/-! ### Numbers in templates -/

/-- The greatest number that an index, a width or a precision may be. -/
def greatestIndex : Nat :=
  Nat.pow 2 63 - 1

/-- Decimal digits at the start of a text as a number that continues the given one, with the rest
of the text. -/
def readNumberFrom (value : Nat) : List Char → Except TemplateFault (Nat × List Char)
  | [] => .ok (value, [])
  | c :: rest =>
    match Text.decimalValue? c with
    | none => .ok (value, c :: rest)
    | some digit =>
      if greatestIndex < 10 * value + digit then .error .numberTooLong
      else readNumberFrom (10 * value + digit) rest

/-- The number at the start of a text, if it starts with a decimal digit, and the rest. -/
def readNumber (text : List Char) : Except TemplateFault (Option Nat × List Char) :=
  (readNumberFrom 0 text).map fun (value, rest) ↦
    (if rest.length < text.length then some value else none, rest)

/-- The number that a whole text writes. -/
def readIndex (text : List Char) : Except TemplateFault (Option Nat) :=
  (readNumber text).map fun (number, rest) ↦ if rest.isEmpty then number else none

/-! ### Trails -/

/-- The steps of a path behind its name. -/
inductive Trail
  | done
  | broken (fault : TemplateFault)
  | property (name : List Char) (rest : Trail)
  | key (name : List Char) (rest : Trail)
  | index (position : Nat) (rest : Trail)
deriving DecidableEq, Repr

namespace Trail

/-- The steps that a text writes. -/
def ofChars : List Char → Trail
  | [] => .done
  | c :: text =>
    if c = '.' then
      let name := text.takeWhile fun c ↦ c != '.' && c != '['
      if name.isEmpty then .broken .emptyAttribute
      else .property name (ofChars (text.dropWhile fun c ↦ c != '.' && c != '['))
    else if c = '[' then
      match h : text.dropWhile (· != ']') with
      | [] => .broken .unclosedBracket
      | _ :: rest =>
        have : rest.length < text.length := by
          have := (List.dropWhile_sublist (l := text) (· != ']')).length_le
          rw [h] at this
          exact this
        let name := text.takeWhile (· != ']')
        match readIndex name with
        | .error fault => .broken fault
        | .ok (some position) => .index position (ofChars rest)
        | .ok none => if name.isEmpty then .broken .emptyAttribute else .key name (ofChars rest)
    else .broken .strayAfterBracket
termination_by text => text.length
decreasing_by
  · exact Nat.lt_succ_of_le (List.dropWhile_sublist _).length_le
  · exact Nat.lt_succ_of_lt this
  · exact Nat.lt_succ_of_lt this

/-- The part that a trail leads to on a platform. -/
def follow {platform : Platform} :
    Trail → Reached platform.Thing → Except Failure (Reached platform.Thing)
  | .done, reached => .ok reached
  | .broken fault, _ => .error (.argument (.template fault))
  | .property name rest, reached => do rest.follow (← reached.property (String.ofList name))
  | .key name rest, reached => do rest.follow (← reached.entry (String.ofList name))
  | .index position rest, reached => do rest.follow (← reached.element position)

end Trail

end Grounding
