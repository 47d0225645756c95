import Grounding.Text.Blank
import Grounding.Value

/-!
Reading records from free-form values. Every field has a shape, and a record is refused with all
its faults at once, each with the path to the place where it was found.

* `Checked` is the result of a reading: a value, or the list of `Issue`s in field order.
* `Shape` is a way to read a value; `Shape.text`, `Shape.integer`, `Shape.number`, `Shape.list`,
  `Shape.dict` and `Shape.nullable` are the shapes of fields. Numbers are read generously: truth
  values count as zero and one, numeric texts as their numbers, and whole doubles as integers.
* `required` and `withDefault` read one field of a record.
* `Checked.accepted_of_map₂`: a combination is accepted only if both of its parts are.
-/

set_option autoImplicit false
set_option relaxedAutoImplicit false

namespace Grounding

/-- One step of the path to a faulty place. -/
inductive PathStep
  | name (field : String)
  | index (position : Nat)
deriving DecidableEq, Repr

/-- What is wrong at a place. -/
inductive Problem
  | missing
  | notText
  | notList
  | notDict
  | notInteger
  | unreadableInteger
  | integerTooLong
  | fractional
  | notFinite
  | notNumber
  | unreadableNumber
  | notAbove
  | belowLeast
  | aboveMost
  | wrongRole
  | notRecord
  | roleMissing
  | roleUnknown
  | notMessage
  | frozen
deriving DecidableEq, Repr

/-- A fault with its place. -/
structure Issue where
  path : List PathStep
  problem : Problem
deriving DecidableEq, Repr

/-- A value that was accepted, or every reason to refuse it. -/
inductive Checked (α : Type)
  | accepted (value : α)
  | refused (issues : List Issue)

namespace Checked

variable {α β γ : Type}

/-- Changes an accepted value. -/
def map (f : α → β) : Checked α → Checked β
  | .accepted value => .accepted (f value)
  | .refused issues => .refused issues

/-- Combines two readings; the faults of both are reported. -/
def map₂ (f : α → β → γ) : Checked α → Checked β → Checked γ
  | .accepted a, .accepted b => .accepted (f a b)
  | .accepted _, .refused issues => .refused issues
  | .refused issues, .accepted _ => .refused issues
  | .refused issues, .refused others => .refused (issues ++ others)

/-- Applies a read function to a read argument. -/
def ap (f : Checked (α → β)) (a : Checked α) : Checked β :=
  map₂ (fun g value ↦ g value) f a

/-- A further condition on an accepted value. -/
def andThen (f : α → Checked β) : Checked α → Checked β
  | .accepted value => f value
  | .refused issues => .refused issues

/-- A fault at the place itself. -/
def fault (problem : Problem) : Checked α :=
  .refused [⟨[], problem⟩]

/-- Puts a step in front of every path. -/
def under (step : PathStep) : Checked α → Checked α
  | .accepted value => .accepted value
  | .refused issues => .refused (issues.map fun issue ↦ { issue with path := step :: issue.path })

/-- The accepted value, if there is one. -/
def toOption : Checked α → Option α
  | .accepted value => some value
  | .refused _ => none

theorem accepted_of_map₂ {f : α → β → γ} {a : Checked α} {b : Checked β} {c : γ}
    (h : map₂ f a b = .accepted c) :
    ∃ x y, a = .accepted x ∧ b = .accepted y ∧ c = f x y := by
  cases a <;> cases b <;> simp_all [map₂]

end Checked

/-- A way to read a value. -/
abbrev Shape (α : Type) : Type := Value → Checked α

namespace Shape

variable {α : Type}

/-- A text, as it is. -/
def text : Shape String
  | .text content => .accepted content
  | _ => .fault .notText

/-- Any value, kept as it is. -/
def anything : Shape Value := .accepted

/-- A dictionary. -/
def dict : Shape Context
  | .dict entries => .accepted entries
  | _ => .fault .notDict

/-- Null, or a value of the given shape. -/
def nullable (shape : Shape α) : Shape (Option α)
  | .null => .accepted none
  | value => (shape value).map some

/-- The items of a list, each read with its position in front of its paths. -/
def items (shape : Shape α) : Nat → List Value → Checked (List α)
  | _, [] => .accepted []
  | position, value :: rest =>
    Checked.map₂ List.cons ((shape value).under (.index position)) (items shape (position + 1) rest)

/-- A list of values of one shape. -/
def list (shape : Shape α) : Shape (List α)
  | .list values => items shape 0 values
  | _ => .fault .notList

/-! ### Numbers -/

/-- A sign at the start of a text. -/
def readSign : List Char → Bool × List Char
  | '-' :: rest => (true, rest)
  | '+' :: rest => (false, rest)
  | rest => (false, rest)

/-- Whether a character is white space by the Unicode property, which leaves out the ASCII
separators. -/
def isMargin (c : Char) : Bool :=
  Text.isSpace c && !(decide (0x1C ≤ c.toNat) && decide (c.toNat ≤ 0x1F))

/-- A text without the white space around it. -/
def withoutMargins (content : String) : List Char :=
  ((content.toList.dropWhile isMargin).reverse.dropWhile isMargin).reverse

/-- The number that decimal digits write. -/
def digitsValue (digits : List Char) : Nat :=
  digits.foldl (fun value c ↦ 10 * value + (c.toNat - '0'.toNat)) 0

/-- A text without its underscores, if it has some and they are single ones with
something on both sides. -/
def dropUnderscores? (text : List Char) : Option (List Char) :=
  let pieces := text.splitOn '_'
  if pieces.length = 1 || pieces.any List.isEmpty then none else some pieces.flatten

/-- The greatest number of digits that are read as an integer. -/
def mostDigits : Nat :=
  4300

/-- An integer without any ornament: a minus sign perhaps, and digits of which the first is a zero
only if it is the only one. Too many digits are a fault of their own, whatever follows them. -/
def plainInteger (text : List Char) : Except Problem Int :=
  let (negative, body) := match text with
    | '-' :: rest => (true, rest)
    | rest => (false, rest)
  let digits := body.takeWhile Char.isDigit
  if digits.head? = some '0' && digits.length ≠ 1 then .error .unreadableInteger
  else if mostDigits < digits.length then .error .integerTooLong
  else if digits.isEmpty || digits.length ≠ body.length then .error .unreadableInteger
  else .ok (Binary64.signedUnits negative (digitsValue digits))

/-- What follows the zeros at the start of a text and the underscores among them: another digit, a
minus sign, or a point, in front of which one character stays. Without zeros a text has to start
with a digit or a minus sign. -/
def withoutLeadingZeros? (text : List Char) : Option (List Char) :=
  match text with
  | '0' :: tail =>
    let zeros := '0' :: tail.takeWhile fun c ↦ c = '0' || c = '_'
    let rest := tail.dropWhile fun c ↦ c = '0' || c = '_'
    match rest with
    | [] => some zeros.getLast?.toList
    | c :: _ =>
      if c.isDigit || c = '-' then some rest
      else if c = '.' then some (zeros.getLast?.toList ++ rest)
      else none
  | c :: _ => if c.isDigit || c = '-' then some text else none
  | [] => none

/-- A text without the point and the zeros at its end, if nothing else follows its first point. -/
def withoutZeroFraction (text : List Char) : List Char :=
  match text.dropWhile (· != '.') with
  | '.' :: '0' :: zeros => if zeros.all (· == '0') then text.takeWhile (· != '.') else text
  | _ => text

/-- The unadorned part of a text that writes an integer with white space around it, a plus sign and
zeros in front, a zero fraction behind, or underscores between its digits. -/
def unadorned? (content : String) : Option (List Char) := do
  let trimmed := withoutMargins content
  let unsigned ← match trimmed with
    | '+' :: '-' :: _ => none
    | '+' :: rest => some rest
    | rest => some rest
  let text := withoutZeroFraction (← withoutLeadingZeros? unsigned)
  return (dropUnderscores? text).getD text

/-- The integer that a text writes, plain or adorned. -/
def integerOfText (content : String) : Except Problem Int :=
  match plainInteger content.toList with
  | .ok number => .ok number
  | .error .integerTooLong => .error .integerTooLong
  | .error _ =>
    match unadorned? content with
    | some text => plainInteger text
    | none => .error .unreadableInteger

example : (integerOfText " +0_07.0 ").toOption = some 7 ∧
    (integerOfText "0-5").toOption = some (-5) ∧
    (integerOfText "-1_000").toOption = some (-1000) ∧
    (integerOfText "0_").toOption = none ∧ (integerOfText "7.").toOption = none := by decide +kernel

/-- The exponent at the end of a decimal text. -/
def readExponent : List Char → Option Int
  | [] => some 0
  | c :: rest =>
    let (negative, digits) := readSign rest
    if (c = 'e' || c = 'E') && !digits.isEmpty && digits.all Char.isDigit then
      some (Binary64.signedUnits negative (digitsValue digits))
    else none

/-- The double that an unsigned decimal text denotes. -/
def decimalOfText (negative : Bool) (body : List Char) : Option Float :=
  let whole := body.takeWhile Char.isDigit
  let rest := body.dropWhile Char.isDigit
  let (fraction, rest) := match rest with
    | '.' :: tail => (tail.takeWhile Char.isDigit, tail.dropWhile Char.isDigit)
    | _ => ([], rest)
  if whole.isEmpty && fraction.isEmpty then none
  else
    (readExponent rest).map fun exponent ↦
      Binary64.ofDecimal negative (digitsValue (whole ++ fraction)) (exponent - fraction.length)

/-- The double that a decimal text or the name of a special one denotes. -/
def numberOfChars (text : List Char) : Option Float :=
  let (negative, body) := readSign text
  match String.ofList (body.map Char.toLower) with
  | "nan" => some Binary64.nan
  | "inf" => some (Binary64.infinity negative)
  | "infinity" => some (Binary64.infinity negative)
  | _ => decimalOfText negative body

/-- The double that a text denotes. There may be white space around it, or underscores in it. -/
def numberOfText (content : String) : Option Float :=
  match numberOfChars (withoutMargins content) with
  | some number => some number
  | none => (dropUnderscores? content.toList).bind numberOfChars

/-- The integer that a whole double denotes; only doubles within 64 bits are taken. -/
def integerOfFloat (x : Float) : Checked Int :=
  match Binary64.read x with
  | .finite negative units =>
    if units % Binary64.unitsPerOne = 0 then
      let whole := units / Binary64.unitsPerOne
      if whole < Nat.pow 2 63 then .accepted (Binary64.signedUnits negative whole)
      else .fault .integerTooLong
    else .fault .fractional
  | _ => .fault .notFinite

/-- An integer. -/
def integer : Shape Int
  | .int number => .accepted number
  | .bool truth => .accepted (Value.ofTruth truth)
  | .float number => integerOfFloat number
  | .nan _ => .fault .notFinite
  | .text content =>
    match integerOfText content with
    | .ok number => .accepted number
    | .error problem => .fault problem
  | _ => .fault .notInteger

/-- A double. -/
def number : Shape Float
  | .float number => .accepted number
  | .nan _ => .accepted Binary64.nan
  | .int number =>
    match Binary64.ofInt? number with
    | some x => .accepted x
    | none => .fault .notNumber
  | .bool truth => .accepted (if truth then 1.0 else 0.0)
  | .text content =>
    match numberOfText content with
    | some x => .accepted x
    | none => .fault .unreadableNumber
  | _ => .fault .notNumber

end Shape

/-! ### Fields of a record -/

variable {α : Type}

/-- A field that has to be given. -/
def required (fields : Context) (name : String) (shape : Shape α) : Checked α :=
  match Dict.get? fields name with
  | some value => (shape value).under (.name name)
  | none => .refused [⟨[.name name], .missing⟩]

/-- A field with a default. -/
def withDefault (fields : Context) (name : String) (shape : Shape α) (default : α) : Checked α :=
  match Dict.get? fields name with
  | some value => (shape value).under (.name name)
  | none => .accepted default

/-- A value in a place where a record of a given kind is expected: its fields, if it has some. -/
def recordFields (kind : RecordKind) : Value → Option Context
  | .dict entries => some entries
  | .record actual fields => if actual = kind then some fields else none
  | _ => none

/-- A record of a given kind, read from a dictionary or taken as it is. -/
def Shape.record (kind : RecordKind) (read : Context → Checked α) : Shape α := fun value ↦
  match recordFields kind value with
  | some fields => read fields
  | none => .fault .notRecord

end Grounding
