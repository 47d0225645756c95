import Grounding.Decimal
import Grounding.Template.Trail

/-!
Format specifications: how a value is laid out in its field. A specification has the parts
`[[fill]align][sign][z][#][0][width][grouping][.precision][presentation]`, all of them optional.

* `FormatSpec` is the type and `FormatSpec.read` its reader; which presentation and which alignment
  hold by default depends on the type of the value.
* `FormatSpec.layText`, `FormatSpec.layInteger` and `FormatSpec.layFloat` lay values out.
* `Value.formatted` is the text of a value under a specification, within the limits of a platform;
  `Reached.formatted` that of anything that a path leads to.
* `grouped` puts separators between groups of digits, counted from the last one, and fills up with
  zeros to a width, never starting with a separator.
-/

set_option autoImplicit false
set_option relaxedAutoImplicit false

namespace Grounding

/-- Where the padding goes: behind a value, in front of it, around it, or behind its sign. -/
inductive Alignment
  | left
  | right
  | center
  | inner
deriving DecidableEq, Repr

/-- The alignment that a character stands for. -/
def Alignment.ofChar? : Char → Option Alignment
  | '<' => some .left
  | '>' => some .right
  | '^' => some .center
  | '=' => some .inner
  | _ => none

/-- How a number that is not negative shows its sign. -/
inductive SignRule
  | none
  | space
  | plus
deriving DecidableEq, Repr

/-- How digits are grouped. -/
inductive Grouping
  | commas
  | underscores
  | underscoresByFour
deriving DecidableEq, Repr

/-- The number of digits in a group. -/
def Grouping.size : Grouping → Nat
  | .commas => 3
  | .underscores => 3
  | .underscoresByFour => 4

/-- What stands between two groups. -/
def Grouping.separator : Grouping → Char
  | .commas => ','
  | _ => '_'

theorem Grouping.size_pos (grouping : Grouping) : 0 < grouping.size := by
  cases grouping <;> decide

/-- A format specification. -/
structure FormatSpec where
  fill : Char
  align : Alignment
  sign : Option SignRule
  positiveZero : Bool
  alternate : Bool
  width : Option Nat
  grouping : Option Grouping
  precision : Option Nat
  presentation : Char
deriving DecidableEq, Repr

/-- The presentation of a double for which the specification names none. -/
def noPresentation : Char := '\x00'

namespace FormatSpec

/-! ### Reading -/

/-- The fill character and the alignment at the start of a specification. -/
def readAlign : List Char → Option Char × Option Alignment × List Char
  | [] => (none, none, [])
  | [c] =>
    match Alignment.ofChar? c with
    | some align => (none, some align, [])
    | none => (none, none, [c])
  | c :: d :: rest =>
    match Alignment.ofChar? d with
    | some align => (some c, some align, rest)
    | none =>
      match Alignment.ofChar? c with
      | some align => (none, some align, d :: rest)
      | none => (none, none, c :: d :: rest)

/-- The sign rule at the start of what is left. -/
def readSign : List Char → Option SignRule × List Char
  | '-' :: rest => (some .none, rest)
  | ' ' :: rest => (some .space, rest)
  | '+' :: rest => (some .plus, rest)
  | rest => (none, rest)

/-- Whether what is left starts with a given character, which is then taken away. -/
def readMark (mark : Char) : List Char → Bool × List Char
  | c :: rest => if c = mark then (true, rest) else (false, c :: rest)
  | [] => (false, [])

/-- The separator at the start of what is left; there may be one only. -/
def readSeparator : List Char → Except TemplateFault (Option Char × List Char)
  | ',' :: '_' :: _ => .error .bothGroupings
  | '_' :: ',' :: _ => .error .bothGroupings
  | ',' :: rest => .ok (some ',', rest)
  | '_' :: rest => .ok (some '_', rest)
  | rest => .ok (none, rest)

/-- The precision at the start of what is left. -/
def readPrecision : List Char → Except TemplateFault (Option Nat × List Char)
  | '.' :: rest => do
    let (precision, rest) ← readNumber rest
    if precision.isNone then .error .precisionMissing else .ok (precision, rest)
  | rest => .ok (none, rest)

/-- The grouping that a separator asks for under a presentation. -/
def groupingFor (presentation : Char) : Option Char → Except TemplateFault (Option Grouping)
  | none => .ok none
  | some separator =>
    if ['d', 'e', 'f', 'g', 'E', 'G', '%', 'F', noPresentation].contains presentation then
      .ok (some (if separator = '_' then .underscores else .commas))
    else if separator = '_' && ['b', 'o', 'x', 'X'].contains presentation then
      .ok (some .underscoresByFour)
    else .error (.groupingRefused separator presentation)

/-- A specification for values of a type with the given defaults. A zero in front of the width fills
with zeros, behind the sign if the type stands to the right by default and nothing else is asked. -/
def read (presentation : Char) (align : Alignment) (typeName : String) (text : List Char) :
    Except TemplateFault FormatSpec := do
  let (fill, chosen, rest) := readAlign text
  let (sign, rest) := readSign rest
  let (positiveZero, rest) := readMark 'z' rest
  let (alternate, rest) := readMark '#' rest
  let (zeros, rest) := if fill.isNone then readMark '0' rest else (false, rest)
  let (width, rest) ← readNumber rest
  let (separator, rest) ← readSeparator rest
  let (precision, rest) ← readPrecision rest
  let presentation ← match rest with
    | [] => .ok presentation
    | [c] => .ok c
    | _ => .error (TemplateFault.invalidSpec (String.ofList text) typeName)
  let grouping ← groupingFor presentation separator
  return {
    fill := fill.getD (if zeros then '0' else ' ')
    align := chosen.getD (if zeros && align = .right then .inner else align)
    sign, positiveZero, alternate, width, grouping, precision, presentation }

/-! ### Texts -/

/-- A text with padding around it; innermost padding comes behind the given number of leading
characters. -/
def pad (spec : FormatSpec) (lead body : List Char) : List Char :=
  let room := spec.width.getD 0 - (lead.length + body.length)
  match spec.align with
  | .left => lead ++ body ++ List.replicate room spec.fill
  | .right => List.replicate room spec.fill ++ lead ++ body
  | .center =>
    List.replicate (room / 2) spec.fill ++ lead ++ body ++
      List.replicate (room - room / 2) spec.fill
  | .inner => lead ++ List.replicate room spec.fill ++ body

/-- A text that is laid out if as many characters as are asked for can be held. -/
def laid (limits : Limits) (asked : Nat) (text : Unit → List Char) : Except Failure (List Char) :=
  if limits.holds asked then .ok (text ()) else .error .tooLong

/-- Why a text cannot be laid out. -/
def textFault? (spec : FormatSpec) : Option TemplateFault :=
  if spec.presentation ≠ 's' then some (.unknownPresentation spec.presentation "str")
  else if spec.sign = some .space then some .spaceForText
  else if spec.sign.isSome then some .signForText
  else if spec.positiveZero then some .zeroForText
  else if spec.alternate then some .alternateForText
  else if spec.align = .inner then some .innerAlignForText
  else none

/-- A text, cut off at the precision. -/
def layText (spec : FormatSpec) (limits : Limits) (text : List Char) : Except Failure (List Char) :=
  match spec.textFault? with
  | some fault => .error (.argument (.template fault))
  | none =>
    laid limits (spec.width.getD 0) fun _ ↦
      spec.pad [] (text.take (spec.precision.getD text.length))

end FormatSpec

/-! ### Numbers -/

/-- The text of a number in parts: the mark of its base, its whole digits and all that follows. -/
structure NumberText where
  negative : Bool
  mark : List Char
  digits : List Char
  tail : List Char
deriving DecidableEq, Repr

/-- Digits, last one first, in groups up to a width. -/
def grouped (grouping : Grouping) (digits : List Char) (width : Nat) : List Char :=
  let count := min grouping.size (max (max digits.length width) 1)
  let group := digits.take count ++ List.replicate (count - digits.length) '0'
  if digits.length ≤ count && width ≤ count then group
  else
    group ++ grouping.separator :: grouped grouping (digits.drop count) (width - count - 1)
termination_by digits.length + width
decreasing_by
  have hsize := grouping.size_pos
  simp_all
  omega

/-- Digits, first one first, in groups or not, up to a width. -/
def widened (grouping : Option Grouping) (digits : List Char) (width : Nat) : List Char :=
  match grouping with
  | some grouping => (grouped grouping digits.reverse width).reverse
  | none => List.replicate (width - digits.length) '0' ++ digits

namespace FormatSpec

/-- The sign in front of a number. -/
def signOf (spec : FormatSpec) (negative : Bool) : List Char :=
  if negative then ['-']
  else
    match spec.sign with
    | some .plus => ['+']
    | some .space => [' ']
    | _ => []

/-- A number laid out: zeros between sign and digits belong to the groups. -/
def layNumber (spec : FormatSpec) (number : NumberText) : List Char :=
  let lead := spec.signOf number.negative ++ number.mark
  let least :=
    if spec.fill = '0' && spec.align = .inner then
      spec.width.getD 0 - (lead.length + number.tail.length)
    else 0
  let digits := if number.digits.isEmpty then [] else widened spec.grouping number.digits least
  spec.pad lead (digits ++ number.tail)

/-- The base of an integer presentation, and the letter of its mark. -/
def baseOf : Char → Nat × Option Char
  | 'b' => (2, some 'b')
  | 'o' => (8, some 'o')
  | 'x' => (16, some 'x')
  | 'X' => (16, some 'X')
  | _ => (10, none)

/-- An integer in the base of its presentation. -/
def integerText (spec : FormatSpec) (number : Int) : NumberText :=
  let (base, letter) := baseOf spec.presentation
  let digits := Nat.toDigits base number.natAbs
  { negative := decide (number < 0)
    mark := if spec.alternate then letter.toList.flatMap fun c ↦ ['0', c] else []
    digits := if spec.presentation = 'X' then digits.map Char.toUpper else digits
    tail := [] }

/-- An integer as the character of that code point. -/
def layCharacter (spec : FormatSpec) (limits : Limits) (number : Int) :
    Except Failure (List Char) :=
  if spec.sign.isSome then .error (.argument (.template .signForCharacter))
  else if spec.alternate then .error (.argument (.template .alternateForCharacter))
  else if number < -greatestIndex - 1 || greatestIndex < number then
    .error (.overflow .machineInteger)
  else if number < 0 || 0x10FFFF < number then .error (.overflow .codePoint)
  else
    laid limits (spec.width.getD 0) fun _ ↦
      spec.layNumber ⟨false, [], [], [Char.ofNat number.toNat]⟩

/-- Whether a presentation shows an exponent and the like in upper case. -/
def isUpper (presentation : Char) : Bool :=
  presentation = 'E' || presentation = 'F' || presentation = 'G'

/-- The digits of a number of units and their layout. -/
def digitsText (spec : FormatSpec) (units : Nat) : Decimal.Digits × List Char :=
  let one := Binary64.unitsPerOne
  let precision := spec.precision.getD 6
  let mark := if isUpper spec.presentation then 'E' else 'e'
  if spec.presentation = 'e' || spec.presentation = 'E' then
    let number := Decimal.significant units one (precision + 1)
    (number, number.scientific (precision + 1) spec.alternate mark)
  else if ['f', 'F', '%'].contains spec.presentation then
    let number := Decimal.places units one precision
    (number, number.positional (number.point + precision) spec.alternate)
  else if spec.presentation = noPresentation && spec.precision.isNone then
    let number := Decimal.shortest units
    (number, number.general 16 number.digits.length true spec.alternate mark)
  else
    let count := max precision 1
    let number := Decimal.significant units one count
    let fraction := spec.presentation = noPresentation
    let stop : Int := if spec.alternate then count else number.digits.length
    let least := if fraction then count - 1 else count
    (number, number.general least stop fraction spec.alternate mark)

/-- A double in its presentation; a percentage is a hundred times the double. -/
def floatText (spec : FormatSpec) (x : Float) : NumberText :=
  let percent := if spec.presentation = '%' then ['%'] else []
  let upper (text : List Char) := if isUpper spec.presentation then text.map Char.toUpper else text
  match Binary64.read (if spec.presentation = '%' then Binary64.mul x 100.0 else x) with
  | .nan => ⟨false, [], [], upper ['n', 'a', 'n'] ++ percent⟩
  | .infinite negative => ⟨negative, [], [], upper ['i', 'n', 'f'] ++ percent⟩
  | .finite negative units =>
    let (number, text) := spec.digitsText units
    let zero := number.digits.all (· == '0')
    { negative := negative && !(spec.positiveZero && zero)
      mark := []
      digits := text.takeWhile Char.isDigit
      tail := text.dropWhile Char.isDigit ++ percent }

/-- The presentations that only an integer has, and the one it shares with a double. -/
def integerPresentations : List Char :=
  ['b', 'c', 'd', 'o', 'x', 'X', 'n']

/-- The presentations of a double. -/
def floatPresentations : List Char :=
  ['e', 'E', 'f', 'F', 'g', 'G', '%']

/-- The greatest precision of a double. -/
def greatestPrecision : Nat :=
  Nat.pow 2 31 - 1

/-- A double laid out. -/
def layFloat (spec : FormatSpec) (limits : Limits) (x : Float) : Except Failure (List Char) :=
  if greatestPrecision < spec.precision.getD 0 then .error (.argument (.template .precisionTooBig))
  else
    laid limits (max (spec.width.getD 0) (spec.precision.getD 0)) fun _ ↦
      spec.layNumber (spec.floatText x)

/-- An integer in the base of its presentation, laid out. -/
def layBased (spec : FormatSpec) (limits : Limits) (number : Int) :
    Except Failure (List Char) := do
  if (baseOf spec.presentation).1 = 10 then limits.checkDigits number
  laid limits (spec.width.getD 0) fun _ ↦ spec.layNumber (spec.integerText number)

/-- An integer laid out, as a double if its presentation is one of a double. -/
def layInteger (spec : FormatSpec) (limits : Limits) (typeName : String) (number : Int) :
    Except Failure (List Char) :=
  if floatPresentations.contains spec.presentation then
    match Binary64.ofInt? number with
    | some x => spec.layFloat limits x
    | none => .error (.overflow .integer)
  else if !integerPresentations.contains spec.presentation then
    .error (.argument (.template (.unknownPresentation spec.presentation typeName)))
  else if spec.precision.isSome then .error (.argument (.template .precisionForInteger))
  else if spec.positiveZero then .error (.argument (.template .zeroForInteger))
  else if spec.presentation = 'c' then spec.layCharacter limits number
  else spec.layBased limits number

end FormatSpec

/-- A fault of a template or a specification, as a failure. -/
def TemplateFault.lift {α : Type} : Except TemplateFault α → Except Failure α
  | .ok value => .ok value
  | .error fault => .error (.argument (.template fault))

/-- The text of a double under a format specification that is not empty. -/
def FormatSpec.floatFormatted (limits : Limits) (x : Float) (text : List Char) :
    Except Failure (List Char) := do
  let typeName := (Value.float x).typeName
  let spec ← TemplateFault.lift (FormatSpec.read noPresentation .right typeName text)
  if spec.presentation = noPresentation || spec.presentation = 'n' ||
      FormatSpec.floatPresentations.contains spec.presentation then spec.layFloat limits x
  else .error (.argument (.template (.unknownPresentation spec.presentation typeName)))

/-- The text of a value under a format specification. An empty one is fit for every type. -/
def Value.formatted (limits : Limits) (value : Value) (text : List Char) :
    Except Failure (List Char) :=
  if text.isEmpty then (limits.display value).map String.toList
  else
    match value with
    | .text content => do
      (← TemplateFault.lift (FormatSpec.read 's' .left value.typeName text)).layText limits
        content.toList
    | .int number => do
      (← TemplateFault.lift (FormatSpec.read 'd' .right value.typeName text)).layInteger limits
        value.typeName number
    | .bool truth => do
      (← TemplateFault.lift (FormatSpec.read 'd' .right value.typeName text)).layInteger limits
        value.typeName (ofTruth truth)
    | .float number => FormatSpec.floatFormatted limits number text
    | .nan _ => FormatSpec.floatFormatted limits Binary64.nan text
    | _ => .error (.mistyped (.noFormat value.typeName))

/-- The text of what was reached under a format specification. -/
def Reached.formatted {platform : Platform} (reached : Reached platform.Thing)
    (spec : List Char) : Except Failure (List Char) :=
  match reached with
  | .value content => content.formatted platform.toLimits spec
  | .thing found =>
    Incident.lift ((platform.formatted found (String.ofList spec)).map String.toList)

end Grounding
