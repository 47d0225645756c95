import Grounding.Field
import Grounding.Value.Display

/-!
Values as JSON texts. A number without point and exponent is an integer, any other a double; a key
that occurs again keeps its place and takes the later value. The words `NaN`, `Infinity` and
`-Infinity` are read as well.

* `Value.ofJson?` reads a text, character by character: characters make tokens, tokens make values.
  What a token may be depends on what has been opened so far, so that no malformed text is read.
* `Value.toJson` writes a value. Doubles that are not finite, and predicates, have no JSON form and
  are written as null; a record is written as the dictionary of its fields.
* `Json.joinPairs`: two UTF-16 units of a pair, each escaped by itself, are one character.
-/

set_option autoImplicit false
set_option relaxedAutoImplicit false

namespace Grounding

namespace Json

/-! ### Tokens -/

/-- The smallest parts of a text. -/
inductive Token
  | openList
  | closeList
  | openDict
  | closeDict
  | comma
  | colon
  | scalar (value : Value)

/-- The value of a hexadecimal digit. -/
def hexValue? (c : Char) : Option Nat :=
  if c.isDigit then some (c.toNat - '0'.toNat)
  else if 'a' ≤ c ∧ c ≤ 'f' then some (c.toNat - 'a'.toNat + 10)
  else if 'A' ≤ c ∧ c ≤ 'F' then some (c.toNat - 'A'.toNat + 10)
  else none

/-- The number that hexadecimal digits write. -/
def hexNumber? (digits : List Char) : Option Nat :=
  digits.foldlM (fun number c ↦ (hexValue? c).map (16 * number + ·)) 0

/-- The character of a code; a unit of a pair that stands alone is none. -/
def charOf (code : Nat) : Char :=
  if code.isValidChar then Char.ofNat code else '\uFFFD'

/-- Codes as characters, two units of a pair as one. -/
def joinPairs : List Nat → List Char
  | [] => []
  | [code] => [charOf code]
  | high :: low :: rest =>
    if 0xD800 ≤ high ∧ high < 0xDC00 ∧ 0xDC00 ≤ low ∧ low < 0xE000 then
      charOf (0x10000 + (high - 0xD800) * 0x400 + (low - 0xDC00)) :: joinPairs rest
    else charOf high :: joinPairs (low :: rest)

example : joinPairs [0xD83D, 0xDE00, 0xD83D, 0x61] = ['😀', '\uFFFD', 'a'] := by decide

/-- The code that an escaped letter stands for. -/
def escapeCode? : Char → Option Nat
  | '"' => some 0x22
  | '\\' => some 0x5C
  | '/' => some 0x2F
  | 'b' => some 0x08
  | 'f' => some 0x0C
  | 'n' => some 0x0A
  | 'r' => some 0x0D
  | 't' => some 0x09
  | _ => none

/-- A number, or one of the words for null, the truth values and the doubles that are not finite.
All NaNs of a text are one. -/
def scalarOf? (word : String) : Option Value :=
  match word with
  | "null" => some .null
  | "true" => some (.bool true)
  | "false" => some (.bool false)
  | "NaN" => some (.nan 0)
  | "Infinity" => some (.float (Binary64.infinity false))
  | "-Infinity" => some (.float (Binary64.infinity true))
  | _ =>
    if word.any fun c ↦ c == '.' || c == 'e' || c == 'E' then
      (Shape.numberOfText word).map .float
    else word.toInt?.map .int

/-- A text from its codes, the last one first. -/
def textOf (seen : List Nat) : Value :=
  .text (String.ofList (joinPairs seen.reverse))

/-! ### Values -/

/-- A list or dictionary whose end has not been seen, with the key whose value comes next. -/
inductive Opened
  | list (items : Array Value)
  | dict (entries : Context) (key : Option String)

/-- What may come next. -/
inductive Awaited
  | value
  | valueOrEnd
  | key
  | keyOrEnd
  | colon
  | commaOrEnd
  | nothing
deriving DecidableEq

/-- How far a reading has come: what is open, the innermost first, and the value once it is
whole. -/
structure Progress where
  opened : List Opened := []
  awaited : Awaited := .value
  whole : Value := .null

namespace Progress

/-- A value in the place where the reading stands. -/
def place (value : Value) : List Opened → Option Progress
  | [] => some { awaited := .nothing, whole := value }
  | .list items :: outer =>
    some { opened := .list (items.push value) :: outer, awaited := .commaOrEnd }
  | .dict entries (some key) :: outer =>
    some { opened := .dict (Dict.insert entries key value) none :: outer, awaited := .commaOrEnd }
  | .dict _ none :: _ => none

/-- Whether a value may stand here. -/
def awaitsValue (progress : Progress) : Bool :=
  progress.awaited = .value || progress.awaited = .valueOrEnd

/-- The reading after one more token. -/
def take (progress : Progress) (token : Token) : Option Progress :=
  match token, progress.opened with
  | .openList, opened =>
    if progress.awaitsValue then
      some { opened := .list #[] :: opened, awaited := .valueOrEnd }
    else none
  | .openDict, opened =>
    if progress.awaitsValue then
      some { opened := .dict [] none :: opened, awaited := .keyOrEnd }
    else none
  | .closeList, .list items :: outer =>
    if progress.awaited = .valueOrEnd || progress.awaited = .commaOrEnd then
      place (.list items.toList) outer
    else none
  | .closeDict, .dict entries none :: outer =>
    if progress.awaited = .keyOrEnd || progress.awaited = .commaOrEnd then
      place (.dict entries) outer
    else none
  | .comma, .list _ :: _ =>
    if progress.awaited = .commaOrEnd then some { progress with awaited := .value } else none
  | .comma, .dict _ _ :: _ =>
    if progress.awaited = .commaOrEnd then some { progress with awaited := .key } else none
  | .colon, _ =>
    if progress.awaited = .colon then some { progress with awaited := .value } else none
  | .scalar value, opened =>
    if progress.awaitsValue then place value opened
    else
      match value, opened with
      | .text key, .dict entries none :: outer =>
        if progress.awaited = .key || progress.awaited = .keyOrEnd then
          some { opened := .dict entries (some key) :: outer, awaited := .colon }
        else none
      | _, _ => none
  | _, _ => none

end Progress

/-! ### Characters -/

/-- The token that is being read, with the characters or codes seen of it, the last one first. -/
inductive Pending
  | none
  | word (seen : List Char)
  | text (seen : List Nat)
  | escape (seen : List Nat)
  | code (seen : List Nat) (digits : List Char)

/-- A token that is being read, and what was read before it. -/
structure Reader where
  pending : Pending := .none
  progress : Progress := {}

namespace Reader

/-- The token of a character that stands for itself. -/
def mark? : Char → Option Token
  | '[' => some .openList
  | ']' => some .closeList
  | '\x7b' => some .openDict
  | '\x7d' => some .closeDict
  | ',' => some .comma
  | ':' => some .colon
  | _ => none

/-- A character between tokens. -/
def begin (progress : Progress) (c : Char) : Option Reader :=
  match mark? c with
  | some token => (progress.take token).map fun progress ↦ { progress }
  | none =>
    if c = '"' then some ⟨.text [], progress⟩
    else if c = ' ' || c = '\n' || c = '\r' || c = '\t' then some { progress }
    else some ⟨.word [c], progress⟩

/-- The progress at the end of a word. -/
def endWord (seen : List Char) (progress : Progress) : Option Progress :=
  (scalarOf? (String.ofList seen.reverse)).bind fun value ↦ progress.take (.scalar value)

/-- The reading after one more character. -/
def take (reader : Reader) (c : Char) : Option Reader :=
  match reader.pending with
  | .none => begin reader.progress c
  | .word seen =>
    if c.isAlphanum || c = '.' || c = '+' || c = '-' then
      some { reader with pending := .word (c :: seen) }
    else (endWord seen reader.progress).bind fun progress ↦ begin progress c
  | .text seen =>
    if c = '"' then
      (reader.progress.take (.scalar (textOf seen))).map fun progress ↦ { progress }
    else if c = '\\' then some { reader with pending := .escape seen }
    else some { reader with pending := .text (c.toNat :: seen) }
  | .escape seen =>
    if c = 'u' then some { reader with pending := .code seen [] }
    else (escapeCode? c).map fun code ↦ { reader with pending := .text (code :: seen) }
  | .code seen digits =>
    if digits.length < 3 then some { reader with pending := .code seen (c :: digits) }
    else
      (hexNumber? (c :: digits).reverse).map fun code ↦
        { reader with pending := .text (code :: seen) }

/-- The value at the end of a text. -/
def finish (reader : Reader) : Option Value := do
  let progress ← match reader.pending with
    | .none => some reader.progress
    | .word seen => endWord seen reader.progress
    | _ => none
  if progress.awaited = .nothing then some progress.whole else none

end Reader

/-! ### Writing -/

/-- A character inside a text. -/
def escaped (c : Char) : List Char :=
  if c = '"' || c = '\\' then ['\\', c]
  else if c.toNat < 0x20 || c.toNat = 0x7F then '\\' :: 'u' :: Text.hex 4 c.toNat
  else [c]

/-- A text between double quotes. -/
def quoted (content : String) : String :=
  String.ofList ('"' :: content.toList.flatMap escaped ++ ['"'])

/-- A double, if it is finite. -/
def number (x : Float) : String :=
  match Binary64.read x with
  | .finite _ _ => Decimal.plain x
  | _ => "null"

end Json

namespace Value

/-- The value that a JSON text writes. -/
def ofJson? (text : String) : Option Value :=
  (text.toList.foldlM Json.Reader.take {}).bind Json.Reader.finish

mutual

/-- A value as a JSON text. -/
def toJson : Value → String
  | .null => "null"
  | .bool truth => if truth then "true" else "false"
  | .int number => toString number
  | .float number => Json.number number
  | .nan _ => "null"
  | .text content => Json.quoted content
  | .list items => "[" ++ ",".intercalate (itemsToJson items) ++ "]"
  | .dict entries => "\x7b" ++ ",".intercalate (entriesToJson entries) ++ "\x7d"
  | .predicate _ _ => "null"
  | .record _ fields => "\x7b" ++ ",".intercalate (entriesToJson fields) ++ "\x7d"

/-- The texts of the items of a list. -/
def itemsToJson : List Value → List String
  | [] => []
  | value :: rest => toJson value :: itemsToJson rest

/-- The texts of the entries of a dictionary. -/
def entriesToJson : List (String × Value) → List String
  | [] => []
  | (key, value) :: rest => (Json.quoted key ++ ":" ++ toJson value) :: entriesToJson rest

end

end Value

end Grounding
