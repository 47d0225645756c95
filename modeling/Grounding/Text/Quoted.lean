import Grounding.Text.Printable

/-!
Quoted texts. A text stands between single quotes, or between double quotes when it holds single
ones and no double ones; what cannot be printed is written as an escape.

* `quoted` keeps printable characters of every script, `quotedAscii` keeps ASCII ones only.
* `hex` writes a number with at least a given count of hexadecimal digits.
-/

set_option autoImplicit false
set_option relaxedAutoImplicit false

namespace Grounding.Text

/-- A number in lower-case hexadecimal, padded with zeros to a width. -/
def hex (width number : Nat) : List Char :=
  let digits := Nat.toDigits 16 number
  List.replicate (width - digits.length) '0' ++ digits

/-- The escape of a character by its code point, with two, four or eight digits. -/
def codeEscape (c : Char) : List Char :=
  if c.toNat ≤ 0xFF then '\\' :: 'x' :: hex 2 c.toNat
  else if c.toNat ≤ 0xFFFF then '\\' :: 'u' :: hex 4 c.toNat
  else '\\' :: 'U' :: hex 8 c.toNat

/-- One character inside a given quote mark. -/
def quotedChar (keeps : Char → Bool) (quote c : Char) : List Char :=
  if c = quote || c = '\\' then ['\\', c]
  else if c = '\t' then ['\\', 't']
  else if c = '\n' then ['\\', 'n']
  else if c = '\r' then ['\\', 'r']
  else if keeps c then [c]
  else codeEscape c

/-- The quote mark for a text: double quotes only where they save escapes. -/
def quoteMark (text : List Char) : Char :=
  if text.contains '\'' && !text.contains '"' then '"' else '\''

/-- A text between quote marks; `keeps` tells which characters stand for themselves. -/
def quotedWith (keeps : Char → Bool) (text : List Char) : List Char :=
  let quote := quoteMark text
  quote :: text.flatMap (quotedChar keeps quote) ++ [quote]

/-- A text between quote marks, printable characters as they are. -/
def quoted (text : String) : String :=
  String.ofList (quotedWith isPrintable text.toList)

/-- Printable ASCII. -/
def isPlainAscii (c : Char) : Bool :=
  decide (0x20 ≤ c.toNat) && decide (c.toNat < 0x7F)

/-- A quoted text with everything outside ASCII escaped as well. -/
def asciiOnly (text : String) : String :=
  String.ofList (text.toList.flatMap fun c ↦ if c.toNat < 0x80 then [c] else codeEscape c)

end Grounding.Text
