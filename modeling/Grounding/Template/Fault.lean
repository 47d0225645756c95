import Grounding.Text.Quoted

/-!
What can be wrong with a template: with its braces, with the path of a field, or with the format
specification of a field for the type of value it meets.

* `TemplateFault` has one constructor for each cause, `TemplateFault.message` its words.
-/

set_option autoImplicit false
set_option relaxedAutoImplicit false

namespace Grounding

/-- What a template or a format specification can be refused for. -/
inductive TemplateFault
  /-- A closing brace that stands alone. -/
  | loneClose
  /-- An opening brace at the very end. -/
  | loneOpen
  /-- The end of the template inside a field name. -/
  | unclosedField
  /-- An opening brace inside a field name. -/
  | openInName
  /-- The end of the template where a conversion should stand. -/
  | conversionMissing
  /-- Something other than a colon after a conversion. -/
  | colonExpected
  /-- The end of the template inside a format specification. -/
  | unclosedSpec
  /-- A field that is empty or a number. -/
  | positional
  /-- A step of a field path without a name. -/
  | emptyAttribute
  /-- A bracket of a field path that is never closed. -/
  | unclosedBracket
  /-- Something other than a point or a bracket after a closing bracket. -/
  | strayAfterBracket
  /-- A number too large to be an index, a width or a precision. -/
  | numberTooLong
  /-- A precision beyond what a number can be formatted with. -/
  | precisionTooBig
  /-- Fields nested too deeply in format specifications. -/
  | nestedTooDeep
  /-- A conversion that does not exist. -/
  | unknownConversion (conversion : Char)
  /-- A format specification with something left over. -/
  | invalidSpec (spec typeName : String)
  /-- A point without a precision. -/
  | precisionMissing
  /-- Both kinds of digit grouping. -/
  | bothGroupings
  /-- A digit grouping for a presentation that has none. -/
  | groupingRefused (separator presentation : Char)
  /-- A presentation that the type does not have. -/
  | unknownPresentation (presentation : Char) (typeName : String)
  /-- Options that a text does not have. -/
  | spaceForText
  | signForText
  | zeroForText
  | alternateForText
  | innerAlignForText
  /-- Options that an integer does not have. -/
  | precisionForInteger
  | zeroForInteger
  | signForCharacter
  | alternateForCharacter
deriving DecidableEq, Repr

/-- A character in a message, by its code if it is not visible ASCII below the given bound. -/
def visibleOrCode (bound : Nat) (c : Char) : String :=
  if 32 < c.toNat && c.toNat < bound then String.ofList [c]
  else String.ofList ('\\' :: 'x' :: Nat.toDigits 16 c.toNat)

/-- The words for a fault. -/
def TemplateFault.message : TemplateFault → String
  | .loneClose => "Single '\x7d' encountered in format string"
  | .loneOpen => "Single '\x7b' encountered in format string"
  | .unclosedField => "expected '\x7d' before end of string"
  | .openInName => "unexpected '\x7b' in field name"
  | .conversionMissing => "end of string while looking for conversion specifier"
  | .colonExpected => "expected ':' after conversion specifier"
  | .unclosedSpec => "unmatched '\x7b' in format spec"
  | .positional => "Format string contains positional fields"
  | .emptyAttribute => "Empty attribute in format string"
  | .unclosedBracket => "Missing ']' in format string"
  | .strayAfterBracket => "Only '.' or '[' may follow ']' in format field specifier"
  | .numberTooLong => "Too many decimal digits in format string"
  | .precisionTooBig => "precision too big"
  | .nestedTooDeep => "Max string recursion exceeded"
  | .unknownConversion conversion =>
    "Unknown conversion specifier " ++ visibleOrCode 127 conversion
  | .invalidSpec spec typeName =>
    "Invalid format specifier '" ++ spec ++ "' for object of type '" ++ typeName ++ "'"
  | .precisionMissing => "Format specifier missing precision"
  | .bothGroupings => "Cannot specify both ',' and '_'."
  | .groupingRefused separator presentation =>
    "Cannot specify '" ++ String.ofList [separator] ++ "' with '" ++
      visibleOrCode 128 presentation ++ "'."
  | .unknownPresentation presentation typeName =>
    "Unknown format code '" ++ visibleOrCode 128 presentation ++ "' for object of type '" ++
      typeName ++ "'"
  | .spaceForText => "Space not allowed in string format specifier"
  | .signForText => "Sign not allowed in string format specifier"
  | .zeroForText => "Negative zero coercion (z) not allowed in string format specifier"
  | .alternateForText => "Alternate form (#) not allowed in string format specifier"
  | .innerAlignForText => "'=' alignment not allowed in string format specifier"
  | .precisionForInteger => "Precision not allowed in integer format specifier"
  | .zeroForInteger => "Negative zero coercion (z) not allowed in integer format specifier"
  | .signForCharacter => "Sign not allowed with integer format specifier 'c'"
  | .alternateForCharacter =>
    "Alternate form (#) not allowed with integer format specifier 'c'"

end Grounding
