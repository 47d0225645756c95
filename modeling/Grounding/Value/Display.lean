import Grounding.Decimal
import Grounding.Text.Quoted
import Grounding.Value

/-!
The texts of values.

* `Value.literal` writes a value so that its type can be seen: texts are quoted.
* `Value.display` writes a text as it is and every other value as its literal.
-/

set_option autoImplicit false
set_option relaxedAutoImplicit false

namespace Grounding

/-- The literal of a truth value. -/
def truthText (truth : Bool) : String :=
  if truth then "True" else "False"

namespace Value

mutual

/-- A value written so that its type can be seen. -/
def literal : Value → String
  | .null => "None"
  | .bool truth => truthText truth
  | .int number => toString number
  | .float number => Decimal.plain number
  | .nan _ => "nan"
  | .text content => Text.quoted content
  | .list items => "[" ++ ", ".intercalate (itemLiterals items) ++ "]"
  | .dict entries => "\x7b" ++ ", ".intercalate (entryLiterals entries) ++ "\x7d"
  | .predicate _ _ => "<function>"
  | .record kind fields => kind.name ++ "(" ++ ", ".intercalate (fieldLiterals fields) ++ ")"

/-- The literals of the items of a list. -/
def itemLiterals : List Value → List String
  | [] => []
  | value :: rest => literal value :: itemLiterals rest

/-- The literals of the entries of a dictionary. -/
def entryLiterals : List (String × Value) → List String
  | [] => []
  | (key, value) :: rest => (Text.quoted key ++ ": " ++ literal value) :: entryLiterals rest

/-- The literals of the fields of a record. -/
def fieldLiterals : List (String × Value) → List String
  | [] => []
  | (name, value) :: rest => (name ++ "=" ++ literal value) :: fieldLiterals rest

end

/-- A text as it is, any other value as its literal. -/
def display : Value → String
  | .text content => content
  | value => literal value

end Value

end Grounding
