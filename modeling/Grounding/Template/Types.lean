import Grounding.Template.Platform

/-!
A platform whose things are types. Every value has a type, numbers have parts, and types have a name
and ancestors; no value has an attribute besides these. On other platforms there are more.

* `TypeThing` is a type by its name, or several types.
* `Platform.typed` is the platform.
-/

set_option autoImplicit false
set_option relaxedAutoImplicit false

namespace Grounding

/-- The attribute of a number. Integers are fractions over one. -/
def Value.numberProperty? (value : Value) (name : String) : Option Value :=
  let ofInteger (number : Int) : Option Value :=
    match name with
    | "real" => some (.int number)
    | "numerator" => some (.int number)
    | "imag" => some (.int 0)
    | "denominator" => some (.int 1)
    | _ => none
  match value, name with
  | .int number, _ => ofInteger number
  | .bool truth, _ => ofInteger (ofTruth truth)
  | .float _, "real" => some value
  | .float _, "imag" => some (.float 0.0)
  | .nan _, "real" => some value
  | .nan _, "imag" => some (.float 0.0)
  | _, _ => none

/-- A type by its name, or several types. -/
inductive TypeThing
  | type (name : String)
  | types (names : List String)

namespace TypeThing

/-- The types that a type extends, the nearest first, itself in front. -/
def ancestry (name : String) : List String :=
  match name with
  | "object" => ["object"]
  | "bool" => ["bool", "int", "object"]
  | _ => [name, "object"]

/-- The name of the type of what was reached. -/
def typeName : Reached TypeThing → String
  | .value content => content.typeName
  | .thing (.type _) => "type"
  | .thing (.types _) => "tuple"

/-- How a type is written. -/
def typeLiteral (name : String) : String :=
  "<class " ++ Text.quoted name ++ ">"

/-- How types are written. -/
def literal : TypeThing → String
  | .type name => typeLiteral name
  | .types [name] => "(" ++ typeLiteral name ++ ",)"
  | .types names => "(" ++ ", ".intercalate (names.map typeLiteral) ++ ")"

/-- The attribute of a type. -/
def typeProperty? (typeName name : String) : Option (Reached TypeThing) :=
  match name with
  | "__name__" => some (.value (.text typeName))
  | "__qualname__" => some (.value (.text typeName))
  | "__module__" => some (.value (.text "builtins"))
  | "__mro__" => some (.thing (.types (ancestry typeName)))
  | "__bases__" => some (.thing (.types ((ancestry typeName).tail.take 1)))
  | "__base__" =>
    match (ancestry typeName).tail.head? with
    | some base => some (.thing (.type base))
    | none => some (.value .null)
  | _ => none

/-- A use that a type does not allow. -/
def misuse (message : String) : Incident where
  kind := .type
  typeName := "TypeError"
  message := message

/-- The words for an attribute that is missing. -/
def missing (reached : Reached TypeThing) (name : String) : String :=
  match reached with
  | .thing (.type typeName) => "type object '" ++ typeName ++ "' has no attribute '" ++ name ++ "'"
  | _ => "'" ++ typeName reached ++ "' object has no attribute '" ++ name ++ "'"

/-- The attribute of what was reached. -/
def property (reached : Reached TypeThing) (name : String) :
    Except Incident (Reached TypeThing) :=
  let own : Option (Reached TypeThing) :=
    match reached with
    | .value content => (content.numberProperty? name).map .value
    | .thing (.type typeName) => typeProperty? typeName name
    | .thing (.types _) => none
  match own with
  | some part => .ok part
  | none =>
    if name = "__class__" then .ok (.thing (.type (typeName reached)))
    else .error ⟨.attribute, "AttributeError", missing reached name⟩

/-- The part under a key. -/
def entry : TypeThing → String → Except Incident (Reached TypeThing)
  | .type _, _ => .error (misuse "'type' object is not subscriptable")
  | .types _, _ => .error (misuse "tuple indices must be integers or slices, not str")

/-- The part at a position. -/
def element : TypeThing → Nat → Except Incident (Reached TypeThing)
  | .type _, _ => .error (misuse "'type' object is not subscriptable")
  | .types names, position =>
    match names[position]? with
    | some name => .ok (.thing (.type name))
    | none => .error ⟨.reported .index, "IndexError", "tuple index out of range"⟩

/-- The text under a format specification, of which there is only the empty one. -/
def formatted (thing : TypeThing) (spec : String) : Except Incident String :=
  if spec.isEmpty then .ok thing.literal
  else .error (misuse (TypeFault.message (.noFormat (typeName (.thing thing)))))

end TypeThing

/-- The platform of types. -/
def Platform.typed : Platform where
  depth := 100000
  digits := some 4300
  holds asked := decide (asked ≤ Nat.pow 2 30)
  Thing := TypeThing
  property := TypeThing.property
  entry := TypeThing.entry
  element := TypeThing.element
  literal thing := .ok thing.literal
  display thing := .ok thing.literal
  formatted := TypeThing.formatted

end Grounding
