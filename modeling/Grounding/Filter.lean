import Grounding.Action

/-!
Filter expressions. To this library most of them are opaque; the store in memory understands null,
dictionaries of required values, and predicates.

* `Filter.accepts` decides whether metadata satisfy an expression. `Callables` are predicates with
  any answer, which values only know by their marks.
* `Filter.override?` is the expression of one call, if its context holds a usable one: anything but
  null and blank texts. `Filter.resolve` prefers it to a default.
-/

set_option autoImplicit false
set_option relaxedAutoImplicit false

namespace Grounding

/-- The answer of a predicate about metadata. -/
def Predicate.answer (rule : Predicate Value) (metadata : Context) : Except Failure Value :=
  match rule with
  | .item key =>
    match Dict.get? metadata key with
    | some value => .ok value
    | none => .error (.missingKey (.text key))
  | .lookup key => .ok ((Dict.get? metadata key).getD .null)
  | .equals key operand => .ok (.bool (Value.equal ((Dict.get? metadata key).getD .null) operand))
  | .size => .ok (.int metadata.length)
  | .fails kind message => .error (.reported kind message)

/-- What callables answer that are none of the first-order predicates, by their marks. -/
abbrev Callables : Type := Nat → Option (Context → Except Failure Value)

/-- A way to read the text of a filter expression. -/
abbrev FilterParser (σ : Type) : Type := String → Action σ Value

namespace Filter

/-- Whether metadata satisfy a filter expression. A key that is absent counts as null. A callable
with an answer of its own is asked for it, any other one stands for its first-order predicate. -/
def accepts (metadata : Context) (expression : Value) (callables : Callables := fun _ ↦ none) :
    Except Failure Bool :=
  match expression with
  | .null => .ok true
  | .predicate mark rule =>
    match callables mark with
    | some answer => (answer metadata).map Value.isTrue
    | none => (rule.answer metadata).map Value.isTrue
  | .dict wanted =>
    .ok (wanted.all fun (key, value) ↦ Value.equal ((Dict.get? metadata key).getD .null) value)
  | other => .error (.mistyped (.unsupportedFilter other.typeName))

/-- The key of a context that holds the filter expression of one call. -/
def contextKey : String := "qa_filter_expression"

/-- The filter expression of one call. -/
def override? (context : Context) : Option Value :=
  match Dict.get? context contextKey with
  | none => none
  | some .null => none
  | some (.text content) => if Text.isBlank content then none else some (.text content)
  | some value => some value

/-- The filter expression for one call: its own one, read by the parser if it is a text and there is
a parser, otherwise the default. -/
def resolve {σ : Type} (context : Context) (default : Value) (parser : Option (FilterParser σ)) :
    Action σ Value :=
  match override? context, parser with
  | none, _ => pure default
  | some (.text content), some parse => parse content
  | some value, _ => pure value

end Filter

end Grounding
