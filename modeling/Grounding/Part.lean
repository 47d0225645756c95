import Grounding.Failure

/-!
Parts: what is offered as a component. A thing that cannot do what a component has to do is known by
the name of its type alone.

* `Part.require` takes the component out of a part or says what it was offered for.
-/

set_option autoImplicit false
set_option relaxedAutoImplicit false

namespace Grounding

/-- What is offered as a component. -/
inductive Part (α : Type)
  | fit (component : α)
  | unfit (typeName : String)

/-- The component that a part is, which has to be one of the expected kind for its place. -/
def Part.require {α : Type} (place expected : String) : Part α → Except Failure α
  | .fit component => .ok component
  | .unfit typeName => .error (.configuration (.wrongPart place expected typeName))

end Grounding
