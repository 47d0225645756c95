import Grounding.Document
import Grounding.Filter

/-!
Document stores, as far as a search is concerned, and places in a world.

* `DocumentStore` is anything that answers a search request with documents, or with nothing.
* `Slot` is a place in a world that holds a state of its own: what is put there is found there, and
  changing it twice is changing it once.
-/

set_option autoImplicit false
set_option relaxedAutoImplicit false

namespace Grounding

/-- A store of documents: the answer to a search request, `none` if the store gave null. -/
abbrev DocumentStore (σ : Type) : Type := SearchRequest → Action σ (Option (List Document))

/-- A place in a world. -/
structure Slot (σ α : Type) where
  get : σ → α
  set : α → σ → σ
  get_set : ∀ (content : α) (world : σ), get (set content world) = content
  set_get : ∀ world : σ, set (get world) world = world
  set_set : ∀ (first second : α) (world : σ), set second (set first world) = set second world

namespace Slot

variable {σ α : Type}

/-- The content of a place. -/
def read (slot : Slot σ α) : Action σ α :=
  Action.onWorld fun world ↦ (slot.get world, world)

/-- Changes the content of a place. -/
def write (slot : Slot σ α) (content : α) : Action σ Unit :=
  Action.change (slot.set content)

/-- A world that is nothing but the place. -/
def whole : Slot α α where
  get := id
  set content _ := content
  get_set _ _ := rfl
  set_get _ := rfl
  set_set _ _ _ := rfl

end Slot

end Grounding
