import Grounding.Message

/-!
Documents: pieces of context that were retrieved, with metadata and possibly a score.

* `Document` is the type, `Document.read` its shape. A document that is given without an identifier
  gets the fresh one that the reader is called with.
-/

set_option autoImplicit false
set_option relaxedAutoImplicit false

namespace Grounding

/-- A piece of context. -/
structure Document where
  id : String
  text : String := ""
  metadata : Context := []
  score : Option Float := none

namespace Document

/-- The document that a dictionary of fields describes. -/
def ofFields (fresh : String) (fields : Context) : Checked Document :=
  ((((Checked.accepted Document.mk).ap (withDefault fields "id" Shape.text fresh)).ap
    (withDefault fields "text" Shape.text "")).ap
      (withDefault fields "metadata" Shape.dict [])).ap
        (withDefault fields "score" (Shape.nullable Shape.number) none)

/-- The shape of a document. -/
def read (fresh : String) : Shape Document :=
  Shape.record .document (ofFields fresh)

/-- The fields of a document. -/
def toFields (document : Document) : Context :=
  [("id", .text document.id), ("text", .text document.text),
    ("metadata", .dict document.metadata), ("score", .ofOption .float document.score)]

/-- A document as a value. -/
def toValue (document : Document) : Value :=
  .record .document document.toFields

/-- Documents as a list of values. -/
def listValue (documents : List Document) : Value :=
  .list (documents.map toValue)

end Document

end Grounding
