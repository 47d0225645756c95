import Grounding.Field

/-!
Requests to a document store: the text to search for, how many documents to return at most, how
similar they have to be, and a filter expression that only the store interprets.

* `SearchRequest` is the type, `SearchRequest.read` its shape, `SearchRequest.toFields` its fields.
* `SearchRequest.mutate` derives a request from another one by reading changed fields again.
* A request returns at least one document at most, and its threshold lies between zero and one.
-/

set_option autoImplicit false
set_option relaxedAutoImplicit false

namespace Grounding

/-- The parameters of one similarity search. A null filter expression means no filter. -/
structure SearchRequest where
  query : String := ""
  topK : Nat := 4
  similarityThreshold : Float := 0.0
  filterExpression : Value := .null

namespace SearchRequest

/-- A number of documents: an integer from one. -/
def topKShape : Shape Nat := fun value ↦
  (Shape.integer value).andThen fun count ↦
    if count < 1 then .fault .belowLeast else .accepted count.toNat

/-- A similarity threshold: a double from zero to one, the upper bound checked first. -/
def thresholdShape : Shape Float := fun value ↦
  (Shape.number value).andThen fun threshold ↦
    if !Binary64.le threshold 1.0 then .fault .aboveMost
    else if !Binary64.le 0.0 threshold then .fault .belowLeast
    else .accepted threshold

/-- The request that a dictionary of fields describes. -/
def ofFields (fields : Context) : Checked SearchRequest :=
  (((Checked.accepted SearchRequest.mk).ap (withDefault fields "query" Shape.text "")).ap
    (withDefault fields "top_k" topKShape 4)).ap
      (withDefault fields "similarity_threshold" thresholdShape 0.0) |>.ap
        (withDefault fields "filter_expression" Shape.anything .null)

/-- The shape of a request. -/
def read : Shape SearchRequest :=
  Shape.record .searchRequest ofFields

/-- The fields of a request. -/
def toFields (request : SearchRequest) : Context :=
  [("query", .text request.query), ("top_k", .int request.topK),
    ("similarity_threshold", .float request.similarityThreshold),
    ("filter_expression", request.filterExpression)]

/-- A request as a value. -/
def toValue (request : SearchRequest) : Value :=
  .record .searchRequest request.toFields

/-- Whether the request is restricted by a filter. -/
def hasFilterExpression (request : SearchRequest) : Bool :=
  match request.filterExpression with
  | .null => false
  | _ => true

/-- The request with some fields changed, all of them read again. -/
def mutate (request : SearchRequest) (updates : Context) : Checked SearchRequest :=
  ofFields (request.toFields.merge updates)

end SearchRequest

end Grounding
