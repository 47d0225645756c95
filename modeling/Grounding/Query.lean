import Grounding.Message

/-!
Queries: what the user wants to know, with the history of the conversation and a context that
travels along.

* `Query` is the type, `Query.read` its shape, `Query.mutate` derives a query by reading changed
  fields again.
* `Query.equal` compares queries. Equal queries have the same `hashKey`: `hashKey_eq_of_equal`.
* `mutate_text`: a change of the text alone is never refused.
-/

set_option autoImplicit false
set_option relaxedAutoImplicit false

namespace Grounding

/-- What the user wants to know. -/
structure Query where
  text : String
  history : List Message := []
  context : Context := []

namespace Query

/-- The query that a dictionary of fields describes. -/
def ofFields (fields : Context) : Checked Query :=
  (((Checked.accepted Query.mk).ap (required fields "text" Shape.text)).ap
    (withDefault fields "history" (Shape.list Message.read) [])).ap
      (withDefault fields "context" Shape.dict [])

/-- The shape of a query. -/
def read : Shape Query :=
  Shape.record .query ofFields

/-- The fields of a query. -/
def toFields (query : Query) : Context :=
  [("text", .text query.text), ("history", .list (query.history.map Message.toValue)),
    ("context", .dict query.context)]

/-- A query as a value. -/
def toValue (query : Query) : Value :=
  .record .query query.toFields

/-- The query with some fields changed, all of them read again. -/
def mutate (query : Query) (updates : Context) : Checked Query :=
  ofFields (query.toFields.merge updates)

/-- The query with another text. -/
def withText (query : Query) (text : String) : Query :=
  { query with text }

/-- Equality of queries. -/
def equal (a b : Query) : Bool :=
  a.text == b.text && Message.equalAll a.history b.history && Context.equal a.context b.context

/-- What a query is filed under: its text, and role and text of every message before. -/
def hashKey (query : Query) : String × List (Role × String) :=
  (query.text, query.history.map fun message ↦ (message.role, message.text))

/-! ### Laws -/

theorem items_toValue (history : List Message) (position : Nat) :
    Shape.items Message.read position (history.map Message.toValue) = .accepted history := by
  induction history generalizing position with
  | nil => rfl
  | cons message rest ih =>
    simp [Shape.items, Message.read_toValue, Checked.under, ih, Checked.map₂]

theorem ofFields_toFields (query : Query) : ofFields query.toFields = .accepted query := by
  simp [ofFields, toFields, required, withDefault, Dict.get?, Shape.text, Shape.dict, Shape.list,
    items_toValue, Checked.under, Checked.ap, Checked.map₂]

theorem mutate_text (query : Query) (text : String) :
    query.mutate [("text", .text text)] = .accepted (query.withText text) := by
  have : query.toFields.merge [("text", .text text)] = (query.withText text).toFields := by
    simp [toFields, withText, Dict.merge, Dict.insert]
  rw [mutate, this, ofFields_toFields]

theorem history_keys_of_equalAll {a b : List Message} (h : Message.equalAll a b = true) :
    a.map (fun message ↦ (message.role, message.text)) =
      b.map fun message ↦ (message.role, message.text) := by
  induction a generalizing b with
  | nil => cases b <;> simp_all [Message.equalAll]
  | cons message rest ih =>
    cases b with
    | nil => simp [Message.equalAll] at h
    | cons other others =>
      simp only [Message.equalAll, Message.equal, Bool.and_eq_true, decide_eq_true_eq,
        beq_iff_eq] at h
      simp [h.1.1.1, h.1.1.2, ih h.2]

/-- Equal queries are filed under the same key. -/
theorem hashKey_eq_of_equal {a b : Query} (h : a.equal b = true) : a.hashKey = b.hashKey := by
  simp only [equal, Bool.and_eq_true, beq_iff_eq] at h
  simp [hashKey, h.1.1, history_keys_of_equalAll h.1.2]

end Query

end Grounding
