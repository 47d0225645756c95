import Grounding.QueryTransformer

/-!
Query expanders: what makes several queries out of one.

* `QueryExpander` is any expander as a pipeline sees it.
* `MultiQueryExpander` asks a generation callback for variations of the text and gives exactly as
  many queries as it is set to, or the query alone if there are too few usable variations.
* `variations` are the usable texts of an answer: blank ones and nulls are left out.
-/

set_option autoImplicit false
set_option relaxedAutoImplicit false

namespace Grounding

/-- What makes several queries out of one, or answers with null. -/
structure QueryExpander (σ : Type) where
  name : String
  literal : String
  expand : Query → Action σ (Option (List Query))

/-- An expander that asks for variations of the text. -/
structure MultiQueryExpander (σ : Type) where
  generate : String → Int → Action σ Value
  numberOfQueries : Int := 3
  includeAsked : Bool := false

/-- The usable texts among values, without the white space at their ends. -/
def usableTexts : List Value → Except Failure (List String)
  | [] => .ok []
  | value :: rest =>
    if value.isTrue then do
      let text ← value.stripped
      let others ← usableTexts rest
      return if text.isEmpty then others else text :: others
    else usableTexts rest

/-- The usable texts of the answer of a generation callback. -/
def variations (answer : Value) : Except Failure (List String) :=
  if answer.isTrue then do usableTexts (← answer.elements) else .ok []

namespace MultiQueryExpander

variable {σ : Type}

/-- The name of the expander. -/
def name : String := "MultiQueryExpander"

/-- An expander for at least one query. -/
def build (callback : String → Int → Action σ Value) (numberOfQueries : Int)
    (includeAsked : Bool) : Except Failure (MultiQueryExpander σ) :=
  if numberOfQueries < 1 then .error (.configuration .tooFewQueries)
  else .ok ⟨callback, numberOfQueries, includeAsked⟩

/-- How an expander is written. -/
def literal (expander : MultiQueryExpander σ) : String :=
  name ++ "(number_of_queries=" ++ toString expander.numberOfQueries ++ ", include_original=" ++
    truthText expander.includeAsked ++ ")"

/-- The number of variations that are asked for. -/
def needed (expander : MultiQueryExpander σ) : Int :=
  if expander.includeAsked then expander.numberOfQueries - 1 else expander.numberOfQueries

/-- The expanded queries. -/
def expand (expander : MultiQueryExpander σ) (query : Query) : Action σ (List Query) :=
  if expander.needed = 0 then pure [query]
  else do
    let answer ← Grounding.generate name (expander.generate query.text expander.needed)
    let texts ← Action.ofExcept (variations answer)
    if texts.length < expander.needed then
      Action.warn (.tooFewVariations expander.needed texts.length)
      return [query]
    else
      let expanded := (texts.take expander.needed.toNat).map query.withText
      return if expander.includeAsked then query :: expanded else expanded

/-- The expander as a pipeline sees it. -/
def toExpander (expander : MultiQueryExpander σ) : QueryExpander σ where
  name := name
  literal := expander.literal
  expand query := do
    let expanded ← expander.expand query
    return some expanded

end MultiQueryExpander

end Grounding
