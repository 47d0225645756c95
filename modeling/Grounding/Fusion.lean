import Grounding.Document

/-!
Reciprocal rank fusion: ranked lists of documents become one list. A document counts one over the
sum of a smoothing constant and its rank for every place at which it stands.

* `fuse` is the fused list: each document once, with the content of its first occurrence and its
  score, the highest score first and equal scores in order of first occurrence.
* `tally` are the documents with their scores in order of first occurrence; `upTo` cuts a list off.
-/

set_option autoImplicit false
set_option relaxedAutoImplicit false

namespace Grounding.Fusion

/-- A document with the score it has gathered so far. -/
abbrev Scored : Type := Document × Float

/-- What a rank, counted from one, is worth. -/
def worth (smoothing : Int) (rank : Nat) : Except Failure Float :=
  match Binary64.ofInt? (smoothing + rank) with
  | some place => .ok (Binary64.div 1.0 place)
  | none => .error (.overflow .integer)

theorem worth_of_place {smoothing : Int} {rank : Nat} {place : Float}
    (h : Binary64.ofInt? (smoothing + rank) = some place) :
    worth smoothing rank = .ok (Binary64.div 1.0 place) := by
  have hworth : worth = fun (smoothing : Int) (rank : Nat) ↦
      match Binary64.ofInt? (smoothing + rank) with
      | some place => Except.ok (Binary64.div 1.0 place)
      | none => .error (.overflow .integer) := rfl
  rw [hworth]
  dsimp only
  rw [h]

/-- Adds to the score of a document; a new document comes last, with its score counted from zero. -/
def credit (document : Document) (amount : Float) : List Scored → List Scored
  | [] => [(document, Binary64.add 0.0 amount)]
  | (first, score) :: rest =>
    if first.id = document.id then (first, Binary64.add score amount) :: rest
    else (first, score) :: credit document amount rest

/-- The scores after one ranked list, whose first document has the given rank. -/
def creditList (smoothing : Int) (rank : Nat) (scores : List Scored) :
    List Document → Except Failure (List Scored)
  | [] => .ok scores
  | document :: rest => do
    let amount ← worth smoothing rank
    creditList smoothing (rank + 1) (credit document amount scores) rest

/-- The scores after all ranked lists. -/
def tally (smoothing : Int) (lists : List (List Document)) : Except Failure (List Scored) :=
  lists.foldlM (creditList smoothing 1) []

/-- The first elements of a list: a limit below zero counts from the end. -/
def upTo {α : Type} (limit : Option Int) (items : List α) : List α :=
  match limit with
  | none => items
  | some limit => items.take (if limit < 0 then items.length - limit.natAbs else limit.toNat)

/-- The name under which the metadata of a fused document holds its score. -/
def scoreKey : String := "rrf_score"

/-- A document with its score. -/
def present (scored : Scored) : Document :=
  { scored.1 with
    score := some scored.2
    metadata := scored.1.metadata.insert scoreKey (.float scored.2) }

/-- Ranked lists as one list. -/
def fuse (lists : List (List Document)) (smoothing : Int) (limit : Option Int) :
    Except Failure (List Document) := do
  if smoothing < 0 then .error (.argument .negativeSmoothing)
  else
    let scores ← tally smoothing lists
    let ranked := scores.mergeSort fun a b ↦ Binary64.le b.2 a.2
    return (upTo limit ranked).map present

end Grounding.Fusion
