import Grounding.Action
import Grounding.Fusion
import Grounding.Query

/-!
Joiners: what makes one list out of the documents that several queries found.

* `Groups` are the found lists, filed by query; equal queries share a group.
* `Joiner` is any joiner as a pipeline sees it. `Joiner.concatenation` keeps the first occurrence of
  every document; `Joiner.fusion` fuses all lists by rank.
* `firstOccurrences` keeps the first element for every identifier.
-/

set_option autoImplicit false
set_option relaxedAutoImplicit false

namespace Grounding

/-- Lists of documents filed by query, in order of first filing. -/
abbrev Groups : Type := List (Query × List (List Document))

namespace Groups

/-- Files several lists under a query. -/
def addAll (groups : Groups) (query : Query) (lists : List (List Document)) : Groups :=
  match groups with
  | [] => [(query, lists)]
  | (key, present) :: rest =>
    if key.equal query then (key, present ++ lists) :: rest
    else (key, present) :: addAll rest query lists

/-- Files one list under a query. -/
def add (groups : Groups) (query : Query) (documents : List Document) : Groups :=
  groups.addAll query [documents]

/-- All lists, group by group. -/
def lists (groups : Groups) : List (List Document) :=
  groups.flatMap (·.2)

/-- Groups as a value: every query with its lists. -/
def toValue (groups : Groups) : Value :=
  .list (groups.map fun (query, lists) ↦
    .list [query.toValue, .list (lists.map Document.listValue)])

end Groups

/-- The documents whose identifiers are new, one by one. -/
def firstOccurrences (seen : List String) : List Document → List Document
  | [] => []
  | document :: rest =>
    if document.id ∈ seen then firstOccurrences seen rest
    else document :: firstOccurrences (document.id :: seen) rest

/-- What joins lists of documents; `none` stands for null. -/
structure Joiner (σ : Type) where
  literal : String
  join : Groups → Action σ (Option (List Document))

namespace Joiner

variable {σ : Type}

/-- Every document once, where it first occurs. -/
def concatenate (groups : Groups) : List Document :=
  firstOccurrences [] groups.lists.flatten

/-- The joiner that keeps the first occurrence of every document. -/
def concatenation : Joiner σ where
  literal := "ConcatenationDocumentJoiner()"
  join groups := pure (some (concatenate groups))

/-- The joiner that fuses all lists by rank. -/
def fusion (smoothing : Int) (limit : Option Int) : Except Failure (Joiner σ) :=
  if smoothing < 0 then .error (.argument .negativeSmoothing)
  else if limit.any (· < 1) then .error (.argument .topKBelowOne)
  else
    .ok {
      literal := "ReciprocalRankFusionDocumentJoiner(k=" ++ toString smoothing ++ ", top_k=" ++
        (Value.ofOption .int limit).literal ++ ")"
      join := fun groups ↦ do
        return some (← Action.ofExcept (Fusion.fuse groups.lists smoothing limit)) }

end Joiner

end Grounding
