import Grounding.Failure

/-!
The similarity of two embeddings: the cosine of the angle between them.

* `cosine` refuses embeddings that are empty or differ in length. Otherwise the dot product is
  summed exactly and divided by the product of the norms; where that product is zero the similarity
  is zero, and the quotient is clamped to the range from minus one to one.
* `clamp` maps an undefined quotient to one.
-/

set_option autoImplicit false
set_option relaxedAutoImplicit false

namespace Grounding.Similarity

/-- A quotient moved into the range from minus one to one. -/
def clamp (x : Float) : Float :=
  if Binary64.lt x 1.0 then
    if Binary64.lt (-1.0) x then x else -1.0
  else 1.0

/-- The dot product of two embeddings: every product is rounded once, and so is their sum. -/
def dot (a b : List Float) : Except Binary64.SumFault Float :=
  Binary64.sum (List.zipWith Binary64.mul a b)

/-- The failure that a sum without a result stands for. -/
def sumFailure : Binary64.SumFault → Failure
  | .overflow => .overflow .sum
  | .opposingInfinities => .argument .opposingInfinities

/-- The cosine of the angle between two embeddings. -/
def cosine (a b : List Float) : Except Failure Float :=
  if a.length ≠ b.length then .error (.argument (.dimensionMismatch a.length b.length))
  else if a.isEmpty then .error (.argument .emptyEmbeddings)
  else
    let scale := Binary64.mul (Binary64.norm a) (Binary64.norm b)
    if Binary64.isZero scale then .ok 0.0
    else
      match dot a b with
      | .ok total => .ok (clamp (Binary64.div total scale))
      | .error fault => .error (sumFailure fault)

end Grounding.Similarity
