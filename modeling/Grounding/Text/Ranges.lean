/-!
Sets of characters given as ranges of code points, both ends included.

* `Ranges.covers` is membership; the property tables of this folder are stated with it.
-/

set_option autoImplicit false
set_option relaxedAutoImplicit false

namespace Grounding.Text

/-- A set of code points as a list of ranges, both ends included. -/
abbrev Ranges : Type := List (Nat × Nat)

/-- Whether one of the ranges holds the character. -/
def Ranges.covers (ranges : Ranges) (c : Char) : Bool :=
  ranges.any fun range ↦ decide (range.1 ≤ c.toNat) && decide (c.toNat ≤ range.2)

theorem Ranges.covers_iff {ranges : Ranges} {c : Char} :
    ranges.covers c = true ↔ ∃ range ∈ ranges, range.1 ≤ c.toNat ∧ c.toNat ≤ range.2 := by
  simp [covers]

end Grounding.Text
