/-!
Texts in order of their code points.

* `sorted` sorts a list of texts; `sorted_perm`: it loses none and adds none.
-/

set_option autoImplicit false
set_option relaxedAutoImplicit false

namespace Grounding.Text

/-- Texts from the least to the greatest. -/
def sorted (texts : List String) : List String :=
  texts.mergeSort fun a b ↦ decide (a ≤ b)

theorem sorted_perm (texts : List String) : (sorted texts).Perm texts :=
  List.mergeSort_perm _ _

theorem mem_sorted {text : String} {texts : List String} : text ∈ sorted texts ↔ text ∈ texts :=
  (sorted_perm texts).mem_iff

end Grounding.Text
