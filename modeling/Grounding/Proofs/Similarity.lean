import Grounding.MemoryStore
import Grounding.Proofs.Action

/-!
# The range of a similarity

`Binary64.Between` says that a double lies in a range. What lies in one is no NaN, since a NaN is in
no relation to anything.

`Similarity.clamp` moves every double into the range from minus one to one, a NaN and the infinities
as well (`clamp_between`). Whatever the components of two embeddings are, their cosine is therefore
in that range if there is one (`cosine_between`), and a score in memory is one from zero to one
(`MemoryStore.score_between`).
-/

set_option autoImplicit false
set_option relaxedAutoImplicit false

namespace Grounding

/-! ### Doubles in a range -/

namespace Binary64

theorem rank_zero : rank 0.0 = some 0 := by
  decide +kernel

theorem rank_one : rank 1.0 = some (unitsPerOne : Int) := by
  decide +kernel

theorem rank_neg_one : rank (-1.0) = some (-(unitsPerOne : Int)) := by
  decide +kernel

theorem lt_iff {x y : Float} :
    lt x y = true ↔ ∃ a b, rank x = some a ∧ rank y = some b ∧ a < b := by
  unfold lt
  cases rank x <;> cases rank y <;> simp

/-- A double that lies between two others. -/
def Between (lower upper x : Float) : Prop :=
  le lower x = true ∧ le x upper = true

/-- What lies between two doubles is no NaN. -/
theorem Between.isNaN_eq_false {lower upper x : Float} (h : Between lower upper x) :
    isNaN x = false := by
  obtain ⟨_, b, -, hb, -⟩ := le_iff.mp h.1
  cases hnan : isNaN x with
  | false => rfl
  | true =>
    rw [rank_eq_none_iff.mpr hnan] at hb
    cases hb

theorem between_zero_one_zero : Between 0.0 1.0 0.0 :=
  ⟨le_iff.mpr ⟨0, 0, rank_zero, rank_zero, Int.le_refl 0⟩,
    le_iff.mpr ⟨0, _, rank_zero, rank_one, Int.le_of_lt unitsPerOne_pos⟩⟩

/-- A range that starts below zero contains the one that starts there. -/
theorem Between.of_zero {upper x : Float} (h : Between 0.0 upper x) : Between (-1.0) upper x := by
  refine ⟨le_trans (le_iff.mpr ⟨_, 0, rank_neg_one, rank_zero, ?_⟩) h.1, h.2⟩
  have hpos := unitsPerOne_pos
  omega

end Binary64

open Grounding.Binary64

/-! ### Similarities -/

namespace Similarity

/-- Every double is moved into the range from minus one to one. -/
theorem clamp_between (x : Float) : Between (-1.0) 1.0 (clamp x) := by
  have hpos := unitsPerOne_pos
  unfold clamp
  split
  · rename_i hbelow
    obtain ⟨a, b, ha, hb, hab⟩ := lt_iff.mp hbelow
    split
    · rename_i habove
      obtain ⟨c, d, hc, hd, hcd⟩ := lt_iff.mp habove
      exact ⟨le_iff.mpr ⟨c, d, hc, hd, Int.le_of_lt hcd⟩,
        le_iff.mpr ⟨a, b, ha, hb, Int.le_of_lt hab⟩⟩
    · exact ⟨le_iff.mpr ⟨_, _, rank_neg_one, rank_neg_one, Int.le_refl _⟩,
        le_iff.mpr ⟨_, _, rank_neg_one, rank_one, by omega⟩⟩
  · exact ⟨le_iff.mpr ⟨_, _, rank_neg_one, rank_one, by omega⟩,
      le_iff.mpr ⟨_, _, rank_one, rank_one, Int.le_refl _⟩⟩

/-- A cosine lies between minus one and one, whatever the components are. -/
theorem cosine_between {a b : List Float} {similarity : Float}
    (h : cosine a b = .ok similarity) : Between (-1.0) 1.0 similarity := by
  unfold cosine at h
  split at h
  · cases h
  · split at h
    · cases h
    · dsimp only at h
      split at h
      · obtain ⟨⟩ := h
        exact between_zero_one_zero.of_zero
      · split at h
        · obtain ⟨⟩ := h
          exact clamp_between _
        · cases h

end Similarity

/-- A score lies between zero and one, whatever the components are. -/
theorem MemoryStore.score_between {query embedding : List Float} {score : Float}
    (h : MemoryStore.score query embedding = .ok score) : Between 0.0 1.0 score := by
  unfold MemoryStore.score at h
  cases hcosine : Similarity.cosine query embedding with
  | error failure =>
    rw [hcosine] at h
    cases h
  | ok similarity =>
    rw [hcosine] at h
    obtain rfl := Except.ok.inj h
    dsimp only
    split
    · rename_i hpositive
      obtain ⟨a, b, ha, hb, hab⟩ := lt_iff.mp hpositive
      exact ⟨le_iff.mpr ⟨a, b, ha, hb, Int.le_of_lt hab⟩, (Similarity.cosine_between hcosine).2⟩
    · exact between_zero_one_zero

end Grounding
