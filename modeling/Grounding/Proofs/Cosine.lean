import Grounding.Proofs.Similarity

/-!
# How a comparison of embeddings ends

Two embeddings of different lengths cannot be compared, and neither can two empty ones. In all other
cases the comparison ends with a similarity, which is a number from minus one to one, or fails as
the sum of the products of their components does. Components may be anything: infinities, NaN, and
zeros of either sign.

Products do not depend on the order of their factors (`Binary64.mul_comm`), so that a comparison may
be turned around (`Similarity.cosine_comm`). If the product of the norms is zero, the similarity is
zero and nothing is summed (`Similarity.cosine_of_isZero`).

Main statement: `Similarity.cosine_ends`.
-/

set_option autoImplicit false
set_option relaxedAutoImplicit false

namespace Grounding

namespace Binary64

/-- A product does not depend on the order of its factors, whatever they are. -/
theorem mul_comm (x y : Float) : mul x y = mul y x := by
  unfold mul
  cases read x with
  | nan => cases read y <;> rfl
  | infinite s => cases read y <;> simp [bne_comm]
  | finite s a => cases read y <;> simp [bne_comm, Nat.mul_comm]

end Binary64

open Grounding.Binary64

namespace Similarity

variable {a b : List Float}

/-- The number that the dot product of two embeddings is divided by. -/
def scale (a b : List Float) : Float :=
  mul (norm a) (norm b)

theorem dot_comm (a b : List Float) : dot a b = dot b a := by
  unfold dot
  rw [List.zipWith_comm_of_comm mul_comm]

theorem cosine_of_length_ne (h : a.length ≠ b.length) :
    cosine a b = .error (.argument (.dimensionMismatch a.length b.length)) :=
  if_pos h

theorem cosine_nil : cosine [] [] = .error (.argument .emptyEmbeddings) := rfl

section Comparable

variable (hlength : a.length = b.length) (hnonempty : a ≠ [])
include hlength hnonempty

/-- Assumes: embeddings that can be compared. If one of them has no length, the similarity is zero;
otherwise it is found from the dot product. -/
theorem cosine_eq :
    cosine a b = if isZero (scale a b) then .ok 0.0
      else match dot a b with
        | .ok total => .ok (clamp (div total (scale a b)))
        | .error fault => .error (sumFailure fault) := by
  unfold cosine
  rw [if_neg (absurd hlength), if_neg (by simpa using hnonempty)]
  rfl

theorem cosine_of_isZero (h : isZero (scale a b) = true) : cosine a b = .ok 0.0 := by
  rw [cosine_eq hlength hnonempty, if_pos h]

theorem cosine_of_dot_error {fault : SumFault} (h : isZero (scale a b) = false)
    (hdot : dot a b = .error fault) : cosine a b = .error (sumFailure fault) := by
  rw [cosine_eq hlength hnonempty, h, hdot]
  rfl

theorem cosine_of_dot_ok {total : Float} (h : isZero (scale a b) = false)
    (hdot : dot a b = .ok total) : cosine a b = .ok (clamp (div total (scale a b))) := by
  rw [cosine_eq hlength hnonempty, h, hdot]
  rfl

/-- Assumes: embeddings that can be compared. They have a similarity, or their dot product has no
sum. -/
theorem cosine_ok_or_dot_error :
    (∃ similarity, cosine a b = .ok similarity) ∨
      ∃ fault, dot a b = .error fault ∧ cosine a b = .error (sumFailure fault) := by
  cases hzero : isZero (scale a b) with
  | true => exact Or.inl ⟨_, cosine_of_isZero hlength hnonempty hzero⟩
  | false =>
    cases hdot : dot a b with
    | ok total => exact Or.inl ⟨_, cosine_of_dot_ok hlength hnonempty hzero hdot⟩
    | error fault =>
      exact Or.inr ⟨fault, rfl, cosine_of_dot_error hlength hnonempty hzero hdot⟩

/-- Assumes: embeddings that have a similarity. It is zero if the product of the norms is, and
otherwise the clamped quotient of a dot product. -/
theorem cosine_eq_ok {similarity : Float} (h : cosine a b = .ok similarity) :
    isZero (scale a b) = true ∧ similarity = 0.0 ∨
      isZero (scale a b) = false ∧
        ∃ total, dot a b = .ok total ∧ similarity = clamp (div total (scale a b)) := by
  cases hzero : isZero (scale a b) with
  | true =>
    rw [cosine_of_isZero hlength hnonempty hzero] at h
    exact Or.inl ⟨rfl, (Except.ok.inj h).symm⟩
  | false =>
    cases hdot : dot a b with
    | error fault =>
      rw [cosine_of_dot_error hlength hnonempty hzero hdot] at h
      cases h
    | ok total =>
      rw [cosine_of_dot_ok hlength hnonempty hzero hdot] at h
      exact Or.inr ⟨rfl, total, rfl, (Except.ok.inj h).symm⟩

end Comparable

/-- A comparison may be turned around, as long as it is not refused for the lengths, which are told
in their order. -/
theorem cosine_comm (h : a.length = b.length) : cosine a b = cosine b a := by
  have hscale : scale a b = scale b a := mul_comm _ _
  by_cases hnonempty : a = []
  · subst hnonempty
    rw [List.length_eq_zero_iff.mp h.symm]
  · have hother : b ≠ [] := by
      rintro rfl
      exact hnonempty (List.length_eq_zero_iff.mp h)
    rw [cosine_eq h hnonempty, cosine_eq h.symm hother, hscale, dot_comm]

/-- No failure of a sum is a refusal to compare. -/
theorem sumFailure_ne (fault : SumFault) :
    (∀ m n, sumFailure fault ≠ .argument (.dimensionMismatch m n)) ∧
      sumFailure fault ≠ .argument .emptyEmbeddings := by
  cases fault <;> simp [sumFailure]

/-- How a comparison of two embeddings ends. -/
structure CosineEnds (a b : List Float) : Prop where
  mismatch : (∃ m n, cosine a b = .error (.argument (.dimensionMismatch m n))) ↔
    a.length ≠ b.length
  empty : cosine a b = .error (.argument .emptyEmbeddings) ↔ a = [] ∧ b = []
  /-- Every other comparison ends with a number from minus one to one, or fails as the sum of the
  products of the components does. -/
  compared : a.length = b.length → a ≠ [] →
    (∃ similarity, cosine a b = .ok similarity ∧ isNaN similarity = false ∧
      Between (-1.0) 1.0 similarity) ∨
    ∃ fault, Binary64.sum (List.zipWith mul a b) = .error fault ∧
      cosine a b = .error (sumFailure fault)
  /-- A product of norms that is zero makes the similarity zero. -/
  flat : a.length = b.length → a ≠ [] → isZero (mul (norm a) (norm b)) = true →
    cosine a b = .ok 0.0
  symmetric : a.length = b.length → cosine a b = cosine b a

/-- Every comparison ends in one of these ways, whatever the components are. -/
theorem cosine_ends (a b : List Float) : CosineEnds a b where
  mismatch := by
    constructor
    · rintro ⟨m, n, h⟩ hlength
      by_cases hnonempty : a = []
      · subst hnonempty
        rw [List.length_eq_zero_iff.mp hlength.symm, cosine_nil] at h
        cases h
      · rcases cosine_ok_or_dot_error hlength hnonempty with ⟨_, hok⟩ | ⟨fault, -, herror⟩
        · rw [hok] at h
          cases h
        · rw [herror] at h
          exact (sumFailure_ne fault).1 m n (Except.error.inj h)
    · intro h
      exact ⟨_, _, cosine_of_length_ne h⟩
  empty := by
    constructor
    · intro h
      by_cases hlength : a.length = b.length
      · by_cases hnonempty : a = []
        · subst hnonempty
          exact ⟨rfl, List.length_eq_zero_iff.mp hlength.symm⟩
        · rcases cosine_ok_or_dot_error hlength hnonempty with ⟨_, hok⟩ | ⟨fault, -, herror⟩
          · rw [hok] at h
            cases h
          · rw [herror] at h
            exact absurd (Except.error.inj h) (sumFailure_ne fault).2
      · rw [cosine_of_length_ne hlength] at h
        cases h
    · rintro ⟨rfl, rfl⟩
      exact cosine_nil
  compared hlength hnonempty := by
    rcases cosine_ok_or_dot_error hlength hnonempty with ⟨similarity, hok⟩ | hfault
    · have hbetween := cosine_between hok
      exact Or.inl ⟨similarity, hok, hbetween.isNaN_eq_false, hbetween⟩
    · exact Or.inr hfault
  flat hlength hnonempty := cosine_of_isZero hlength hnonempty
  symmetric := cosine_comm

/-- A quotient that is undefined counts as one. -/
example : (cosine [nan, 0.0] [1.0, 1.0]).toOption = some 1.0 := by
  decide +kernel

end Similarity

end Grounding
