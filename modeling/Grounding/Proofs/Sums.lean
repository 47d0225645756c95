import Grounding.Proofs.Products

/-!
# Sums of doubles

A sum is worked out from a tally of its terms. One term adds its units to those of the tally if it
is finite, and is kept in mind otherwise (`Tally.push_reads`); a running sum that is too large makes
the whole fail. By induction a tally has read what its terms are (`Tally.foldlM_reads`).

A sum of terms that are no NaN is therefore infinite, because one of the terms is, or it is the
exact sum of their units, rounded once (`sum_eq_ok`).
-/

set_option autoImplicit false
set_option relaxedAutoImplicit false

namespace Grounding.Binary64

/-- A tally has read terms after another one: it keeps in mind which of them are not finite, and has
the units of all of them if none is. -/
structure Tally.Reads (tally : Tally) (terms : List Float) (final : Tally) : Prop where
  nan : final.nan = (tally.nan || terms.any isNaN)
  positive : final.positive =
    (tally.positive || terms.any fun x ↦ decide (read x = .infinite false))
  negative : final.negative =
    (tally.negative || terms.any fun x ↦ decide (read x = .infinite true))
  units : (∀ x ∈ terms, isFinite x = true) →
    final.units = tally.units + (terms.map Binary64.units).sum

namespace Tally

/-- A term is read as what it is. -/
theorem push_reads {tally next : Tally} {x : Float} (h : tally.push x = .ok next) :
    tally.Reads [x] next := by
  have hfinite : isFinite x = true → ∃ s u, read x = .finite s u := isFinite_iff.mp
  unfold push at h
  cases hread : read x with
  | nan =>
    rw [hread] at h hfinite
    obtain rfl := Except.ok.inj h
    constructor <;> simp_all [isNaN]
  | infinite s =>
    rw [hread] at h hfinite
    cases s with
    | false =>
      obtain rfl := Except.ok.inj h
      constructor <;> simp_all [isNaN]
    | true =>
      obtain rfl := Except.ok.inj h
      constructor <;> simp_all [isNaN]
  | finite s u =>
    rw [hread] at h
    dsimp only at h
    split at h
    · obtain rfl := Except.ok.inj h
      constructor <;> simp [isNaN, hread, units_of_read hread]
    · cases h

theorem Reads.trans {tally middle final : Tally} {terms others : List Float}
    (h : tally.Reads terms middle) (hothers : middle.Reads others final) :
    tally.Reads (terms ++ others) final where
  nan := by rw [hothers.nan, h.nan, List.any_append, Bool.or_assoc]
  positive := by rw [hothers.positive, h.positive, List.any_append, Bool.or_assoc]
  negative := by rw [hothers.negative, h.negative, List.any_append, Bool.or_assoc]
  units hfinite := by
    rw [hothers.units fun x hx ↦ hfinite x (List.mem_append_right terms hx),
      h.units fun x hx ↦ hfinite x (List.mem_append_left others hx), List.map_append,
      List.sum_append, Int.add_assoc]

theorem reads_nil (tally : Tally) : tally.Reads [] tally := by
  constructor <;> simp

/-- Terms are read one after the other. -/
theorem foldlM_reads {tally final : Tally} {terms : List Float}
    (h : terms.foldlM push tally = .ok final) : tally.Reads terms final := by
  induction terms generalizing tally with
  | nil =>
    obtain rfl := Except.ok.inj h
    exact reads_nil tally
  | cons x rest ih =>
    rw [List.foldlM_cons] at h
    cases hpush : tally.push x with
    | error fault =>
      rw [hpush] at h
      cases h
    | ok next =>
      rw [hpush] at h
      exact (push_reads hpush).trans (ih h)

/-- Assumes: a tally without a NaN. It stands for an infinity that it keeps in mind, or, if it keeps
none in mind, for its units. -/
theorem result_eq_ok {tally : Tally} {total : Float} (hnan : tally.nan = false)
    (h : tally.result = .ok total) :
    tally.positive = true ∧ total = infinity false ∨
      tally.negative = true ∧ total = infinity true ∨
      tally.positive = false ∧ tally.negative = false ∧ total = ofSignedUnits tally.units := by
  unfold result at h
  rw [hnan] at h
  cases hpositive : tally.positive with
  | true =>
    rw [hpositive] at h
    cases hnegative : tally.negative with
    | true =>
      rw [hnegative] at h
      cases h
    | false =>
      rw [hnegative] at h
      exact Or.inl ⟨rfl, (Except.ok.inj h).symm⟩
  | false =>
    rw [hpositive] at h
    cases hnegative : tally.negative with
    | true =>
      rw [hnegative] at h
      exact Or.inr (Or.inl ⟨rfl, (Except.ok.inj h).symm⟩)
    | false =>
      rw [hnegative] at h
      exact Or.inr (Or.inr ⟨rfl, rfl, (Except.ok.inj h).symm⟩)

end Tally

/-- Assumes: terms that are no NaN. A sum of them is infinite with one of the terms, or it is the
exact sum of their units, rounded once. -/
theorem sum_eq_ok {terms : List Float} {total : Float} (h : sum terms = .ok total)
    (hnumbers : ∀ x ∈ terms, isNaN x = false) :
    (∃ x ∈ terms, ∃ negative, read x = .infinite negative ∧ total = infinity negative) ∨
      (∀ x ∈ terms, isFinite x = true) ∧ total = ofSignedUnits (terms.map units).sum := by
  unfold sum at h
  cases hfinal : terms.foldlM Tally.push {} with
  | error fault =>
    rw [hfinal] at h
    cases h
  | ok final =>
    rw [hfinal] at h
    obtain ⟨hnan, hpositive, hnegative, hunits⟩ := Tally.foldlM_reads hfinal
    have hnone : terms.any isNaN = false := by
      rw [List.any_eq_false]
      intro x hx
      rw [hnumbers x hx]
      exact Bool.false_ne_true
    have hresult : final.result = .ok total := h
    rcases Tally.result_eq_ok (hnan.trans hnone) hresult with
      ⟨hflag, rfl⟩ | ⟨hflag, rfl⟩ | ⟨hplus, hminus, rfl⟩
    · obtain ⟨x, hx, hread⟩ := List.any_eq_true.mp (hpositive.symm.trans hflag)
      exact Or.inl ⟨x, hx, false, of_decide_eq_true hread, rfl⟩
    · obtain ⟨x, hx, hread⟩ := List.any_eq_true.mp (hnegative.symm.trans hflag)
      exact Or.inl ⟨x, hx, true, of_decide_eq_true hread, rfl⟩
    · have hfinite : ∀ x ∈ terms, isFinite x = true := by
        intro x hx
        have habove := List.any_eq_false.mp (hpositive.symm.trans hplus) x hx
        have hbelow := List.any_eq_false.mp (hnegative.symm.trans hminus) x hx
        have hnumber := hnumbers x hx
        unfold isNaN at hnumber
        unfold isFinite
        cases hread : read x with
        | nan => simp [hread] at hnumber
        | infinite negative => cases negative <;> simp_all
        | finite negative count => rfl
      refine Or.inr ⟨hfinite, ?_⟩
      rw [hunits hfinite, Int.zero_add]

end Grounding.Binary64
