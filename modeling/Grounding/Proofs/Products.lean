import Mathlib.Algebra.Order.BigOperators.Group.List
import Mathlib.Algebra.Order.Group.Nat
import Mathlib.Tactic.Ring
import Grounding.Proofs.Rounding

/-!
# Products and norms of doubles

What a quotient of units is rounded to is a double with the sign that it was given
(`read_ofUnits_eq`). Rounding adds at most `2^-53` of the quotient, or half a unit if the quotient
is small (`nearestBits_error`). The signed units of a product of finite doubles are therefore those
of the exact product up to this error, unless the product is too large for a finite double
(`units_mul_error`).

A norm is no smaller than any component (`exists_bits_norm`), since the root of a sum of squares is
no smaller than that of each square. The product of two norms is therefore no smaller than the
product of any two components: where this one is infinite, so is that one
(`exists_bits_mul_norm`).
-/

set_option autoImplicit false
set_option relaxedAutoImplicit false

namespace Grounding.Binary64

/-! ### Signs -/

/-- Assumes: a pattern of a finite double or of infinity. With the highest bit it reads the same
with a minus sign. -/
theorem readBits_add_sign {bits : Nat} (h : bits ≤ infiniteBits) :
    readBits (bits + 2 ^ 63) =
      if bits < infiniteBits then .finite true (unitsOf bits) else .infinite true := by
  rw [infiniteBits_eq] at h ⊢
  have hsign : 2 ^ 63 ≤ bits + 2 ^ 63 := Nat.le_add_left _ _
  have hexponent : (bits + 2 ^ 63) / 2 ^ 52 % 2 ^ 11 = bits / 2 ^ 52 := by omega
  have hrest : (bits + 2 ^ 63) % 2 ^ 52 = bits % 2 ^ 52 := by omega
  unfold readBits unitsOf
  simp only [Nat.pow_eq, hexponent, hrest, hsign, decide_true]
  by_cases hfinite : bits < 2047 * 2 ^ 52
  · have hother : ¬ bits / 2 ^ 52 = 2047 := by omega
    rw [if_pos hfinite, if_neg hother]
    by_cases hzero : bits / 2 ^ 52 = 0
    · have hfraction : bits % 2 ^ 52 = bits := by omega
      rw [if_pos hzero, if_pos hzero, hfraction]
    · rw [if_neg hzero, if_neg hzero]
  · have hlast : bits / 2 ^ 52 = 2047 := by omega
    have hfraction : bits % 2 ^ 52 = 0 := by omega
    rw [if_neg hfinite, if_pos hlast, if_pos hfraction]

theorem read_infinity (negative : Bool) : read (infinity negative) = .infinite negative := by
  cases negative <;> decide +kernel

/-- What is rounded with a sign is finite with that sign, or infinite with it. -/
theorem read_ofUnits_eq (negative : Bool) (numerator denominator : Nat) :
    read (ofUnits negative numerator denominator) =
      if nearestBits numerator denominator < infiniteBits then
        .finite negative (unitsOf (nearestBits numerator denominator))
      else .infinite negative := by
  have hmin : (if min (nearestBits numerator denominator) infiniteBits < infiniteBits then
        Reading.finite negative (unitsOf (min (nearestBits numerator denominator) infiniteBits))
      else .infinite negative) =
      if nearestBits numerator denominator < infiniteBits then
        .finite negative (unitsOf (nearestBits numerator denominator))
      else .infinite negative := by
    by_cases hfinite : nearestBits numerator denominator < infiniteBits
    · rw [Nat.min_eq_left (Nat.le_of_lt hfinite)]
    · rw [Nat.min_eq_right (Nat.le_of_not_lt hfinite), if_neg hfinite,
        if_neg (Nat.lt_irrefl _)]
  rw [← hmin]
  have hle : min (nearestBits numerator denominator) infiniteBits ≤ infiniteBits :=
    Nat.min_le_right _ _
  cases negative with
  | false => rw [read_ofUnits, readBits_of_le hle]
  | true =>
    unfold ofUnits
    dsimp only
    generalize min (nearestBits numerator denominator) infiniteBits = bits at hle ⊢
    have hroom : bits + 2 ^ 63 < 2 ^ 64 := by
      rw [infiniteBits_eq] at hle
      omega
    have hword : (UInt64.ofNat (bits + Nat.pow 2 63)).toNat = bits + 2 ^ 63 :=
      UInt64.toNat_ofNat_of_lt' hroom
    rw [if_pos rfl, read_ofBits, hword]
    exact readBits_add_sign hle

/-! ### Errors -/

section Errors

variable {denominator : Nat}

/-- The units of a rounded quotient are the rounded significand, shifted back. -/
theorem unitsOf_nearestBits (numerator : Nat) (h : 0 < denominator) :
    unitsOf (nearestBits numerator denominator) =
      roundQuotient numerator (denominator * 2 ^ shiftOf numerator denominator) *
        2 ^ shiftOf numerator denominator := by
  have hupper := roundQuotient_shiftOf_le numerator h
  have hlower : 0 < shiftOf numerator denominator → _ := le_roundQuotient_shiftOf h
  rw [nearestBits_eq]
  generalize shiftOf numerator denominator = shift at hupper hlower ⊢
  generalize roundQuotient numerator (denominator * 2 ^ shift) = significand at hupper hlower ⊢
  unfold unitsOf
  rcases Nat.lt_or_ge significand (2 ^ 52) with hsmall | hlarge
  · obtain rfl : shift = 0 := by
      by_contra hshift
      exact absurd (hlower (Nat.pos_of_ne_zero hshift)) (Nat.not_le.mpr hsmall)
    rw [if_pos (by omega), Nat.zero_mul, Nat.zero_add, Nat.pow_zero, Nat.mul_one]
  · rcases Nat.lt_or_ge significand (2 ^ 53) with hbelow | hfull
    · have hexponent : (shift * 2 ^ 52 + significand) / 2 ^ 52 = shift + 1 := by omega
      have hfraction : (shift * 2 ^ 52 + significand) % 2 ^ 52 + 2 ^ 52 = significand := by omega
      rw [hexponent, if_neg (Nat.succ_ne_zero _), hfraction, Nat.add_sub_cancel]
    · obtain rfl : significand = 2 ^ 53 := Nat.le_antisymm hupper hfull
      have hexponent : (shift * 2 ^ 52 + 2 ^ 53) / 2 ^ 52 = shift + 2 := by omega
      have hfraction : (shift * 2 ^ 52 + 2 ^ 53) % 2 ^ 52 + 2 ^ 52 = 2 ^ 52 := by omega
      have hshift : shift + 2 - 1 = shift + 1 := rfl
      rw [hexponent, if_neg (Nat.succ_ne_zero _), hfraction, hshift, Nat.pow_succ]
      omega

/-- The place at which a quotient is rounded is small beside the quotient, or it is that of the
units. -/
theorem two_pow_mul_shifted_le (numerator : Nat) (h : 0 < denominator) :
    2 ^ 52 * (denominator * 2 ^ shiftOf numerator denominator) ≤
      numerator + 2 ^ 52 * denominator := by
  by_cases hshift : shiftOf numerator denominator = 0
  · rw [hshift, Nat.pow_zero, Nat.mul_one]
    exact Nat.le_add_left _ _
  · have hlog : (numerator / denominator).log2 = 52 + shiftOf numerator denominator := by
      unfold shiftOf at hshift ⊢
      omega
    have hnonzero : numerator / denominator ≠ 0 := by
      intro hzero
      rw [hzero, Nat.log2_zero] at hlog
      omega
    have hquotient := Nat.log2_self_le hnonzero
    rw [hlog, Nat.le_div_iff_mul_le h, Nat.pow_add, Nat.mul_assoc,
      Nat.mul_comm _ denominator] at hquotient
    exact Nat.le_trans hquotient (Nat.le_add_right _ _)

/-- Rounding adds or takes away at most `2^-53` of the quotient, or half a unit. -/
theorem nearestBits_error (numerator : Nat) (h : 0 < denominator) :
    2 ^ 53 * (unitsOf (nearestBits numerator denominator) * denominator) ≤
        2 ^ 53 * numerator + (numerator + 2 ^ 52 * denominator) ∧
      2 ^ 53 * numerator ≤
        2 ^ 53 * (unitsOf (nearestBits numerator denominator) * denominator) +
          (numerator + 2 ^ 52 * denominator) := by
  have hplace := two_pow_mul_shifted_le numerator h
  obtain ⟨hupper, hlower, -⟩ :=
    roundQuotient_spec numerator (Nat.mul_pos h (Nat.two_pow_pos (shiftOf numerator denominator)))
  rw [unitsOf_nearestBits numerator h, Nat.mul_assoc, Nat.mul_comm (2 ^ _) denominator]
  omega

end Errors

/-! ### Products -/

/-- The signed units of a finite double. -/
def units (x : Float) : Int :=
  match read x with
  | .finite negative units => signedUnits negative units
  | _ => 0

theorem isFinite_iff {x : Float} :
    isFinite x = true ↔ ∃ negative units, read x = .finite negative units := by
  unfold isFinite
  cases read x <;> simp

theorem isFinite_of_infinite {x : Float} {negative : Bool} (h : read x = .infinite negative) :
    isFinite x = false := by
  unfold isFinite
  rw [h]

theorem units_of_read {x : Float} {negative : Bool} {count : Nat}
    (h : read x = .finite negative count) : units x = signedUnits negative count := by
  unfold units
  rw [h]

theorem signedUnits_mul (s t : Bool) (a b : Nat) :
    signedUnits s a * signedUnits t b = signedUnits (s != t) (a * b) := by
  cases s <;> cases t <;> simp [signedUnits]

theorem natAbs_signedUnits (negative : Bool) (count : Nat) :
    (signedUnits negative count).natAbs = count := by
  cases negative <;> simp [signedUnits]

/-- Products with finite factors are rounded with the sign of the exact product. -/
theorem mul_of_read {x y : Float} {s t : Bool} {a b : Nat} (hx : read x = .finite s a)
    (hy : read y = .finite t b) : mul x y = ofUnits (s != t) (a * b) unitsPerOne := by
  unfold mul
  rw [hx, hy]

/-- Assumes: finite factors with a finite product. Its units are those of the exact product but for
`2^-53` of them, or half a unit. -/
theorem units_mul_error {x y : Float} (hx : isFinite x = true) (hy : isFinite y = true)
    (h : isFinite (mul x y) = true) :
    2 ^ 53 * (units (mul x y) * unitsPerOne - units x * units y).natAbs ≤
      (units x * units y).natAbs + 2 ^ 52 * unitsPerOne := by
  obtain ⟨s, a, hx⟩ := isFinite_iff.mp hx
  obtain ⟨t, b, hy⟩ := isFinite_iff.mp hy
  have hpositive : 0 < unitsPerOne := Int.natCast_pos.mp unitsPerOne_pos
  obtain ⟨hupper, hlower⟩ := nearestBits_error (a * b) hpositive
  have hread := read_ofUnits_eq (s != t) (a * b) unitsPerOne
  rw [← mul_of_read hx hy] at hread
  have hfinite : nearestBits (a * b) unitsPerOne < infiniteBits := by
    by_contra hinfinite
    rw [if_neg hinfinite] at hread
    obtain ⟨_, _, hcontra⟩ := isFinite_iff.mp h
    rw [hread] at hcontra
    cases hcontra
  rw [if_pos hfinite] at hread
  rw [units_of_read hread, units_of_read hx, units_of_read hy, signedUnits_mul,
    natAbs_signedUnits]
  generalize unitsOf (nearestBits (a * b) unitsPerOne) = rounded at hupper hlower ⊢
  generalize a * b = exact at hupper hlower ⊢
  generalize unitsPerOne = one at hupper hlower ⊢
  have hdistance : (signedUnits (s != t) rounded * (one : Int) -
      signedUnits (s != t) exact).natAbs = ((rounded * one : Nat) - (exact : Int)).natAbs := by
    cases s != t with
    | false => simp [signedUnits]
    | true =>
      rw [← Int.natAbs_neg]
      congr 1
      simp only [signedUnits, if_true]
      push_cast
      ring
  rw [hdistance]
  omega

/-! ### Norms -/

/-- A root is no smaller than that of a smaller square. -/
theorem le_rootBits {count square : Nat} (h : count * count ≤ square) :
    ∃ bits, HasBits (ofRoot square) bits ∧ min (nearestBits count 1) infiniteBits ≤ bits := by
  have hroot : count * 2 ^ 64 ≤ (square * 2 ^ 128).sqrt := by
    rw [Nat.le_sqrt]
    calc count * 2 ^ 64 * (count * 2 ^ 64) = count * count * 2 ^ 128 := by ring
      _ ≤ square * 2 ^ 128 := Nat.mul_le_mul_right _ h
  unfold ofRoot
  simp only [Nat.pow_eq]
  generalize (square * 2 ^ 128).sqrt = whole at hroot ⊢
  generalize (if whole * whole = square * 2 ^ 128 then 0 else 1) = sticky
  have hdouble : count * 2 ^ 65 ≤ (2 * whole + sticky) * 1 := by
    rw [Nat.mul_one, Nat.pow_succ, ← Nat.mul_assoc]
    omega
  exact ⟨_, hasBits_ofUnits _ _,
    min_le_min_right _ (nearestBits_mono Nat.one_pos (Nat.two_pow_pos 65) hdouble)⟩

/-- The norm of finite components is the root of the sum of their squares. -/
theorem norm_of_finite {components : List Float}
    (hfinite : ∀ x ∈ components, isFinite x = true) :
    norm components =
      ofRoot (components.map fun x ↦ (units x).natAbs * (units x).natAbs).sum := by
  have hreading : ∀ reading ∈ components.map read, ∃ s u, reading = .finite s u := by
    intro reading hmem
    obtain ⟨x, hx, rfl⟩ := List.mem_map.mp hmem
    exact isFinite_iff.mp (hfinite x hx)
  unfold norm
  dsimp only
  rw [if_neg, if_neg, List.map_map]
  · refine congrArg (fun squares : List Nat ↦ ofRoot squares.sum)
      (List.map_congr_left fun x hx ↦ ?_)
    obtain ⟨s, u, hread⟩ := isFinite_iff.mp (hfinite x hx)
    rw [Function.comp_apply, hread, units_of_read hread, natAbs_signedUnits]
  · rw [List.any_eq_true]
    rintro ⟨reading, hmem, hnan⟩
    obtain ⟨s, u, rfl⟩ := hreading reading hmem
    cases hnan
  · rw [List.any_eq_true]
    rintro ⟨reading, hmem, hinfinite⟩
    obtain ⟨s, u, rfl⟩ := hreading reading hmem
    cases hinfinite

/-- Assumes: finite components. Their norm is no smaller than any of them without its sign. -/
theorem exists_bits_norm {components : List Float} (hfinite : ∀ x ∈ components, isFinite x = true)
    {x : Float} {negative : Bool} {count : Nat} (hmem : x ∈ components)
    (hread : read x = .finite negative count) :
    ∃ bits own, HasBits (norm components) bits ∧ own ≤ bits ∧ unitsOf own = count := by
  obtain ⟨own, hown, rfl⟩ := exists_bits_of_read hread
  have hsquare := List.le_sum_of_mem
    (List.mem_map_of_mem (f := fun x ↦ (units x).natAbs * (units x).natAbs) hmem)
  rw [units_of_read hread, natAbs_signedUnits] at hsquare
  obtain ⟨bits, hbits, hle⟩ := le_rootBits hsquare
  rw [nearestBits_unitsOf, Nat.min_eq_left (Nat.le_of_lt hown)] at hle
  exact ⟨bits, own, norm_of_finite hfinite ▸ hbits, hle, rfl⟩

/-- Assumes: doubles without a minus sign that are no smaller than two numbers of units other than
zero. Their product is no smaller than the product of these two. -/
theorem HasBits.exists_bits_mul {x y : Float} {bits others own other : Nat} (hx : HasBits x bits)
    (hy : HasBits y others) (hbits : own ≤ bits) (hothers : other ≤ others)
    (hown : unitsOf own ≠ 0) (hother : unitsOf other ≠ 0) :
    ∃ product, HasBits (mul x y) product ∧
      min (nearestBits (unitsOf own * unitsOf other) unitsPerOne) infiniteBits ≤ product := by
  have hleft := unitsOf_mono hbits
  have hright := unitsOf_mono hothers
  have hpositive : 0 < unitsPerOne := Int.natCast_pos.mp unitsPerOne_pos
  rcases hx.finite_or_infinite with ⟨-, hread⟩ | ⟨-, hread⟩
  · rcases hy.finite_or_infinite with ⟨-, hread'⟩ | ⟨-, hread'⟩
    · rw [mul_of_read hread hread']
      refine ⟨_, hasBits_ofUnits _ _, min_le_min_right _ (nearestBits_mono hpositive hpositive ?_)⟩
      exact Nat.mul_le_mul_right _ (Nat.mul_le_mul hleft hright)
    · refine ⟨infiniteBits, ?_, Nat.min_le_right _ _⟩
      unfold mul
      rw [hread, hread']
      dsimp only
      rw [if_neg (by omega)]
      exact hasBits_infinity
  · refine ⟨infiniteBits, ?_, Nat.min_le_right _ _⟩
    unfold mul
    rcases hy.finite_or_infinite with ⟨-, hread'⟩ | ⟨-, hread'⟩
    · rw [hread, hread']
      dsimp only
      rw [if_neg (by omega)]
      exact hasBits_infinity
    · rw [hread, hread']
      exact hasBits_infinity

/-- Assumes: finite components, and one of each list that is not zero. The product of the norms is
no smaller than the product of these two without its sign. -/
theorem exists_bits_mul_norm {a b : List Float} (ha : ∀ x ∈ a, isFinite x = true)
    (hb : ∀ y ∈ b, isFinite y = true) {x y : Float} (hx : x ∈ a) (hy : y ∈ b) {s t : Bool}
    {count other : Nat} (hread : read x = .finite s count) (hread' : read y = .finite t other)
    (hcount : count ≠ 0) (hother : other ≠ 0) :
    ∃ bits, HasBits (mul (norm a) (norm b)) bits ∧
      min (nearestBits (count * other) unitsPerOne) infiniteBits ≤ bits := by
  obtain ⟨bits, own, hbits, hle, rfl⟩ := exists_bits_norm ha hx hread
  obtain ⟨others, its, hothers, hle', rfl⟩ := exists_bits_norm hb hy hread'
  exact hbits.exists_bits_mul hothers hle hle' hcount hother

end Grounding.Binary64
