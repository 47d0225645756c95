import Mathlib.Tactic.Linarith
import Grounding.Proofs.Binary64

/-!
# Rounding keeps the order

A quotient is rounded to the nearest whole number, ties to even, and so greater quotients do not
become smaller (`roundQuotient_mono`): of two results in the wrong order, both would be ties, and
two neighbours are not both even. Rounding to a double is the same with a shift that grows with the
quotient (`nearestBits_mono`).

The patterns of bits of doubles without a minus sign stand in the order of what they denote
(`placeOf_mono`), and a finite one is what its own units are rounded to (`nearestBits_unitsOf`).
Sums and quotients follow, since their bits are functions of the bits of their operands: a sum of
greater terms is not smaller (`add_le_add`), adding something makes nothing smaller
(`le_add_right`), and a greater divisor gives no greater quotient (`div_le_div_left`).
-/

set_option autoImplicit false
set_option relaxedAutoImplicit false

namespace Grounding.Binary64

/-! ### Whole numbers -/

section Quotients

variable {numerator denominator : Nat}

/-- What a quotient is rounded to is half a unit away at most, and even if it is that far. -/
theorem roundQuotient_spec (numerator : Nat) (h : 0 < denominator) :
    2 * (roundQuotient numerator denominator * denominator) ≤ 2 * numerator + denominator ∧
      2 * numerator ≤ 2 * (roundQuotient numerator denominator * denominator) + denominator ∧
      (2 * (roundQuotient numerator denominator * denominator) = 2 * numerator + denominator ∨
        2 * numerator = 2 * (roundQuotient numerator denominator * denominator) + denominator →
          roundQuotient numerator denominator % 2 = 0) := by
  have hparts := Nat.div_add_mod' numerator denominator
  have hrest := Nat.mod_lt numerator h
  have hnext := Nat.add_one_mul (numerator / denominator) denominator
  unfold roundQuotient
  dsimp only
  by_cases hbelow : 2 * (numerator % denominator) < denominator
  · rw [if_pos hbelow]
    omega
  · rw [if_neg hbelow]
    by_cases habove : denominator < 2 * (numerator % denominator)
    · rw [if_pos habove]
      omega
    · rw [if_neg habove]
      rcases Nat.mod_two_eq_zero_or_one (numerator / denominator) with heven | hodd
      · rw [heven, Nat.add_zero]
        omega
      · rw [hodd]
        omega

theorem roundQuotient_one (numerator : Nat) : roundQuotient numerator 1 = numerator := by
  simp [roundQuotient, Nat.mod_one]

/-- A greater quotient is not rounded to a smaller number. -/
theorem roundQuotient_mono {greater divisor : Nat} (hdenominator : 0 < denominator)
    (hdivisor : 0 < divisor) (h : numerator * divisor ≤ greater * denominator) :
    roundQuotient numerator denominator ≤ roundQuotient greater divisor := by
  obtain ⟨hupper, -, heven⟩ := roundQuotient_spec numerator hdenominator
  obtain ⟨-, hlower, heven'⟩ := roundQuotient_spec greater hdivisor
  generalize roundQuotient numerator denominator = first at hupper heven ⊢
  generalize roundQuotient greater divisor = second at hlower heven' ⊢
  refine Nat.le_of_not_lt fun hless ↦ ?_
  have hpositive := Nat.mul_pos hdenominator hdivisor
  have hfirst := Nat.mul_le_mul_right divisor hupper
  have hsecond := Nat.mul_le_mul_right denominator hlower
  have hbetween := Nat.mul_le_mul_right (denominator * divisor) (Nat.succ_le_of_lt hless)
  have htie : (2 * (first * denominator)) * divisor = (2 * numerator + denominator) * divisor := by
    linarith
  have htie' : (2 * greater) * denominator =
      (2 * (second * divisor) + divisor) * denominator := by
    linarith
  have hneighbours : first * (denominator * divisor) = (second + 1) * (denominator * divisor) := by
    linarith
  have hnext := Nat.eq_of_mul_eq_mul_right hpositive hneighbours
  have hfirstEven := heven (Or.inl (Nat.eq_of_mul_eq_mul_right hdivisor htie))
  have hsecondEven := heven' (Or.inr (Nat.eq_of_mul_eq_mul_right hdenominator htie'))
  omega

end Quotients

/-! ### Bits -/

/-- By how many places the significand of a quotient is shifted. -/
def shiftOf (numerator denominator : Nat) : Nat :=
  (numerator / denominator).log2 - 52

section Bits

variable {numerator denominator : Nat}

theorem nearestBits_eq :
    nearestBits numerator denominator =
      shiftOf numerator denominator * 2 ^ 52 +
        roundQuotient numerator (denominator * 2 ^ shiftOf numerator denominator) := rfl

theorem shiftOf_mono {greater divisor : Nat} (hdenominator : 0 < denominator)
    (hdivisor : 0 < divisor) (h : numerator * divisor ≤ greater * denominator) :
    shiftOf numerator denominator ≤ shiftOf greater divisor := by
  have hquotient : numerator / denominator ≤ greater / divisor := by
    rw [Nat.le_div_iff_mul_le hdivisor]
    refine Nat.le_of_mul_le_mul_right (Nat.le_trans ?_ h) hdenominator
    rw [Nat.mul_right_comm]
    exact Nat.mul_le_mul_right divisor (Nat.div_mul_le_self numerator denominator)
  refine Nat.sub_le_sub_right ?_ 52
  by_cases hzero : numerator / denominator = 0
  · rw [hzero]
    exact Nat.zero_le _
  · have hgreater : greater / divisor ≠ 0 := fun hnone ↦ hzero (Nat.le_zero.mp (hnone ▸ hquotient))
    rw [Nat.le_log2 hgreater]
    exact Nat.le_trans (Nat.log2_self_le hzero) hquotient

/-- A shifted quotient is rounded to 53 bits, or to the first number with one more. -/
theorem roundQuotient_shiftOf_le (numerator : Nat) (h : 0 < denominator) :
    roundQuotient numerator (denominator * 2 ^ shiftOf numerator denominator) ≤ 2 ^ 53 := by
  have hquotient : numerator / denominator < 2 ^ (53 + shiftOf numerator denominator) := by
    refine Nat.lt_of_lt_of_le Nat.lt_log2_self (Nat.pow_le_pow_right (by decide) ?_)
    unfold shiftOf
    omega
  have hnumerator := (Nat.div_lt_iff_lt_mul h).mp hquotient
  rw [← roundQuotient_one (2 ^ 53)]
  refine roundQuotient_mono (Nat.mul_pos h (Nat.two_pow_pos _)) Nat.one_pos ?_
  rw [Nat.pow_add, Nat.mul_assoc, Nat.mul_comm _ denominator] at hnumerator
  rw [Nat.mul_one]
  exact Nat.le_of_lt hnumerator

/-- Assumes: a quotient that is shifted. It is rounded to 53 bits at least. -/
theorem le_roundQuotient_shiftOf (h : 0 < denominator)
    (hshift : 0 < shiftOf numerator denominator) :
    2 ^ 52 ≤ roundQuotient numerator (denominator * 2 ^ shiftOf numerator denominator) := by
  have hlog : (numerator / denominator).log2 = 52 + shiftOf numerator denominator := by
    unfold shiftOf at hshift ⊢
    omega
  have hnonzero : numerator / denominator ≠ 0 := by
    intro hzero
    rw [hzero, Nat.log2_zero] at hlog
    omega
  have hquotient := Nat.log2_self_le hnonzero
  rw [hlog, Nat.le_div_iff_mul_le h, Nat.pow_add, Nat.mul_assoc,
    Nat.mul_comm _ denominator] at hquotient
  rw [← roundQuotient_one (2 ^ 52)]
  refine roundQuotient_mono Nat.one_pos (Nat.mul_pos h (Nat.two_pow_pos _)) ?_
  rw [Nat.mul_one]
  exact hquotient

/-- A greater quotient is not rounded to a smaller double. -/
theorem nearestBits_mono {greater divisor : Nat} (hdenominator : 0 < denominator)
    (hdivisor : 0 < divisor) (h : numerator * divisor ≤ greater * denominator) :
    nearestBits numerator denominator ≤ nearestBits greater divisor := by
  have hshift := shiftOf_mono hdenominator hdivisor h
  rw [nearestBits_eq, nearestBits_eq]
  rcases Nat.eq_or_lt_of_le hshift with hsame | hless
  · rw [hsame]
    refine Nat.add_le_add_left (roundQuotient_mono (Nat.mul_pos hdenominator (Nat.two_pow_pos _))
      (Nat.mul_pos hdivisor (Nat.two_pow_pos _)) ?_) _
    rw [← Nat.mul_assoc, ← Nat.mul_assoc]
    exact Nat.mul_le_mul_right _ h
  · have hbelow := roundQuotient_shiftOf_le numerator hdenominator
    have habove := le_roundQuotient_shiftOf hdivisor (Nat.zero_lt_of_lt hless)
    omega

end Bits

/-! ### Places -/

/-- The place of a double without a minus sign among the others, from its bits. -/
def placeOf (bits : Nat) : Nat :=
  if bits < infiniteBits then unitsOf bits else unitsPerOne * unitsPerOne

theorem unitsOf_mono {bits others : Nat} (h : bits ≤ others) : unitsOf bits ≤ unitsOf others := by
  have hexponent : bits / 2 ^ 52 ≤ others / 2 ^ 52 := Nat.div_le_div_right h
  unfold unitsOf
  by_cases hsame : bits / 2 ^ 52 = others / 2 ^ 52
  · by_cases hzero : others / 2 ^ 52 = 0
    · rw [if_pos (hsame.trans hzero), if_pos hzero]
      exact h
    · rw [if_neg (hsame ▸ hzero), if_neg hzero, hsame]
      exact Nat.mul_le_mul_right _ (by omega)
  · have hless : bits / 2 ^ 52 < others / 2 ^ 52 := Nat.lt_of_le_of_ne hexponent hsame
    have hothers : 2 ^ 52 * 2 ^ (others / 2 ^ 52 - 1) ≤
        (others % 2 ^ 52 + 2 ^ 52) * 2 ^ (others / 2 ^ 52 - 1) :=
      Nat.mul_le_mul_right _ (Nat.le_add_left _ _)
    rw [if_neg (Nat.ne_of_gt (Nat.zero_lt_of_lt hless))]
    refine Nat.le_trans ?_ hothers
    by_cases hzero : bits / 2 ^ 52 = 0
    · have hpower := Nat.two_pow_pos (others / 2 ^ 52 - 1)
      rw [if_pos hzero]
      omega
    · have hpower : 2 ^ (bits / 2 ^ 52) ≤ 2 ^ (others / 2 ^ 52 - 1) :=
        Nat.pow_le_pow_right (by decide) (by omega)
      have hdouble : 2 * 2 ^ (bits / 2 ^ 52 - 1) = 2 ^ (bits / 2 ^ 52) :=
        mul_pow_sub_one hzero 2
      have hfraction : bits % 2 ^ 52 + 2 ^ 52 ≤ 2 ^ 52 * 2 := by omega
      rw [if_neg hzero]
      calc (bits % 2 ^ 52 + 2 ^ 52) * 2 ^ (bits / 2 ^ 52 - 1)
          ≤ 2 ^ 52 * 2 * 2 ^ (bits / 2 ^ 52 - 1) := Nat.mul_le_mul_right _ hfraction
        _ = 2 ^ 52 * 2 ^ (bits / 2 ^ 52) := by rw [Nat.mul_assoc, hdouble]
        _ ≤ 2 ^ 52 * 2 ^ (others / 2 ^ 52 - 1) := Nat.mul_le_mul_left _ hpower

/-- Every finite double lies below infinity. -/
theorem unitsOf_lt {bits : Nat} (h : bits < infiniteBits) :
    unitsOf bits < unitsPerOne * unitsPerOne := by
  obtain ⟨most, hmost, hinfinite⟩ : ∃ most, most = 2098 ∧ 2 ^ most < unitsPerOne * unitsPerOne :=
    ⟨2098, rfl, by decide +kernel⟩
  rw [infiniteBits_eq] at h
  have hexponent : 53 + (bits / 2 ^ 52 - 1) ≤ most := by omega
  have hunits : unitsOf bits ≤ 2 ^ (53 + (bits / 2 ^ 52 - 1)) := by
    have hpower := Nat.two_pow_pos (bits / 2 ^ 52 - 1)
    rw [Nat.pow_add]
    unfold unitsOf
    split
    · omega
    · exact Nat.mul_le_mul_right _ (by omega)
  calc unitsOf bits ≤ 2 ^ (53 + (bits / 2 ^ 52 - 1)) := hunits
    _ ≤ 2 ^ most := Nat.pow_le_pow_right (by decide) hexponent
    _ < unitsPerOne * unitsPerOne := hinfinite

/-- The units of a finite double, without its sign, are those of a pattern of bits. -/
theorem exists_bits_of_read {x : Float} {negative : Bool} {units : Nat}
    (h : read x = .finite negative units) : ∃ bits < infiniteBits, unitsOf bits = units := by
  unfold read at h
  generalize x.toBits.toNat = bits at h
  have hexponent : bits / 2 ^ 52 % 2 ^ 11 = bits % 2 ^ 63 / 2 ^ 52 := by omega
  have hfraction : bits % 2 ^ 52 = bits % 2 ^ 63 % 2 ^ 52 := by omega
  refine ⟨bits % 2 ^ 63, ?_⟩
  rw [infiniteBits_eq]
  unfold readBits at h
  simp only [Nat.pow_eq, hexponent, hfraction] at h
  have hpattern : bits % 2 ^ 63 < 2 ^ 63 := Nat.mod_lt _ (by decide)
  generalize bits % 2 ^ 63 = pattern at h hpattern ⊢
  unfold unitsOf
  by_cases hlast : pattern / 2 ^ 52 = 2047
  · rw [if_pos hlast] at h
    split at h <;> cases h
  · rw [if_neg hlast] at h
    by_cases hzero : pattern / 2 ^ 52 = 0
    · rw [if_pos hzero] at h ⊢
      obtain ⟨-, rfl⟩ := Reading.finite.inj h
      omega
    · rw [if_neg hzero] at h ⊢
      obtain ⟨-, rfl⟩ := Reading.finite.inj h
      exact ⟨by omega, rfl⟩

/-- Every finite double lies below infinity, without its sign. -/
theorem units_lt_of_read {x : Float} {negative : Bool} {units : Nat}
    (h : read x = .finite negative units) : units < unitsPerOne * unitsPerOne := by
  obtain ⟨bits, hbits, rfl⟩ := exists_bits_of_read h
  exact unitsOf_lt hbits

theorem placeOf_mono {bits others : Nat} (h : bits ≤ others) : placeOf bits ≤ placeOf others := by
  unfold placeOf
  by_cases hfinite : others < infiniteBits
  · rw [if_pos hfinite, if_pos (Nat.lt_of_le_of_lt h hfinite)]
    exact unitsOf_mono h
  · rw [if_neg hfinite]
    split
    · rename_i hbits
      exact Nat.le_of_lt (unitsOf_lt hbits)
    · exact Nat.le_refl _

/-- The units of a finite double are rounded to that double. -/
theorem nearestBits_unitsOf {bits : Nat} : nearestBits (unitsOf bits) 1 = bits := by
  rw [nearestBits_eq, Nat.one_mul]
  unfold unitsOf shiftOf
  rw [Nat.div_one]
  by_cases hzero : bits / 2 ^ 52 = 0
  · have hsmall : bits.log2 - 52 = 0 := by
      by_cases hnone : bits = 0
      · rw [hnone, Nat.log2_zero]
      · have hlog : bits.log2 < 52 := (Nat.log2_lt hnone).mpr (by omega)
        omega
    rw [if_pos hzero, hsmall, Nat.pow_zero, roundQuotient_one, Nat.zero_mul, Nat.zero_add]
  · have hfraction : bits % 2 ^ 52 < 2 ^ 52 := Nat.mod_lt _ (by decide)
    rw [if_neg hzero]
    generalize hshift : bits / 2 ^ 52 - 1 = shift
    have hpower := Nat.two_pow_pos shift
    have hlog : ((bits % 2 ^ 52 + 2 ^ 52) * 2 ^ shift).log2 = 52 + shift := by
      rw [Nat.log2_eq_iff (by positivity), Nat.add_right_comm, Nat.pow_add, Nat.pow_add]
      constructor
      · exact Nat.mul_le_mul_right _ (Nat.le_add_left _ _)
      · exact Nat.mul_lt_mul_of_pos_right (by omega) hpower
    rw [hlog, Nat.add_sub_cancel_left]
    have hexact : roundQuotient ((bits % 2 ^ 52 + 2 ^ 52) * 2 ^ shift) (2 ^ shift) =
        bits % 2 ^ 52 + 2 ^ 52 := by
      simp [roundQuotient, hpower]
    omega

/-- Places tell patterns apart. -/
theorem placeOf_lt {bits others : Nat} (hothers : others ≤ infiniteBits) (h : bits < others) :
    placeOf bits < placeOf others := by
  refine Nat.lt_of_le_of_ne (placeOf_mono (Nat.le_of_lt h)) fun hsame ↦ ?_
  have hfinite := Nat.lt_of_lt_of_le h hothers
  unfold placeOf at hsame
  rw [if_pos hfinite] at hsame
  split at hsame
  · have hbits : nearestBits (unitsOf bits) 1 = nearestBits (unitsOf others) 1 := by rw [hsame]
    rw [nearestBits_unitsOf, nearestBits_unitsOf] at hbits
    exact Nat.ne_of_lt h hbits
  · exact Nat.ne_of_lt (unitsOf_lt hfinite) hsame

/-! ### Doubles by their bits -/

/-- A double without a minus sign that has these bits. -/
structure HasBits (x : Float) (bits : Nat) : Prop where
  le : bits ≤ infiniteBits
  read_eq : read x = readBits bits

namespace HasBits

variable {x y : Float} {bits others : Nat}

/-- It is finite, or its bits are those of infinity. -/
theorem finite_or_infinite (h : HasBits x bits) :
    bits < infiniteBits ∧ read x = .finite false (unitsOf bits) ∨
      bits = infiniteBits ∧ read x = .infinite false := by
  rw [h.read_eq, readBits_of_le h.le]
  by_cases hfinite : bits < infiniteBits
  · rw [if_pos hfinite]
    exact Or.inl ⟨hfinite, rfl⟩
  · rw [if_neg hfinite]
    exact Or.inr ⟨Nat.le_antisymm h.le (Nat.le_of_not_lt hfinite), rfl⟩

theorem rank_eq (h : HasBits x bits) : rank x = some (placeOf bits : Int) := by
  unfold rank placeOf
  rcases h.finite_or_infinite with ⟨hfinite, hread⟩ | ⟨rfl, hread⟩
  · rw [hread, if_pos hfinite]
    rfl
  · rw [hread, if_neg (Nat.lt_irrefl _)]
    rfl

/-- Doubles without a minus sign stand in the order of their bits. -/
theorem le_iff (hx : HasBits x bits) (hy : HasBits y others) :
    Binary64.le x y = true ↔ bits ≤ others := by
  unfold Binary64.le
  rw [hx.rank_eq, hy.rank_eq, decide_eq_true_iff, Int.ofNat_le]
  constructor
  · intro hplaces
    exact Nat.le_of_not_lt fun hless ↦ Nat.not_lt.mpr hplaces (placeOf_lt hx.le hless)
  · exact placeOf_mono

end HasBits

theorem hasBits_infinity : HasBits (infinity false) infiniteBits where
  le := Nat.le_refl _
  read_eq := by decide +kernel

theorem hasBits_zero : HasBits (zero false) 0 where
  le := Nat.zero_le _
  read_eq := by decide +kernel

theorem hasBits_ofUnits (numerator denominator : Nat) :
    HasBits (ofUnits false numerator denominator)
      (min (nearestBits numerator denominator) infiniteBits) where
  le := Nat.min_le_right _ _
  read_eq := read_ofUnits numerator denominator

/-- Assumes: a pattern that reads as a number without a minus sign. It is one of those up to
infinity. -/
theorem le_infiniteBits {bits : Nat} (h : readBits bits = .infinite false ∨
    ∃ units, readBits bits = .finite false units) : bits ≤ infiniteBits := by
  have hsign : bits < 2 ^ 63 := by
    refine Nat.lt_of_not_le fun hnegative ↦ ?_
    have hminus : decide (Nat.pow 2 63 ≤ bits) = true := decide_eq_true hnegative
    unfold readBits at h
    simp only [hminus] at h
    split at h
    · split at h <;> simp at h
    · split at h <;> simp at h
  have hnumber : ¬ (bits / 2 ^ 52 % 2 ^ 11 = 2047 ∧ bits % 2 ^ 52 ≠ 0) := by
    rw [← readBits_eq_nan_iff]
    intro hnan
    simp [hnan] at h
  rw [infiniteBits_eq]
  omega

/-- A double without a minus sign that is no NaN has bits. -/
theorem Unsigned.exists_bits {x : Float} (h : Unsigned x) : ∃ bits, HasBits x bits :=
  ⟨x.toBits.toNat, le_infiniteBits h, rfl⟩

/-! ### Sums and quotients -/

/-- The bits of a sum. -/
def sumBits (bits others : Nat) : Nat :=
  if bits < infiniteBits ∧ others < infiniteBits then
    min (nearestBits (unitsOf bits + unitsOf others) 1) infiniteBits
  else infiniteBits

/-- The bits of a quotient of a number of units. -/
def quotientBits (units bits : Nat) : Nat :=
  if bits < infiniteBits then
    if unitsOf bits = 0 then infiniteBits
    else min (nearestBits (units * unitsPerOne) (unitsOf bits)) infiniteBits
  else 0

section Operations

variable {x y : Float} {bits others : Nat}

theorem HasBits.add (hx : HasBits x bits) (hy : HasBits y others) :
    HasBits (add x y) (sumBits bits others) := by
  unfold Binary64.add sumBits
  rcases hx.finite_or_infinite with ⟨hbits, hread⟩ | ⟨rfl, hread⟩ <;>
    rcases hy.finite_or_infinite with ⟨hothers, hread'⟩ | ⟨rfl, hread'⟩ <;> rw [hread, hread']
  · have htotal : signedUnits false (unitsOf bits) + signedUnits false (unitsOf others) =
        ((unitsOf bits + unitsOf others : Nat) : Int) := rfl
    rw [if_pos ⟨hbits, hothers⟩]
    dsimp only
    rw [htotal]
    split
    · rename_i hnone
      rw [Int.natCast_eq_zero.mp hnone]
      exact hasBits_zero
    · exact hasBits_ofUnits _ _
  all_goals
    rw [if_neg (by simp)]
    exact hasBits_infinity

theorem HasBits.div {numerator : Float} {units : Nat}
    (hnumerator : read numerator = .finite false units) (hunits : units ≠ 0)
    (hx : HasBits x bits) : HasBits (div numerator x) (quotientBits units bits) := by
  unfold Binary64.div quotientBits
  rcases hx.finite_or_infinite with ⟨hbits, hread⟩ | ⟨rfl, hread⟩ <;> rw [hnumerator, hread]
  · rw [if_pos hbits]
    dsimp only
    rw [if_neg hunits]
    split
    · exact hasBits_infinity
    · exact hasBits_ofUnits _ _
  · rw [if_neg (Nat.lt_irrefl _)]
    exact hasBits_zero

theorem sumBits_mono {more further : Nat} (hbits : bits ≤ more) (hothers : others ≤ further) :
    sumBits bits others ≤ sumBits more further := by
  unfold sumBits
  by_cases hfinite : more < infiniteBits ∧ further < infiniteBits
  · rw [if_pos hfinite, if_pos ⟨by omega, by omega⟩]
    refine min_le_min_right _ (nearestBits_mono Nat.one_pos Nat.one_pos ?_)
    rw [Nat.mul_one, Nat.mul_one]
    exact Nat.add_le_add (unitsOf_mono hbits) (unitsOf_mono hothers)
  · rw [if_neg hfinite]
    split
    · exact Nat.min_le_right _ _
    · exact Nat.le_refl _

/-- Nothing is lost by adding something, however the sum is rounded. -/
theorem le_sumBits (hbits : bits ≤ infiniteBits) : bits ≤ sumBits bits others := by
  unfold sumBits
  split
  · refine Nat.le_min.mpr ⟨?_, hbits⟩
    calc bits = nearestBits (unitsOf bits) 1 := nearestBits_unitsOf.symm
      _ ≤ nearestBits (unitsOf bits + unitsOf others) 1 :=
        nearestBits_mono Nat.one_pos Nat.one_pos (by omega)
  · exact hbits

theorem quotientBits_anti (units : Nat) (h : bits ≤ others) :
    quotientBits units others ≤ quotientBits units bits := by
  have hunits := unitsOf_mono h
  unfold quotientBits
  by_cases hfinite : others < infiniteBits
  · rw [if_pos hfinite, if_pos (Nat.lt_of_le_of_lt h hfinite)]
    by_cases hzero : unitsOf bits = 0
    · rw [if_pos hzero]
      split
      · exact Nat.le_refl _
      · exact Nat.min_le_right _ _
    · rw [if_neg hzero, if_neg (by omega)]
      refine min_le_min_right _ (nearestBits_mono (by omega) (by omega) ?_)
      exact Nat.mul_le_mul_left _ hunits
  · rw [if_neg hfinite]
    exact Nat.zero_le _

end Operations

/-- A sum of greater doubles is not smaller. -/
theorem add_le_add {x y more further : Float} (hx : Unsigned x) (hy : Unsigned y)
    (hmore : Unsigned more) (hfurther : Unsigned further) (hxmore : le x more = true)
    (hyfurther : le y further = true) : le (add x y) (add more further) = true := by
  obtain ⟨xbits, hxbits⟩ := hx.exists_bits
  obtain ⟨ybits, hybits⟩ := hy.exists_bits
  obtain ⟨morebits, hmorebits⟩ := hmore.exists_bits
  obtain ⟨furtherbits, hfurtherbits⟩ := hfurther.exists_bits
  rw [(hxbits.add hybits).le_iff (hmorebits.add hfurtherbits)]
  exact sumBits_mono ((hxbits.le_iff hmorebits).mp hxmore)
    ((hybits.le_iff hfurtherbits).mp hyfurther)

/-- Adding something does not make a double smaller. -/
theorem le_add_right {x y : Float} (hx : Unsigned x) (hy : Unsigned y) :
    le x (add x y) = true := by
  obtain ⟨xbits, hxbits⟩ := hx.exists_bits
  obtain ⟨ybits, hybits⟩ := hy.exists_bits
  rw [hxbits.le_iff (hxbits.add hybits)]
  exact le_sumBits hxbits.le

/-- A greater divisor gives no greater quotient. -/
theorem div_le_div_left {numerator x y : Float} {units : Nat}
    (hnumerator : read numerator = .finite false units) (hunits : units ≠ 0) (hx : Unsigned x)
    (hy : Unsigned y) (h : le x y = true) : le (div numerator y) (div numerator x) = true := by
  obtain ⟨xbits, hxbits⟩ := hx.exists_bits
  obtain ⟨ybits, hybits⟩ := hy.exists_bits
  rw [(hybits.div hnumerator hunits).le_iff (hxbits.div hnumerator hunits)]
  exact quotientBits_anti units ((hxbits.le_iff hybits).mp h)

/-- A greater number of units is not rounded to a smaller double. -/
theorem ofSignedUnits_le {units more : Int} (hunits : 0 ≤ units) (h : units ≤ more) :
    le (ofSignedUnits units) (ofSignedUnits more) = true := by
  unfold ofSignedUnits
  rw [decide_eq_false (Int.not_lt.mpr hunits),
    decide_eq_false (Int.not_lt.mpr (Int.le_trans hunits h)),
    (hasBits_ofUnits _ _).le_iff (hasBits_ofUnits _ _)]
  exact min_le_min_right _ (nearestBits_mono Nat.one_pos Nat.one_pos (by omega))

theorem le_eq_false_of_lt {x y : Float} (h : lt y x = true) : le x y = false := by
  unfold lt at h
  unfold le
  cases hx : rank x <;> cases hy : rank y <;> simp_all

end Grounding.Binary64
