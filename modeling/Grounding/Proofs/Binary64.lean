import Mathlib.Algebra.Group.Nat.Defs
import Grounding.Binary64

/-!
# Doubles and their bits

`Float.ofBits` takes a bit pattern apart into its sign, its exponent and its mantissa and puts a
double together from them again. For every pattern that denotes a number this is the same pattern
(`toBits_ofBits`), and all others become the one NaN, so that the reading of a double is the
reading of the bits that it was made from (`read_ofBits`).

A double without a minus sign is `Unsigned` if it is no NaN either. What `ofUnits` rounds without a
sign is one, and sums and quotients of such doubles are again (`Unsigned.add`, `Unsigned.div`):
these are never a NaN, however often one adds.
-/

set_option autoImplicit false
set_option relaxedAutoImplicit false

namespace Grounding.Binary64

open Float.Model
open Float.Model.UnpackedFloat (Sign packComponents unpackSign unpackExponent unpackMantissa)

/-! ### Packing and unpacking -/

section Parts

variable (word : BitVec Format.binary64.numBits)

theorem toNat_unpackMantissa : (unpackMantissa word).toNat = word.toNat % 2 ^ 52 := by
  simp [unpackMantissa]

theorem toNat_unpackExponent :
    (unpackExponent word).toNat = word.toNat / 2 ^ 52 % 2 ^ 11 := by
  simp [unpackExponent, Nat.shiftRight_eq_div_pow]

theorem toNat_unpackSign : (unpackSign word).toNat = word.toNat / 2 ^ 63 := by
  have hword : word.toNat < 2 ^ 64 := word.isLt
  show (word.extractLsb _ _).toNat = _
  rw [BitVec.extractLsb_toNat, Nat.shiftRight_eq_div_pow]
  show word.toNat / 2 ^ 63 % 2 ^ 1 = _
  omega

theorem toBitVec_ofBitVec (sign : BitVec 1) : (Sign.ofBitVec sign).toBitVec = sign := by
  revert sign
  decide

/-- A word is made of its own sign, exponent and mantissa. -/
theorem packComponents_unpack :
    packComponents Format.binary64 (Sign.ofBitVec (unpackSign word)) (unpackExponent word)
      (unpackMantissa word) = word := by
  have hword : word.toNat < 2 ^ 64 := word.isLt
  apply BitVec.eq_of_toNat_eq
  unfold packComponents
  rw [toBitVec_ofBitVec, BitVec.toNat_append, BitVec.toNat_append,
    ← Nat.shiftLeft_add_eq_or_of_lt (BitVec.isLt _),
    ← Nat.shiftLeft_add_eq_or_of_lt (BitVec.isLt _), Nat.shiftLeft_eq, Nat.shiftLeft_eq,
    toNat_unpackMantissa, toNat_unpackExponent, toNat_unpackSign]
  show (word.toNat / 2 ^ 63 * 2 ^ 11 + word.toNat / 2 ^ 52 % 2 ^ 11) * 2 ^ 52 +
    word.toNat % 2 ^ 52 = word.toNat
  omega

theorem unpackExponent_eq_last_iff :
    unpackExponent word = -1#11 ↔ word.toNat / 2 ^ 52 % 2 ^ 11 = 2047 := by
  rw [← BitVec.toNat_inj, toNat_unpackExponent]
  rfl

theorem unpackMantissa_eq_zero_iff : unpackMantissa word = 0#52 ↔ word.toNat % 2 ^ 52 = 0 := by
  rw [← BitVec.toNat_inj, toNat_unpackMantissa]
  rfl

end Parts

theorem toNat_implicit (mantissa : BitVec 52) :
    (1#1 ++ mantissa).toNat = 2 ^ 52 + mantissa.toNat := by
  rw [BitVec.toNat_append, ← Nat.shiftLeft_add_eq_or_of_lt mantissa.isLt]
  rfl

theorem pack_subnormal (sign : Sign) {mantissa : BitVec 52} (h : 0 < mantissa.toNat) :
    UnpackedFloat.pack Format.binary64 (.finite sign mantissa.toNat (-1074) h) =
      packComponents Format.binary64 sign 0#11 mantissa := by
  have hlog : mantissa.toNat.log2 < 52 := (Nat.log2_lt (Nat.ne_of_gt h)).mpr mantissa.isLt
  have hbits : mantissa.toNat.log2 + 1 ≠ Format.binary64.mantissaBits := by
    show _ ≠ 53
    omega
  unfold UnpackedFloat.pack
  dsimp only
  rw [if_neg (by decide), if_neg hbits, BitVec.ofNat_toNat, BitVec.setWidth_eq]

/-- Assumes: an exponent that is not the last one. A mantissa with its implicit bit is packed
without it. -/
theorem pack_normal (sign : Sign) {exponent : BitVec 11} (mantissa : BitVec 52)
    (hexponent : exponent.toNat < 2047) (h : 0 < (1#1 ++ mantissa).toNat) :
    UnpackedFloat.pack Format.binary64
        (.finite sign (1#1 ++ mantissa).toNat (exponent.toNat - (1023 + 52)) h) =
      packComponents Format.binary64 sign exponent mantissa := by
  have hmantissa := mantissa.isLt
  have hbits : (1#1 ++ mantissa).toNat.log2 + 1 = Format.binary64.mantissaBits := by
    have hlog : (2 ^ 52 + mantissa.toNat).log2 = 52 := (Nat.log2_eq_iff (by omega)).mpr (by omega)
    rw [toNat_implicit, hlog]
    rfl
  have hbiased : ((exponent.toNat : Int) - (1023 + 52) + Format.binary64.exponentBias +
      Format.binary64.mantissaBitsWithoutImplicit).toNat = exponent.toNat := by
    show ((exponent.toNat : Int) - (1023 + 52) + 1023 + 52).toNat = exponent.toNat
    omega
  have hroom : ¬ 2 ^ Format.binary64.exponentBits ≤ exponent.toNat + 1 := by
    show ¬ 2048 ≤ _
    omega
  have hfraction : BitVec.ofNat 52 (1#1 ++ mantissa).toNat = mantissa := by
    apply BitVec.eq_of_toNat_eq
    rw [toNat_implicit, BitVec.toNat_ofNat, Nat.add_mod_left, Nat.mod_eq_of_lt hmantissa]
  unfold UnpackedFloat.pack
  dsimp only
  rw [hbiased, if_neg hroom, if_pos hbits, hfraction, BitVec.ofNat_toNat, BitVec.setWidth_eq]

/-- Assumes: a word that denotes a number. Unpacked and packed again it is the same word. -/
theorem pack_unpack {word : BitVec Format.binary64.numBits}
    (h : unpackExponent word = -1#11 → unpackMantissa word = 0#52) :
    UnpackedFloat.pack Format.binary64 (UnpackedFloat.unpack Format.binary64 word) = word := by
  have hparts := packComponents_unpack word
  unfold UnpackedFloat.unpack
  dsimp only
  by_cases hlast : unpackExponent word = -1#11
  · rw [hlast, h hlast] at hparts
    rw [if_pos hlast, if_pos (h hlast)]
    exact hparts
  · rw [if_neg hlast]
    by_cases hfirst : unpackExponent word = 0#11
    · rw [hfirst] at hparts ⊢
      rw [if_pos rfl]
      by_cases hzero : unpackMantissa word = 0#52
      · rw [hzero] at hparts
        rw [dif_pos hzero]
        exact hparts
      · rw [dif_neg hzero]
        exact (pack_subnormal _ _).trans hparts
    · rw [if_neg hfirst]
      have hbound : (unpackExponent word).toNat < 2048 := (unpackExponent word).isLt
      have hother : (unpackExponent word).toNat ≠ 2047 :=
        fun heq ↦ hlast (BitVec.eq_of_toNat_eq heq)
      exact (pack_normal _ _ (by omega) _).trans hparts

/-! ### Readings -/

theorem readBits_eq_nan_iff (bits : Nat) :
    readBits bits = .nan ↔ bits / 2 ^ 52 % 2 ^ 11 = 2047 ∧ bits % 2 ^ 52 ≠ 0 := by
  unfold readBits
  show (if bits / 2 ^ 52 % 2 ^ 11 = 2047 then _ else _) = _ ↔ _
  by_cases hlast : bits / 2 ^ 52 % 2 ^ 11 = 2047
  · rw [if_pos hlast]
    show (if bits % 2 ^ 52 = 0 then _ else _) = _ ↔ _
    by_cases hzero : bits % 2 ^ 52 = 0
    · rw [if_pos hzero]
      constructor
      · intro h
        cases h
      · rintro ⟨-, hnonzero⟩
        exact absurd hzero hnonzero
    · rw [if_neg hzero]
      exact iff_of_true rfl ⟨hlast, hzero⟩
  · rw [if_neg hlast]
    constructor
    · intro h
      split at h <;> cases h
    · rintro ⟨hlast', -⟩
      exact absurd hlast' hlast

/-- Assumes: a bit pattern that denotes a number. The double of these bits has them. -/
theorem toBits_ofBits {bits : UInt64} (h : readBits bits.toNat ≠ .nan) :
    (Float.ofBits bits).toBits = bits := by
  show UInt64.ofBitVec (UnpackedFloat.pack Format.binary64
    (UnpackedFloat.unpack Format.binary64 bits.toBitVec)) = bits
  rw [pack_unpack]
  intro hlast
  refine Decidable.byContradiction fun hzero ↦ h ((readBits_eq_nan_iff _).mpr ?_)
  exact ⟨(unpackExponent_eq_last_iff _).mp hlast,
    fun h ↦ hzero ((unpackMantissa_eq_zero_iff _).mpr h)⟩

/-- A double reads as the bits that it was made from. -/
theorem read_ofBits (bits : UInt64) : read (Float.ofBits bits) = readBits bits.toNat := by
  by_cases hnan : readBits bits.toNat = .nan
  · obtain ⟨hlast, hzero⟩ := (readBits_eq_nan_iff _).mp hnan
    have hunpack : UnpackedFloat.unpack Format.binary64 bits.toBitVec = .notANumber := by
      unfold UnpackedFloat.unpack
      dsimp only
      rw [if_pos ((unpackExponent_eq_last_iff _).mpr hlast),
        if_neg fun h ↦ hzero ((unpackMantissa_eq_zero_iff _).mp h)]
    have hbits : (Float.ofBits bits).toBits = 0x7FF8000000000000 := by
      show UInt64.ofBitVec (UnpackedFloat.pack Format.binary64
        (UnpackedFloat.unpack Format.binary64 bits.toBitVec)) = _
      rw [hunpack]
      rfl
    rw [hnan, read, hbits]
    decide +kernel
  · rw [read, toBits_ofBits hnan]

/-! ### Patterns without a minus sign -/

/-- The units of a finite double without a minus sign, from its bits. -/
def unitsOf (bits : Nat) : Nat :=
  if bits / 2 ^ 52 = 0 then bits else (bits % 2 ^ 52 + 2 ^ 52) * 2 ^ (bits / 2 ^ 52 - 1)

theorem infiniteBits_eq : infiniteBits = 2047 * 2 ^ 52 := rfl

/-- Assumes: a pattern of a finite double or of infinity, without a minus sign. -/
theorem readBits_of_le {bits : Nat} (h : bits ≤ infiniteBits) :
    readBits bits =
      if bits < infiniteBits then .finite false (unitsOf bits) else .infinite false := by
  rw [infiniteBits_eq] at h ⊢
  have hsign : ¬ 2 ^ 63 ≤ bits := by omega
  have hexponent : bits / 2 ^ 52 % 2 ^ 11 = bits / 2 ^ 52 := by omega
  unfold readBits unitsOf
  simp only [Nat.pow_eq, hexponent, hsign, decide_false]
  by_cases hfinite : bits < 2047 * 2 ^ 52
  · have hother : ¬ bits / 2 ^ 52 = 2047 := by omega
    rw [if_pos hfinite, if_neg hother]
    by_cases hzero : bits / 2 ^ 52 = 0
    · have hfraction : bits % 2 ^ 52 = bits := by omega
      rw [if_pos hzero, if_pos hzero, hfraction]
    · rw [if_neg hzero, if_neg hzero]
  · have hlast : bits / 2 ^ 52 = 2047 := by omega
    have hfraction : bits % 2 ^ 52 = 0 := by omega
    rw [if_neg hfinite, if_pos hlast, if_pos hfraction]

/-- What is rounded without a sign reads as the nearest pattern, or as infinity if that is too
large for a finite double. -/
theorem read_ofUnits (numerator denominator : Nat) :
    read (ofUnits false numerator denominator) =
      readBits (min (nearestBits numerator denominator) infiniteBits) := by
  unfold ofUnits
  dsimp only
  rw [if_neg Bool.false_ne_true]
  generalize hbits : min (nearestBits numerator denominator) infiniteBits = bits
  have hle : bits ≤ 2047 * 2 ^ 52 := by
    rw [← infiniteBits_eq, ← hbits]
    exact Nat.min_le_right _ _
  rw [read_ofBits, UInt64.toNat_ofNat_of_lt' (Nat.lt_of_le_of_lt hle (by decide))]

/-! ### Doubles without a minus sign -/

/-- A double that is no NaN and has no minus sign. -/
def Unsigned (x : Float) : Prop :=
  read x = .infinite false ∨ ∃ units, read x = .finite false units

theorem Unsigned.isNaN_eq_false {x : Float} (h : Unsigned x) : isNaN x = false := by
  unfold isNaN
  obtain hread | ⟨units, hread⟩ := h <;> rw [hread] <;> rfl

theorem unsigned_infinity : Unsigned (infinity false) :=
  Or.inl (by decide +kernel)

theorem unsigned_zero : Unsigned (zero false) :=
  Or.inr ⟨0, by decide +kernel⟩

/-- What is rounded without a sign has none, even if it is too large for a finite double. -/
theorem unsigned_ofUnits (numerator denominator : Nat) :
    Unsigned (ofUnits false numerator denominator) := by
  unfold Unsigned
  rw [read_ofUnits, readBits_of_le (Nat.min_le_right _ _)]
  split
  · exact Or.inr ⟨_, rfl⟩
  · exact Or.inl rfl

theorem unsigned_ofSignedUnits {units : Int} (h : 0 ≤ units) : Unsigned (ofSignedUnits units) := by
  unfold ofSignedUnits
  rw [decide_eq_false (Int.not_lt.mpr h)]
  exact unsigned_ofUnits _ _

/-- A sum of doubles without a minus sign has none. -/
theorem Unsigned.add {x y : Float} (hx : Unsigned x) (hy : Unsigned y) : Unsigned (add x y) := by
  unfold Binary64.add
  obtain hx | ⟨a, hx⟩ := hx <;> obtain hy | ⟨b, hy⟩ := hy <;> rw [hx, hy] <;> dsimp only
  · rw [if_pos rfl]
    exact unsigned_infinity
  · exact unsigned_infinity
  · exact unsigned_infinity
  · split
    · exact unsigned_zero
    · exact unsigned_ofSignedUnits (by simp only [signedUnits, Bool.false_eq_true, if_false]; omega)

/-- A quotient of doubles without a minus sign has none, if the first one is finite and not zero. -/
theorem Unsigned.div {x y : Float} {units : Nat} (hx : read x = .finite false units)
    (hunits : units ≠ 0) (hy : Unsigned y) : Unsigned (div x y) := by
  unfold Binary64.div
  obtain hy | ⟨b, hy⟩ := hy <;> rw [hx, hy] <;> dsimp only
  · exact unsigned_zero
  · by_cases hb : b = 0
    · rw [if_pos hb, if_neg hunits]
      exact unsigned_infinity
    · rw [if_neg hb]
      exact unsigned_ofUnits _ _

end Grounding.Binary64
