/-!
Double-precision numbers as exact integers. Every finite double is a whole number of the smallest
positive one, `2^-1074`; in these *units* sums, products and comparisons are those of integers, and
one function, `nearestBits`, rounds an exact quotient back to the nearest double, ties to even.

* `Reading` and `read`: what a double denotes.
* `ofUnits`: the double nearest to a quotient of units; `add`, `mul` and `div` round once with it.
* `rank`, `le` and `lt`: the order of doubles; a NaN has no place in it.
* `sum`: the exactly rounded sum of a list, unless a running sum is infinite on the way; `norm`: the
  correctly rounded Euclidean norm.
* `le_total`, `le_trans`: on doubles that are not NaN the order is total and transitive.

Signs of zero follow the usual rules of binary arithmetic. The payload of a NaN is not kept.
-/

set_option autoImplicit false
set_option relaxedAutoImplicit false

namespace Grounding.Binary64

/-- What a double denotes: nothing, an infinity, or a signed number of units of `2^-1074`. -/
inductive Reading
  | nan
  | infinite (negative : Bool)
  | finite (negative : Bool) (units : Nat)
deriving DecidableEq, Repr

/-- The reading of a bit pattern: sign, biased exponent and fraction. -/
def readBits (bits : Nat) : Reading :=
  let negative := decide (Nat.pow 2 63 ≤ bits)
  let biased := bits / Nat.pow 2 52 % Nat.pow 2 11
  let fraction := bits % Nat.pow 2 52
  if biased = 2047 then
    if fraction = 0 then .infinite negative else .nan
  else if biased = 0 then .finite negative fraction
  else .finite negative ((fraction + Nat.pow 2 52) * Nat.pow 2 (biased - 1))

/-- The reading of a double. -/
def read (x : Float) : Reading :=
  readBits x.toBits.toNat

/-- A double that denotes no number. -/
def nan : Float :=
  Float.ofBits 0x7FF8000000000000

/-- Plus or minus infinity. -/
def infinity (negative : Bool) : Float :=
  Float.ofBits (if negative then 0xFFF0000000000000 else 0x7FF0000000000000)

/-- Plus or minus zero. -/
def zero (negative : Bool) : Float :=
  Float.ofBits (if negative then 0x8000000000000000 else 0)

/-! ### Rounding -/

/-- The whole number nearest to a quotient; a tie goes to the even neighbour. -/
def roundQuotient (numerator denominator : Nat) : Nat :=
  let quotient := numerator / denominator
  let twice := 2 * (numerator % denominator)
  if twice < denominator then quotient
  else if denominator < twice then quotient + 1
  else quotient + quotient % 2

/-- The bits, without sign, of the double nearest to a quotient of units. A quotient below `2^53`
is rounded to a whole unit, any other one to 53 significant bits; in both cases the bits are the
rounded significand on top of the number of places it was shifted by. -/
def nearestBits (numerator denominator : Nat) : Nat :=
  let shift := (numerator / denominator).log2 - 52
  shift * Nat.pow 2 52 + roundQuotient numerator (denominator * Nat.pow 2 shift)

/-- The bits of positive infinity; every pattern from here on is too large to be finite. -/
def infiniteBits : Nat :=
  2047 * Nat.pow 2 52

/-- The double nearest to a signed quotient of units. -/
def ofUnits (negative : Bool) (numerator denominator : Nat) : Float :=
  let bits := min (nearestBits numerator denominator) infiniteBits
  Float.ofBits (UInt64.ofNat (if negative then bits + Nat.pow 2 63 else bits))

/-- The number of units in one. -/
def unitsPerOne : Nat :=
  Nat.pow 2 1074

/-- The double nearest to a signed quotient. -/
def ofRatio (negative : Bool) (numerator denominator : Nat) : Float :=
  ofUnits negative (numerator * unitsPerOne) denominator

/-- The double nearest to a signed number of units; zero units give positive zero. -/
def ofSignedUnits (units : Int) : Float :=
  ofUnits (decide (units < 0)) units.natAbs 1

/-- The double nearest to an integer, unless the integer is too large for one. -/
def ofInt? (n : Int) : Option Float :=
  if nearestBits (n.natAbs * unitsPerOne) 1 < infiniteBits then
    some (ofSignedUnits (n * unitsPerOne))
  else none

/-- A decimal `± digits · 10^exponent` as a double. Decimals beyond all doubles are decided by their
size alone. -/
def ofDecimal (negative : Bool) (digits : Nat) (exponent : Int) : Float :=
  if digits = 0 then zero negative
  else
    let size : Int := exponent + (digits.log2 : Int)
    if 2000 < exponent then infinity negative
    else if exponent < -2000 - (digits.log2 : Int) then zero negative
    else if 0 ≤ exponent then ofRatio negative (digits * Nat.pow 10 exponent.toNat) 1
    else if size < -4000 then zero negative
    else ofRatio negative digits (Nat.pow 10 (-exponent).toNat)

/-! ### Signed readings -/

/-- The signed units of a finite reading. -/
def signedUnits (negative : Bool) (units : Nat) : Int :=
  if negative then -(units : Int) else units

/-- Whether a double is a NaN. -/
def isNaN (x : Float) : Bool :=
  read x == .nan

/-- Whether a double is neither a NaN nor infinite. -/
def isFinite (x : Float) : Bool :=
  match read x with
  | .finite _ _ => true
  | _ => false

/-- Whether a double is plus or minus zero. -/
def isZero (x : Float) : Bool :=
  match read x with
  | .finite _ units => units == 0
  | _ => false

/-! ### Arithmetic -/

/-- The sum of two doubles, rounded once. -/
def add (x y : Float) : Float :=
  match read x, read y with
  | .nan, _ => nan
  | _, .nan => nan
  | .infinite s, .infinite t => if s = t then infinity s else nan
  | .infinite s, .finite _ _ => infinity s
  | .finite _ _, .infinite t => infinity t
  | .finite s a, .finite t b =>
    let total := signedUnits s a + signedUnits t b
    if total = 0 then zero (s && t) else ofSignedUnits total

/-- The product of two doubles, rounded once. -/
def mul (x y : Float) : Float :=
  match read x, read y with
  | .nan, _ => nan
  | _, .nan => nan
  | .infinite s, .infinite t => infinity (s != t)
  | .infinite s, .finite t b => if b = 0 then nan else infinity (s != t)
  | .finite s a, .infinite t => if a = 0 then nan else infinity (s != t)
  | .finite s a, .finite t b => ofUnits (s != t) (a * b) unitsPerOne

/-- The quotient of two doubles, rounded once. -/
def div (x y : Float) : Float :=
  match read x, read y with
  | .nan, _ => nan
  | _, .nan => nan
  | .infinite _, .infinite _ => nan
  | .infinite s, .finite t _ => infinity (s != t)
  | .finite s _, .infinite t => zero (s != t)
  | .finite s a, .finite t b =>
    if b = 0 then
      if a = 0 then nan else infinity (s != t)
    else ofUnits (s != t) (a * unitsPerOne) b

/-! ### Order -/

/-- The place of a double among the others, in units; the infinities lie outside all finite ones. -/
def rank (x : Float) : Option Int :=
  match read x with
  | .nan => none
  | .infinite negative => some (signedUnits negative (unitsPerOne * unitsPerOne))
  | .finite negative units => some (signedUnits negative units)

/-- The order of doubles; a NaN is in no relation to anything. -/
def le (x y : Float) : Bool :=
  match rank x, rank y with
  | some a, some b => decide (a ≤ b)
  | _, _ => false

/-- The strict order of doubles. -/
def lt (x y : Float) : Bool :=
  match rank x, rank y with
  | some a, some b => decide (a < b)
  | _, _ => false

/-- Equality of doubles as numbers: both zeros are equal, a NaN equals nothing. -/
def equal (x y : Float) : Bool :=
  match rank x, rank y with
  | some a, some b => decide (a = b)
  | _, _ => false

theorem unitsPerOne_pos : (0 : Int) < unitsPerOne := by
  decide +kernel

theorem rank_eq_none_iff {x : Float} : rank x = none ↔ isNaN x = true := by
  unfold rank isNaN
  cases read x <;> simp

theorem le_iff {x y : Float} :
    le x y = true ↔ ∃ a b, rank x = some a ∧ rank y = some b ∧ a ≤ b := by
  unfold le
  cases rank x <;> cases rank y <;> simp

theorem le_trans {x y z : Float} (hxy : le x y = true) (hyz : le y z = true) : le x z = true := by
  obtain ⟨a, b, ha, hb, hab⟩ := le_iff.1 hxy
  obtain ⟨b', c, hb', hc, hbc⟩ := le_iff.1 hyz
  have : b = b' := Option.some.inj (hb.symm.trans hb')
  exact le_iff.2 ⟨a, c, ha, hc, by omega⟩

theorem le_total {x y : Float} (hx : isNaN x = false) (hy : isNaN y = false) :
    le x y = true ∨ le y x = true := by
  have hrank : ∀ z : Float, isNaN z = false → ∃ a, rank z = some a := by
    intro z hz
    cases h : rank z with
    | none => simp [rank_eq_none_iff.1 h] at hz
    | some a => exact ⟨a, rfl⟩
  obtain ⟨a, ha⟩ := hrank x hx
  obtain ⟨b, hb⟩ := hrank y hy
  rcases Int.le_total a b with h | h
  · exact Or.inl (le_iff.2 ⟨a, b, ha, hb, h⟩)
  · exact Or.inr (le_iff.2 ⟨b, a, hb, ha, h⟩)

/-! ### Sums -/

/-- Why a list of doubles has no sum. -/
inductive SumFault
  /-- A running sum of finite terms left the range of doubles. -/
  | overflow
  /-- Both infinities are among the terms. -/
  | opposingInfinities
deriving DecidableEq, Repr

/-- A number of units rounded to the nearest double, again in units, unless that is infinite. -/
def roundUnits? (units : Int) : Option Int :=
  match read (ofSignedUnits units) with
  | .finite negative units => some (signedUnits negative units)
  | _ => none

/-- Adds a number of units to an expansion, whose parts are doubles and stand in order of size. The
running sum is rounded at every part, and what the rounding leaves over stays behind as a part. -/
def grow (running : Int) : List Int → Option (List Int)
  | [] => some (if running = 0 then [] else [running])
  | part :: rest =>
    (roundUnits? (running + part)).bind fun rounded ↦
      (grow rounded rest).map fun parts ↦
        if running + part = rounded then parts else (running + part - rounded) :: parts

/-- What is known of the terms read so far: the exact total of the finite terms since the last
other one, the same total as an expansion, and which of the others have occurred. -/
structure Tally where
  units : Int := 0
  parts : List Int := []
  nan : Bool := false
  positive : Bool := false
  negative : Bool := false

/-- Takes one more term into the tally. A term that is not finite makes the total start again. -/
def Tally.push (tally : Tally) (x : Float) : Except SumFault Tally :=
  match read x with
  | .nan => .ok { tally with units := 0, parts := [], nan := true }
  | .infinite true => .ok { tally with units := 0, parts := [], negative := true }
  | .infinite false => .ok { tally with units := 0, parts := [], positive := true }
  | .finite negative units =>
    match grow (signedUnits negative units) tally.parts with
    | some parts => .ok { tally with units := tally.units + signedUnits negative units, parts }
    | none => .error .overflow

/-- The sum that a tally stands for. -/
def Tally.result (tally : Tally) : Except SumFault Float :=
  if tally.positive && tally.negative then .error .opposingInfinities
  else if tally.nan then .ok Binary64.nan
  else if tally.positive then .ok (infinity false)
  else if tally.negative then .ok (infinity true)
  else .ok (ofSignedUnits tally.units)

/-- The exact sum of the terms, rounded once. -/
def sum (terms : List Float) : Except SumFault Float := do
  let tally ← terms.foldlM Tally.push {}
  tally.result

/-! ### Norms -/

/-- The double nearest to the square root of a number of squared units. The root is taken with 64
further binary places, and a last bit records whether anything is left of the square. -/
def ofRoot (square : Nat) : Float :=
  let scaled := square * Nat.pow 2 128
  let whole := scaled.sqrt
  let sticky := if whole * whole = scaled then 0 else 1
  ofUnits false (2 * whole + sticky) (Nat.pow 2 65)

/-- The Euclidean norm of a list of doubles, rounded once: infinite if a component is, otherwise a
NaN if a component is. -/
def norm (components : List Float) : Float :=
  let readings := components.map read
  if readings.any (fun reading ↦ reading matches .infinite _) then infinity false
  else if readings.any (fun reading ↦ reading matches .nan) then nan
  else
    ofRoot <| (readings.map fun
      | .finite _ units => units * units
      | _ => 0).foldr (· + ·) 0

end Grounding.Binary64
