import Grounding.Binary64

/-!
Decimal texts of doubles. A finite double is an exact quotient, so digits are found in integer
arithmetic: the nearest digits on a grid of powers of ten, or the fewest digits that read back.

* `Digits`: decimal digits with the place of the point.
* `significant`, `places`: the digits of a quotient rounded to a number of significant digits, or
  to a number of places after the point; a tie goes to the even digit.
* `shortest`: the fewest digits that denote the same double, of those the nearest to it.
* `positional`, `scientific`: the two ways to lay digits out; `general` chooses between them.
* `plain`: the usual text of a double, positional for exponents from `-4` to `15`.
-/

set_option autoImplicit false
set_option relaxedAutoImplicit false

namespace Grounding.Decimal

/-- The number `0.d₁d₂… · 10^point`, without trailing zeros among its digits. -/
structure Digits where
  digits : List Char
  point : Int
deriving DecidableEq, Repr

/-- The digits of zero. -/
def Digits.zero : Digits :=
  ⟨['0'], 1⟩

/-- A list of digits without its trailing zeros. -/
def trimZeros (digits : List Char) : List Char :=
  (digits.reverse.dropWhile (· == '0')).reverse

/-- The digits of a whole number. -/
def wholeDigits (n : Nat) : List Char :=
  Nat.toDigits 10 n

/-- Whether a quotient is below a power of ten. -/
def belowPower (numerator denominator : Nat) (exponent : Int) : Bool :=
  if 0 ≤ exponent then decide (numerator < denominator * Nat.pow 10 exponent.toNat)
  else decide (numerator * Nat.pow 10 (-exponent).toNat < denominator)

/-- The least power of ten above a positive quotient. The estimate from the binary logarithms is at
most a few places too low. -/
def pointOf (numerator denominator : Nat) : Int :=
  let binary : Int := (numerator.log2 : Int) - (denominator.log2 : Int) - 1
  let least : Int := binary * 30103 / 100000 - 1
  let fits (offset : Nat) : Bool := belowPower numerator denominator (least + (offset : Int))
  match (List.range 6).find? fits with
  | some offset => least + offset
  | none => least + 6

/-- A quotient divided by a power of ten, as a quotient. -/
def scaleDown (numerator denominator : Nat) (exponent : Int) : Nat × Nat :=
  if 0 ≤ exponent then (numerator, denominator * Nat.pow 10 exponent.toNat)
  else (numerator * Nat.pow 10 (-exponent).toNat, denominator)

/-- A whole number of steps of size `10^exponent` as digits. -/
def ofSteps (steps : Nat) (exponent : Int) : Digits :=
  if steps = 0 then ⟨[], exponent⟩
  else
    let digits := wholeDigits steps
    ⟨trimZeros digits, digits.length + exponent⟩

/-- The nearest digits on the grid of a power of ten. -/
def nearest (numerator denominator : Nat) (exponent : Int) : Digits :=
  let scaled := scaleDown numerator denominator exponent
  ofSteps (Binary64.roundQuotient scaled.1 scaled.2) exponent

/-- A quotient rounded to a number of significant digits. -/
def significant (numerator denominator : Nat) (count : Nat) : Digits :=
  if numerator = 0 then .zero
  else nearest numerator denominator (pointOf numerator denominator - count)

/-- A quotient rounded to a number of places after the point. -/
def places (numerator denominator : Nat) (count : Nat) : Digits :=
  if numerator = 0 then .zero
  else nearest numerator denominator (-(count : Int))

/-- Whether a number of steps of size `10^exponent` denotes the double with these bits. -/
def readsBack (bits steps : Nat) (exponent : Int) : Bool :=
  let units := steps * Binary64.unitsPerOne
  if 0 ≤ exponent then Binary64.nearestBits (units * Nat.pow 10 exponent.toNat) 1 == bits
  else Binary64.nearestBits units (Nat.pow 10 (-exponent).toNat) == bits

/-- On the grid of a power of ten, the nearer of the two neighbours of a positive double that
denote it, if there is one. -/
def onGrid (numerator denominator bits : Nat) (exponent : Int) : Option Digits :=
  let scaled := scaleDown numerator denominator exponent
  let lower := scaled.1 / scaled.2
  let closest := Binary64.roundQuotient scaled.1 scaled.2
  let other := if closest = lower then lower + 1 else lower
  if readsBack bits closest exponent then some (ofSteps closest exponent)
  else if readsBack bits other exponent then some (ofSteps other exponent)
  else none

/-- The fewest digits that denote a double of the given units, of those the nearest. -/
def shortest (units : Nat) : Digits :=
  if units = 0 then .zero
  else
    let denominator := Binary64.unitsPerOne
    let bits := Binary64.nearestBits units 1
    let point := pointOf units denominator
    match (List.range 17).findSome? fun count : Nat ↦
        onGrid units denominator bits (point - (count + 1 : Nat)) with
    | some digits => digits
    | none => significant units denominator 17

/-! ### Layout -/

/-- The digit at a position after the first, zero beyond either end. -/
def Digits.at (number : Digits) (position : Int) : Char :=
  if position < 0 then '0' else (number.digits[position.toNat]?).getD '0'

/-- The digits at the positions from one to before another. -/
def Digits.slice (number : Digits) (start stop : Int) : List Char :=
  (List.range (stop - start).toNat).map fun offset : Nat ↦ number.at (start + (offset : Int))

/-- Positional notation up to a position. The point is left out when nothing follows it, unless it
is to be kept. -/
def Digits.positional (number : Digits) (stop : Int) (keepPoint : Bool) : List Char :=
  let whole := if number.point ≤ 0 then ['0'] else number.slice 0 number.point
  let fraction := number.slice number.point stop
  if fraction.isEmpty && !keepPoint then whole else whole ++ '.' :: fraction

/-- An exponent with its sign and at least two digits. -/
def exponentText (exponent : Int) : List Char :=
  let digits := wholeDigits exponent.natAbs
  (if exponent < 0 then '-' else '+') :: (if digits.length < 2 then '0' :: digits else digits)

/-- Scientific notation up to a position. -/
def Digits.scientific (number : Digits) (stop : Int) (keepPoint : Bool) (mark : Char) :
    List Char :=
  let moved : Digits := { number with point := 1 }
  moved.positional (max stop 1) keepPoint ++ mark :: exponentText (number.point - 1)

/-- Digits up to a position, in scientific notation for a number of at least `10^limit` or below a
ten-thousandth and otherwise in positional notation, there with at least one digit after the point
if a fraction is asked for. -/
def Digits.general (number : Digits) (limit stop : Int) (fraction keepPoint : Bool) (mark : Char) :
    List Char :=
  if number.point ≤ -4 || limit < number.point then number.scientific stop keepPoint mark
  else number.positional (if fraction then max stop (number.point + 1) else stop) keepPoint

/-- The usual text of a double. -/
def plain (x : Float) : String :=
  match Binary64.read x with
  | .nan => "nan"
  | .infinite negative => if negative then "-inf" else "inf"
  | .finite negative units =>
    let number := shortest units
    let text := number.general 16 number.digits.length true false 'e'
    String.ofList (if negative then '-' :: text else text)

end Grounding.Decimal
