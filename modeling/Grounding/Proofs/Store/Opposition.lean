import Mathlib.Algebra.BigOperators.Group.List.Basic
import Grounding.Proofs.Cosine
import Grounding.Proofs.Sums
import Grounding.Proofs.Store.Ranking

/-!
# Embeddings that point away from each other

Two embeddings with finite components are opposed if their exact dot product is negative
(`Similarity.Opposed`). Their similarity is not positive as long as the sum of the rounded products
is not: a quotient has the sign of its numerator (`Binary64.div_le_zero`), and clamping keeps it
(`Similarity.clamp_le_zero`).

There are two ways for this to go wrong, and no others (`Similarity.Opposed.cosine_le_zero`):

* A product overflows. Then the product of the norms does as well, since norms are no smaller than
  components, and the quotient of the two infinities is undefined. The similarity is one, whichever
  way the embeddings point (`Similarity.cosine_of_overflow`).
* The products are rounded before they are added up, by more than the dot product itself
  (`Similarity.Blurred`). Each of them is off by at most `2^-53` of it, or half a unit, so that the
  dot product is small beside the products without their signs (`Similarity.roundedDot_error`).

Main statement: `EmbeddedStore.search_opposed`, for every state that a store can reach from empty. A
document that points the opposite way can get the best score (`EmbeddedStore.cosine_opposite`).
-/

set_option autoImplicit false
set_option relaxedAutoImplicit false

namespace Grounding

open Grounding.Action
open Grounding.Binary64

variable {σ : Type}

/-! ### Doubles that are not positive -/

namespace Binary64

theorem signedUnits_le_zero_iff {negative : Bool} {count : Nat} :
    signedUnits negative count ≤ 0 ↔ negative = true ∨ count = 0 := by
  cases negative <;> simp [signedUnits]

/-- What is not positive is finite with a number of units that is not, or minus infinity. -/
theorem le_zero_iff {x : Float} :
    le x 0.0 = true ↔
      (∃ negative units, read x = .finite negative units ∧ signedUnits negative units ≤ 0) ∨
        read x = .infinite true := by
  have hone : 0 < unitsPerOne * unitsPerOne :=
    Nat.mul_pos (Int.natCast_pos.mp unitsPerOne_pos) (Int.natCast_pos.mp unitsPerOne_pos)
  unfold le
  rw [rank_zero]
  unfold rank
  generalize unitsPerOne * unitsPerOne = far at hone
  cases read x with
  | nan => simp
  | infinite negative => simp [signedUnits_le_zero_iff, Nat.ne_of_gt hone]
  | finite negative units => simp

theorem nearestBits_zero (denominator : Nat) : nearestBits 0 denominator = 0 := by
  unfold nearestBits roundQuotient
  simp

/-- What is rounded from a quotient that is not positive is not positive. -/
theorem ofUnits_le_zero {negative : Bool} {numerator : Nat}
    (h : signedUnits negative numerator ≤ 0) (denominator : Nat) :
    le (ofUnits negative numerator denominator) 0.0 = true := by
  rw [le_zero_iff, read_ofUnits_eq]
  rcases signedUnits_le_zero_iff.mp h with rfl | rfl
  · split
    · exact Or.inl ⟨true, _, rfl, signedUnits_le_zero_iff.mpr (Or.inl rfl)⟩
    · exact Or.inr rfl
  · have hfinite : 0 < infiniteBits := by decide +kernel
    have hnone : unitsOf 0 = 0 := by decide +kernel
    rw [nearestBits_zero, if_pos hfinite, hnone]
    exact Or.inl ⟨negative, 0, rfl, h⟩

theorem ofSignedUnits_le_zero {units : Int} (h : units ≤ 0) :
    le (ofSignedUnits units) 0.0 = true := by
  have hsame : signedUnits (decide (units < 0)) units.natAbs = units := by
    unfold signedUnits
    by_cases hnegative : units < 0
    · rw [if_pos (decide_eq_true hnegative)]
      omega
    · rw [if_neg (ne_true_of_eq_false (decide_eq_false hnegative))]
      omega
  exact ofUnits_le_zero (hsame.trans_le h) 1

/-- A quotient of finite readings has the sign of the numerator. -/
theorem signedUnits_mul_le_zero {negative : Bool} {count : Nat}
    (h : signedUnits negative count ≤ 0) (factor : Nat) :
    signedUnits (negative != false) (count * factor) ≤ 0 := by
  rw [← signedUnits_mul]
  exact Int.mul_nonpos_of_nonpos_of_nonneg h (Int.natCast_nonneg _)

/-- Assumes: a double that is not positive, and another one that is neither negative nor zero. Their
quotient is not positive either, unless both are infinite. -/
theorem div_le_zero {x y : Float} {bits : Nat} (hx : le x 0.0 = true) (hy : HasBits y bits)
    (hzero : isZero y = false) :
    le (div x y) 0.0 = true ∨ isFinite x = false ∧ div x y = nan := by
  unfold div isFinite
  rcases le_zero_iff.mp hx with ⟨negative, count, hread, hcount⟩ | hread
  · refine Or.inl ?_
    rcases hy.finite_or_infinite with ⟨-, hread'⟩ | ⟨-, hread'⟩
    · have hother : unitsOf bits ≠ 0 := by
        intro hnone
        unfold isZero at hzero
        simp [hread', hnone] at hzero
      rw [hread, hread']
      dsimp only
      rw [if_neg hother]
      exact ofUnits_le_zero (signedUnits_mul_le_zero hcount unitsPerOne) _
    · have hzeros : ∀ sign : Bool, le (zero sign) 0.0 = true := by decide +kernel
      rw [hread, hread']
      exact hzeros _
  · rcases hy.finite_or_infinite with ⟨-, hread'⟩ | ⟨-, hread'⟩
    · have hbelow : le (infinity true) 0.0 = true := by decide +kernel
      rw [hread, hread']
      exact Or.inl hbelow
    · rw [hread, hread']
      exact Or.inr ⟨rfl, rfl⟩

/-- Factors that are finite never have a NaN as their product. -/
theorem isNaN_mul {x y : Float} (hx : isFinite x = true) (hy : isFinite y = true) :
    isNaN (mul x y) = false := by
  obtain ⟨s, count, hx⟩ := isFinite_iff.mp hx
  obtain ⟨t, other, hy⟩ := isFinite_iff.mp hy
  unfold isNaN
  rw [mul_of_read hx hy, read_ofUnits_eq]
  split
  · rfl
  · rfl

end Binary64

/-! ### Similarities -/

namespace Similarity

variable {a b : List Float}

/-- What lists are combined to is made of their elements. -/
theorem exists_of_mem_zipWith {α : Type} {f : Float → Float → α} {value : α}
    (h : value ∈ List.zipWith f a b) : ∃ x ∈ a, ∃ y ∈ b, f x y = value := by
  rw [← List.map_uncurry_zip_eq_zipWith] at h
  obtain ⟨⟨x, y⟩, hmem, rfl⟩ := List.mem_map.mp h
  obtain ⟨hx, hy⟩ := List.of_mem_zip hmem
  exact ⟨x, hx, y, hy, rfl⟩

theorem clamp_nan : clamp nan = 1.0 := by
  decide +kernel

/-- What is not positive stays so. -/
theorem clamp_le_zero {x : Float} (h : le x 0.0 = true) : le (clamp x) 0.0 = true := by
  have hbelow : le (-1.0) 0.0 = true := by decide +kernel
  have hless : lt x 1.0 = true := by
    obtain ⟨place, zero, hplace, hzero, hle⟩ := le_iff.mp h
    obtain rfl : 0 = zero := Option.some.inj (rank_zero.symm.trans hzero)
    exact lt_iff.mpr ⟨place, _, hplace, rank_one, Int.lt_of_le_of_lt hle unitsPerOne_pos⟩
  unfold clamp
  rw [if_pos hless]
  split
  · exact h
  · exact hbelow

/-- The dot product of the components as they are, in squared units. -/
def exactDot (a b : List Float) : Int :=
  (List.zipWith (fun x y ↦ units x * units y) a b).sum

/-- The sum of the products without their signs, in squared units. -/
def magnitude (a b : List Float) : Nat :=
  (List.zipWith (fun x y ↦ (units x * units y).natAbs) a b).sum

/-- The sum of the rounded products, in units. -/
def roundedDot (a b : List Float) : Int :=
  ((List.zipWith mul a b).map units).sum

/-- Two embeddings with finite components that point away from each other. -/
structure Opposed (a b : List Float) : Prop where
  length_eq : a.length = b.length
  left : ∀ x ∈ a, isFinite x = true
  right : ∀ y ∈ b, isFinite y = true
  away : exactDot a b < 0

/-- A dot product that is infinite. -/
def Overflows (a b : List Float) : Prop :=
  ∃ total, dot a b = .ok total ∧ isFinite total = false

/-- A dot product that is lost in rounding: the rounded products have a positive sum, and the dot
product is less than `2^-53` of the products without their signs, up to half a unit for each. -/
structure Blurred (a b : List Float) : Prop where
  rounded : 0 < roundedDot a b
  small : 2 ^ 53 * (exactDot a b).natAbs < magnitude a b + a.length * (2 ^ 52 * unitsPerOne)

/-- Assumes: finite components with finite products. The sum of the rounded products is off by the
errors of the single ones. -/
theorem roundedDot_error (ha : ∀ x ∈ a, isFinite x = true) (hb : ∀ y ∈ b, isFinite y = true)
    (h : ∀ product ∈ List.zipWith mul a b, isFinite product = true) :
    2 ^ 53 * (roundedDot a b * unitsPerOne - exactDot a b).natAbs ≤
      magnitude a b + a.length * (2 ^ 52 * unitsPerOne) := by
  induction a generalizing b with
  | nil =>
    show 2 ^ 53 * (0 * (unitsPerOne : Int) - 0).natAbs ≤ _
    rw [Int.zero_mul, Int.sub_zero, Int.natAbs_zero, Nat.mul_zero]
    exact Nat.zero_le _
  | cons x rest ih =>
    cases b with
    | nil =>
      show 2 ^ 53 * (0 * (unitsPerOne : Int) - 0).natAbs ≤ _
      rw [Int.zero_mul, Int.sub_zero, Int.natAbs_zero, Nat.mul_zero]
      exact Nat.zero_le _
    | cons y others =>
      rw [List.forall_mem_cons] at ha hb
      rw [List.zipWith_cons_cons, List.forall_mem_cons] at h
      have hfirst := units_mul_error ha.1 hb.1 h.1
      have hrest := ih ha.2 hb.2 h.2
      have hrounded : roundedDot (x :: rest) (y :: others) =
        units (mul x y) + roundedDot rest others := rfl
      have hexact : exactDot (x :: rest) (y :: others) =
        units x * units y + exactDot rest others := rfl
      have hmagnitude : magnitude (x :: rest) (y :: others) =
        (units x * units y).natAbs + magnitude rest others := rfl
      rw [hrounded, hexact, hmagnitude, List.length_cons, Nat.succ_mul, Int.add_mul]
      generalize rest.length * (2 ^ 52 * unitsPerOne) = errors at hrest ⊢
      omega

section Finite

variable (hlength : a.length = b.length) (ha : ∀ x ∈ a, isFinite x = true)
  (hb : ∀ y ∈ b, isFinite y = true)
include ha hb

theorem isNaN_product : ∀ product ∈ List.zipWith mul a b, isNaN product = false := by
  intro product hmem
  obtain ⟨x, hx, y, hy, rfl⟩ := exists_of_mem_zipWith hmem
  exact isNaN_mul (ha x hx) (hb y hy)

/-- Assumes: finite components, and a product that is not finite. The product of the norms is
infinite. -/
theorem read_scale_of_overflow {product : Float} (hmem : product ∈ List.zipWith mul a b)
    (hinfinite : isFinite product = false) : read (scale a b) = .infinite false := by
  obtain ⟨x, hx, y, hy, rfl⟩ := exists_of_mem_zipWith hmem
  obtain ⟨s, count, hread⟩ := isFinite_iff.mp (ha x hx)
  obtain ⟨t, other, hread'⟩ := isFinite_iff.mp (hb y hy)
  have hlarge : infiniteBits ≤ nearestBits (count * other) unitsPerOne := by
    by_contra hsmall
    have hproduct := read_ofUnits_eq (s != t) (count * other) unitsPerOne
    rw [if_pos (Nat.lt_of_not_le hsmall), ← mul_of_read hread hread'] at hproduct
    rw [isFinite_iff.mpr ⟨_, _, hproduct⟩] at hinfinite
    cases hinfinite
  have hnonzero : count * other ≠ 0 := by
    intro hnone
    rw [hnone, nearestBits_zero] at hlarge
    exact absurd hlarge (by decide +kernel)
  obtain ⟨bits, hbits, hle⟩ := exists_bits_mul_norm ha hb hx hy hread hread'
    (Nat.ne_zero_of_mul_ne_zero_left hnonzero) (Nat.ne_zero_of_mul_ne_zero_right hnonzero)
  rw [Nat.min_eq_right hlarge] at hle
  rcases hbits.finite_or_infinite with ⟨hless, -⟩ | ⟨-, hscale⟩
  · exact absurd hle (Nat.not_le.mpr hless)
  · exact hscale

include hlength

/-- Assumes: finite components, and a product that is not finite. The similarity is one if there is
one, whichever way the embeddings point. -/
theorem cosine_of_overflow {similarity : Float}
    (hoverflow : ∃ product ∈ List.zipWith mul a b, isFinite product = false)
    (hcosine : cosine a b = .ok similarity) : similarity = 1.0 ∧ Overflows a b := by
  obtain ⟨product, hmem, hinfinite⟩ := hoverflow
  have hscale := read_scale_of_overflow ha hb hmem hinfinite
  have hzero : isZero (scale a b) = false := by
    unfold isZero
    rw [hscale]
  have hnonempty : a ≠ [] := by
    rintro rfl
    cases hmem
  rcases cosine_eq_ok hlength hnonempty hcosine with ⟨hnone, -⟩ | ⟨-, total, hdot, rfl⟩
  · rw [hzero] at hnone
    cases hnone
  · rcases sum_eq_ok hdot (isNaN_product ha hb) with ⟨x, -, negative, -, rfl⟩ | ⟨hfinite, -⟩
    · have hundefined : div (infinity negative) (scale a b) = nan := by
        unfold div
        rw [read_infinity, hscale]
      rw [hundefined]
      exact ⟨clamp_nan, _, hdot, isFinite_of_infinite (read_infinity negative)⟩
    · rw [hfinite product hmem] at hinfinite
      cases hinfinite

end Finite

namespace Opposed

theorem ne_nil (h : Opposed a b) : a ≠ [] := by
  rintro rfl
  exact absurd h.away (Int.lt_irrefl 0)

/-- The product of the norms has no minus sign and is no NaN. -/
theorem exists_bits_scale (h : Opposed a b) : ∃ bits, HasBits (scale a b) bits := by
  have hnonzero : ∃ value ∈ List.zipWith (fun x y ↦ units x * units y) a b, value ≠ 0 := by
    by_contra hzeros
    push Not at hzeros
    exact absurd h.away (Int.not_lt.mpr (List.sum_eq_zero hzeros).ge)
  obtain ⟨value, hmem, hvalue⟩ := hnonzero
  obtain ⟨x, hx, y, hy, rfl⟩ := exists_of_mem_zipWith hmem
  obtain ⟨s, count, hread⟩ := isFinite_iff.mp (h.left x hx)
  obtain ⟨t, other, hread'⟩ := isFinite_iff.mp (h.right y hy)
  rw [units_of_read hread, units_of_read hread', signedUnits_mul] at hvalue
  have hcount : count * other ≠ 0 := by
    intro hnone
    rw [hnone] at hvalue
    exact hvalue (by cases s != t <;> rfl)
  obtain ⟨bits, hbits, -⟩ := exists_bits_mul_norm h.left h.right hx hy hread hread'
    (Nat.ne_zero_of_mul_ne_zero_left hcount) (Nat.ne_zero_of_mul_ne_zero_right hcount)
  exact ⟨bits, hbits⟩

/-- Assumes: finite products. If their sum is positive, the dot product is lost in rounding. -/
theorem blurred (h : Opposed a b)
    (hfinite : ∀ product ∈ List.zipWith mul a b, isFinite product = true)
    (hpositive : 0 < roundedDot a b) : Blurred a b := by
  have herror := roundedDot_error h.left h.right hfinite
  have hrounded := Int.mul_pos hpositive unitsPerOne_pos
  have haway := h.away
  refine ⟨hpositive, Nat.lt_of_lt_of_le ?_ herror⟩
  generalize roundedDot a b * (unitsPerOne : Int) = rounded at hrounded ⊢
  omega

/-- The similarity of opposed embeddings is not positive, or their dot product overflows, or it is
lost in rounding. -/
theorem cosine_le_zero (h : Opposed a b) {similarity : Float}
    (hcosine : cosine a b = .ok similarity) :
    le similarity 0.0 = true ∨ similarity = 1.0 ∧ Overflows a b ∨ Blurred a b := by
  obtain ⟨bits, hbits⟩ := h.exists_bits_scale
  rcases cosine_eq_ok h.length_eq h.ne_nil hcosine with ⟨-, rfl⟩ | ⟨hzero, total, hdot, rfl⟩
  · exact Or.inl (by decide +kernel)
  · rcases sum_eq_ok hdot (isNaN_product h.left h.right) with
      ⟨product, hmem, negative, hread, -⟩ | ⟨hfinite, rfl⟩
    · have hoverflow : ∃ product ∈ List.zipWith mul a b, isFinite product = false :=
        ⟨product, hmem, isFinite_of_infinite hread⟩
      exact Or.inr (Or.inl (cosine_of_overflow h.length_eq h.left h.right hoverflow hcosine))
    · rcases lt_or_ge 0 (roundedDot a b) with hpositive | hnegative
      · exact Or.inr (Or.inr (h.blurred hfinite hpositive))
      · rcases div_le_zero (ofSignedUnits_le_zero hnegative) hbits hzero with
          hquotient | ⟨hinfinite, hundefined⟩
        · exact Or.inl (clamp_le_zero hquotient)
        · exact Or.inr (Or.inl ⟨(congrArg clamp hundefined).trans clamp_nan, _, hdot, hinfinite⟩)

/-- The first product is rounded up to a unit, and the negative ones are rounded to zero. -/
example : (cosine [1.7e-162, 1.5e-162, 1.5e-162]
    [1.7e-162, -1.5e-162, -1.5e-162]).toOption = some 1.0 := by
  decide +kernel

end Opposed

end Similarity

namespace MemoryStore

open Similarity

/-- A score is a similarity, if that is positive, or zero. -/
theorem score_eq_ok {query embedding : List Float} {value : Float}
    (h : score query embedding = .ok value) :
    ∃ similarity, cosine query embedding = .ok similarity ∧
      value = if lt 0.0 similarity then similarity else 0.0 := by
  unfold score at h
  cases hcosine : cosine query embedding with
  | error failure =>
    rw [hcosine] at h
    cases h
  | ok similarity =>
    rw [hcosine] at h
    exact ⟨similarity, rfl, (Except.ok.inj h).symm⟩

/-- The score of opposed embeddings is zero, or their dot product overflows, or it is lost in
rounding. -/
theorem score_of_opposed {query embedding : List Float} (hopposed : Opposed query embedding)
    {value : Float} (h : score query embedding = .ok value) :
    value = 0.0 ∨ value = 1.0 ∧ Overflows query embedding ∨ Blurred query embedding := by
  obtain ⟨similarity, hcosine, rfl⟩ := score_eq_ok h
  rcases hopposed.cosine_le_zero hcosine with hle | ⟨rfl, hoverflows⟩ | hblurred
  · have hless : lt 0.0 similarity ≠ true := by
      intro hpositive
      rw [le_eq_false_of_lt hpositive] at hle
      cases hle
    exact Or.inl (if_neg hless)
  · exact Or.inr (Or.inl ⟨if_pos (by decide +kernel), hoverflows⟩)
  · exact Or.inr (Or.inr hblurred)

end MemoryStore

/-! ### Searches -/

namespace EmbeddedStore

open MemoryStore Similarity

/-- Two opposed embeddings have a similarity that is not positive, unless their dot product
overflows or is lost in rounding; with a product that overflows the similarity is one. Assumes: a
search in a store that started empty. Every document that is found is stored with an embedding, and
if that and the embedding of the query are opposed, the score is zero up to the same exceptions. -/
theorem search_opposed (store : EmbeddedStore σ) (hapart : store.EmbedsApart) (scene : Scene σ)
    (hempty : store.content scene = {}) (history : List StoreOperation)
    (request : SearchRequest) :
    (∀ a b similarity, Opposed a b → cosine a b = .ok similarity →
      le similarity 0.0 = true ∨ similarity = 1.0 ∧ Overflows a b ∨ Blurred a b) ∧
    (∀ a b similarity, Opposed a b →
      (∃ product ∈ List.zipWith mul a b, isFinite product = false) →
      cosine a b = .ok similarity → similarity = 1.0) ∧
    ∀ found, (store.search request).outcome (store.afterAll history scene) = .ok found →
      ∃ query, (store.embed request.query).outcome (store.afterAll history scene) = .ok query ∧
        ∀ document ∈ found, ∃ stored embedding score,
          Dict.get? (store.content (store.afterAll history scene)).documents document.id =
            some stored ∧
          Dict.get? (store.content (store.afterAll history scene)).embeddings document.id =
            some embedding ∧
          document = withScore (stored, score) ∧
          (Opposed query embedding →
            score = 0.0 ∨ score = 1.0 ∧ Overflows query embedding ∨ Blurred query embedding) := by
  have h := represents_of_empty hapart hempty history
  refine ⟨fun _ _ _ hopposed ↦ hopposed.cosine_le_zero, fun _ _ _ hopposed hoverflow hcosine ↦
    (cosine_of_overflow hopposed.length_eq hopposed.left hopposed.right hoverflow hcosine).1,
    fun found hfound ↦ ?_⟩
  obtain ⟨query, hquery, hstored⟩ := exists_stored_of_found hapart h hfound
  refine ⟨query, hquery, fun document hmem ↦ ?_⟩
  obtain ⟨entry, hentry, score, rfl, -, hscore⟩ := hstored document hmem
  exact ⟨entry.1, entry.2, score, h.get?_of_mem_entries hentry,
    h.embedding_of_mem_entries hentry, rfl, fun hopposed ↦ score_of_opposed hopposed hscore⟩

/-- A store on a line, with points near the origin and far from it on both sides. -/
def line : EmbeddedStore MemoryStore where
  slot := .whole
  embed text := pure <|
    if text = "right" then [1e200] else if text = "left" then [-1e200] else [-1.0]

theorem line_embedsApart : line.EmbedsApart :=
  fun _ _ ↦ ⟨rfl, rfl⟩

/-- Two documents on the same side. -/
def lineHistory : List StoreOperation :=
  [.add [⟨"near", "origin", [], none⟩, ⟨"far", "left", [], none⟩]]

/-- A search on the other side. -/
def lineRequest : SearchRequest where
  query := "right"

/-- Points on different sides are opposed. -/
theorem opposed_right {embedding : List Float} (h : embedding = [-1.0] ∨ embedding = [-1e200]) :
    Opposed [1e200] embedding := by
  rcases h with rfl | rfl
  all_goals exact ⟨by simp only [List.length_cons], by decide +kernel, by decide +kernel,
    by decide +kernel⟩

/-- The search finds both documents, one of them with the best score that there is. -/
theorem line_search_found : ∃ found, (line.search lineRequest).outcome
      (line.afterAll lineHistory ⟨{}, []⟩) = .ok found ∧
    (found.map fun document ↦ (document.id, document.score)).Perm
      [("near", some 0.0), ("far", some 1.0)] := by
  have hempty : line.content ⟨{}, []⟩ = {} := rfl
  have h := represents_of_empty line_embedsApart hempty lineHistory
  have hquery : (line.embed lineRequest.query).outcome
      (line.afterAll lineHistory ⟨{}, []⟩) = .ok [1e200] := rfl
  have hsucceeds : ((line.search lineRequest).outcome
      (line.afterAll lineHistory ⟨{}, []⟩)).toOption.isSome = true := by decide +kernel
  have hqualifying : ((qualifying line.callables lineRequest [1e200]
      (Update.entries (line.updates lineHistory ⟨{}, []⟩))).map
        fun scored ↦ (scored.1.id, some scored.2)) = [("near", some 0.0), ("far", some 1.0)] := by
    decide +kernel
  have hlength := congrArg List.length hqualifying
  rw [List.length_map] at hlength
  refine ⟨_, search_eq_best line_embedsApart h hquery hsucceeds, ?_⟩
  unfold best
  rw [List.take_of_length_le, List.map_map, ← hqualifying]
  · exact (List.mergeSort_perm _ _).map _
  · rw [List.length_mergeSort, hlength]
    decide

/-- The products with the document near the origin are all exact, and so its score is zero. -/
theorem search_opposed_line :
    line.EmbedsApart ∧ line.content ⟨{}, []⟩ = {} ∧ Opposed [1e200] [-1.0] ∧
      ∃ found, (line.search lineRequest).outcome (line.afterAll lineHistory ⟨{}, []⟩) = .ok found ∧
        ("near", some 0.0) ∈ found.map (fun document ↦ (document.id, document.score)) ∧
        ∀ document ∈ found, document.id = "near" → document.score = some 0.0 := by
  have hopposed : Opposed [1e200] [-1.0] := opposed_right (Or.inl rfl)
  have hdot : (dot [1e200] [-1.0]).toOption = some (-1e200) := by decide +kernel
  have hoverflows : ¬ Overflows [1e200] [-1.0] := by
    rintro ⟨total, htotal, hinfinite⟩
    rw [htotal] at hdot
    obtain rfl := Option.some.inj hdot
    exact absurd hinfinite (by decide +kernel)
  have hblurred : ¬ Blurred [1e200] [-1.0] := fun h ↦ absurd h.rounded (by decide +kernel)
  obtain ⟨found, houtcome, hperm⟩ := line_search_found
  refine ⟨line_embedsApart, rfl, hopposed, found, houtcome,
    hperm.mem_iff.mpr List.mem_cons_self, fun document hmem hid ↦ ?_⟩
  obtain ⟨query, hquery, hstored⟩ := (search_opposed line line_embedsApart ⟨{}, []⟩ rfl lineHistory
    lineRequest).2.2 found houtcome
  obtain ⟨stored, embedding, score, -, hembedding, hdocument, hscore⟩ := hstored document hmem
  have hright : (line.embed lineRequest.query).outcome
      (line.afterAll lineHistory ⟨{}, []⟩) = .ok [1e200] := rfl
  have hnear : Dict.get? (line.content (line.afterAll lineHistory ⟨{}, []⟩)).embeddings "near" =
    some [-1.0] := rfl
  obtain rfl := Except.ok.inj (hright.symm.trans hquery)
  rw [hid, hnear] at hembedding
  obtain rfl := Option.some.inj hembedding
  rcases hscore hopposed with rfl | ⟨-, hlost⟩ | hlost
  · rw [hdocument]
    rfl
  · exact absurd hlost hoverflows
  · exact absurd hlost hblurred

/-- Two embeddings that point in opposite directions are as similar as can be, and the document with
one of them gets the best score. -/
theorem cosine_opposite :
    Opposed [1e200] [-1e200] ∧ (cosine [1e200] [-1e200]).toOption = some 1.0 ∧
      le 1.0 0.0 = false ∧
      ∃ found, (line.search lineRequest).outcome (line.afterAll lineHistory ⟨{}, []⟩) = .ok found ∧
        ("far", some 1.0) ∈ found.map fun document ↦ (document.id, document.score) := by
  obtain ⟨found, houtcome, hperm⟩ := line_search_found
  exact ⟨opposed_right (Or.inr rfl), by decide +kernel, by decide +kernel, found, houtcome,
    hperm.mem_iff.mpr (List.mem_cons_of_mem _ List.mem_cons_self)⟩

end EmbeddedStore

end Grounding
