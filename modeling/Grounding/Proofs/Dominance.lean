import Grounding.Proofs.Fusion
import Grounding.Proofs.Rounding

/-!
# A fusion respects dominance

One identifier dominates another one in ranked lists if it stands before the other one in every list
that has it (`Fusion.Dominates`). If no list repeats an identifier, the score of an identifier is
built up list by list (`scoreOf_eq_foldl`), and each list credits the dominating identifier with at
least as much as the other one. That may not be more in doubles, where great ranks have equal
shares, but since rounding keeps the order it is never less (`Dominates.score_le`). A dominating
identifier also occurs first (`Dominates.place_lt`), so that it is the one that goes first if the
scores are equal.

`fuse_respects_dominance`: with every limit, a dominated identifier is in the fused list only behind
those that dominate it. A single list is its own fusion, up to the limit.
-/

set_option autoImplicit false
set_option relaxedAutoImplicit false

namespace Grounding.Fusion

open Grounding.Binary64

/-- In every list that has the second identifier, the first one stands before it. The second one
occurs. An identifier that a list does not have counts as standing behind all that it has. -/
structure Dominates (lists : List (List Document)) (first second : String) : Prop where
  occurs : second ∈ lists.flatten.map Document.id
  ahead : ∀ list ∈ lists, second ∈ list.map Document.id →
    (list.map Document.id).idxOf first < (list.map Document.id).idxOf second

variable {smoothing : Int} {lists : List (List Document)} {first second : String}

/-! ### Scores, list by list -/

/-- A score after one more list, which credits an identifier at most once. -/
def scoreAfter (smoothing : Int) (id : String) (score : Float) (list : List Document) : Float :=
  if id ∈ list.map Document.id then
    add score (share smoothing ((list.map Document.id).idxOf id + 1))
  else score

/-- Assumes: a list that does not repeat an identifier. Its entries of one identifier add up to what
the place of that one is worth, if it is there. -/
theorem foldl_zipIdx {list : List Document} (hdistinct : (list.map Document.id).Nodup)
    (start : Nat) (id : String) (score : Float) :
    (((list.zipIdx start).filter fun entry ↦ entry.1.id = id).map fun entry ↦
        share smoothing entry.2).foldl add score =
      if id ∈ list.map Document.id then
        add score (share smoothing ((list.map Document.id).idxOf id + start))
      else score := by
  induction list generalizing start score with
  | nil => rfl
  | cons document rest ih =>
    obtain ⟨hfresh, hrest⟩ := List.nodup_cons.mp hdistinct
    rw [List.zipIdx_cons]
    by_cases hid : document.id = id
    · subst hid
      have hhere : document.id ∈ (document :: rest).map Document.id := List.mem_cons_self
      rw [List.filter_cons_of_pos (by simp), List.map_cons, List.foldl_cons, ih hrest,
        if_neg hfresh, if_pos hhere, List.map_cons, List.idxOf_cons_self, Nat.zero_add]
    · rw [List.filter_cons_of_neg (by simpa using hid), ih hrest]
      by_cases hmem : id ∈ rest.map Document.id
      · have hhere : id ∈ (document :: rest).map Document.id := List.mem_cons_of_mem _ hmem
        rw [if_pos hmem, if_pos hhere, List.map_cons, List.idxOf_cons_ne _ hid]
        congr 2
        omega
      · rw [if_neg hmem, if_neg (by simpa [Ne.symm hid] using hmem)]

theorem scoreOf_eq_foldl (hdistinct : ∀ list ∈ lists, (list.map Document.id).Nodup)
    (id : String) :
    scoreOf smoothing (entries lists) id = lists.foldl (scoreAfter smoothing id) 0.0 := by
  unfold scoreOf
  generalize (0.0 : Float) = score
  induction lists generalizing score with
  | nil => rfl
  | cons list rest ih =>
    obtain ⟨hlist, hrest⟩ := List.forall_mem_cons.mp hdistinct
    have hentries : entries (list :: rest) = list.zipIdx 1 ++ entries rest := List.flatMap_cons
    rw [hentries, List.filter_append, List.map_append, List.foldl_append, foldl_zipIdx hlist,
      ih hrest, List.foldl_cons, scoreAfter]

/-! ### Dominance -/

/-- A worse rank is not worth more. -/
theorem share_anti (hsmoothing : 0 ≤ smoothing) {rank worse : Nat} (h : rank ≤ worse) :
    le (share smoothing worse) (share smoothing rank) = true := by
  have hunits : (smoothing + rank) * (unitsPerOne : Int) ≤ (smoothing + worse) * unitsPerOne :=
    Int.mul_le_mul_of_nonneg_right (by omega) (Int.natCast_nonneg _)
  have hrank : 0 ≤ (smoothing + rank) * (unitsPerOne : Int) :=
    Int.mul_nonneg (by omega) (Int.natCast_nonneg _)
  exact div_le_div_left read_one (by decide +kernel) (unsigned_ofSignedUnits hrank)
    (unsigned_ofSignedUnits (Int.le_trans hrank hunits)) (ofSignedUnits_le hrank hunits)

theorem unsigned_scoreAfter (hsmoothing : 0 ≤ smoothing) {score : Float} (h : Unsigned score)
    (id : String) (list : List Document) : Unsigned (scoreAfter smoothing id score list) := by
  unfold scoreAfter
  split
  · exact h.add (unsigned_share hsmoothing _)
  · exact h

/-- Assumes: a list that has the second identifier only behind the first one. After it, the score of
the second one is still not greater than that of the first one. -/
theorem scoreAfter_le (hsmoothing : 0 ≤ smoothing) {list : List Document} {lower upper : Float}
    (hlower : Unsigned lower) (hupper : Unsigned upper) (h : le lower upper = true)
    (hahead : second ∈ list.map Document.id →
      (list.map Document.id).idxOf first < (list.map Document.id).idxOf second) :
    le (scoreAfter smoothing second lower list) (scoreAfter smoothing first upper list) = true := by
  unfold scoreAfter
  by_cases hsecond : second ∈ list.map Document.id
  · have hplaces := hahead hsecond
    have hfirst : first ∈ list.map Document.id :=
      List.idxOf_lt_length_iff.mp (Nat.lt_trans hplaces (List.idxOf_lt_length_iff.mpr hsecond))
    rw [if_pos hsecond, if_pos hfirst]
    exact add_le_add hlower (unsigned_share hsmoothing _) hupper (unsigned_share hsmoothing _) h
      (share_anti hsmoothing (by omega))
  · rw [if_neg hsecond]
    split
    · exact le_trans h (le_add_right hupper (unsigned_share hsmoothing _))
    · exact h

/-- A dominating identifier has no smaller score. -/
theorem Dominates.score_le (h : Dominates lists first second) (hsmoothing : 0 ≤ smoothing)
    (hdistinct : ∀ list ∈ lists, (list.map Document.id).Nodup) :
    le (scoreOf smoothing (entries lists) second) (scoreOf smoothing (entries lists) first) =
      true := by
  have hahead := h.ahead
  have hfold : ∀ lower upper, Unsigned lower → Unsigned upper → le lower upper = true →
      le (lists.foldl (scoreAfter smoothing second) lower)
        (lists.foldl (scoreAfter smoothing first) upper) = true := by
    clear h hdistinct
    induction lists with
    | nil => exact fun _ _ _ _ hscores ↦ hscores
    | cons list rest ih =>
      obtain ⟨hlist, hrest⟩ := List.forall_mem_cons.mp hahead
      intro lower upper hlower hupper hscores
      exact ih hrest _ _ (unsigned_scoreAfter hsmoothing hlower second list)
        (unsigned_scoreAfter hsmoothing hupper first list)
        (scoreAfter_le hsmoothing hlower hupper hscores hlist)
  have hzero : Unsigned 0.0 := Or.inr ⟨0, read_zero⟩
  rw [scoreOf_eq_foldl hdistinct, scoreOf_eq_foldl hdistinct]
  exact hfold 0.0 0.0 hzero hzero (le_total hzero.isNaN_eq_false hzero.isNaN_eq_false |>.elim id id)

/-- A dominating identifier occurs first. -/
theorem Dominates.place_lt (h : Dominates lists first second) :
    (lists.flatten.map Document.id).idxOf first < (lists.flatten.map Document.id).idxOf second := by
  obtain ⟨hoccurs, hahead⟩ := h
  induction lists with
  | nil => cases hoccurs
  | cons list rest ih =>
    obtain ⟨hlist, hrest⟩ := List.forall_mem_cons.mp hahead
    rw [List.flatten_cons, List.map_append] at hoccurs ⊢
    by_cases hsecond : second ∈ list.map Document.id
    · have hplaces := hlist hsecond
      have hfirst : first ∈ list.map Document.id :=
        List.idxOf_lt_length_iff.mp (Nat.lt_trans hplaces (List.idxOf_lt_length_iff.mpr hsecond))
      rw [List.idxOf_append_of_mem hsecond, List.idxOf_append_of_mem hfirst]
      exact hplaces
    · rw [List.idxOf_append_of_notMem hsecond]
      by_cases hfirst : first ∈ list.map Document.id
      · rw [List.idxOf_append_of_mem hfirst]
        exact Nat.lt_add_right _ (List.idxOf_lt_length_iff.mpr hfirst)
      · rw [List.idxOf_append_of_notMem hfirst]
        have hlater := (List.mem_append.mp hoccurs).resolve_left hsecond
        exact Nat.add_lt_add_left (ih hlater hrest) _

/-! ### Fused lists -/

theorem upTo_map {α β : Type} (f : α → β) (limit : Option Int) (items : List α) :
    upTo limit (items.map f) = (upTo limit items).map f := by
  cases limit with
  | none => rfl
  | some bound => simp only [upTo, List.length_map, List.map_take]

theorem upTo_prefix {α : Type} (limit : Option Int) (items : List α) :
    upTo limit items <+: items := by
  cases limit with
  | none => exact List.prefix_rfl
  | some bound => exact List.take_prefix _ items

/-- The elements of a list without repetitions stand in the order of their places. -/
theorem pairwise_idxOf {ids : List String} (h : ids.Nodup) :
    ids.Pairwise fun a b ↦ ids.idxOf a < ids.idxOf b := by
  refine List.pairwise_iff_getElem.mpr fun i j hi hj hij ↦ ?_
  rw [h.idxOf_getElem i hi, h.idxOf_getElem j hj]
  exact hij

/-- Of two elements of an ordered list, the one that may not follow the other one goes first. -/
theorem idxOf_lt_of_pairwise {ids : List String} {r : String → String → Prop}
    (h : ids.Pairwise r) (hfirst : first ∈ ids) (hsecond : second ∈ ids) (hne : first ≠ second)
    (hnot : ¬ r second first) : ids.idxOf first < ids.idxOf second := by
  by_contra hbefore
  have hplaces : ids.idxOf second ≠ ids.idxOf first := fun hsame ↦
    hne ((List.idxOf_inj hsecond).mp hsame).symm
  have hpair := List.pairwise_iff_getElem.mp h (ids.idxOf second) (ids.idxOf first)
    (List.idxOf_lt_length_iff.mpr hsecond) (List.idxOf_lt_length_iff.mpr hfirst) (by omega)
  rw [List.getElem_idxOf, List.getElem_idxOf] at hpair
  exact hnot hpair

/-- The identifiers of a fusion stand in the order of their scores, and those with equal scores in
the order of their first occurrences. -/
theorem IsFusion.pairwise_ids {full : List Document} (h : IsFusion smoothing lists full) :
    (full.map Document.id).Pairwise fun a b ↦
      le (scoreOf smoothing (entries lists) a) (scoreOf smoothing (entries lists) b) = true →
        (lists.flatten.map Document.id).idxOf a < (lists.flatten.map Document.id).idxOf b := by
  refine List.pairwise_map.mpr (h.ordered.imp_of_mem fun {a b} ha hb hab hscores ↦ ?_)
  obtain ⟨x, y, hx, hy, hless | ⟨-, hplace⟩⟩ := hab
  · obtain ⟨_, -, hcontent⟩ := h.content a ha
    obtain ⟨_, -, hother⟩ := h.content b hb
    rw [hcontent] at hx
    rw [hother] at hy
    obtain rfl := Option.some.inj hx
    obtain rfl := Option.some.inj hy
    rw [le_eq_false_of_lt hless] at hscores
    exact absurd hscores Bool.false_ne_true
  · exact hplace

/-- A fusion has a dominated identifier only behind those that dominate it. -/
theorem IsFusion.before_of_dominates {full : List Document} (hfull : IsFusion smoothing lists full)
    (hsmoothing : 0 ≤ smoothing) (hdistinct : ∀ list ∈ lists, (list.map Document.id).Nodup)
    (h : Dominates lists first second) :
    (full.map Document.id).idxOf first < (full.map Document.id).idxOf second := by
  have hplaces := h.place_lt
  have hsecond : second ∈ full.map Document.id := (hfull.mem_iff second).mpr h.occurs
  have hfirst : first ∈ full.map Document.id := (hfull.mem_iff first).mpr <|
    List.idxOf_lt_length_iff.mp (Nat.lt_of_lt_of_le hplaces List.idxOf_le_length)
  have hne : first ≠ second := by
    rintro rfl
    exact Nat.lt_irrefl _ hplaces
  refine idxOf_lt_of_pairwise hfull.pairwise_ids hfirst hsecond hne fun hreverse ↦ ?_
  exact Nat.lt_asymm hplaces (hreverse (h.score_le hsmoothing hdistinct))

/-- Assumes: a list that does not repeat an identifier. Its fusion has its order. -/
theorem IsFusion.ids_eq {list full : List Document} (hfull : IsFusion smoothing [list] full)
    (hsmoothing : 0 ≤ smoothing) (hdistinct : (list.map Document.id).Nodup) :
    full.map Document.id = list.map Document.id := by
  have hmem : ∀ id, id ∈ full.map Document.id ↔ id ∈ list.map Document.id := by
    intro id
    rw [hfull.mem_iff, List.flatten_singleton]
  have hordered : (full.map Document.id).Pairwise fun a b ↦
      (list.map Document.id).idxOf a < (list.map Document.id).idxOf b := by
    refine (pairwise_idxOf hfull.nodup).imp_of_mem fun {a b} ha hb hab ↦ ?_
    by_contra hreverse
    have hplaces : (list.map Document.id).idxOf b ≠ (list.map Document.id).idxOf a := by
      intro hsame
      obtain rfl := (List.idxOf_inj ((hmem b).mp hb)).mp hsame
      exact Nat.lt_irrefl _ hab
    have hdominates : Dominates [list] b a := by
      constructor
      · rw [List.flatten_singleton]
        exact (hmem a).mp ha
      · intro other hother _
        obtain rfl := List.mem_singleton.mp hother
        omega
    have hbefore := hfull.before_of_dominates hsmoothing (by simpa using hdistinct) hdominates
    exact Nat.lt_asymm hab hbefore
  exact List.Perm.eq_of_pairwise (fun _ _ _ _ hab hba ↦ absurd hba (Nat.lt_asymm hab)) hordered
    (pairwise_idxOf hdistinct) ((List.perm_ext_iff_of_nodup hfull.nodup hdistinct).mpr hmem)

/-- Assumes: a smoothing constant that is not negative, ranks whose sums with it all have a place
among the doubles, and lists none of which repeats an identifier. With every limit, a dominated
identifier is in the fused list only behind those that dominate it, and a single list keeps its
order. -/
theorem fuse_respects_dominance (lists : List (List Document)) (limit : Option Int)
    (hsmoothing : 0 ≤ smoothing)
    (hranks : ∀ entry ∈ entries lists, (ofInt? (smoothing + entry.2)).isSome = true)
    (hdistinct : ∀ list ∈ lists, (list.map Document.id).Nodup) :
    ∃ fused, fuse lists smoothing limit = .ok fused ∧
      (∀ first second, Dominates lists first second → second ∈ fused.map Document.id →
        first ∈ fused.map Document.id ∧
          (fused.map Document.id).idxOf first < (fused.map Document.id).idxOf second) ∧
      ∀ list, lists = [list] →
        fused.map Document.id = upTo limit (list.map Document.id) := by
  have hfull := isFusion_mergeSort lists hsmoothing
  refine ⟨_, fuse_eq hsmoothing hranks limit, fun first second h hsecond ↦ ?_, fun list h ↦ ?_⟩
  · have hbefore := hfull.before_of_dominates hsmoothing hdistinct h
    rw [← upTo_map, ← upTo_map] at hsecond ⊢
    have hkept := upTo_prefix limit ((((scored smoothing lists).mergeSort
      fun a b ↦ le b.2 a.2).map present).map Document.id)
    have hfirst := (hkept.mem_iff_idxOf_lt_length first).mpr
      (Nat.lt_trans hbefore ((hkept.mem_iff_idxOf_lt_length second).mp hsecond))
    rw [hkept.idxOf_eq_of_mem hfirst, hkept.idxOf_eq_of_mem hsecond]
    exact ⟨hfirst, hbefore⟩
  · subst h
    rw [← upTo_map, ← upTo_map,
      hfull.ids_eq hsmoothing (hdistinct list List.mem_cons_self)]

/-- Ranked lists in which one document stands before another one wherever that one is. -/
def agreeing : List (List Document) :=
  [[⟨"c", "", [], none⟩, ⟨"a", "first", [], none⟩],
    [⟨"d", "", [], none⟩, ⟨"a", "", [], none⟩, ⟨"b", "", [], none⟩],
    [⟨"a", "", [], none⟩, ⟨"c", "", [], none⟩]]

/-- With a great smoothing constant all ranks are worth the same, so that three documents have
equal scores. The one that dominates another one goes first even so. -/
theorem fuse_respects_dominance_agreeing :
    (0 : Int) ≤ 2 ^ 60 ∧
      (∀ entry ∈ entries agreeing, (ofInt? (2 ^ 60 + entry.2)).isSome = true) ∧
      (∀ list ∈ agreeing, (list.map Document.id).Nodup) ∧ Dominates agreeing "d" "b" ∧
      equal (scoreOf (2 ^ 60) (entries agreeing) "d") (scoreOf (2 ^ 60) (entries agreeing) "b") =
        true ∧
      ∃ fused, fuse agreeing (2 ^ 60) (some 3) = .ok fused ∧
        (∀ first second, Dominates agreeing first second → second ∈ fused.map Document.id →
          first ∈ fused.map Document.id ∧
            (fused.map Document.id).idxOf first < (fused.map Document.id).idxOf second) ∧
        ∀ list, agreeing = [list] →
          fused.map Document.id = upTo (some 3) (list.map Document.id) := by
  have hranks : ∀ entry ∈ entries agreeing, (ofInt? (2 ^ 60 + entry.2)).isSome = true := by
    decide +kernel
  have hdistinct : ∀ list ∈ agreeing, (list.map Document.id).Nodup := by decide
  exact ⟨by decide, hranks, hdistinct, ⟨by decide, by decide⟩, by decide +kernel,
    fuse_respects_dominance agreeing (some 3) (by decide) hranks hdistinct⟩

end Grounding.Fusion
