import Mathlib.Data.List.Induction
import Grounding.Proofs.Binary64
import Grounding.Proofs.Joining
import Grounding.Proofs.Store.Ranking

/-!
# What a fusion by rank gives

Ranked lists are read one after the other. `Fusion.entries` are the documents in this order with
their ranks, and `Fusion.scoreOf` adds up what the entries of one identifier are worth, from zero
and in this order.

Crediting one entry after the other keeps a list of the first occurrences, each with the score of
what has been read so far (`Fusion.foldl_enter`). No score is a NaN, since nothing that is added has
a minus sign (`Fusion.unsigned_scoreOf`), so that sorting by them gives a ranking.

Main statement: `Fusion.fuse_isFusion`. Lists whose ranks all have a place among the doubles are
fused into the first occurrences with their scores, the highest score first and equal scores in the
order of the first occurrences, and a limit cuts this list off.
-/

set_option autoImplicit false
set_option relaxedAutoImplicit false

namespace Grounding

open Grounding.Binary64
open Grounding.MemoryStore (Ranks GoesFirst ranks_mergeSort)

namespace Fusion

/-! ### Scores -/

/-- The documents of ranked lists with their ranks, in reading order. -/
def entries (lists : List (List Document)) : List (Document × Nat) :=
  lists.flatMap fun list ↦ list.zipIdx 1

/-- One over the double nearest to the sum of the smoothing constant and a rank. -/
def share (smoothing : Int) (rank : Nat) : Float :=
  div 1.0 (ofSignedUnits ((smoothing + rank) * unitsPerOne))

/-- What the entries of one identifier are worth, added up from zero in reading order. -/
def scoreOf (smoothing : Int) (entries : List (Document × Nat)) (id : String) : Float :=
  ((entries.filter fun entry ↦ entry.1.id = id).map fun entry ↦
    share smoothing entry.2).foldl add 0.0

variable {smoothing : Int}

theorem scoreOf_concat (entries : List (Document × Nat)) (entry : Document × Nat) (id : String) :
    scoreOf smoothing (entries ++ [entry]) id =
      if entry.1.id = id then add (scoreOf smoothing entries id) (share smoothing entry.2)
      else scoreOf smoothing entries id := by
  unfold scoreOf
  rw [List.filter_append]
  by_cases hid : entry.1.id = id
  · rw [if_pos hid, List.filter_singleton, decide_eq_true hid, List.map_append,
      List.foldl_append]
    rfl
  · rw [if_neg hid, List.filter_singleton, decide_eq_false hid, cond_false, List.append_nil]

/-- Assumes: an identifier that has not been read. Its score is zero. -/
theorem scoreOf_of_new {entries : List (Document × Nat)} {id : String}
    (h : id ∉ (entries.map Prod.fst).map Document.id) : scoreOf smoothing entries id = 0.0 := by
  have hnone : (entries.filter fun entry ↦ entry.1.id = id) = [] := by
    refine List.filter_eq_nil_iff.mpr fun entry hmem hid ↦ h ?_
    rw [← of_decide_eq_true hid]
    exact List.mem_map_of_mem (List.mem_map_of_mem hmem)
  unfold scoreOf
  rw [hnone]
  rfl

theorem read_zero : read 0.0 = .finite false 0 := by
  decide +kernel

theorem read_one : read 1.0 = .finite false unitsPerOne := by
  decide +kernel

theorem unsigned_share (h : 0 ≤ smoothing) (rank : Nat) : Unsigned (share smoothing rank) := by
  refine Unsigned.div read_one (by decide +kernel) (unsigned_ofSignedUnits ?_)
  exact Int.mul_nonneg (by omega) (Int.natCast_nonneg _)

/-- Assumes: a smoothing constant that is not negative. No score has a minus sign or is a NaN. -/
theorem unsigned_scoreOf (h : 0 ≤ smoothing) (entries : List (Document × Nat)) (id : String) :
    Unsigned (scoreOf smoothing entries id) := by
  induction entries using List.reverseRecOn with
  | nil => exact Or.inr ⟨0, read_zero⟩
  | append_singleton entries entry ih =>
    rw [scoreOf_concat]
    split
    · exact ih.add (unsigned_share h entry.2)
    · exact ih

/-! ### Crediting -/

/-- Scores after one more entry. -/
def enter (smoothing : Int) (scores : List Scored) (entry : Document × Nat) : List Scored :=
  credit entry.1 (share smoothing entry.2) scores

theorem worth_eq {rank : Nat} (h : (ofInt? (smoothing + rank)).isSome = true) :
    worth smoothing rank = .ok (share smoothing rank) := by
  obtain ⟨place, hplace⟩ := Option.isSome_iff_exists.mp h
  have hrounded := hplace
  unfold ofInt? at hrounded
  rw [Option.ite_none_right_eq_some, Option.some.injEq] at hrounded
  unfold share
  rw [worth_of_place hplace, hrounded.2]

theorem creditList_eq {rank : Nat} {documents : List Document}
    (h : ∀ entry ∈ documents.zipIdx rank, (ofInt? (smoothing + entry.2)).isSome = true)
    (scores : List Scored) :
    creditList smoothing rank scores documents =
      .ok ((documents.zipIdx rank).foldl (enter smoothing) scores) := by
  induction documents generalizing rank scores with
  | nil => rfl
  | cons document rest ih =>
    rw [List.zipIdx_cons] at h
    obtain ⟨hhead, hrest⟩ := List.forall_mem_cons.mp h
    rw [creditList, worth_eq hhead, List.zipIdx_cons, List.foldl_cons]
    exact ih hrest _

theorem foldlM_creditList_eq {lists : List (List Document)}
    (h : ∀ entry ∈ entries lists, (ofInt? (smoothing + entry.2)).isSome = true)
    (scores : List Scored) :
    lists.foldlM (creditList smoothing 1) scores =
      .ok ((entries lists).foldl (enter smoothing) scores) := by
  induction lists generalizing scores with
  | nil => rfl
  | cons list rest ih =>
    have hentries : entries (list :: rest) = list.zipIdx 1 ++ entries rest := List.flatMap_cons
    rw [hentries] at h ⊢
    obtain ⟨hlist, hrest⟩ := List.forall_mem_append.mp h
    rw [List.foldlM_cons, creditList_eq hlist, List.foldl_append]
    exact ih hrest _

/-- Assumes: documents with distinct identifiers. To credit one of them changes its score, and a new
one comes last. -/
theorem credit_map {documents : List Document} (hnodup : (documents.map Document.id).Nodup)
    (score : String → Float) (document : Document) (amount : Float) :
    credit document amount (documents.map fun other ↦ (other, score other.id)) =
      if document.id ∈ documents.map Document.id then
        documents.map fun other ↦
          (other, if document.id = other.id then add (score other.id) amount else score other.id)
      else
        (documents.map fun other ↦ (other, score other.id)) ++ [(document, add 0.0 amount)] := by
  induction documents with
  | nil => rfl
  | cons first rest ih =>
    rw [List.map_cons, List.nodup_cons] at hnodup
    obtain ⟨hfresh, hrest⟩ := hnodup
    rw [List.map_cons, List.map_cons, List.map_cons, credit]
    by_cases hid : first.id = document.id
    · have hothers : ∀ other ∈ rest, ¬ document.id = other.id := by
        intro other hmem hother
        exact hfresh ((hid.trans hother) ▸ List.mem_map_of_mem hmem)
      rw [if_pos hid, if_pos (hid ▸ List.mem_cons_self), if_pos hid.symm]
      refine congrArg _ (List.map_congr_left fun other hmem ↦ ?_)
      rw [if_neg (hothers other hmem)]
    · rw [if_neg hid, ih hrest, if_neg (Ne.symm hid)]
      by_cases hmem : document.id ∈ rest.map Document.id
      · rw [if_pos hmem, if_pos (List.mem_cons_of_mem _ hmem)]
      · have hnew : document.id ∉ first.id :: rest.map Document.id := by
          rw [List.mem_cons, not_or]
          exact ⟨Ne.symm hid, hmem⟩
        rw [if_neg hmem, if_neg hnew, List.cons_append]

/-- Entries, read one after the other, leave their first occurrences with the scores of what has
been read. -/
theorem foldl_enter (entries : List (Document × Nat)) :
    entries.foldl (enter smoothing) [] =
      (firstOccurrences [] (entries.map Prod.fst)).map fun document ↦
        (document, scoreOf smoothing entries document.id) := by
  induction entries using List.reverseRecOn with
  | nil => rfl
  | append_singleton entries entry ih =>
    have hids := mem_ids_firstOccurrences [] (entries.map Prod.fst) entry.1.id
    rw [and_iff_left List.not_mem_nil] at hids
    rw [List.foldl_append, ih, List.foldl_cons, List.foldl_nil, enter,
      credit_map (nodup_firstOccurrences _), List.map_append, List.map_singleton,
      firstOccurrences_concat]
    by_cases hmem : entry.1.id ∈ (entries.map Prod.fst).map Document.id
    · rw [if_pos hmem, if_pos (hids.mpr hmem)]
      refine List.map_congr_left fun document _ ↦ ?_
      rw [scoreOf_concat]
    · rw [if_neg hmem, if_neg (mt hids.mp hmem), List.map_append, List.map_singleton,
        scoreOf_concat, if_pos rfl, scoreOf_of_new hmem]
      congr 1
      refine List.map_congr_left fun document hdocument ↦ ?_
      have hother : ¬ entry.1.id = document.id := by
        intro hid
        exact hmem (hids.mp (hid ▸ List.mem_map_of_mem hdocument))
      rw [scoreOf_concat, if_neg hother]

/-! ### The fused list -/

/-- The first occurrences in ranked lists with their scores. -/
def scored (smoothing : Int) (lists : List (List Document)) : List Scored :=
  (firstOccurrences [] lists.flatten).map fun document ↦
    (document, scoreOf smoothing (entries lists) document.id)

/-- A list that fuses ranked lists: each identifier once, the first occurrence with its score in two
places, the highest score first and equal scores in the order of the first occurrences. -/
structure IsFusion (smoothing : Int) (lists : List (List Document)) (fused : List Document) :
    Prop where
  nodup : (fused.map Document.id).Nodup
  mem_iff : ∀ id, id ∈ fused.map Document.id ↔ id ∈ lists.flatten.map Document.id
  content : ∀ document ∈ fused, ∃ first,
    lists.flatten.find? (fun other ↦ other.id = document.id) = some first ∧
      document = { first with
        score := some (scoreOf smoothing (entries lists) document.id)
        metadata := first.metadata.insert "rrf_score"
          (.float (scoreOf smoothing (entries lists) document.id)) }
  ordered : fused.Pairwise fun a b ↦ ∃ x y, a.score = some x ∧ b.score = some y ∧
    (lt y x = true ∨ equal x y = true ∧
      (lists.flatten.map Document.id).idxOf a.id < (lists.flatten.map Document.id).idxOf b.id)

theorem map_fst_entries (lists : List (List Document)) :
    (entries lists).map Prod.fst = lists.flatten := by
  unfold entries
  rw [List.map_flatMap]
  simp only [List.zipIdx_map_fst, List.flatMap_id']

theorem tally_eq {lists : List (List Document)}
    (h : ∀ entry ∈ entries lists, (ofInt? (smoothing + entry.2)).isSome = true) :
    tally smoothing lists = .ok (scored smoothing lists) := by
  unfold tally scored
  rw [foldlM_creditList_eq h, foldl_enter, map_fst_entries]

/-- Scored documents stand in the order of their first occurrences. -/
theorem place_lt_of_mem_zipIdx {lists : List (List Document)} {a b : Scored × Nat}
    (ha : a ∈ (scored smoothing lists).zipIdx) (hb : b ∈ (scored smoothing lists).zipIdx)
    (h : a.2 < b.2) :
    (lists.flatten.map Document.id).idxOf a.1.1.id <
      (lists.flatten.map Document.id).idxOf b.1.1.id := by
  have hpairwise : (scored smoothing lists).Pairwise fun a b ↦
      (lists.flatten.map Document.id).idxOf a.1.id <
        (lists.flatten.map Document.id).idxOf b.1.id :=
    List.pairwise_map.mpr (pairwise_firstOccurrences lists.flatten)
  obtain ⟨hfirst, heq⟩ := List.getElem?_eq_some_iff.mp (List.mem_zipIdx_iff_getElem?.mp ha)
  obtain ⟨hsecond, heq'⟩ := List.getElem?_eq_some_iff.mp (List.mem_zipIdx_iff_getElem?.mp hb)
  have hplaces := List.pairwise_iff_getElem.mp hpairwise a.2 b.2 hfirst hsecond h
  rwa [heq, heq'] at hplaces

/-- Assumes: a ranking of the scored documents. It is a fusion. -/
theorem isFusion_of_ranks {lists : List (List Document)} {ranked : List Scored}
    (h : Ranks ranked (scored smoothing lists)) :
    IsFusion smoothing lists (ranked.map present) := by
  have hids : ((ranked.map present).map Document.id).Perm
      ((firstOccurrences [] lists.flatten).map Document.id) := by
    have hperm := h.perm.map fun entry ↦ entry.1.id
    unfold scored at hperm
    rw [List.map_map] at hperm ⊢
    exact hperm
  refine ⟨hids.nodup_iff.mpr (nodup_firstOccurrences _), fun id ↦ ?_, fun document hmem ↦ ?_, ?_⟩
  · rw [hids.mem_iff, mem_ids_firstOccurrences, and_iff_left List.not_mem_nil]
  · obtain ⟨entry, hentry, rfl⟩ := List.mem_map.mp hmem
    obtain ⟨first, hfirst, rfl⟩ := List.mem_map.mp (h.perm.mem_iff.mp hentry)
    exact ⟨first, find?_of_mem_firstOccurrences hfirst, rfl⟩
  · obtain ⟨placed, hperm, rfl, hordered⟩ := h
    rw [List.pairwise_map, List.pairwise_map]
    refine hordered.imp_of_mem fun {a b} ha hb hab ↦ ⟨a.1.2, b.1.2, rfl, rfl, ?_⟩
    rcases hab with hless | ⟨hequal, hplace⟩
    · exact Or.inl hless
    · exact Or.inr ⟨hequal,
        place_lt_of_mem_zipIdx (hperm.mem_iff.mp ha) (hperm.mem_iff.mp hb) hplace⟩

/-- Assumes: a smoothing constant that is not negative, and ranks whose sums with it all have a
place among the doubles. The scored documents are sorted, and cut off at the limit. -/
theorem fuse_eq {lists : List (List Document)} (hsmoothing : 0 ≤ smoothing)
    (hranks : ∀ entry ∈ entries lists, (ofInt? (smoothing + entry.2)).isSome = true)
    (limit : Option Int) :
    fuse lists smoothing limit = .ok ((upTo limit
      ((scored smoothing lists).mergeSort fun a b ↦ le b.2 a.2)).map present) := by
  unfold fuse
  rw [if_neg (Int.not_lt.mpr hsmoothing), tally_eq hranks]
  rfl

/-- Assumes: a smoothing constant that is not negative. The scored documents in their order are a
fusion. -/
theorem isFusion_mergeSort (lists : List (List Document)) (hsmoothing : 0 ≤ smoothing) :
    IsFusion smoothing lists
      (((scored smoothing lists).mergeSort fun a b ↦ le b.2 a.2).map present) := by
  refine isFusion_of_ranks (ranks_mergeSort fun entry hmem ↦ ?_)
  obtain ⟨document, -, rfl⟩ := List.mem_map.mp hmem
  exact (unsigned_scoreOf hsmoothing _ _).isNaN_eq_false

/-- Assumes: a smoothing constant that is not negative, and ranks whose sums with it all have a
place among the doubles. The lists are fused, and a limit keeps the first documents. -/
theorem fuse_isFusion (lists : List (List Document)) (hsmoothing : 0 ≤ smoothing)
    (hranks : ∀ entry ∈ entries lists, (ofInt? (smoothing + entry.2)).isSome = true) :
    ∃ fused, IsFusion smoothing lists fused ∧ fuse lists smoothing none = .ok fused ∧
      ∀ limit : Nat, fuse lists smoothing (some limit) = .ok (fused.take limit) := by
  refine ⟨_, isFusion_mergeSort lists hsmoothing, fuse_eq hsmoothing hranks none, fun limit ↦ ?_⟩
  rw [fuse_eq hsmoothing hranks, upTo, if_neg (Int.not_lt.mpr (Int.natCast_nonneg limit)),
    Int.toNat_natCast, List.map_take]

/-- Lists that share a document, which the last one holds twice. -/
def overlapping : List (List Document) :=
  [[⟨"a", "first", [], none⟩, ⟨"b", "", [("rrf_score", .null)], some 0.5⟩], [],
    [⟨"b", "other", [], none⟩, ⟨"c", "", [], none⟩, ⟨"b", "", [], none⟩]]

/-- The shared document does better than the one that occurs before it. -/
theorem fuse_isFusion_overlapping :
    (0 : Int) ≤ 60 ∧
      (∀ entry ∈ entries overlapping, (ofInt? (60 + entry.2)).isSome = true) ∧
      (∃ fused, IsFusion 60 overlapping fused ∧ fuse overlapping 60 none = .ok fused ∧
        ∀ limit : Nat, fuse overlapping 60 (some limit) = .ok (fused.take limit)) ∧
      (scored 60 overlapping).map (fun entry ↦ entry.1.id) = ["a", "b", "c"] ∧
      lt (scoreOf 60 (entries overlapping) "a") (scoreOf 60 (entries overlapping) "b") = true := by
  have hranks : ∀ entry ∈ entries overlapping, (ofInt? (60 + entry.2)).isSome = true := by
    decide +kernel
  exact ⟨by decide, hranks, fuse_isFusion overlapping (by decide) hranks, by decide +kernel,
    by decide +kernel⟩

end Fusion

end Grounding
