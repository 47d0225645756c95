/-!
# Sorting with places

A sort by merging is stable. With the places that the entries of a list have in it, this is a
statement about pairs: of two entries of the sorted list, the second one does not go before the
first one by the order, and if the first one does not go before the second one either, it had the
earlier place (`pairwise_mergeSort_zipIdx`). Without the places, the sorted list is the one that a
sort of the entries alone gives (`map_fst_mergeSort_zipIdx`).

Stability also makes no difference between leaving entries out before a sort and after it
(`filter_mergeSort`). Where no entry is kept behind one that is left out, what is kept is the
beginning of a list (`filter_prefix_self`).
-/

set_option autoImplicit false
set_option relaxedAutoImplicit false

namespace Grounding

variable {α : Type}

/-- The places that entries have in a list are kept when the list is sorted, each once. -/
theorem nodup_places_mergeSort (le : α × Nat → α × Nat → Bool) (entries : List α) :
    ((entries.zipIdx.mergeSort le).map Prod.snd).Nodup := by
  have hperm := (List.mergeSort_perm entries.zipIdx le).map Prod.snd
  rw [List.zipIdx_map_snd] at hperm
  exact hperm.nodup_iff.mpr (List.nodup_range' 1)

/-- A sort by the first parts of entries keeps those with equal ones in the order of their places.

Assumes: a transitive and total order. -/
theorem pairwise_mergeSort_zipIdx (le : α → α → Bool)
    (htrans : ∀ a b c, le a b = true → le b c = true → le a c = true)
    (htotal : ∀ a b, (le a b || le b a) = true) (entries : List α) :
    (entries.zipIdx.mergeSort fun a b ↦ le a.1 b.1).Pairwise fun a b ↦
      le a.1 b.1 = true ∧ (le b.1 a.1 = true → a.2 < b.2) := by
  have hplaces : ∀ entry ∈ entries.zipIdx.zipIdx, entry.1.2 = entry.2 := by
    rintro ⟨⟨value, place⟩, index⟩ hmem
    have hget := List.mk_mem_zipIdx_iff_getElem?.mp hmem
    rw [List.getElem?_zipIdx] at hget
    obtain ⟨_, -, heq⟩ := Option.map_eq_some_iff.mp hget
    have hplace := congrArg Prod.snd heq
    simpa using hplace.symm
  have hsorted := List.pairwise_mergeSort
    (List.zipIdxLE_trans fun (a b c : α × Nat) ↦ htrans a.1 b.1 c.1)
    (List.zipIdxLE_total fun (a b : α × Nat) ↦ htotal a.1 b.1) entries.zipIdx.zipIdx
  have hordered : (entries.zipIdx.mergeSort fun a b ↦ le a.1 b.1).Pairwise fun a b ↦
      le a.1 b.1 = true ∧ (le b.1 a.1 = true → a.2 ≤ b.2) := by
    rw [← List.mergeSort_zipIdx, List.pairwise_map]
    refine hsorted.imp_of_mem fun {a b} ha hb hle ↦ ?_
    rw [hplaces a (List.mem_mergeSort.mp ha), hplaces b (List.mem_mergeSort.mp hb)]
    unfold List.zipIdxLE at hle
    split at hle
    · rename_i hab
      refine ⟨hab, fun hba ↦ ?_⟩
      simpa [hba] using hle
    · cases hle
  have hdistinct := List.pairwise_map.mp (nodup_places_mergeSort (fun a b ↦ le a.1 b.1) entries)
  refine (hordered.and hdistinct).imp fun {a b} hab ↦ ?_
  obtain ⟨⟨hle, hplace⟩, hne⟩ := hab
  exact ⟨hle, fun hback ↦ Nat.lt_of_le_of_ne (hplace hback) hne⟩

theorem map_fst_mergeSort_zipIdx (le : α → α → Bool) (entries : List α) :
    (entries.zipIdx.mergeSort fun a b ↦ le a.1 b.1).map Prod.fst = entries.mergeSort le := by
  rw [List.map_mergeSort (f := Prod.fst) (s := le) fun a _ b _ ↦ rfl, List.zipIdx_map_fst]

/-- Orders that agree on the entries of a list sort it in the same way. -/
theorem mergeSort_congr {le other : α → α → Bool} {entries : List α}
    (h : ∀ a ∈ entries, ∀ b ∈ entries, le a b = other a b) :
    entries.mergeSort le = entries.mergeSort other := by
  have hmap := List.map_mergeSort (f := id) (s := other) h
  rwa [List.map_id, List.map_id] at hmap

/-! ### Leaving entries out -/

section Filter

variable {le : α → α → Bool} (htrans : ∀ a b c, le a b = true → le b c = true → le a c = true)
  (htotal : ∀ a b, (le a b || le b a) = true)
include htrans htotal

/-- The first entry of a list is sorted in behind the entries that it must not precede, and before
all others. -/
theorem mergeSort_cons_eq (entry : α) (rest : List α) :
    (entry :: rest).mergeSort le =
      (rest.mergeSort le).filter (fun other ↦ !le entry other) ++
        entry :: (rest.mergeSort le).filter (le entry) := by
  obtain ⟨front, back, hall, hrest, hfront⟩ := List.mergeSort_cons htrans htotal entry rest
  have hback : ∀ other ∈ back, le entry other = true := by
    have hsorted := List.pairwise_mergeSort htrans htotal (entry :: rest)
    rw [hall, List.pairwise_append, List.pairwise_cons] at hsorted
    exact hsorted.2.1.1
  have hbefore : (front ++ back).filter (fun other ↦ !le entry other) = front := by
    rw [List.filter_append, List.filter_eq_self.mpr hfront]
    simpa using hback
  have hbehind : (front ++ back).filter (le entry) = back := by
    rw [List.filter_append, List.filter_eq_self.mpr hback]
    simpa using hfront
  rw [hall, hrest, hbefore, hbehind]

/-- Entries may be left out before or after a sort. -/
theorem filter_mergeSort (keep : α → Bool) (entries : List α) :
    (entries.mergeSort le).filter keep = (entries.filter keep).mergeSort le := by
  induction entries with
  | nil => simp
  | cons entry rest ih =>
    by_cases hkeep : keep entry = true
    · rw [List.filter_cons_of_pos hkeep, mergeSort_cons_eq htrans htotal entry rest,
        mergeSort_cons_eq htrans htotal entry (rest.filter keep), List.filter_append,
        List.filter_cons_of_pos hkeep, ← ih]
      simp only [List.filter_filter, Bool.and_comm]
    · obtain ⟨front, back, hall, hrest, -⟩ := List.mergeSort_cons htrans htotal entry rest
      rw [List.filter_cons_of_neg hkeep, ← ih, hall, hrest, List.filter_append,
        List.filter_cons_of_neg hkeep, List.filter_append]

end Filter

/-- Assumes: a list in which no entry is kept behind one that is left out. The kept ones are its
beginning. -/
theorem filter_prefix_self {keep : α → Bool} {entries : List α}
    (h : entries.Pairwise fun a b ↦ keep b = true → keep a = true) :
    entries.filter keep <+: entries := by
  induction entries with
  | nil => exact List.prefix_rfl
  | cons entry rest ih =>
    obtain ⟨hentry, hrest⟩ := List.pairwise_cons.mp h
    by_cases hkeep : keep entry = true
    · rw [List.filter_cons_of_pos hkeep]
      exact (List.prefix_cons_inj entry).mpr (ih hrest)
    · have hnone : rest.filter keep = [] :=
        List.filter_eq_nil_iff.mpr fun other hmem hother ↦ hkeep (hentry other hmem hother)
      rw [List.filter_cons_of_neg hkeep, hnone]
      exact List.nil_prefix

end Grounding
