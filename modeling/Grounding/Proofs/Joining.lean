import Mathlib.Data.List.Basic
import Mathlib.Data.List.Induction
import Grounding.Joiner
import Grounding.Proofs.Action

/-!
# What joiners keep

`firstOccurrences` keeps the first document for every identifier. It is insensitive to repetitions:
documents whose identifiers have all occurred before add nothing, wherever they stand
(`firstOccurrences_absorb`), and lists with the same first occurrences have them with any list
behind them (`firstOccurrences_append_congr`).

A joiner that makes nothing of lists only if they are all empty is said to keep some
(`Joiner.KeepsSome`). Both built-in ones do: the first document of a list is a first occurrence, and
a fusion that may keep one document keeps the best one.
-/

set_option autoImplicit false
set_option relaxedAutoImplicit false

namespace Grounding

open Grounding.Action

variable {σ : Type}

/-! ### First occurrences -/

/-- Whether two documents have the same identifier. -/
def Document.sameId (first second : Document) : Bool :=
  first.id == second.id

/-- What is new are the documents with a new identifier, without later duplicates. -/
theorem firstOccurrences_eq_eraseDupsBy (seen : List String) (documents : List Document) :
    firstOccurrences seen documents =
      (documents.filter fun document ↦ document.id ∉ seen).eraseDupsBy Document.sameId := by
  induction documents generalizing seen with
  | nil => rfl
  | cons document rest ih =>
    rw [firstOccurrences]
    by_cases hseen : document.id ∈ seen
    · rw [if_pos hseen, ih, List.filter_cons_of_neg (by simpa using hseen)]
    · rw [if_neg hseen, ih, List.filter_cons_of_pos (by simpa using hseen),
        List.eraseDupsBy_cons, List.filter_filter]
      have hfilter : (fun other : Document ↦ decide (other.id ∉ document.id :: seen)) =
          fun other ↦ decide (other.sameId document = false) && decide (other.id ∉ seen) := by
        funext other
        simp [Document.sameId]
      rw [hfilter]

theorem firstOccurrences_nil_eq (documents : List Document) :
    firstOccurrences [] documents = documents.eraseDupsBy Document.sameId := by
  rw [firstOccurrences_eq_eraseDupsBy, List.filter_eq_self.mpr (by simp)]

theorem firstOccurrences_congr {seen others : List String}
    (h : ∀ id, id ∈ seen ↔ id ∈ others) (documents : List Document) :
    firstOccurrences seen documents = firstOccurrences others documents := by
  simp only [firstOccurrences_eq_eraseDupsBy, h]

/-- Of two lists in a row, the second one adds what is new after the first one. -/
theorem firstOccurrences_append (seen : List String) (documents others : List Document) :
    firstOccurrences seen (documents ++ others) =
      firstOccurrences seen documents ++
        firstOccurrences (documents.map Document.id ++ seen) others := by
  induction documents generalizing seen with
  | nil => rfl
  | cons document rest ih =>
    rw [List.cons_append, firstOccurrences, firstOccurrences]
    by_cases hseen : document.id ∈ seen
    · rw [if_pos hseen, if_pos hseen, ih]
      congr 1
      refine firstOccurrences_congr (fun id ↦ ?_) others
      constructor
      · intro hmem
        exact List.mem_cons_of_mem document.id hmem
      · intro hmem
        rcases List.mem_cons.mp hmem with rfl | hrest
        · exact List.mem_append_right _ hseen
        · exact hrest
    · rw [if_neg hseen, if_neg hseen, ih, List.cons_append]
      congr 2
      refine firstOccurrences_congr (fun id ↦ ?_) others
      simp only [List.map_cons, List.cons_append, List.mem_append, List.mem_cons]
      exact or_left_comm

/-- Documents with known identifiers are not new. -/
theorem firstOccurrences_eq_nil {seen : List String} {documents : List Document}
    (h : ∀ document ∈ documents, document.id ∈ seen) : firstOccurrences seen documents = [] := by
  have hfilter : (documents.filter fun document ↦ document.id ∉ seen) = [] := by
    simpa [List.filter_eq_nil_iff] using h
  rw [firstOccurrences_eq_eraseDupsBy, hfilter]
  rfl

/-- Assumes: documents that all stand in front already. They add nothing. -/
theorem firstOccurrences_absorb {documents others : List Document} (h : others ⊆ documents)
    (seen : List String) (rest : List Document) :
    firstOccurrences seen (documents ++ others ++ rest) =
      firstOccurrences seen (documents ++ rest) := by
  have hids : others.map Document.id ⊆ documents.map Document.id := List.map_subset _ h
  have hnone : firstOccurrences (documents.map Document.id ++ seen) others = [] := by
    refine firstOccurrences_eq_nil fun document hmem ↦ ?_
    exact List.mem_append_left seen (hids (List.mem_map_of_mem hmem))
  rw [firstOccurrences_append, firstOccurrences_append, hnone, List.append_nil,
    firstOccurrences_append seen documents rest]
  congr 1
  refine firstOccurrences_congr (fun id ↦ ?_) rest
  rw [List.map_append, List.mem_append, List.mem_append, List.mem_append,
    or_iff_left_of_imp fun hmem ↦ hids hmem]

/-- The identifiers that occur for the first time are all those that are new. -/
theorem mem_ids_firstOccurrences (seen : List String) (documents : List Document) (id : String) :
    id ∈ (firstOccurrences seen documents).map Document.id ↔
      id ∈ documents.map Document.id ∧ id ∉ seen := by
  induction documents generalizing seen with
  | nil => simp [firstOccurrences]
  | cons document rest ih =>
    rw [firstOccurrences]
    by_cases hseen : document.id ∈ seen
    · rw [if_pos hseen, ih, List.map_cons, List.mem_cons]
      constructor
      · rintro ⟨hrest, hnew⟩
        exact ⟨Or.inr hrest, hnew⟩
      · rintro ⟨rfl | hrest, hnew⟩
        · exact absurd hseen hnew
        · exact ⟨hrest, hnew⟩
    · rw [if_neg hseen, List.map_cons, List.map_cons, List.mem_cons, List.mem_cons, ih,
        List.mem_cons, not_or]
      by_cases hid : id = document.id
      · subst hid
        simp [hseen]
      · simp [hid]

/-- Assumes: lists with the same first occurrences. They have them with any list behind them. -/
theorem firstOccurrences_append_congr {documents others : List Document}
    (h : firstOccurrences [] documents = firstOccurrences [] others) (rest : List Document) :
    firstOccurrences [] (documents ++ rest) = firstOccurrences [] (others ++ rest) := by
  have hids : ∀ id, id ∈ documents.map Document.id ↔ id ∈ others.map Document.id := by
    intro id
    have hleft := mem_ids_firstOccurrences [] documents id
    have hright := mem_ids_firstOccurrences [] others id
    rw [h] at hleft
    simpa using hleft.symm.trans hright
  rw [firstOccurrences_append, firstOccurrences_append, h]
  congr 1
  refine firstOccurrences_congr (fun id ↦ ?_) rest
  rw [List.append_nil, List.append_nil]
  exact hids id

/-- Assumes: documents with distinct identifiers that are all new. Each of them is a first
occurrence. -/
theorem firstOccurrences_of_nodup {seen : List String} {documents : List Document}
    (hnew : ∀ document ∈ documents, document.id ∉ seen)
    (hnodup : (documents.map Document.id).Nodup) : firstOccurrences seen documents = documents := by
  induction documents generalizing seen with
  | nil => rfl
  | cons document rest ih =>
    obtain ⟨hhead, hrest⟩ := List.forall_mem_cons.mp hnew
    obtain ⟨hfresh, hdistinct⟩ := List.nodup_cons.mp hnodup
    have hother : ∀ other ∈ rest, other.id ∉ document.id :: seen := by
      intro other hmem hseen
      rcases List.mem_cons.mp hseen with hid | hold
      · exact hfresh (hid ▸ List.mem_map_of_mem hmem)
      · exact hrest other hmem hold
    rw [firstOccurrences, if_neg hhead, ih hother hdistinct]

theorem firstOccurrences_concat (documents : List Document) (document : Document) :
    firstOccurrences [] (documents ++ [document]) =
      if document.id ∈ documents.map Document.id then firstOccurrences [] documents
      else firstOccurrences [] documents ++ [document] := by
  rw [firstOccurrences_append, List.append_nil, firstOccurrences]
  split
  · exact List.append_nil _
  · rfl

theorem nodup_firstOccurrences (documents : List Document) :
    ((firstOccurrences [] documents).map Document.id).Nodup := by
  induction documents using List.reverseRecOn with
  | nil => exact List.nodup_nil
  | append_singleton documents document ih =>
    rw [firstOccurrences_concat]
    split
    · exact ih
    · rename_i hnew
      rw [List.map_append, List.map_singleton]
      refine List.nodup_append.mpr ⟨ih, List.pairwise_singleton _ _, fun id hid other hother ↦ ?_⟩
      rintro rfl
      rw [List.mem_singleton] at hother
      exact hnew (hother ▸ ((mem_ids_firstOccurrences [] documents id).mp hid).1)

/-- A first occurrence is what a search for its identifier finds. -/
theorem find?_of_mem_firstOccurrences {documents : List Document} {document : Document}
    (h : document ∈ firstOccurrences [] documents) :
    documents.find? (fun other ↦ other.id = document.id) = some document := by
  induction documents using List.reverseRecOn with
  | nil => cases h
  | append_singleton documents last ih =>
    rw [firstOccurrences_concat] at h
    rw [List.find?_append]
    split at h
    · rw [ih h, Option.some_or]
    · rename_i hnew
      rcases List.mem_append.mp h with hold | hlast
      · rw [ih hold, Option.some_or]
      · obtain rfl := List.mem_singleton.mp hlast
        have hnone : documents.find? (fun other ↦ other.id = document.id) = none := by
          rw [List.find?_eq_none]
          intro other hmem hid
          exact hnew (of_decide_eq_true hid ▸ List.mem_map_of_mem hmem)
        rw [hnone, Option.none_or, List.find?_singleton, if_pos (decide_eq_true rfl)]

/-- First occurrences stand in the order of their places. -/
theorem pairwise_firstOccurrences (documents : List Document) :
    (firstOccurrences [] documents).Pairwise fun a b ↦
      (documents.map Document.id).idxOf a.id < (documents.map Document.id).idxOf b.id := by
  induction documents using List.reverseRecOn with
  | nil => exact List.Pairwise.nil
  | append_singleton documents document ih =>
    have hmem : ∀ a ∈ firstOccurrences [] documents, a.id ∈ documents.map Document.id :=
      fun a ha ↦ ((mem_ids_firstOccurrences [] documents a.id).mp (List.mem_map_of_mem ha)).1
    have hplace : ∀ a ∈ firstOccurrences [] documents,
        ((documents ++ [document]).map Document.id).idxOf a.id =
          (documents.map Document.id).idxOf a.id := by
      intro a ha
      rw [List.map_append, List.idxOf_append_of_mem (hmem a ha)]
    have hold : (firstOccurrences [] documents).Pairwise fun a b ↦
        ((documents ++ [document]).map Document.id).idxOf a.id <
          ((documents ++ [document]).map Document.id).idxOf b.id := by
      refine ih.imp_of_mem fun {a b} ha hb hab ↦ ?_
      rw [hplace a ha, hplace b hb]
      exact hab
    rw [firstOccurrences_concat]
    split
    · exact hold
    · rename_i hnew
      refine List.pairwise_append.mpr ⟨hold, List.pairwise_singleton _ _, fun a ha b hb ↦ ?_⟩
      obtain rfl := List.mem_singleton.mp hb
      rw [hplace a ha, List.map_append, List.idxOf_append_of_notMem hnew]
      exact Nat.lt_add_right _ (List.idxOf_lt_length_iff.mpr (hmem a ha))

/-! ### Fusion -/

namespace Fusion

theorem credit_ne_nil (document : Document) (amount : Float) (scores : List Scored) :
    credit document amount scores ≠ [] := by
  cases scores with
  | nil => exact List.cons_ne_nil _ _
  | cons first rest =>
    obtain ⟨other, score⟩ := first
    rw [credit]
    split <;> exact List.cons_ne_nil _ _

/-- Assumes: a list whose ranks are all worth something. No scores are left only if there were none
and the list is empty. -/
theorem eq_nil_of_creditList {smoothing : Int} {rank : Nat} {documents : List Document}
    {scores result : List Scored} (h : creditList smoothing rank scores documents = .ok result) :
    result = [] ↔ scores = [] ∧ documents = [] := by
  induction documents generalizing rank scores with
  | nil =>
    obtain ⟨⟩ := h
    simp
  | cons document rest ih =>
    obtain ⟨amount, -, hrest⟩ := bind_eq_ok_iff.mp h
    have hcredit := credit_ne_nil document amount scores
    simp [ih hrest, hcredit]

theorem eq_nil_of_foldlM {smoothing : Int} {lists : List (List Document)}
    {scores result : List Scored}
    (h : lists.foldlM (creditList smoothing 1) scores = .ok result) :
    result = [] ↔ scores = [] ∧ ∀ list ∈ lists, list = [] := by
  induction lists generalizing scores with
  | nil =>
    obtain ⟨⟩ := h
    simp
  | cons list rest ih =>
    rw [List.foldlM_cons] at h
    obtain ⟨credited, hcredited, hrest⟩ := bind_eq_ok_iff.mp h
    rw [ih hrest, eq_nil_of_creditList hcredited, List.forall_mem_cons, and_assoc]

/-- Assumes: a limit that allows for one element. A list that is cut off there is empty only if it
was before. -/
theorem upTo_eq_nil_iff {α : Type} {limit : Option Int} (hlimit : limit.any (· < 1) = false)
    (items : List α) : upTo limit items = [] ↔ items = [] := by
  cases limit with
  | none => rfl
  | some bound =>
    have hbound : ¬ bound < 1 := by simpa using hlimit
    have hpositive : bound.toNat ≠ 0 := by omega
    rw [upTo, if_neg (by omega), List.take_eq_nil_iff]
    simp [hpositive]

/-- Assumes: lists that are fused with a limit that allows for one document. Nothing comes of them
exactly if they are all empty. -/
theorem fuse_eq_nil_iff {lists : List (List Document)} {smoothing : Int} {limit : Option Int}
    {documents : List Document} (hlimit : limit.any (· < 1) = false)
    (h : fuse lists smoothing limit = .ok documents) :
    documents = [] ↔ ∀ list ∈ lists, list = [] := by
  unfold fuse at h
  split at h
  · cases h
  · obtain ⟨scores, hscores, hlast⟩ := bind_eq_ok_iff.mp h
    obtain ⟨⟩ := hlast
    have hsorted : (scores.mergeSort fun a b ↦ Binary64.le b.2 a.2) = [] ↔ scores = [] := by
      rw [← List.length_eq_zero_iff, List.length_mergeSort, List.length_eq_zero_iff]
    rw [List.map_eq_nil_iff, upTo_eq_nil_iff hlimit, hsorted, eq_nil_of_foldlM hscores]
    simp

end Fusion

/-! ### Joiners -/

namespace Joiner

/-- A joiner that makes nothing of lists only if they are all empty. -/
def KeepsSome (joiner : Joiner σ) : Prop :=
  ∀ groups scene documents, (joiner.join groups).outcome scene = .ok (some documents) →
    (documents = [] ↔ ∀ list ∈ groups.lists, list = [])

theorem concatenation_keepsSome : (concatenation : Joiner σ).KeepsSome := by
  intro groups scene documents h
  obtain rfl : concatenate groups = documents := Option.some.inj (Except.ok.inj h)
  rw [← List.flatten_eq_nil_iff, concatenate]
  cases groups.lists.flatten with
  | nil => simp [firstOccurrences]
  | cons document rest => simp [firstOccurrences]

theorem fusion_keepsSome {smoothing : Int} {limit : Option Int} {joiner : Joiner σ}
    (hjoiner : fusion smoothing limit = .ok joiner) : joiner.KeepsSome := by
  unfold fusion at hjoiner
  split at hjoiner
  · cases hjoiner
  · split at hjoiner
    · cases hjoiner
    · rename_i hlimit
      obtain ⟨⟩ := hjoiner
      intro groups scene documents h
      obtain ⟨fused, hfused, hlast⟩ := outcome_bind_eq_ok_iff.mp h
      obtain ⟨⟩ := hlast
      rw [outcome_ofExcept] at hfused
      exact Fusion.fuse_eq_nil_iff (by simpa using hlimit) hfused

end Joiner

end Grounding
