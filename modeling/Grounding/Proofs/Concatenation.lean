import Mathlib.Data.List.Nodup
import Grounding.Proofs.Joining

/-!
# What concatenation keeps

A concatenation goes through all groups, all lists of a group and all documents of a list, and takes
a document exactly if its identifier is new (`Joiner.concatenate_eq_foldl`). What it has taken after
some documents is said to keep the first ones (`KeepsFirst`): it holds every identifier once, with
the document that was the first one to have it, and in the order of these documents. There is one
such list for any documents (`KeepsFirst.unique`).

`Joiner.concatenation_keepsFirst`: concatenation keeps the first documents of its lists in a row.
Thus it does not depend on how they are divided into groups and lists, it leaves what it has given
as it is, and of two parts in a row it gives what the first part gives and then, of what the second
part gives, the documents whose identifiers the first part does not have.
-/

set_option autoImplicit false
set_option relaxedAutoImplicit false

namespace Grounding

/-- A list that keeps the first documents: each identifier once, with the first document that has
it, in the order of these documents. -/
structure KeepsFirst (documents joined : List Document) : Prop where
  sublist : joined.Sublist documents
  nodup : (joined.map Document.id).Nodup
  mem_iff : ∀ id, id ∈ joined.map Document.id ↔ id ∈ documents.map Document.id
  first : ∀ document ∈ joined,
    documents.find? (fun other ↦ other.id = document.id) = some document
  ordered : joined.Pairwise fun a b ↦
    (documents.map Document.id).idxOf a.id < (documents.map Document.id).idxOf b.id

namespace KeepsFirst

variable {documents joined other : List Document}

/-- It holds the documents that a search for their identifiers finds. -/
theorem mem_iff_find? (h : KeepsFirst documents joined) (document : Document) :
    document ∈ joined ↔
      documents.find? (fun other ↦ other.id = document.id) = some document := by
  constructor
  · exact h.first document
  · intro hfind
    have hid : document.id ∈ documents.map Document.id :=
      List.mem_map_of_mem (List.mem_of_find?_eq_some hfind)
    obtain ⟨kept, hkept, hsame⟩ := List.mem_map.mp ((h.mem_iff document.id).mpr hid)
    have hfirst := h.first kept hkept
    rw [hsame, hfind] at hfirst
    rw [Option.some.inj hfirst]
    exact hkept

/-- There is one list that keeps the first documents. -/
theorem unique (h : KeepsFirst documents joined) (hother : KeepsFirst documents other) :
    joined = other := by
  have hperm : joined.Perm other := by
    rw [List.perm_ext_iff_of_nodup (List.Nodup.of_map Document.id h.nodup)
      (List.Nodup.of_map Document.id hother.nodup)]
    intro document
    rw [h.mem_iff_find?, hother.mem_iff_find?]
  exact List.Perm.eq_of_pairwise (fun _ _ _ _ hab hba ↦ absurd hba (Nat.lt_asymm hab)) h.ordered
    hother.ordered hperm

end KeepsFirst

/-! ### First occurrences -/

theorem sublist_firstOccurrences (seen : List String) (documents : List Document) :
    (firstOccurrences seen documents).Sublist documents := by
  induction documents generalizing seen with
  | nil => exact List.Sublist.slnil
  | cons document rest ih =>
    rw [firstOccurrences]
    by_cases hseen : document.id ∈ seen
    · rw [if_pos hseen]
      exact (ih seen).cons document
    · rw [if_neg hseen]
      exact (ih _).cons_cons document

theorem keepsFirst_firstOccurrences (documents : List Document) :
    KeepsFirst documents (firstOccurrences [] documents) where
  sublist := sublist_firstOccurrences [] documents
  nodup := nodup_firstOccurrences documents
  mem_iff id := by simp [mem_ids_firstOccurrences]
  first _ := find?_of_mem_firstOccurrences
  ordered := pairwise_firstOccurrences documents

/-- To leave out identifiers later is to have seen them from the start. -/
theorem filter_firstOccurrences (seen others : List String) (documents : List Document) :
    ((firstOccurrences others documents).filter fun document ↦ document.id ∉ seen) =
      firstOccurrences (seen ++ others) documents := by
  induction documents generalizing others with
  | nil => rfl
  | cons document rest ih =>
    rw [firstOccurrences, firstOccurrences]
    by_cases hothers : document.id ∈ others
    · rw [if_pos hothers, if_pos (List.mem_append_right seen hothers), ih]
    · rw [if_neg hothers]
      by_cases hseen : document.id ∈ seen
      · rw [if_pos (List.mem_append_left others hseen), List.filter_cons_of_neg (by simpa), ih]
        apply firstOccurrences_congr
        intro id
        simp only [List.mem_append, List.mem_cons]
        constructor
        · rintro (hid | rfl | hid)
          · exact Or.inl hid
          · exact Or.inl hseen
          · exact Or.inr hid
        · exact Or.imp_right Or.inr
      · rw [if_neg (by simp [hseen, hothers]), List.filter_cons_of_pos (by simpa), ih]
        congr 1
        apply firstOccurrences_congr
        intro id
        simp only [List.mem_append, List.mem_cons]
        exact or_left_comm

/-- What a document adds to those that have been taken. -/
def takeNew (joined : List Document) (document : Document) : List Document :=
  if document.id ∈ joined.map Document.id then joined else joined ++ [document]

/-- Documents, read one after the other, leave their first occurrences. -/
theorem foldl_takeNew (documents : List Document) :
    documents.foldl takeNew [] = firstOccurrences [] documents := by
  induction documents using List.reverseRecOn with
  | nil => rfl
  | append_singleton documents document ih =>
    rw [List.foldl_append, ih, List.foldl_cons, List.foldl_nil, firstOccurrences_concat, takeNew]
    have hids := (keepsFirst_firstOccurrences documents).mem_iff document.id
    simp only [hids]

/-! ### Concatenations -/

namespace Joiner

variable {σ : Type}

/-- A concatenation goes through the groups, their lists and the documents of these. -/
theorem concatenate_eq_foldl (groups : Groups) :
    concatenate groups = groups.foldl (fun joined group ↦
      group.2.foldl (fun joined list ↦ list.foldl takeNew joined) joined) [] := by
  unfold concatenate Groups.lists
  rw [← foldl_takeNew, List.foldl_flatten, List.foldl_flatMap]

/-- Two parts in a row. Of what the second part gives, there remains what is new after the first
one. -/
theorem concatenate_append {groups front back : Groups}
    (h : groups.lists.flatten = front.lists.flatten ++ back.lists.flatten) :
    concatenate groups = concatenate front ++ (concatenate back).filter fun document ↦
      document.id ∉ front.lists.flatten.map Document.id := by
  unfold concatenate
  rw [h, firstOccurrences_append, filter_firstOccurrences]

/-- Assumes: nothing of the groups. Concatenation succeeds with the list that keeps the first
documents, which no other list does; it takes them on its way through the groups; it depends on the
lists in a row alone; it leaves what it has given as it is; and of two parts in a row it gives what
the first part gives and what is new of the second part. -/
theorem concatenation_keepsFirst (groups : Groups) :
    ∃ joined, (concatenation : Joiner σ).join groups = pure (some joined) ∧
      KeepsFirst groups.lists.flatten joined ∧
      (∀ other, KeepsFirst groups.lists.flatten other → other = joined) ∧
      joined = groups.foldl (fun joined group ↦
        group.2.foldl (fun joined list ↦ list.foldl takeNew joined) joined) [] ∧
      (∀ others : Groups, others.lists.flatten = groups.lists.flatten →
        (concatenation : Joiner σ).join others = pure (some joined)) ∧
      (∀ others : Groups, others.lists.flatten = joined →
        (concatenation : Joiner σ).join others = pure (some joined)) ∧
      ∀ front back : Groups, groups.lists.flatten = front.lists.flatten ++ back.lists.flatten →
        ∃ first second, (concatenation : Joiner σ).join front = pure (some first) ∧
          (concatenation : Joiner σ).join back = pure (some second) ∧
          joined = first ++ second.filter fun document ↦
            document.id ∉ front.lists.flatten.map Document.id := by
  have hkeeps : KeepsFirst groups.lists.flatten (concatenate groups) :=
    keepsFirst_firstOccurrences _
  refine ⟨concatenate groups, rfl, hkeeps, fun other hother ↦ hother.unique hkeeps,
    concatenate_eq_foldl groups, fun others h ↦ ?_, fun others h ↦ ?_, fun front back h ↦ ?_⟩
  · have hsame : concatenate others = concatenate groups := by
      rw [concatenate, concatenate, h]
    exact congrArg (pure ∘ some) hsame
  · have hsame : concatenate others = concatenate groups := by
      rw [concatenate, h]
      exact firstOccurrences_of_nodup (by simp) hkeeps.nodup
    exact congrArg (pure ∘ some) hsame
  · exact ⟨concatenate front, concatenate back, rfl, rfl, concatenate_append h⟩

/-- The lists of two queries, which share two documents. -/
def sharing : Groups :=
  [({ text := "a" }, [[⟨"x", "first", [], some 0.9⟩, ⟨"y", "", [], none⟩],
      [⟨"x", "second", [], none⟩]]),
    ({ text := "b" }, [[⟨"z", "", [], none⟩, ⟨"y", "other", [], some 0.5⟩]])]

/-- The second query adds one document, and the first two keep their texts. -/
theorem concatenation_keepsFirst_sharing :
    ∃ joined, (concatenation : Joiner Unit).join sharing = pure (some joined) ∧
      KeepsFirst sharing.lists.flatten joined ∧
      joined.map (fun document ↦ (document.id, document.text)) =
        [("x", "first"), ("y", ""), ("z", "")] ∧
      ∃ first second,
        (concatenation : Joiner Unit).join (sharing.take 1) = pure (some first) ∧
        (concatenation : Joiner Unit).join (sharing.drop 1) = pure (some second) ∧
        joined = first ++ second.filter fun document ↦
          document.id ∉ (Groups.lists (sharing.take 1)).flatten.map Document.id := by
  obtain ⟨joined, hjoin, hkeeps, -, hwalk, -, -, hparts⟩ :=
    concatenation_keepsFirst (σ := Unit) sharing
  refine ⟨joined, hjoin, hkeeps, ?_, hparts _ _ rfl⟩
  rw [hwalk]
  rfl

end Joiner

end Grounding
