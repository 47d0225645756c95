import Mathlib.Data.List.Induction
import Grounding.Pipeline

/-!
# What groups hold

Groups are built by filing one list after the other (`groupsOf_concat`). A filed list goes to the
first group of an equal query, or to a new one at the end (`Groups.add_eq`); in either case the
groups hold what they have held before, and the new list. Thus they hold every found list as often
as it was found: `lists_groupsOf_perm`.
-/

set_option autoImplicit false
set_option relaxedAutoImplicit false

namespace Grounding

namespace Groups

theorem lists_cons (key : Query) (present : List (List Document)) (rest : Groups) :
    Groups.lists ((key, present) :: rest) = present ++ Groups.lists rest := rfl

/-- To file a list adds it to the filed ones, wherever it comes to stand. -/
theorem lists_add_perm (groups : Groups) (query : Query) (documents : List Document) :
    (groups.add query documents).lists.Perm (groups.lists ++ [documents]) := by
  unfold add
  induction groups with
  | nil => exact List.Perm.refl _
  | cons group rest ih =>
    obtain ⟨key, present⟩ := group
    rw [addAll, lists_cons, List.append_assoc]
    by_cases hequal : key.equal query = true
    · rw [if_pos hequal, lists_cons, List.append_assoc]
      exact List.perm_append_comm.append_left present
    · rw [if_neg hequal, lists_cons]
      exact ih.append_left present

/-- A query that equals no key becomes one, at the end. -/
theorem keys_add (groups : Groups) (query : Query) (documents : List Document) :
    (groups.add query documents).map Prod.fst =
      if groups.any (fun group ↦ group.1.equal query) then groups.map Prod.fst
      else groups.map Prod.fst ++ [query] := by
  unfold add
  induction groups with
  | nil => rfl
  | cons group rest ih =>
    obtain ⟨key, present⟩ := group
    rw [addAll, List.any_cons]
    by_cases hequal : key.equal query = true
    · simp [hequal]
    · rw [if_neg hequal, List.map_cons, ih]
      simp only [hequal, Bool.false_or, List.map_cons, List.cons_append]
      split <;> rfl

/-- Assumes: groups of which one at most has a key that equals the query. That group gets the list;
if there is none, a new one does. -/
theorem add_eq {groups : Groups} {query : Query} (documents : List Document)
    (hone : groups.Pairwise fun first second ↦
      first.1.equal query = true → second.1.equal query = false) :
    groups.add query documents =
      if groups.any (fun group ↦ group.1.equal query) then
        groups.map fun group ↦
          (group.1, if group.1.equal query then group.2 ++ [documents] else group.2)
      else groups ++ [(query, [documents])] := by
  unfold add
  induction groups with
  | nil => rfl
  | cons group rest ih =>
    obtain ⟨key, present⟩ := group
    obtain ⟨hhead, hrest⟩ := List.pairwise_cons.mp hone
    rw [addAll, List.any_cons]
    by_cases hequal : key.equal query = true
    · have hothers : ∀ other ∈ rest, (other.1, if other.1.equal query then
          other.2 ++ [documents] else other.2) = other := by
        intro other hmem
        rw [hhead other hmem hequal]
        rfl
      rw [if_pos hequal, hequal, Bool.true_or, if_pos rfl, List.map_cons, if_pos hequal,
        List.map_congr_left hothers, List.map_id']
    · rw [if_neg hequal, ih hrest]
      simp only [hequal, Bool.false_or, List.map_cons, List.cons_append]
      split <;> rfl

end Groups

namespace Pipeline

/-- The groups of one more list are the groups with that list. -/
theorem groupsOf_concat (found : List (Query × List Document)) (query : Query)
    (documents : List Document) :
    groupsOf (found ++ [(query, documents)]) = (groupsOf found).add query documents := by
  unfold groupsOf
  rw [List.foldl_append]
  rfl

/-- The filed lists are the found ones, each as often as it was found. -/
theorem lists_groupsOf_perm (found : List (Query × List Document)) :
    (groupsOf found).lists.Perm (found.map Prod.snd) := by
  induction found using List.reverseRecOn with
  | nil => exact List.Perm.refl _
  | append_singleton found entry ih =>
    obtain ⟨query, documents⟩ := entry
    rw [groupsOf_concat, List.map_append]
    exact (Groups.lists_add_perm _ query documents).trans (ih.append_right _)

theorem mem_lists_groupsOf_iff {found : List (Query × List Document)}
    {documents : List Document} :
    documents ∈ (groupsOf found).lists ↔ ∃ query, (query, documents) ∈ found := by
  simp [(lists_groupsOf_perm found).mem_iff]

end Pipeline

end Grounding
