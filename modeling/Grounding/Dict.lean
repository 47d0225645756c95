/-!
Dictionaries in insertion order. A dictionary is a list of keyed entries; a key that is set again
keeps its place, one that is erased and set again moves to the end.

* `get?`, `contains`, `insert`, `erase`, `merge` are the operations.
* `get?_insert` and `get?_erase` say what a look-up sees after a change.
* `keys_insert`: setting a key that is present leaves the keys as they are; a new one comes last.
* `merge_merge`: two merges one after the other are one merge. `get?_merge_of_notMem`: a merge
  leaves what it does not set.
* `mem_of_get?`: what a look-up sees is an entry. `get?_of_mem`: an entry of a dictionary with
  distinct keys is what a look-up sees.
-/

set_option autoImplicit false
set_option relaxedAutoImplicit false

namespace Grounding

/-- Entries in insertion order. The operations keep the keys distinct. -/
abbrev Dict (α : Type) : Type := List (String × α)

namespace Dict

variable {α : Type}

/-- The value under a key. -/
def get? (entries : Dict α) (key : String) : Option α :=
  match entries with
  | [] => none
  | (k, value) :: rest => if k = key then some value else get? rest key

/-- Whether a key is present. -/
def contains (entries : Dict α) (key : String) : Bool :=
  (get? entries key).isSome

/-- The keys in insertion order. -/
def keys (entries : Dict α) : List String :=
  entries.map (·.1)

/-- Sets a key: in place if it is present, otherwise at the end. -/
def insert (entries : Dict α) (key : String) (value : α) : Dict α :=
  match entries with
  | [] => [(key, value)]
  | (k, old) :: rest => if k = key then (k, value) :: rest else (k, old) :: insert rest key value

/-- Removes a key. -/
def erase (entries : Dict α) (key : String) : Dict α :=
  entries.filter fun entry ↦ !decide (entry.1 = key)

/-- Sets every entry of the second dictionary in the first. -/
def merge (entries updates : Dict α) : Dict α :=
  updates.foldl (fun merged update ↦ insert merged update.1 update.2) entries

/-! ### Laws -/

@[simp] theorem get?_nil (key : String) : get? ([] : Dict α) key = none := rfl

theorem get?_cons (k : String) (value : α) (rest : Dict α) (key : String) :
    get? ((k, value) :: rest) key = if k = key then some value else get? rest key := rfl

/-- Two dictionaries that begin with one key look the same under a key if they do so in the part
that the look-up reaches. -/
theorem get?_cons_congr {k key : String} {value other : α} {rest others : Dict α}
    (hvalue : k = key → value = other) (hrest : get? rest key = get? others key) :
    get? ((k, value) :: rest) key = get? ((k, other) :: others) key := by
  by_cases hk : k = key
  · rw [get?_cons, get?_cons, if_pos hk, if_pos hk, hvalue hk]
  · rw [get?_cons, get?_cons, if_neg hk, if_neg hk, hrest]

theorem get?_insert (entries : Dict α) (key other : String) (value : α) :
    get? (insert entries key value) other =
      if key = other then some value else get? entries other := by
  induction entries with
  | nil => simp [insert, get?]
  | cons entry rest ih =>
    obtain ⟨k, old⟩ := entry
    by_cases hk : k = key
    · subst hk
      by_cases ho : k = other <;> simp [insert, get?, ho]
    · by_cases ho : k = other
      · subst ho
        simp [insert, get?, hk, Ne.symm hk]
      · simp [insert, get?, hk, ho, ih]

/-- Of two values that are set under one key only the second is left. -/
theorem insert_insert (entries : Dict α) (key : String) (first second : α) :
    insert (insert entries key first) key second = insert entries key second := by
  induction entries with
  | nil => simp [insert]
  | cons entry rest ih =>
    obtain ⟨k, old⟩ := entry
    by_cases hk : k = key
    · simp [insert, hk]
    · simp [insert, hk, ih]

theorem get?_erase (entries : Dict α) (key other : String) :
    get? (erase entries key) other = if key = other then none else get? entries other := by
  induction entries with
  | nil => simp [erase]
  | cons entry rest ih =>
    obtain ⟨k, old⟩ := entry
    unfold erase at ih ⊢
    by_cases hk : k = key
    · subst hk
      by_cases ho : k = other
      · simpa [ho] using ih
      · simpa [ho, get?_cons] using ih
    · by_cases ho : k = other
      · subst ho
        simp [hk, get?_cons, Ne.symm hk]
      · simp [hk, ho, get?_cons, ih]

theorem keys_insert (entries : Dict α) (key : String) (value : α) :
    keys (insert entries key value) =
      if key ∈ keys entries then keys entries else keys entries ++ [key] := by
  induction entries with
  | nil => simp [insert, keys]
  | cons entry rest ih =>
    obtain ⟨k, old⟩ := entry
    unfold keys at ih ⊢
    by_cases hk : k = key
    · simp [insert, hk]
    · have hk' : ¬ key = k := fun h ↦ hk h.symm
      simp only [insert, hk, if_false, List.map_cons, ih, List.mem_cons, hk', false_or]
      split <;> simp

theorem keys_erase (entries : Dict α) (key : String) :
    keys (erase entries key) = (keys entries).filter fun k ↦ !decide (k = key) := by
  simp [keys, erase, List.filter_map, Function.comp_def]

theorem get?_isSome_iff (entries : Dict α) (key : String) :
    (get? entries key).isSome = true ↔ key ∈ keys entries := by
  induction entries with
  | nil => simp [keys]
  | cons entry rest ih =>
    obtain ⟨k, old⟩ := entry
    unfold keys at ih ⊢
    by_cases hk : k = key
    · simp [get?_cons, hk]
    · have hk' : ¬ key = k := fun h ↦ hk h.symm
      simpa [get?_cons, hk, hk'] using ih

/-- What a look-up sees is an entry. -/
theorem mem_of_get? {entries : Dict α} {key : String} {value : α}
    (h : get? entries key = some value) : (key, value) ∈ entries := by
  induction entries with
  | nil => cases h
  | cons entry rest ih =>
    obtain ⟨k, first⟩ := entry
    rw [get?_cons] at h
    by_cases hk : k = key
    · rw [if_pos hk] at h
      rw [hk, Option.some.inj h]
      exact List.mem_cons_self
    · rw [if_neg hk] at h
      exact List.mem_cons_of_mem _ (ih h)

/-- Assumes: distinct keys. Every entry is found under its key. -/
theorem get?_of_mem {entries : Dict α} (hkeys : (keys entries).Nodup) {key : String} {value : α}
    (h : (key, value) ∈ entries) : get? entries key = some value := by
  induction entries with
  | nil => cases h
  | cons entry rest ih =>
    obtain ⟨k, first⟩ := entry
    obtain ⟨hfresh, hrest⟩ := List.nodup_cons.mp hkeys
    rw [get?_cons]
    rcases List.mem_cons.mp h with heq | hmem
    · obtain ⟨rfl, rfl⟩ := Prod.mk.inj heq
      rw [if_pos rfl]
    · have hne : ¬ k = key := by
        rintro rfl
        exact hfresh (List.mem_map.mpr ⟨(k, value), hmem, rfl⟩)
      rw [if_neg hne]
      exact ih hrest hmem

/-! ### Merges -/

theorem mem_keys_insert {entries : Dict α} {key other : String} {value : α} :
    other ∈ keys (insert entries key value) ↔ other ∈ keys entries ∨ other = key := by
  rw [keys_insert]
  by_cases hmem : key ∈ keys entries
  · rw [if_pos hmem]
    exact ⟨Or.inl, fun h ↦ h.elim id fun heq ↦ heq ▸ hmem⟩
  · rw [if_neg hmem, List.mem_append, List.mem_singleton]

theorem mem_insert {entries : Dict α} {key : String} {value : α} {entry : String × α}
    (h : entry ∈ insert entries key value) : entry ∈ entries ∨ entry = (key, value) := by
  induction entries with
  | nil => exact Or.inr (List.mem_singleton.mp h)
  | cons first rest ih =>
    obtain ⟨k, old⟩ := first
    rw [insert] at h
    by_cases hk : k = key
    · rw [if_pos hk, hk] at h
      exact (List.mem_cons.mp h).elim Or.inr fun hrest ↦ Or.inl (List.mem_cons_of_mem _ hrest)
    · rw [if_neg hk] at h
      rcases List.mem_cons.mp h with rfl | hrest
      · exact Or.inl List.mem_cons_self
      · exact (ih hrest).imp_left (List.mem_cons_of_mem _)

/-- What a merge holds stood in one of the two dictionaries. -/
theorem mem_merge {entries updates : Dict α} {entry : String × α}
    (h : entry ∈ merge entries updates) : entry ∈ entries ∨ entry ∈ updates := by
  induction updates generalizing entries with
  | nil => exact Or.inl h
  | cons update rest ih =>
    rcases ih h with hold | hrest
    · exact (mem_insert hold).imp_right fun heq ↦ List.mem_cons.mpr (Or.inl heq)
    · exact Or.inr (List.mem_cons_of_mem _ hrest)

theorem nodup_keys_insert {entries : Dict α} (h : (keys entries).Nodup) (key : String) (value : α) :
    (keys (insert entries key value)).Nodup := by
  rw [keys_insert]
  by_cases hmem : key ∈ keys entries
  · rwa [if_pos hmem]
  · rw [if_neg hmem, List.nodup_append]
    refine ⟨h, by simp, ?_⟩
    rintro other hother _ hnew rfl
    exact hmem (List.mem_singleton.mp hnew ▸ hother)

/-- A merge leaves what it does not set. -/
theorem get?_merge_of_notMem (entries : Dict α) {updates : Dict α} {key : String}
    (h : key ∉ keys updates) : get? (merge entries updates) key = get? entries key := by
  induction updates generalizing entries with
  | nil => rfl
  | cons update rest ih =>
    obtain ⟨hne, hrest⟩ := not_or.mp (fun hmem ↦ h (List.mem_cons.mpr hmem))
    exact (ih _ hrest).trans ((get?_insert ..).trans (if_neg (Ne.symm hne)))

/-- A key that is present may be set before another one or after it. -/
theorem insert_comm {entries : Dict α} {key other : String} (hne : key ≠ other)
    (hmem : key ∈ keys entries) (value new : α) :
    insert (insert entries key value) other new = insert (insert entries other new) key value := by
  induction entries with
  | nil => cases hmem
  | cons entry rest ih =>
    obtain ⟨k, old⟩ := entry
    by_cases hkey : k = key
    · subst hkey
      simp [insert, hne]
    · by_cases hother : k = other
      · subst hother
        simp [insert, hkey]
      · have hrest : key ∈ keys rest := (List.mem_cons.mp hmem).resolve_left (Ne.symm hkey)
        simp [insert, hkey, hother, ih hrest]

/-- A key that is present may be set before a merge that does not set it, or after it. -/
theorem insert_merge {entries updates : Dict α} {key : String} (hmem : key ∈ keys entries)
    (hnew : key ∉ keys updates) (value : α) :
    insert (merge entries updates) key value = merge (insert entries key value) updates := by
  induction updates generalizing entries with
  | nil => rfl
  | cons update rest ih =>
    obtain ⟨hne, hrest⟩ := not_or.mp (fun hmem ↦ hnew (List.mem_cons.mpr hmem))
    calc insert (merge (insert entries update.1 update.2) rest) key value
        = merge (insert (insert entries update.1 update.2) key value) rest :=
          ih (mem_keys_insert.mpr (Or.inl hmem)) hrest
      _ = merge (insert (insert entries key value) update.1 update.2) rest := by
          rw [insert_comm hne hmem]

/-- Assumes: distinct keys in a merge. To set one more key in it is to set it afterwards. -/
theorem merge_insert (entries : Dict α) {updates : Dict α} (hkeys : (keys updates).Nodup)
    (key : String) (value : α) :
    merge entries (insert updates key value) = insert (merge entries updates) key value := by
  induction updates generalizing entries with
  | nil => rfl
  | cons update rest ih =>
    obtain ⟨k, old⟩ := update
    obtain ⟨hfresh, hrest⟩ := List.nodup_cons.mp hkeys
    by_cases hk : k = key
    · subst hk
      rw [insert, if_pos rfl]
      calc merge (insert entries k value) rest
          = merge (insert (insert entries k old) k value) rest := by rw [insert_insert]
        _ = insert (merge (insert entries k old) rest) k value :=
            (insert_merge (mem_keys_insert.mpr (Or.inr rfl)) hfresh value).symm
    · rw [insert, if_neg hk]
      exact ih (insert entries k old) hrest

/-- Assumes: distinct keys in the first of two merges. Both together are one merge. -/
theorem merge_merge (entries : Dict α) {first : Dict α} (hkeys : (keys first).Nodup)
    (second : Dict α) :
    merge (merge entries first) second = merge entries (merge first second) := by
  induction second generalizing first with
  | nil => rfl
  | cons update rest ih =>
    calc merge (insert (merge entries first) update.1 update.2) rest
        = merge (merge entries (insert first update.1 update.2)) rest := by
          rw [merge_insert entries hkeys]
      _ = merge entries (merge (insert first update.1 update.2) rest) :=
          ih (nodup_keys_insert hkeys _ _)

end Dict

end Grounding
