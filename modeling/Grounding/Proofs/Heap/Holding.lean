import Mathlib.Data.List.Forall2
import Mathlib.Data.List.Perm.Basic
import Mathlib.Data.List.Nodup
import Mathlib.Data.List.Perm.Subperm
import Grounding.Heap

/-!
# What a heap holds

A cell is a frame around handles, as a value is one around its parts (`Cell.Frames`). A heap holds a
value under a handle if the cell that is stored there frames the value and the heap holds the parts
of the value under the handles in the cell (`Heap.Holds`). A heap that has all the cells of another
one holds whatever that one does (`Holds.mono`).

The value that is held is the one that the heap is read for: `Holds.value_eq`. A handle is not met
again on the way down from it, because it would then hold a value that is smaller than the one it
holds (`Holds.unique`). So the way is no longer than there are cells in the heap, and the depth down
to which the heap is read is never reached.

`holds_list_iff`, `holds_dict_iff` and `holds_record_iff` say what is held by the form of the value,
and `HoldsEntries` is the same for what stands under keys; it is kept by insertions and merges.
-/

set_option autoImplicit false
set_option relaxedAutoImplicit false

namespace Grounding

/-! ### Frames -/

/-- The values that a value is made of. -/
def Value.parts : Value → List Value
  | .list items => items
  | .dict entries => entries.map Prod.snd
  | .record _ fields => fields.map Prod.snd
  | _ => []

theorem Value.sizeOf_pos (value : Value) : 0 < sizeOf value := by
  cases value <;> simp +arith

theorem Value.sizeOf_lt_of_mem_parts {value part : Value} (h : part ∈ value.parts) :
    sizeOf part < sizeOf value := by
  have hentries : ∀ entries : Context, part ∈ entries.map Prod.snd →
      sizeOf part < sizeOf entries := by
    intro entries hmem
    obtain ⟨⟨key, value⟩, hentry, rfl⟩ := List.mem_map.mp hmem
    have := List.sizeOf_lt_of_mem hentry
    simp only [Prod.mk.sizeOf_spec] at this ⊢
    omega
  cases value with
  | list items =>
    have := List.sizeOf_lt_of_mem (show part ∈ items from h)
    simp only [list.sizeOf_spec]
    omega
  | dict entries =>
    have := hentries entries h
    simp only [dict.sizeOf_spec]
    omega
  | record kind fields =>
    have := hentries fields h
    simp only [record.sizeOf_spec]
    omega
  | _ => cases h

/-- A value that is not made of others. -/
def Value.IsLeaf : Value → Prop
  | .list _ => False
  | .dict _ => False
  | .record _ _ => False
  | _ => True

namespace Cell

/-- The handles in a cell. -/
def parts : Cell → List Handle
  | .leaf _ => []
  | .list items => items
  | .dict entries => entries.map Prod.snd
  | .record _ fields => fields.map Prod.snd

/-- A cell frames a value if both are alike but for their parts, of which they have the same
number. -/
def Frames : Cell → Value → Prop
  | .leaf stored, value => stored = value ∧ value.IsLeaf
  | .list held, .list items => held.length = items.length
  | .dict held, .dict entries => Dict.keys held = Dict.keys entries
  | .record kind held, .record other fields => kind = other ∧ Dict.keys held = Dict.keys fields
  | _, _ => False

/-- A cell with values in the place of the handles. -/
def fill (value : Handle → Value) : Cell → Value
  | .leaf stored => stored
  | .list held => .list (held.map value)
  | .dict held => .dict (held.map fun entry ↦ (entry.1, value entry.2))
  | .record kind held => .record kind (held.map fun field ↦ (field.1, value field.2))

/-- A dictionary is made of its keys and of what stands under them. -/
theorem map_eq_of_keys {held : Dict Handle} {entries : Context} {value : Handle → Value}
    (hkeys : Dict.keys held = Dict.keys entries)
    (hparts : (held.map Prod.snd).map value = entries.map Prod.snd) :
    held.map (fun entry ↦ (entry.1, value entry.2)) = entries := by
  induction held generalizing entries with
  | nil =>
    cases entries with
    | nil => rfl
    | cons _ _ => cases hkeys
  | cons entry rest ih =>
    cases entries with
    | nil => cases hkeys
    | cons other others =>
      obtain ⟨hkey, hkeys⟩ := List.cons.inj hkeys
      obtain ⟨hpart, hparts⟩ := List.cons.inj hparts
      rw [List.map_cons, ih hkeys hparts]
      exact congrArg (· :: others) (Prod.ext hkey hpart)

/-- A cell that is filled with the parts of a value it frames gives the value. -/
theorem Frames.fill_eq {cell : Cell} {value : Value} (h : cell.Frames value)
    {part : Handle → Value} (hparts : cell.parts.map part = value.parts) :
    cell.fill part = value := by
  cases cell with
  | leaf stored => exact h.1
  | list held =>
    cases value with
    | list items => exact congrArg Value.list hparts
    | _ => cases h
  | dict held =>
    cases value with
    | dict entries => exact congrArg Value.dict (map_eq_of_keys h hparts)
    | _ => cases h
  | record kind held =>
    cases value with
    | record other fields =>
      obtain ⟨rfl, hkeys⟩ := h
      exact congrArg (Value.record kind) (map_eq_of_keys hkeys hparts)
    | _ => cases h

theorem Frames.length_parts {cell : Cell} {value : Value} (h : cell.Frames value) :
    cell.parts.length = value.parts.length := by
  cases cell with
  | leaf stored =>
    obtain ⟨rfl, hleaf⟩ := h
    cases stored <;> first | rfl | cases hleaf
  | list held =>
    cases value with
    | list items => exact h
    | _ => cases h
  | dict held =>
    cases value with
    | dict entries => simpa [parts, Value.parts, Dict.keys] using congrArg List.length h
    | _ => cases h
  | record kind held =>
    cases value with
    | record other fields => simpa [parts, Value.parts, Dict.keys] using congrArg List.length h.2
    | _ => cases h

end Cell

namespace Heap

variable {heap later : Heap} {value : Value} {handle : Handle} {cell : Cell}

/-! ### Stored cells -/

/-- What is stored under a handle. -/
def Stores (heap : Heap) (handle : Handle) (cell : Cell) : Prop :=
  heap.cells[handle.place]? = some cell

/-- A heap with all the cells of another one. -/
def Extends (heap later : Heap) : Prop :=
  ∀ handle cell, heap.Stores handle cell → later.Stores handle cell

theorem Stores.look_eq (h : heap.Stores handle cell) : heap.look handle = cell := by
  rw [look, h]
  rfl

theorem Stores.lt (h : heap.Stores handle cell) : handle.place < heap.cells.size :=
  (Array.getElem?_eq_some_iff.mp h).1

theorem stores_push (heap : Heap) (cell : Cell) : (heap.push cell).Stores heap.next cell := by
  simp [Stores, push, next]

theorem Extends.refl (heap : Heap) : heap.Extends heap :=
  fun _ _ h ↦ h

theorem Extends.trans {middle : Heap} (h : heap.Extends middle) (hlater : middle.Extends later) :
    heap.Extends later :=
  fun handle cell hstored ↦ hlater handle cell (h handle cell hstored)

theorem extends_push (heap : Heap) (cell : Cell) : heap.Extends (heap.push cell) := by
  intro handle stored hstored
  exact (Array.getElem?_push_lt hstored.lt).trans
    ((Array.getElem?_eq_getElem hstored.lt).symm.trans hstored)

/-! ### Held values -/

/-- A value that is stored with all its parts. -/
inductive Holds (heap : Heap) : Value → Handle → Prop
  | intro {value : Value} {handle : Handle} {cell : Cell} (hstored : heap.Stores handle cell)
      (hframes : cell.Frames value)
      (hparts : ∀ pair ∈ value.parts.zip cell.parts, Holds heap pair.1 pair.2) :
      Holds heap value handle

theorem Holds.mono (h : heap.Holds value handle) (hextends : heap.Extends later) :
    later.Holds value handle := by
  induction h with
  | intro hstored hframes _ ih => exact .intro (hextends _ _ hstored) hframes ih

/-- A value is read by filling the cell that frames it. -/
theorem valueWithin_succ (heap : Heap) (depth : Nat) (handle : Handle) :
    heap.valueWithin (depth + 1) handle =
      (heap.look handle).fill (heap.valueWithin depth) := by
  rw [valueWithin]
  cases heap.look handle <;> rfl

/-- Assumes: parts that are read right at some depth. The value is read right one level above. -/
theorem Stores.valueWithin_eq (hstored : heap.Stores handle cell) (hframes : cell.Frames value)
    {depth : Nat}
    (hparts : ∀ pair ∈ value.parts.zip cell.parts, heap.valueWithin depth pair.2 = pair.1) :
    heap.valueWithin (depth + 1) handle = value := by
  have hpairs : List.Forall₂ (· = ·) value.parts (cell.parts.map (heap.valueWithin depth)) :=
    List.forall₂_map_right_iff.mpr
      (List.forall₂_iff_zip.mpr ⟨hframes.length_parts.symm, fun hmem ↦ (hparts _ hmem).symm⟩)
  rw [List.forall₂_eq_eq_eq] at hpairs
  rw [valueWithin_succ, hstored.look_eq]
  exact hframes.fill_eq hpairs.symm

/-- A held value is read right at any depth that is not less than its size. -/
theorem Holds.valueWithin_eq (h : heap.Holds value handle) {depth : Nat}
    (hdepth : sizeOf value ≤ depth) : heap.valueWithin depth handle = value := by
  induction h generalizing depth with
  | @intro value handle cell hstored hframes _ ih =>
    obtain ⟨below, rfl⟩ : ∃ below, depth = below + 1 :=
      Nat.exists_eq_add_one.mpr (Nat.lt_of_lt_of_le value.sizeOf_pos hdepth)
    refine hstored.valueWithin_eq hframes fun pair hpair ↦ ih pair hpair ?_
    have hpart := Value.sizeOf_lt_of_mem_parts (List.of_mem_zip hpair).1
    omega

/-- A handle holds one value at most. -/
theorem Holds.unique {other : Value} (h : heap.Holds value handle)
    (hother : heap.Holds other handle) : value = other :=
  (h.valueWithin_eq (Nat.le_add_right _ (sizeOf other))).symm.trans
    (hother.valueWithin_eq (Nat.le_add_left _ (sizeOf value)))

/-- Different handles of a heap are no more than its cells. -/
theorem length_le_of_nodup {handles : List Handle} (hnodup : handles.Nodup)
    (hlt : ∀ handle ∈ handles, handle.place < heap.cells.size) :
    handles.length ≤ heap.cells.size := by
  have hplaces : (handles.map Handle.place).Nodup :=
    hnodup.map fun _ _ heq ↦ congrArg Handle.mk heq
  have hsubset : handles.map Handle.place ⊆ List.range heap.cells.size := by
    intro place hmem
    obtain ⟨handle, hhandle, rfl⟩ := List.mem_map.mp hmem
    exact List.mem_range.mpr (hlt handle hhandle)
  simpa using (hplaces.subperm hsubset).length_le

/-- Assumes: the handles that were met on the way down, all different, each of which holds a value
that is larger than the one held here. The value is read right if there is no less depth left than
there are cells left. -/
theorem Holds.valueWithin_of_way (h : heap.Holds value handle) {way : List Handle}
    (hnodup : way.Nodup)
    (hlarger : ∀ above ∈ way, ∃ whole, heap.Holds whole above ∧ sizeOf value < sizeOf whole)
    {depth : Nat} (hdepth : heap.cells.size < depth + way.length) :
    heap.valueWithin depth handle = value := by
  induction h generalizing way depth with
  | @intro value handle cell hstored hframes hparts ih =>
    have hholds : heap.Holds value handle := .intro hstored hframes hparts
    have hnew : handle ∉ way := by
      intro hmem
      obtain ⟨whole, hwhole, hlt⟩ := hlarger handle hmem
      exact Nat.lt_irrefl _ (hholds.unique hwhole ▸ hlt)
    have hlong : (handle :: way).length ≤ heap.cells.size := by
      refine length_le_of_nodup (List.nodup_cons.mpr ⟨hnew, hnodup⟩)
        (List.forall_mem_cons.mpr ⟨hstored.lt, fun above hmem ↦ ?_⟩)
      obtain ⟨_, ⟨habove, -, -⟩, -⟩ := hlarger above hmem
      exact habove.lt
    rw [List.length_cons] at hlong
    obtain ⟨below, rfl⟩ : ∃ below, depth = below + 1 := Nat.exists_eq_add_one.mpr (by omega)
    refine hstored.valueWithin_eq hframes fun pair hpair ↦ ?_
    have hpart := Value.sizeOf_lt_of_mem_parts (List.of_mem_zip hpair).1
    refine ih pair hpair (List.nodup_cons.mpr ⟨hnew, hnodup⟩)
      (List.forall_mem_cons.mpr ⟨⟨value, hholds, hpart⟩, fun above hmem ↦ ?_⟩)
      (by rw [List.length_cons]; omega)
    obtain ⟨whole, hwhole, hlt⟩ := hlarger above hmem
    exact ⟨whole, hwhole, Nat.lt_trans hpart hlt⟩

/-- A held value is the one that the heap is read for. -/
theorem Holds.value_eq (h : heap.Holds value handle) : heap.value handle = value :=
  h.valueWithin_of_way List.nodup_nil (fun _ hmem ↦ by cases hmem) (Nat.lt_succ_self _)

/-! ### By the form of the value -/

theorem holds_iff : heap.Holds value handle ↔ ∃ cell, heap.Stores handle cell ∧
    cell.Frames value ∧ List.Forall₂ heap.Holds value.parts cell.parts := by
  constructor
  · rintro ⟨hstored, hframes, hparts⟩
    exact ⟨_, hstored, hframes,
      List.forall₂_iff_zip.mpr ⟨hframes.length_parts.symm, fun hmem ↦ hparts _ hmem⟩⟩
  · rintro ⟨cell, hstored, hframes, hparts⟩
    exact .intro hstored hframes fun pair hpair ↦ (List.forall₂_iff_zip.mp hparts).2 hpair

/-- A dictionary of values that are stored under the handles in another one. -/
def HoldsEntries (heap : Heap) (entries : Context) (held : Dict Handle) : Prop :=
  List.Forall₂ (fun entry slot ↦ entry.1 = slot.1 ∧ heap.Holds entry.2 slot.2) entries held

theorem holdsEntries_iff {entries : Context} {held : Dict Handle} :
    heap.HoldsEntries entries held ↔ Dict.keys held = Dict.keys entries ∧
      List.Forall₂ heap.Holds (entries.map Prod.snd) (held.map Prod.snd) := by
  induction entries generalizing held with
  | nil => cases held <;> simp [HoldsEntries, Dict.keys]
  | cons entry rest ih =>
    cases held with
    | nil => simp [HoldsEntries, Dict.keys]
    | cons slot slots =>
      have hrest : List.Forall₂ _ rest slots ↔ _ := ih
      simp only [HoldsEntries, Dict.keys, List.forall₂_cons, List.map_cons, List.cons.injEq] at *
      rw [hrest]
      exact ⟨fun h ↦ ⟨⟨h.1.1.symm, h.2.1⟩, h.1.2, h.2.2⟩,
        fun h ↦ ⟨⟨h.1.1.symm, h.2.1⟩, h.1.2, h.2.2⟩⟩

theorem Holds.stores_leaf (h : heap.Holds value handle) (hleaf : value.IsLeaf) :
    heap.Stores handle (.leaf value) := by
  obtain ⟨cell, hstored, hframes, -⟩ := holds_iff.mp h
  cases cell with
  | leaf stored => exact hframes.1 ▸ hstored
  | _ => cases value <;> first | exact hframes.elim | exact hleaf.elim

theorem holds_list_iff {items : List Value} : heap.Holds (.list items) handle ↔
    ∃ held, heap.Stores handle (.list held) ∧ List.Forall₂ heap.Holds items held := by
  rw [holds_iff]
  constructor
  · rintro ⟨cell, hstored, hframes, hparts⟩
    cases cell with
    | list held => exact ⟨held, hstored, hparts⟩
    | leaf stored =>
      obtain ⟨rfl, hleaf⟩ := hframes
      cases hleaf
    | _ => cases hframes
  · rintro ⟨held, hstored, hparts⟩
    exact ⟨_, hstored, hparts.length_eq.symm, hparts⟩

theorem holds_dict_iff {entries : Context} : heap.Holds (.dict entries) handle ↔
    ∃ held, heap.Stores handle (.dict held) ∧ heap.HoldsEntries entries held := by
  rw [holds_iff]
  constructor
  · rintro ⟨cell, hstored, hframes, hparts⟩
    cases cell with
    | dict held => exact ⟨held, hstored, holdsEntries_iff.mpr ⟨hframes, hparts⟩⟩
    | leaf stored =>
      obtain ⟨rfl, hleaf⟩ := hframes
      cases hleaf
    | _ => cases hframes
  · rintro ⟨held, hstored, hheld⟩
    exact ⟨_, hstored, holdsEntries_iff.mp hheld⟩

theorem holds_record_iff {kind : RecordKind} {fields : Context} :
    heap.Holds (.record kind fields) handle ↔
      ∃ held, heap.Stores handle (.record kind held) ∧ heap.HoldsEntries fields held := by
  rw [holds_iff]
  constructor
  · rintro ⟨cell, hstored, hframes, hparts⟩
    cases cell with
    | record _ held =>
      obtain ⟨rfl, hkeys⟩ := hframes
      exact ⟨held, hstored, holdsEntries_iff.mpr ⟨hkeys, hparts⟩⟩
    | leaf stored =>
      obtain ⟨rfl, hleaf⟩ := hframes
      cases hleaf
    | _ => cases hframes
  · rintro ⟨held, hstored, hheld⟩
    obtain ⟨hkeys, hparts⟩ := holdsEntries_iff.mp hheld
    exact ⟨_, hstored, ⟨rfl, hkeys⟩, hparts⟩

/-! ### Entries -/

namespace HoldsEntries

variable {entries updates : Context} {held changes : Dict Handle}

theorem mono (h : heap.HoldsEntries entries held) (hextends : heap.Extends later) :
    later.HoldsEntries entries held :=
  List.Forall₂.imp (fun _ _ hslot ↦ ⟨hslot.1, hslot.2.mono hextends⟩) h

/-- Under a key stands nothing on both sides, or a value and a handle that holds it. -/
theorem get?_cases (h : heap.HoldsEntries entries held) (key : String) :
    (Dict.get? entries key = none ∧ Dict.get? held key = none) ∨
      ∃ value handle, Dict.get? entries key = some value ∧ Dict.get? held key = some handle ∧
        heap.Holds value handle := by
  induction h with
  | nil => exact Or.inl ⟨rfl, rfl⟩
  | @cons entry slot _ _ hslot _ ih =>
    obtain ⟨k, value⟩ := entry
    obtain ⟨_, handle⟩ := slot
    obtain ⟨rfl, hheld⟩ := hslot
    rw [Dict.get?_cons, Dict.get?_cons]
    by_cases hk : k = key
    · rw [if_pos hk, if_pos hk]
      exact Or.inr ⟨value, handle, rfl, rfl, hheld⟩
    · rw [if_neg hk, if_neg hk]
      exact ih

theorem insert (h : heap.HoldsEntries entries held) (key : String)
    (hheld : heap.Holds value handle) :
    heap.HoldsEntries (Dict.insert entries key value) (Dict.insert held key handle) := by
  induction h with
  | nil => exact .cons ⟨rfl, hheld⟩ .nil
  | @cons entry slot _ _ hslot hrest ih =>
    obtain ⟨k, _⟩ := entry
    obtain ⟨_, _⟩ := slot
    obtain ⟨rfl, hold⟩ := hslot
    rw [Dict.insert, Dict.insert]
    by_cases hk : k = key
    · rw [if_pos hk, if_pos hk]
      exact .cons ⟨rfl, hheld⟩ hrest
    · rw [if_neg hk, if_neg hk]
      exact .cons ⟨rfl, hold⟩ ih

theorem merge (h : heap.HoldsEntries entries held) (hupdates : heap.HoldsEntries updates changes) :
    heap.HoldsEntries (Dict.merge entries updates) (Dict.merge held changes) := by
  induction hupdates generalizing entries held with
  | nil => exact h
  | @cons update change _ _ hchange _ ih =>
    obtain ⟨key, value⟩ := update
    obtain ⟨_, handle⟩ := change
    obtain ⟨rfl, hheld⟩ := hchange
    exact ih (h.insert key hheld)

theorem keys_eq (h : heap.HoldsEntries entries held) : Dict.keys held = Dict.keys entries :=
  (holdsEntries_iff.mp h).1

end HoldsEntries

end Heap

end Grounding
