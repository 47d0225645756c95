import Grounding.Failure

/-!
Storage for values that several others hold. A list, a dictionary or a record is stored in a cell of
its own and is held by the handle of that cell; a change of the cell shows wherever the handle is
held.

* `Heap` is the storage and `Cell` what is stored under a `Handle`.
* `Heap.store` adds a cell, `Heap.plant` a whole value; the cells that were there stay as they are:
  `look_push_of_lt`.
* `Heap.value` is the value under a handle with all that it holds.
* `Heap.set` changes a cell in place: `look_set`, `look_set_of_ne`.
-/

set_option autoImplicit false
set_option relaxedAutoImplicit false

namespace Grounding

/-- What a cell is held by. -/
structure Handle where
  place : Nat
deriving DecidableEq, Repr

/-- What is stored in one place. -/
inductive Cell
  | leaf (value : Value)
  | list (items : List Handle)
  | dict (entries : Dict Handle)
  | record (kind : RecordKind) (fields : Dict Handle)

/-- What is stored, by places. -/
structure Heap where
  cells : Array Cell := #[]

/-- A step on a heap that may fail. -/
abbrev HeapAction (α : Type) : Type := EStateM Failure Heap α

/-- A cell as a value, without what it holds. -/
def Cell.outline : Cell → Value
  | .leaf value => value
  | .list _ => .list []
  | .dict _ => .dict []
  | .record kind _ => .record kind []

namespace Heap

/-- The cell under a handle. -/
def look (heap : Heap) (handle : Handle) : Cell :=
  (heap.cells[handle.place]?).getD (.leaf .null)

/-- The heap with one more cell. -/
def push (heap : Heap) (cell : Cell) : Heap :=
  ⟨heap.cells.push cell⟩

/-- The handle that the next cell gets. -/
def next (heap : Heap) : Handle :=
  ⟨heap.cells.size⟩

/-- The heap with another cell under a handle. -/
def set (heap : Heap) (handle : Handle) (cell : Cell) : Heap :=
  ⟨heap.cells.setIfInBounds handle.place cell⟩

theorem look_push (heap : Heap) (cell : Cell) : (heap.push cell).look heap.next = cell := by
  simp [look, push, next]

/-- A new cell leaves all others as they are. -/
theorem look_push_of_lt (heap : Heap) (cell : Cell) {handle : Handle}
    (h : handle.place < heap.cells.size) : (heap.push cell).look handle = heap.look handle := by
  simp [look, push, Array.getElem?_push, Nat.ne_of_lt h]

theorem look_set (heap : Heap) (cell : Cell) {handle : Handle}
    (h : handle.place < heap.cells.size) : (heap.set handle cell).look handle = cell := by
  simp [look, set, h]

/-- A change of one cell leaves all others as they are. -/
theorem look_set_of_ne (heap : Heap) (cell : Cell) {handle other : Handle} (h : handle ≠ other) :
    (heap.set handle cell).look other = heap.look other := by
  have : handle.place ≠ other.place := fun heq ↦ h (by cases handle; cases other; simp_all)
  simp [look, set, this]

/-! ### Values -/

/-- The value under a handle, down to a depth. -/
def valueWithin (heap : Heap) : Nat → Handle → Value
  | 0, _ => .null
  | depth + 1, handle =>
    match heap.look handle with
    | .leaf value => value
    | .list items => .list (items.map (valueWithin heap depth))
    | .dict entries => .dict (entries.map fun (key, held) ↦ (key, valueWithin heap depth held))
    | .record kind fields =>
      .record kind (fields.map fun (name, held) ↦ (name, valueWithin heap depth held))

/-- The value under a handle with all that it holds. A cell that does not hold itself is nested no
deeper than there are cells. -/
def value (heap : Heap) (handle : Handle) : Value :=
  heap.valueWithin (heap.cells.size + 1) handle

/-- Stores a cell. -/
def store (cell : Cell) : HeapAction Handle := fun heap ↦
  .ok heap.next (heap.push cell)

/-- Reads the cell under a handle. -/
def fetch (handle : Handle) : HeapAction Cell := fun heap ↦
  .ok (heap.look handle) heap

/-- Changes the cell under a handle. -/
def replace (handle : Handle) (cell : Cell) : HeapAction Unit := fun heap ↦
  .ok () (heap.set handle cell)

/-- Reads the value under a handle. -/
def read (handle : Handle) : HeapAction Value := fun heap ↦
  .ok (heap.value handle) heap

/-- Stores a value that holds nothing. -/
def leaf (value : Value) : HeapAction Handle :=
  store (.leaf value)

mutual

/-- Stores a value and all that it holds, but for the parts that have a handle already. -/
def plant (known : Value → Option Handle) (value : Value) : HeapAction Handle := do
  match known value with
  | some handle => return handle
  | none =>
    match value with
    | .list items => store (.list (← plantItems known items))
    | .dict entries => store (.dict (← plantEntries known entries))
    | .record kind fields => store (.record kind (← plantEntries known fields))
    | other => leaf other
termination_by structural value

/-- Stores the items of a list. -/
def plantItems (known : Value → Option Handle) : List Value → HeapAction (List Handle)
  | [] => pure []
  | value :: rest => do return (← plant known value) :: (← plantItems known rest)
termination_by structural items => items

/-- Stores what stands under keys. -/
def plantEntries (known : Value → Option Handle) :
    List (String × Value) → HeapAction (Dict Handle)
  | [] => pure []
  | (key, value) :: rest => do
    return (key, ← plant known value) :: (← plantEntries known rest)
termination_by structural entries => entries

end

/-- Stores a value, nothing of which has a handle yet. -/
def plantNew (value : Value) : HeapAction Handle :=
  plant (fun _ ↦ none) value

end Heap

end Grounding
