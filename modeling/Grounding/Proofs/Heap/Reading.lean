import Grounding.Heap.Layout
import Grounding.Proofs.Heap.Holding

/-!
# Reading what a heap holds

A record is read from a heap as it is read from values. `Heap.Ends` says how an action ends that
succeeds and leaves all cells as they are, with a rule for every way of putting actions together.
What is planted by such an action is held (`plantNew_ends`). `Checked.Matches` compares two readings
that may be refused: either both are accepted, or both are refused for the same faults.

`Heap.EndsAs` puts these together: the reading of a handle ends as the reading of a value does, with
a handle that holds what was read. Parts that are read in a row end so if each of them does
(`gather_ends`), because those that come later find what was held before. From this follow lists
(`readList_ends`) and records (`readRecord_ends`), the fields that have to be given and those with a
default, which is planted (`readField_required`, `readField_withDefault`), and what stands in them
(`scalar_ends`, `anything_ends`, `dict_ends`, `list_ends`). A list that is given as a record is left
out, because a heap takes it for the list of its fields.
-/

set_option autoImplicit false
set_option relaxedAutoImplicit false

namespace Grounding

variable {α β γ δ ε ρ σ : Type}

/-! ### Checked readings -/

namespace Checked

/-- Readings that are both accepted, with related results, or both refused for the same faults. -/
inductive Matches (R : α → β → Prop) : Checked α → Checked β → Prop
  | accepted {a : α} {b : β} (h : R a b) : Matches R (.accepted a) (.accepted b)
  | refused (issues : List Issue) : Matches R (.refused issues) (.refused issues)

/-- Readings in a row. The faults of all of them are reported. -/
def collect : List (Checked α) → Checked (List α)
  | [] => .accepted []
  | first :: rest => map₂ List.cons first (collect rest)

variable {R S : α → β → Prop} {a : Checked α} {b : Checked β}

theorem Matches.imp (h : a.Matches R b) (himp : ∀ a b, R a b → S a b) : a.Matches S b := by
  cases h with
  | accepted h => exact .accepted (himp _ _ h)
  | refused issues => exact .refused issues

theorem Matches.under (h : a.Matches R b) (step : PathStep) :
    (a.under step).Matches R (b.under step) := by
  cases h with
  | accepted h => exact .accepted h
  | refused issues => exact .refused _

/-- Assumes: matching readings of a part and of the parts behind it. -/
theorem Matches.cons {as : Checked (List α)} {bs : Checked (List β)} (h : a.Matches R b)
    (hrest : as.Matches (List.Forall₂ R) bs) :
    (map₂ List.cons a as).Matches (List.Forall₂ R) (map₂ List.cons b bs) := by
  cases h with
  | accepted h =>
    cases hrest with
    | accepted hrest => exact .accepted (.cons h hrest)
    | refused others => exact .refused others
  | refused issues =>
    cases hrest with
    | accepted _ => exact .refused issues
    | refused others => exact .refused (issues ++ others)

theorem map_ap₃ {f : α → β → γ → ρ} {write : ρ → σ} (writeA : α → δ) (writeB : β → δ)
    (writeC : γ → δ) (build : List δ → σ) {a : Checked α} {b : Checked β} {c : Checked γ}
    (h : ∀ x y z, a = .accepted x → write (f x y z) = build [writeA x, writeB y, writeC z]) :
    ((((accepted f).ap a).ap b).ap c).map write =
      (collect [a.map writeA, b.map writeB, c.map writeC]).map build := by
  cases a <;> cases b <;> cases c <;>
    first
    | exact congrArg accepted (h _ _ _ rfl)
    | simp [collect, ap, map, map₂]

theorem map_ap₄ {f : α → β → γ → ε → ρ} {write : ρ → σ} (writeA : α → δ) (writeB : β → δ)
    (writeC : γ → δ) (writeE : ε → δ) (build : List δ → σ) {a : Checked α} {b : Checked β}
    {c : Checked γ} {e : Checked ε}
    (h : ∀ x y z w, write (f x y z w) = build [writeA x, writeB y, writeC z, writeE w]) :
    (((((accepted f).ap a).ap b).ap c).ap e).map write =
      (collect [a.map writeA, b.map writeB, c.map writeC, e.map writeE]).map build := by
  cases a <;> cases b <;> cases c <;> cases e <;>
    first
    | exact congrArg accepted (h ..)
    | simp [collect, ap, map, map₂]

theorem map_under (write : α → γ) (step : PathStep) :
    (a.under step).map write = (a.map write).under step := by
  cases a <;> rfl

end Checked

theorem forall₂_zipIdx {R : α → β → Prop} {as : List α} {bs : List β} (h : List.Forall₂ R as bs)
    (position : Nat) :
    List.Forall₂ (fun a b ↦ R a.1 b.1 ∧ a.2 = b.2) (as.zipIdx position) (bs.zipIdx position) := by
  induction h generalizing position with
  | nil => exact .nil
  | cons h _ ih => exact .cons ⟨h, rfl⟩ (ih (position + 1))

/-- The items of a list are read as the list of their readings is, each under its position. -/
theorem Shape.items_eq_collect (shape : Shape α) (write : α → γ) (position : Nat)
    (values : List Value) :
    (Shape.items shape position values).map (List.map write) =
      Checked.collect ((values.zipIdx position).map fun item ↦
        ((shape item.1).map write).under (.index item.2)) := by
  induction values generalizing position with
  | nil => rfl
  | cons value rest ih =>
    rw [List.zipIdx_cons, List.map_cons, Checked.collect, ← ih, ← Checked.map_under, Shape.items]
    cases (shape value).under (.index position) <;>
      cases Shape.items shape (position + 1) rest <;> rfl

/-! ### Shapes of values without parts -/

/-- A shape that refuses whatever is made of other values, in one way. -/
def Shape.Flat (shape : Shape α) : Prop :=
  ∃ problem, ∀ value : Value, ¬ value.IsLeaf → shape value = .fault problem

namespace Shape

theorem Flat.of_refused {shape : Shape α} {problem : Problem}
    (hlist : ∀ items, shape (.list items) = .fault problem)
    (hdict : ∀ entries, shape (.dict entries) = .fault problem)
    (hrecord : ∀ kind fields, shape (.record kind fields) = .fault problem) : shape.Flat := by
  refine ⟨problem, fun value hleaf ↦ ?_⟩
  cases value with
  | list items => exact hlist items
  | dict entries => exact hdict entries
  | record kind fields => exact hrecord kind fields
  | _ => exact absurd trivial hleaf

theorem flat_text : Flat text :=
  .of_refused (fun _ ↦ rfl) (fun _ ↦ rfl) fun _ _ ↦ rfl

theorem flat_integer : Flat integer :=
  .of_refused (fun _ ↦ rfl) (fun _ ↦ rfl) fun _ _ ↦ rfl

theorem flat_number : Flat number :=
  .of_refused (fun _ ↦ rfl) (fun _ ↦ rfl) fun _ _ ↦ rfl

theorem flat_roleShape (role : Role) : Flat (Message.roleShape role) :=
  .of_refused (fun _ ↦ rfl) (fun _ ↦ rfl) fun _ _ ↦ rfl

theorem Flat.andThen {shape : Shape α} (h : shape.Flat) (next : α → Checked β) :
    Flat fun value ↦ (shape value).andThen next := by
  obtain ⟨problem, hrefused⟩ := h
  exact ⟨problem, fun value hleaf ↦ by
    show (shape value).andThen next = _
    rw [hrefused value hleaf]
    rfl⟩

/-- Such a shape reads a cell without what it holds as it reads the value that the cell frames. -/
theorem Flat.outline {shape : Shape α} (h : shape.Flat) {cell : Cell} {value : Value}
    (hframes : cell.Frames value) : shape cell.outline = shape value := by
  obtain ⟨problem, hrefused⟩ := h
  cases cell with
  | leaf stored => rw [← hframes.1, Cell.outline]
  | list held =>
    cases value with
    | list items => rw [hrefused _ id, hrefused _ id]
    | _ => cases hframes
  | dict held =>
    cases value with
    | dict items => rw [hrefused _ id, hrefused _ id]
    | _ => cases hframes
  | record kind held =>
    cases value with
    | record kind fields => rw [hrefused _ id, hrefused _ id]
    | _ => cases hframes

end Shape

namespace Heap

variable {heap : Heap}

/-! ### Actions that leave what is stored -/

/-- How an action ends that succeeds and leaves all cells as they are. -/
def Ends (heap : Heap) (action : HeapAction α) (post : α → Heap → Prop) : Prop :=
  ∃ result later, action heap = .ok result later ∧ heap.Extends later ∧ post result later

theorem ends_pure {result : α} {post : α → Heap → Prop} (h : post result heap) :
    heap.Ends (pure result) post :=
  ⟨result, heap, rfl, .refl heap, h⟩

theorem Ends.imp {action : HeapAction α} {post weaker : α → Heap → Prop} (h : heap.Ends action post)
    (himp : ∀ result later, post result later → weaker result later) :
    heap.Ends action weaker := by
  obtain ⟨result, later, hrun, hextends, hpost⟩ := h
  exact ⟨result, later, hrun, hextends, himp result later hpost⟩

theorem Ends.bind {action : HeapAction α} {next : α → HeapAction β} {post : α → Heap → Prop}
    {final : β → Heap → Prop} (h : heap.Ends action post)
    (hnext : ∀ result later, heap.Extends later → post result later →
      later.Ends (next result) final) :
    heap.Ends (action >>= next) final := by
  obtain ⟨result, later, hrun, hextends, hpost⟩ := h
  obtain ⟨result', later', hrun', hextends', hfinal⟩ := hnext result later hextends hpost
  refine ⟨result', later', ?_, hextends.trans hextends', hfinal⟩
  show EStateM.bind action next heap = _
  rw [EStateM.bind, hrun]
  exact hrun'

/-- What is stored under a handle goes into what follows. -/
theorem ends_fetch_bind {handle : Handle} {cell : Cell} {next : Cell → HeapAction β}
    {final : β → Heap → Prop} (hstored : heap.Stores handle cell)
    (h : heap.Ends (next cell) final) : heap.Ends (fetch handle >>= next) final := by
  obtain ⟨result, later, hrun, hextends, hfinal⟩ := h
  refine ⟨result, later, ?_, hextends, hfinal⟩
  show next (heap.look handle) heap = _
  rw [hstored.look_eq]
  exact hrun

/-- Assumes: a cell that frames a value, around handles of its parts. It is stored under a handle
that holds the value. -/
theorem ends_store {value : Value} {cell : Cell} (hframes : cell.Frames value)
    (hparts : List.Forall₂ heap.Holds value.parts cell.parts) :
    heap.Ends (store cell) fun handle later ↦ later.Holds value handle := by
  refine ⟨heap.next, heap.push cell, rfl, extends_push heap cell,
    holds_iff.mpr ⟨cell, stores_push heap cell, hframes, ?_⟩⟩
  exact hparts.imp fun _ _ hheld ↦ hheld.mono (extends_push heap cell)

theorem ends_leaf {value : Value} (hleaf : value.IsLeaf) :
    heap.Ends (leaf value) fun handle later ↦ later.Holds value handle := by
  refine ends_store ⟨rfl, hleaf⟩ ?_
  cases value <;> first | exact .nil | exact hleaf.elim

theorem ends_store_list {items : List Value} {held : List Handle}
    (h : List.Forall₂ heap.Holds items held) :
    heap.Ends (store (.list held)) fun handle later ↦ later.Holds (.list items) handle :=
  ends_store h.length_eq.symm h

theorem ends_store_dict {entries : Context} {held : Dict Handle}
    (h : heap.HoldsEntries entries held) :
    heap.Ends (store (.dict held)) fun handle later ↦ later.Holds (.dict entries) handle :=
  have ⟨hkeys, hparts⟩ := holdsEntries_iff.mp h
  ends_store hkeys hparts

theorem ends_store_record {kind : RecordKind} {fields : Context} {held : Dict Handle}
    (h : heap.HoldsEntries fields held) :
    heap.Ends (store (.record kind held)) fun handle later ↦
      later.Holds (.record kind fields) handle :=
  have ⟨hkeys, hparts⟩ := holdsEntries_iff.mp h
  ends_store ⟨rfl, hkeys⟩ hparts

/-- Assumes: a matching reading of a value. What is done with a handle that was accepted ends with a
handle that holds what is made of the value. -/
theorem ends_whenAccepted {R : α → β → Prop} {a : Checked α} {b : Checked β} (h : a.Matches R b)
    {write : α → Value} {use : β → HeapAction Handle}
    (huse : ∀ a b, R a b → heap.Ends (use b) fun handle later ↦ later.Holds (write a) handle) :
    heap.Ends (b.whenAccepted use) fun read later ↦ (a.map write).Matches later.Holds read := by
  cases h with
  | accepted h =>
    exact (huse _ _ h).bind fun _ _ _ hheld ↦ ends_pure (.accepted hheld)
  | refused issues => exact ends_pure (.refused issues)

/-! ### Planting -/

mutual

/-- What is planted is held, with all its parts. -/
theorem plantNew_ends (heap : Heap) : ∀ value : Value,
    heap.Ends (plantNew value) fun handle later ↦ later.Holds value handle
  | .list items =>
    (plantItems_ends heap items).bind fun _ _ _ hheld ↦ ends_store_list hheld
  | .dict entries =>
    (plantEntries_ends heap entries).bind fun _ _ _ hheld ↦ ends_store_dict hheld
  | .record _ fields =>
    (plantEntries_ends heap fields).bind fun _ _ _ hheld ↦ ends_store_record hheld
  | .null | .bool _ | .int _ | .float _ | .nan _ | .text _ | .predicate _ _ => ends_leaf trivial

theorem plantItems_ends (heap : Heap) : ∀ items : List Value,
    heap.Ends (plantItems (fun _ ↦ none) items) fun held later ↦
      List.Forall₂ later.Holds items held
  | [] => ends_pure .nil
  | value :: rest =>
    (plantNew_ends heap value).bind fun _ later _ hheld ↦
      (plantItems_ends later rest).bind fun _ _ hextends hrest ↦
        ends_pure (.cons (hheld.mono hextends) hrest)

theorem plantEntries_ends (heap : Heap) : ∀ entries : Context,
    heap.Ends (plantEntries (fun _ ↦ none) entries) fun held later ↦
      later.HoldsEntries entries held
  | [] => ends_pure .nil
  | (_, value) :: rest =>
    (plantNew_ends heap value).bind fun _ later _ hheld ↦
      (plantEntries_ends later rest).bind fun _ _ hextends hrest ↦
        ends_pure (.cons ⟨rfl, hheld.mono hextends⟩ hrest)

end

/-! ### Lists and records -/

/-- How the reading of a handle is to end: as the reading of a value does, with a handle that holds
what was read. -/
def EndsAs (heap : Heap) (action : HeapAction (Checked Handle)) (want : Checked Value) : Prop :=
  heap.Ends action fun read later ↦ want.Matches later.Holds read

theorem EndsAs.under {action : HeapAction (Checked Handle)} {want : Checked Value}
    (h : heap.EndsAs action want) (step : PathStep) :
    heap.EndsAs (do return (← action).under step) (want.under step) :=
  h.bind fun _ _ _ hread ↦ ends_pure (hread.under step)

/-- Assumes: parts each of which is read as a value is, whatever has been stored since. All of them
are read as the list of the values. -/
theorem gather_ends {readPart : α → HeapAction (Checked Handle)} {parts : List α}
    {wants : List (Checked Value)}
    (h : ∀ later, heap.Extends later →
      List.Forall₂ (fun part want ↦ later.EndsAs (readPart part) want) parts wants) :
    heap.Ends (gather readPart parts) fun read later ↦
      (Checked.collect wants).Matches (List.Forall₂ later.Holds) read := by
  induction parts generalizing heap wants with
  | nil =>
    cases h heap (.refl heap)
    exact ends_pure (.accepted .nil)
  | cons part rest ih =>
    cases h heap (.refl heap) with
    | cons hpart _ =>
      refine hpart.bind fun first middle hmiddle hfirst ↦ ?_
      have hrest := ih fun later hlater ↦
        (List.forall₂_cons.mp (h later (hmiddle.trans hlater))).2
      refine hrest.bind fun others final hfinal hothers ↦ ?_
      exact ends_pure ((hfirst.imp fun _ _ hheld ↦ hheld.mono hfinal).cons hothers)

/-- A list is read as its items are. -/
theorem readList_ends {readItem : Handle → HeapAction (Checked Handle)} {shape : Shape α}
    {write : α → Value} {items : List Value} {held : List Handle}
    (hheld : List.Forall₂ heap.Holds items held)
    (hitem : ∀ (later : Heap) item handle, item ∈ items → later.Holds item handle →
      later.EndsAs (readItem handle) ((shape item).map write)) :
    heap.EndsAs (readList readItem held)
      ((Shape.items shape 0 items).map fun values ↦ .list (values.map write)) := by
  have hmem : List.Forall₂ (fun item handle ↦ item ∈ items ∧ heap.Holds item handle) items held :=
    (List.forall₂_and_left _ _).mpr ⟨fun _ h ↦ h, hheld⟩
  have hmap : (Shape.items shape 0 items).map (fun values ↦ Value.list (values.map write)) =
      ((Shape.items shape 0 items).map (List.map write)).map Value.list := by
    cases Shape.items shape 0 items <;> rfl
  rw [hmap, Shape.items_eq_collect]
  refine (gather_ends fun later hextends ↦ ?_).bind fun _ _ _ hread ↦
    ends_whenAccepted hread fun _ _ hheld ↦ ends_store_list hheld
  refine List.forall₂_map_right_iff.mpr ((forall₂_zipIdx hmem.flip 0).imp ?_)
  rintro ⟨handle, position⟩ ⟨item, _⟩ ⟨⟨hmem, hheld⟩, rfl⟩
  exact (hitem later item handle hmem (hheld.mono hextends)).under _

theorem holdsEntries_zip (names : List String) {values : List Value} {handles : List Handle}
    (h : List.Forall₂ heap.Holds values handles) :
    heap.HoldsEntries (names.zip values) (names.zip handles) := by
  induction h generalizing names with
  | nil => cases names <;> exact .nil
  | cons hheld _ ih =>
    cases names with
    | nil => exact .nil
    | cons name names => exact .cons ⟨rfl, hheld⟩ (ih names)

/-- A record is read as its fields are. -/
theorem readRecord_ends {readForm : Form → Handle → HeapAction (Checked Handle)} {fresh : String}
    {kind : RecordKind} {fields : Context} {held : Dict Handle} {wants : List (Checked Value)}
    {want : Checked Value}
    (hwant : want = (Checked.collect wants).map fun values ↦
      .record kind (((kind.layout fresh).map Field.name).zip values))
    (hheld : heap.HoldsEntries fields held)
    (hfields : ∀ later : Heap, later.HoldsEntries fields held → List.Forall₂
      (fun field want ↦ later.EndsAs (readField readForm held field) want) (kind.layout fresh)
        wants) :
    heap.EndsAs (readRecord readForm fresh kind held) want := by
  have hgathered := gather_ends fun later hextends ↦ hfields later (hheld.mono hextends)
  rw [hwant]
  exact hgathered.bind fun _ _ _ hread ↦
    ends_whenAccepted hread fun _ _ hheld ↦ ends_store_record (holdsEntries_zip _ hheld)

/-! ### Fields -/

section Fields

variable {readForm : Form → Handle → HeapAction (Checked Handle)} {form : Form} {shape : Shape α}
  {fields : Context} {held : Dict Handle} {name : String}

/-- What is given for a field is read in the form of the field. -/
theorem readField_given {write : α → Value} {default : Option Value} {value : Value}
    {handle : Handle}
    (hhandle : Dict.get? held name = some handle)
    (hform : heap.EndsAs (readForm form handle) ((shape value).map write)) :
    heap.EndsAs (readField readForm held ⟨name, form, default⟩)
      (((shape value).under (.name name)).map write) := by
  unfold readField
  rw [hhandle, Checked.map_under]
  exact hform.under _

/-- A field that has to be given. -/
theorem readField_required (write : α → Value) (hheld : heap.HoldsEntries fields held)
    (hform : ∀ value handle, Dict.get? fields name = some value → heap.Holds value handle →
      heap.EndsAs (readForm form handle) ((shape value).map write)) :
    heap.EndsAs (readField readForm held ⟨name, form, none⟩)
      ((required fields name shape).map write) := by
  unfold required
  obtain ⟨hvalue, hhandle⟩ | ⟨value, handle, hvalue, hhandle, hholds⟩ := hheld.get?_cases name
  · rw [hvalue]
    unfold readField
    rw [hhandle]
    exact ends_pure (.refused _)
  · rw [hvalue]
    exact readField_given hhandle (hform value handle hvalue hholds)

/-- A field that is planted by default. -/
theorem readField_withDefault (write : α → Value) (default : α)
    (hheld : heap.HoldsEntries fields held)
    (hform : ∀ value handle, Dict.get? fields name = some value → heap.Holds value handle →
      heap.EndsAs (readForm form handle) ((shape value).map write)) :
    heap.EndsAs (readField readForm held ⟨name, form, some (write default)⟩)
      ((withDefault fields name shape default).map write) := by
  unfold withDefault
  obtain ⟨hvalue, hhandle⟩ | ⟨value, handle, hvalue, hhandle, hholds⟩ := hheld.get?_cases name
  · rw [hvalue]
    unfold readField
    rw [hhandle]
    exact (plantNew_ends heap (write default)).bind fun _ _ _ hplanted ↦
      ends_pure (.accepted hplanted)
  · rw [hvalue]
    exact readField_given hhandle (hform value handle hvalue hholds)

end Fields

/-! ### Forms of fields -/

variable {fresh : String} {depth : Nat} {value : Value} {handle : Handle}

theorem scalar_ends {shape : Shape α} (hflat : shape.Flat) {write : α → Value}
    (hleaf : ∀ result, (write result).IsLeaf) (hheld : heap.Holds value handle) :
    heap.EndsAs (Form.readWithin fresh (depth + 1) (.scalar fun value ↦ (shape value).map write)
      handle) ((shape value).map write) := by
  obtain ⟨cell, hstored, hframes, -⟩ := holds_iff.mp hheld
  refine ends_fetch_bind hstored ?_
  show heap.EndsAs (((shape cell.outline).map write).whenAccepted leaf) _
  rw [hflat.outline hframes]
  cases shape value with
  | accepted result =>
    exact (ends_leaf (hleaf result)).bind fun _ _ _ hresult ↦ ends_pure (.accepted hresult)
  | refused issues => exact ends_pure (.refused issues)

theorem anything_ends (hheld : heap.Holds value handle) :
    heap.EndsAs (Form.readWithin fresh (depth + 1) .anything handle)
      ((Shape.anything value).map id) := by
  obtain ⟨cell, hstored, -, -⟩ := holds_iff.mp hheld
  exact ends_fetch_bind hstored (ends_pure (.accepted hheld))

theorem dict_ends (hheld : heap.Holds value handle) :
    heap.EndsAs (Form.readWithin fresh (depth + 1) .dict handle)
      ((Shape.dict value).map .dict) := by
  cases value with
  | dict entries =>
    obtain ⟨held, hstored, hentries⟩ := holds_dict_iff.mp hheld
    exact ends_fetch_bind hstored
      ((ends_store_dict hentries).bind fun _ _ _ hresult ↦ ends_pure (.accepted hresult))
  | list items =>
    obtain ⟨held, hstored, -⟩ := holds_list_iff.mp hheld
    exact ends_fetch_bind hstored (ends_pure (.refused _))
  | record kind fields =>
    obtain ⟨held, hstored, -⟩ := holds_record_iff.mp hheld
    exact ends_fetch_bind hstored (ends_pure (.refused _))
  | _ => exact ends_fetch_bind (hheld.stores_leaf trivial) (ends_pure (.refused _))

/-- Assumes: a value that is not a record. -/
theorem list_ends {form : Form} {shape : Shape α} {write : α → Value}
    (hrecord : ∀ kind fields, value ≠ .record kind fields) (hheld : heap.Holds value handle)
    (hitem : ∀ (later : Heap) items item handle, value = .list items → item ∈ items →
      later.Holds item handle →
        later.EndsAs (Form.readWithin fresh depth form handle) ((shape item).map write)) :
    heap.EndsAs (Form.readWithin fresh (depth + 1) (.list form) handle)
      ((Shape.list shape value).map fun values ↦ .list (values.map write)) := by
  cases value with
  | list items =>
    obtain ⟨held, hstored, hitems⟩ := holds_list_iff.mp hheld
    exact ends_fetch_bind hstored (readList_ends hitems fun later item handle hmem ↦
      hitem later items item handle rfl hmem)
  | dict entries =>
    obtain ⟨held, hstored, -⟩ := holds_dict_iff.mp hheld
    exact ends_fetch_bind hstored (ends_pure (.refused _))
  | record kind fields => exact absurd rfl (hrecord kind fields)
  | _ => exact ends_fetch_bind (hheld.stores_leaf trivial) (ends_pure (.refused _))

end Heap

end Grounding
