import Grounding.Field

/-!
# Reading again what was read

What a shape has accepted can be written as a value and read again. If every shape accepts what it
has accepted before and leaves it as it is (`Shape.Rereads`), a record may be rebuilt from its own
fields. The shapes of texts, dictionaries and numbers do so, a further condition on what was
accepted keeps it so (`Shape.Rereads.andThen`), and so does a list of values of such a shape.

`FieldReading` says what is needed of the reading of one field: it looks at what stands under one
name, it reads its own value again, and its faults are under that name. A field that has to be given
and one with a default are readings of this kind (`fieldReading_required`,
`fieldReading_withDefault`); the default has to pass its own check. Updates that are merged into two
dictionaries where a field reads the same leave it so (`FieldReading.merge_congr`), because an
update either sets the field in both or in none of them.

`RecordReading` is the same for a record, which is read from all its fields and written as all its
fields. `ChangesCompose` says what follows for changes of records (`RecordReading.changesCompose`):
of two changes one after the other, the second one finds the values that the first one has read, and
a change with the updates of both finds what they were read from, and it makes no difference.
-/

set_option autoImplicit false
set_option relaxedAutoImplicit false

namespace Grounding

variable {α β ρ : Type}

namespace Checked

theorem accepted_of_andThen {f : α → Checked β} {a : Checked α} {b : β}
    (h : a.andThen f = .accepted b) : ∃ x, a = .accepted x ∧ f x = .accepted b := by
  cases a with
  | accepted x => exact ⟨x, rfl, h⟩
  | refused _ => cases h

theorem accepted_of_under {step : PathStep} {a : Checked α} {b : α}
    (h : a.under step = .accepted b) : a = .accepted b := by
  cases a with
  | accepted _ => exact h
  | refused _ => cases h

/-- A reading that was put under a step has faults under it only. -/
theorem path_of_under {step : PathStep} {a : Checked α} {issues : List Issue}
    (h : a.under step = .refused issues) : ∀ issue ∈ issues, issue.path.head? = some step := by
  cases a with
  | accepted _ => cases h
  | refused inner =>
    cases h
    intro issue hmem
    obtain ⟨original, -, rfl⟩ := List.mem_map.mp hmem
    rfl

end Checked

/-! ### Shapes -/

namespace Shape

/-- A shape that accepts what it has accepted, when it is written as a value, and leaves it as it
is. -/
def Rereads (shape : Shape α) (write : α → Value) : Prop :=
  ∀ given value, shape given = .accepted value → shape (write value) = .accepted value

theorem rereads_text : Rereads text .text :=
  fun _ _ _ ↦ rfl

theorem rereads_dict : Rereads dict .dict :=
  fun _ _ _ ↦ rfl

theorem rereads_anything : Rereads anything id :=
  fun _ _ _ ↦ rfl

theorem rereads_integer : Rereads integer .int :=
  fun _ _ _ ↦ rfl

theorem rereads_number : Rereads number .float :=
  fun _ _ _ ↦ rfl

/-- Assumes: a further step that leaves the written value as it is. The shape with this step reads
again as the one without it. -/
theorem Rereads.andThen {shape : Shape α} {write : α → Value} (h : shape.Rereads write)
    {next : α → Checked β} {writeNext : β → Value}
    (hnext : ∀ value final, next value = .accepted final → writeNext final = write value) :
    Rereads (fun given ↦ (shape given).andThen next) writeNext := by
  intro given final haccepted
  obtain ⟨value, hvalue, hfinal⟩ := Checked.accepted_of_andThen haccepted
  show (shape (writeNext final)).andThen next = .accepted final
  rw [hnext value final hfinal, h given value hvalue]
  exact hfinal

theorem Rereads.items {shape : Shape α} {write : α → Value} (h : shape.Rereads write)
    {given : List Value} {values : List α} {position : Nat}
    (haccepted : items shape position given = .accepted values) :
    Shape.items shape position (values.map write) = .accepted values := by
  induction given generalizing values position with
  | nil =>
    cases haccepted
    rfl
  | cons first rest ih =>
    obtain ⟨value, others, hvalue, hothers, rfl⟩ := Checked.accepted_of_map₂ haccepted
    rw [List.map_cons, Shape.items, h first value (Checked.accepted_of_under hvalue), ih hothers]
    rfl

/-- Lists are read again item by item. -/
theorem Rereads.list {shape : Shape α} {write : α → Value} (h : shape.Rereads write) :
    Rereads (Shape.list shape) fun values ↦ .list (values.map write) := by
  intro given values haccepted
  cases given with
  | list items => exact h.items haccepted
  | _ => cases haccepted

end Shape

/-! ### Fields -/

/-- What the reading of a field has to do with the name and the written value of the field. -/
structure FieldReading (name : String) (write : α → Value) (read : Context → Checked α) :
    Prop where
  /-- It looks at what stands under the name and nowhere else. -/
  congr : ∀ {fields others : Context}, Dict.get? fields name = Dict.get? others name →
    read fields = read others
  /-- What it has read, it reads again. -/
  rereads : ∀ {fields others : Context} {value : α}, read fields = .accepted value →
    Dict.get? others name = some (write value) → read others = .accepted value
  /-- Its faults are under the name. -/
  blames : ∀ {fields : Context} {issues : List Issue}, read fields = .refused issues →
    ∀ issue ∈ issues, issue.path.head? = some (.name name)

theorem withDefault_of_get? {shape : Shape α} {fields : Context} {name : String} {given : Value}
    {value default : α} (hgiven : Dict.get? fields name = some given)
    (h : shape given = .accepted value) :
    withDefault fields name shape default = .accepted value := by
  unfold withDefault
  rw [hgiven]
  show (shape given).under _ = _
  rw [h]
  rfl

/-- Assumes: what a field is read as if nothing is given for it, which is read again as it is, or a
fault under the name of the field. -/
theorem fieldReading_of_absent {shape : Shape α} {write : α → Value} (h : shape.Rereads write)
    {name : String} {read : Context → Checked α} (absent : Checked α)
    (hread : ∀ fields, read fields =
      (Dict.get? fields name).elim absent fun given ↦ (shape given).under (.name name))
    (hrereads : ∀ value, absent = .accepted value → shape (write value) = .accepted value)
    (hblames : ∀ issues, absent = .refused issues →
      ∀ issue ∈ issues, issue.path.head? = some (.name name)) :
    FieldReading name write read where
  congr heq := by rw [hread, hread, heq]
  rereads {fields others value} haccepted hwritten := by
    have hshape : shape (write value) = .accepted value := by
      rw [hread] at haccepted
      cases hgiven : Dict.get? fields name with
      | none =>
        rw [hgiven] at haccepted
        exact hrereads value haccepted
      | some given =>
        rw [hgiven] at haccepted
        exact h given value (Checked.accepted_of_under haccepted)
    rw [hread, hwritten]
    show (shape (write value)).under _ = _
    rw [hshape]
    rfl
  blames {fields issues} hrefused := by
    rw [hread] at hrefused
    cases hgiven : Dict.get? fields name with
    | none =>
      rw [hgiven] at hrefused
      exact hblames issues hrefused
    | some given =>
      rw [hgiven] at hrefused
      exact Checked.path_of_under hrefused

theorem fieldReading_required {shape : Shape α} {write : α → Value} (h : shape.Rereads write)
    (name : String) : FieldReading name write fun fields ↦ required fields name shape := by
  refine fieldReading_of_absent h (.refused [⟨[.name name], .missing⟩]) (fun fields ↦ ?_)
    (fun _ haccepted ↦ ?_) fun _ hrefused ↦ ?_
  · unfold required
    cases Dict.get? fields name <;> rfl
  · cases haccepted
  · cases hrefused
    simp

/-- Assumes: a default that passes the check of its own field. -/
theorem fieldReading_withDefault {shape : Shape α} {write : α → Value} (h : shape.Rereads write)
    (name : String) {default : α} (hdefault : shape (write default) = .accepted default) :
    FieldReading name write fun fields ↦ withDefault fields name shape default := by
  refine fieldReading_of_absent h (.accepted default) (fun fields ↦ ?_) (fun _ haccepted ↦ ?_)
    fun _ hrefused ↦ ?_
  · unfold withDefault
    cases Dict.get? fields name <;> rfl
  · cases haccepted
    exact hdefault
  · cases hrefused

/-- Faults that are found under the names of updates only. -/
def BlamesOnly (updates : Context) (checked : Checked α) : Prop :=
  ∀ issues, checked = .refused issues → ∀ issue ∈ issues,
    ∃ name ∈ Dict.keys updates, issue.path.head? = some (.name name)

theorem blamesOnly_accepted (updates : Context) (value : α) :
    BlamesOnly updates (.accepted value) :=
  fun _ h ↦ by cases h

theorem BlamesOnly.ap {updates : Context} {f : Checked (α → β)} {a : Checked α}
    (hf : BlamesOnly updates f) (ha : BlamesOnly updates a) : BlamesOnly updates (f.ap a) := by
  intro issues h
  cases f with
  | accepted _ =>
    cases a with
    | accepted _ => cases h
    | refused others =>
      cases h
      exact ha issues rfl
  | refused faults =>
    cases a with
    | accepted _ =>
      cases h
      exact hf issues rfl
    | refused others =>
      cases h
      intro issue hmem
      exact (List.mem_append.mp hmem).elim (hf faults rfl issue) (ha others rfl issue)

namespace FieldReading

variable {name : String} {write : α → Value} {read : Context → Checked α}

theorem insert_congr (h : FieldReading name write read) {fields others : Context}
    (heq : read fields = read others) (key : String) (value : Value) :
    read (Dict.insert fields key value) = read (Dict.insert others key value) := by
  by_cases hkey : key = name
  · exact h.congr (by rw [Dict.get?_insert, Dict.get?_insert, if_pos hkey, if_pos hkey])
  · have hkeeps : ∀ entries : Context, read (Dict.insert entries key value) = read entries :=
      fun entries ↦ h.congr (by rw [Dict.get?_insert, if_neg hkey])
    rw [hkeeps, hkeeps, heq]

/-- Where a field reads the same, it does so after the same updates. -/
theorem merge_congr (h : FieldReading name write read) {fields others : Context}
    (heq : read fields = read others) (updates : Context) :
    read (Dict.merge fields updates) = read (Dict.merge others updates) := by
  induction updates generalizing fields others with
  | nil => exact heq
  | cons update rest ih => exact ih (h.insert_congr heq update.1 update.2)

/-- Assumes: a field that was read, and its value written into another dictionary. There it is read
in the same way, whatever the updates are. -/
theorem merge_written (h : FieldReading name write read) {fields others : Context} {value : α}
    (hread : read fields = .accepted value)
    (hwritten : Dict.get? others name = some (write value)) (updates : Context) :
    read (Dict.merge others updates) = read (Dict.merge fields updates) :=
  h.merge_congr ((h.rereads hread hwritten).trans hread.symm) updates

/-- A field that is not updated is read as before. -/
theorem merge_of_notMem (h : FieldReading name write read) (fields : Context) {updates : Context}
    (hname : name ∉ Dict.keys updates) : read (Dict.merge fields updates) = read fields :=
  h.congr (Dict.get?_merge_of_notMem fields hname)

/-- A field that is not updated keeps its value. -/
theorem keeps (h : FieldReading name write read) {fields updates : Context} {value new : α}
    (hread : read fields = .accepted value)
    (hnew : read (Dict.merge fields updates) = .accepted new)
    (hname : name ∉ Dict.keys updates) : write new = write value := by
  rw [h.merge_of_notMem fields hname, hread] at hnew
  cases hnew
  rfl

/-- A field that was read has no faults but those of its update. -/
theorem blamesOnly (h : FieldReading name write read) {fields : Context} {value : α}
    (hread : read fields = .accepted value) (updates : Context) :
    BlamesOnly updates (read (Dict.merge fields updates)) := by
  intro issues hrefused issue hmem
  by_cases hname : name ∈ Dict.keys updates
  · exact ⟨name, hname, h.blames hrefused issue hmem⟩
  · rw [h.merge_of_notMem fields hname, hread] at hrefused
    cases hrefused

end FieldReading

/-! ### Records -/

/-- What the reading of a record has to do with the fields that the record is written as. -/
structure RecordReading (read : Context → Checked ρ) (write : ρ → Context) : Prop where
  /-- The fields of a record are as good as those that it was read from. -/
  rereads : ∀ {fields : Context} {record : ρ}, read fields = .accepted record →
    ∀ updates, read (Dict.merge (write record) updates) = read (Dict.merge fields updates)
  /-- A record that can be read from its own fields has no faults but those of updates. -/
  blamesOnly : ∀ {record : ρ}, read (write record) = .accepted record →
    ∀ updates, BlamesOnly updates (read (Dict.merge (write record) updates))
  /-- The fields that are not updated stay as they are. -/
  keeps : ∀ {record changed : ρ} {updates : Context}, read (write record) = .accepted record →
    read (Dict.merge (write record) updates) = .accepted changed →
      ∀ name ∉ Dict.keys updates, Dict.get? (write changed) name = Dict.get? (write record) name

/-- How the changes of records of a type add up. -/
structure ChangesCompose (Valid : ρ → Prop) (toFields : ρ → Context)
    (mutate : ρ → Context → Checked ρ) : Prop where
  /-- Without updates nothing is refused and nothing is changed. -/
  identity : ∀ record, Valid record → mutate record [] = .accepted record
  /-- What a change gives is valid. -/
  valid : ∀ record updates changed, mutate record updates = .accepted changed → Valid changed
  /-- The fields that are not updated are read again, and stay as they are. -/
  kept : ∀ record updates changed, Valid record → mutate record updates = .accepted changed →
    ∀ name ∉ Dict.keys updates,
      Dict.get? (toFields changed) name = Dict.get? (toFields record) name
  /-- The fields that are not updated are read again, and are never what a change is refused for. -/
  blamed : ∀ record updates issues, Valid record → mutate record updates = .refused issues →
    ∀ issue ∈ issues, ∃ name ∈ Dict.keys updates, issue.path.head? = some (.name name)
  /-- Two changes one after the other end as the change with the updates of both does, with the same
  record or with the same faults, where an update of the second goes before one of the first. -/
  composed : ∀ record first second changed, (Dict.keys first).Nodup →
    mutate record first = .accepted changed →
      mutate changed second = mutate record (Dict.merge first second)

/-- Assumes: the valid records are those that can be read from their own fields. -/
theorem RecordReading.changesCompose {read : Context → Checked ρ} {write : ρ → Context}
    (h : RecordReading read write) {Valid : ρ → Prop}
    (hvalid : ∀ record, Valid record ↔ read (write record) = .accepted record) :
    ChangesCompose Valid write fun record updates ↦ read (Dict.merge (write record) updates) where
  identity record hrecord := (hvalid record).mp hrecord
  valid record updates changed hchanged :=
    (hvalid changed).mpr ((h.rereads hchanged []).trans hchanged)
  kept record updates changed hrecord hchanged :=
    h.keeps ((hvalid record).mp hrecord) hchanged
  blamed record updates issues hrecord hrefused :=
    h.blamesOnly ((hvalid record).mp hrecord) updates issues hrefused
  composed record first second changed hkeys hchanged := by
    show read (Dict.merge (write changed) second) =
      read (Dict.merge (write record) (Dict.merge first second))
    rw [h.rereads hchanged second, Dict.merge_merge (write record) hkeys]

end Grounding
