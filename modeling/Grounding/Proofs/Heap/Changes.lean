import Grounding.Heap.Records
import Grounding.Proofs.Heap.Reading
import Grounding.Proofs.Rereading
import Grounding.Query

/-!
# Changes of stored records

A query or a search request that is stored in a heap is changed as one by itself is. The fields of a
record are read from the heap as they are read from values: `readMessage_ends`, `readQuery_ends`,
`readSearchRequest_ends`. So is what a change reads again, which is held by the handles of the old
fields and of the updates together.

A message is held as it is if it is given as a record, so the record has to be one that a message is
written as (`Value.AsMessage`), and a history is no record itself (`Value.AsMessages`). Values
without records are so, and so is the history of every query.

Main statements: `changesStored_query`, `changesStored_searchRequest`. What was stored before is
left as it is by such a change, the record that is changed among it.
-/

set_option autoImplicit false
set_option relaxedAutoImplicit false

namespace Grounding

variable {ρ : Type}

/-- A value that is not a record, or the one that a message is written as. -/
def Value.AsMessage : Value → Prop
  | .record kind fields => ∃ message : Message, message.toValue = .record kind fields
  | _ => True

/-- A value that is not a record and holds no records other than messages. -/
def Value.AsMessages : Value → Prop
  | .list items => ∀ item ∈ items, item.AsMessage
  | .record _ _ => False
  | _ => True

namespace Heap

variable {heap : Heap} {fresh : String} {depth : Nat} {value : Value} {handle : Handle}

/-! ### Messages -/

/-- A message of a role keeps the role, whatever is given for it. -/
theorem roleField_eq_accepted {role other : Role} {fields : Context}
    (h : withDefault fields "role" (Message.roleShape role) role = .accepted other) :
    other = role := by
  unfold withDefault at h
  cases hgiven : Dict.get? fields "role" with
  | none =>
    rw [hgiven] at h
    cases h
    rfl
  | some value =>
    rw [hgiven] at h
    have hshape := Checked.accepted_of_under h
    cases value with
    | text tag =>
      change (if tag = role.tag then Checked.accepted role else .fault .wrongRole) = _ at hshape
      split_ifs at hshape
      · cases hshape
        rfl
      · cases hshape
    | _ => cases hshape

theorem readMessage_ends {role : Role} {fields : Context} {held : Dict Handle}
    (hheld : heap.HoldsEntries fields held) :
    heap.EndsAs (readRecord (Form.readWithin fresh (depth + 1)) fresh role.recordKind held)
      ((Message.ofFields role fields).map Message.toValue) := by
  have hlayout : role.recordKind.layout fresh = role.layout := by cases role <;> rfl
  refine readRecord_ends (Checked.map_ap₃ (fun role : Role ↦ .text role.tag) .text .dict _ ?_) hheld
    fun later hheld ↦ hlayout ▸ .cons ?_ (.cons ?_ (.cons ?_ .nil))
  · intro other text metadata hrole
    rw [roleField_eq_accepted hrole, hlayout]
    rfl
  · exact readField_withDefault (fun role : Role ↦ .text role.tag) role hheld
      fun _ _ _ hvalue ↦ scalar_ends (Shape.flat_roleShape role) (fun _ ↦ trivial) hvalue
  · exact readField_withDefault .text "" hheld
      fun _ _ _ hvalue ↦ scalar_ends Shape.flat_text (fun _ ↦ trivial) hvalue
  · exact readField_withDefault .dict [] hheld fun _ _ _ hvalue ↦ dict_ends hvalue

theorem message_ends (hmessage : value.AsMessage) (hheld : heap.Holds value handle) :
    heap.EndsAs (Form.readWithin fresh (depth + 2) .message handle)
      ((Message.read value).map Message.toValue) := by
  cases value with
  | record kind fields =>
    obtain ⟨message, hwritten⟩ := hmessage
    obtain ⟨held, hstored, -⟩ := holds_record_iff.mp hheld
    obtain ⟨rfl, -⟩ := Value.record.inj hwritten
    rw [← hwritten, Message.read_toValue]
    refine ends_fetch_bind hstored ?_
    show heap.EndsAs (pure (if (Role.ofKind? message.role.recordKind).isSome then _ else _)) _
    rw [Role.ofKind?_recordKind]
    exact ends_pure (.accepted (hwritten ▸ hheld))
  | dict entries =>
    obtain ⟨held, hstored, hentries⟩ := holds_dict_iff.mp hheld
    refine ends_fetch_bind hstored ?_
    unfold Message.read
    obtain ⟨hvalue, hhandle⟩ | ⟨tag, tagHandle, hvalue, hhandle, htag⟩ := hentries.get?_cases "role"
    · simp only [hvalue, hhandle]
      exact ends_pure (.refused _)
    · simp only [hvalue, hhandle]
      cases tag with
      | text content =>
        refine ends_fetch_bind (htag.stores_leaf trivial) ?_
        cases hrole : Role.ofTag? content with
        | none =>
          simp only [hrole]
          exact ends_pure (.refused _)
        | some role =>
          simp only [hrole, Checked.map_under]
          exact (readMessage_ends hentries).under _
      | list items =>
        obtain ⟨_, htagStored, -⟩ := holds_list_iff.mp htag
        exact ends_fetch_bind htagStored (ends_pure (.refused _))
      | dict others =>
        obtain ⟨_, htagStored, -⟩ := holds_dict_iff.mp htag
        exact ends_fetch_bind htagStored (ends_pure (.refused _))
      | record kind fields =>
        obtain ⟨_, htagStored, -⟩ := holds_record_iff.mp htag
        exact ends_fetch_bind htagStored (ends_pure (.refused _))
      | _ => exact ends_fetch_bind (htag.stores_leaf trivial) (ends_pure (.refused _))
  | list items =>
    obtain ⟨_, hstored, -⟩ := holds_list_iff.mp hheld
    exact ends_fetch_bind hstored (ends_pure (.refused _))
  | _ => exact ends_fetch_bind (hheld.stores_leaf trivial) (ends_pure (.refused _))

/-! ### Queries and search requests -/

/-- Assumes: a history without records other than messages. -/
theorem readQuery_ends {fields : Context} {held : Dict Handle}
    (hheld : heap.HoldsEntries fields held)
    (hhistory : ∀ value, Dict.get? fields "history" = some value → value.AsMessages) :
    heap.EndsAs (readRecord (Form.read fresh) fresh .query held)
      ((Query.ofFields fields).map Query.toValue) := by
  refine readRecord_ends (Checked.map_ap₃ .text (fun history ↦ .list (history.map Message.toValue))
    .dict _ fun _ _ _ _ ↦ rfl) hheld fun later hheld ↦ .cons ?_ (.cons ?_ (.cons ?_ .nil))
  · exact readField_required .text hheld
      fun _ _ _ hvalue ↦ scalar_ends Shape.flat_text (fun _ ↦ trivial) hvalue
  · refine readField_withDefault (fun history ↦ .list (history.map Message.toValue)) [] hheld
      fun value handle hgiven hvalue ↦ list_ends ?_ hvalue ?_
    · rintro kind fields rfl
      exact hhistory _ hgiven
    · rintro later items item handle rfl hmem hitem
      exact message_ends (hhistory _ hgiven item hmem) hitem
  · exact readField_withDefault .dict [] hheld fun _ _ _ hvalue ↦ dict_ends hvalue

theorem readSearchRequest_ends {fields : Context} {held : Dict Handle}
    (hheld : heap.HoldsEntries fields held) :
    heap.EndsAs (readRecord (Form.read fresh) fresh .searchRequest held)
      ((SearchRequest.ofFields fields).map SearchRequest.toValue) := by
  refine readRecord_ends (Checked.map_ap₄ .text (fun count : Nat ↦ .int count) .float id _
    fun _ _ _ _ ↦ rfl) hheld fun later hheld ↦ .cons ?_ (.cons ?_ (.cons ?_ (.cons ?_ .nil)))
  · exact readField_withDefault .text "" hheld
      fun _ _ _ hvalue ↦ scalar_ends Shape.flat_text (fun _ ↦ trivial) hvalue
  · exact readField_withDefault (fun count : Nat ↦ .int count) 4 hheld
      fun _ _ _ hvalue ↦ scalar_ends (Shape.flat_integer.andThen _) (fun _ ↦ trivial) hvalue
  · exact readField_withDefault .float 0.0 hheld
      fun _ _ _ hvalue ↦ scalar_ends (Shape.flat_number.andThen _) (fun _ ↦ trivial) hvalue
  · exact readField_withDefault id .null hheld fun _ _ _ hvalue ↦ anything_ends hvalue

/-! ### Changes -/

/-- Updates whose history, if there is one among them, holds no records other than messages. -/
def HistoryAsMessages (updates : Context) : Prop :=
  ∀ value, ("history", value) ∈ updates → value.AsMessages

/-- How a change of a stored record is to end: with a handle that holds what a reading has accepted,
or with the faults that it was refused for. All that was stored stays as it is. -/
def Gives (heap : Heap) (action : HeapAction Handle) (want : Checked Value) : Prop :=
  ∃ later, heap.Extends later ∧
    match want with
    | .accepted value => ∃ handle, action heap = .ok handle later ∧ later.Holds value handle
    | .refused issues => action heap = .error (.invalid issues) later

theorem Gives.ends {action : HeapAction Handle} {value : Value}
    (h : heap.Gives action (.accepted value)) :
    heap.Ends action fun handle later ↦ later.Holds value handle := by
  obtain ⟨later, hextends, handle, hrun, hheld⟩ := h
  exact ⟨handle, later, hrun, hextends, hheld⟩

theorem construct_gives {kind : RecordKind} {held : Dict Handle} {want : Checked Value}
    (h : heap.EndsAs (readRecord (Form.read fresh) fresh kind held) want) :
    heap.Gives (construct fresh kind held) want := by
  obtain ⟨read, later, hrun, hextends, hread⟩ := h
  have hconstruct : construct fresh kind held heap = accept read later := by
    show EStateM.bind _ accept heap = _
    rw [EStateM.bind, hrun]
  refine ⟨later, hextends, ?_⟩
  cases hread with
  | accepted hheld => exact ⟨_, hconstruct, hheld⟩
  | refused issues => exact hconstruct

theorem mutate_eq_construct {kind : RecordKind} {held changes : Dict Handle}
    (hstored : heap.Stores handle (.record kind held)) (hkind : kind ∈ [.query, .searchRequest])
    (hself : "self" ∉ Dict.keys changes) :
    mutate handle changes heap = construct "" kind (Dict.merge held changes) heap := by
  have hfields :
      fieldsOf [.query, .searchRequest] "mutate" handle heap = .ok (kind, held) heap := by
    unfold fieldsOf
    simp only [fetch, bind, EStateM.bind, hstored.look_eq]
    rw [if_pos (List.contains_iff_mem.mpr hkind)]
    rfl
  have htaken : refuseTaken ["self"] changes = .ok () := by
    have hfree : ¬ Dict.contains changes "self" = true :=
      fun h ↦ hself ((Dict.get?_isSome_iff _ _).mp h)
    simp [refuseTaken, hfree]
  unfold mutate
  simp only [bind, EStateM.bind, hfields, htaken, ofExcept]
  rfl

/-- The changes of stored records of a type are those of the records themselves. The updates have to
suit the type, and none of them may be for the name that the record itself goes by. -/
def ChangesStored (toValue : ρ → Value) (Suited : Context → Prop)
    (change : ρ → Context → Checked ρ) : Prop :=
  ∀ (heap : Heap) (record : ρ) (handle : Handle) (updates : Context) (changes : Dict Handle),
    heap.Holds (toValue record) handle → heap.HoldsEntries updates changes →
      "self" ∉ Dict.keys updates → Suited updates →
        heap.Gives (mutate handle changes) ((change record updates).map toValue)

theorem changesStored_query : ChangesStored Query.toValue HistoryAsMessages Query.mutate := by
  intro heap query handle updates changes hquery hupdates hself hhistory
  obtain ⟨held, hstored, hheld⟩ := holds_record_iff.mp hquery
  rw [Gives, mutate_eq_construct hstored (by decide) (hupdates.keys_eq ▸ hself)]
  refine construct_gives (readQuery_ends (hheld.merge hupdates) fun value hvalue ↦ ?_)
  rcases Dict.mem_merge (Dict.mem_of_get? hvalue) with hown | hnew
  · have hwritten : value = .list (query.history.map Message.toValue) := by
      simpa [Query.toFields] using hown
    rw [hwritten]
    intro item hmem
    obtain ⟨message, -, rfl⟩ := List.mem_map.mp hmem
    exact ⟨message, rfl⟩
  · exact hhistory value hnew

theorem changesStored_searchRequest :
    ChangesStored SearchRequest.toValue (fun _ ↦ True) SearchRequest.mutate := by
  intro heap request handle updates changes hrequest hupdates hself _
  obtain ⟨held, hstored, hheld⟩ := holds_record_iff.mp hrequest
  rw [Gives, mutate_eq_construct hstored (by decide) (hupdates.keys_eq ▸ hself)]
  exact construct_gives (readSearchRequest_ends (hheld.merge hupdates))

end Heap

end Grounding
