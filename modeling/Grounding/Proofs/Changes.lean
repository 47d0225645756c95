import Grounding.Proofs.Heap.Changes

/-!
# Changes of queries and of search requests

A change of a query or of a search request reads all fields again, those that are not updated among
them. Every field reads again what it has read (`Query.recordReading`,
`SearchRequest.recordReading`): texts and dictionaries are taken as they are, a list of messages is
read message by message, and a number that was read from a text, a truth value or a number of the
other type is read again as the number that it is, within its bounds.

A query can always be read from its own fields. A search request can be if its numbers keep to their
bounds (`SearchRequest.Valid`, `SearchRequest.valid_iff`); all that are read do so.

Main statement: `changes_compose`, for queries and for valid search requests. Records that are
stored and shared are changed in the same way, and the old ones are left as they are
(`Heap.ChangesStored`).
-/

set_option autoImplicit false
set_option relaxedAutoImplicit false

namespace Grounding

/-! ### Queries -/

namespace Query

theorem textReading :
    FieldReading "text" .text fun fields ↦ required fields "text" Shape.text :=
  fieldReading_required Shape.rereads_text "text"

theorem historyReading :
    FieldReading "history" (fun history ↦ .list (history.map Message.toValue))
      fun fields ↦ withDefault fields "history" (Shape.list Message.read) [] :=
  have hmessages : Shape.Rereads Message.read Message.toValue :=
    fun _ message _ ↦ Message.read_toValue message
  fieldReading_withDefault hmessages.list "history" rfl

theorem contextReading :
    FieldReading "context" .dict fun fields ↦ withDefault fields "context" Shape.dict [] :=
  fieldReading_withDefault Shape.rereads_dict "context" rfl

/-- A query is read if each of its fields is. -/
theorem ofFields_eq_accepted_iff {fields : Context} {query : Query} :
    ofFields fields = .accepted query ↔
      required fields "text" Shape.text = .accepted query.text ∧
      withDefault fields "history" (Shape.list Message.read) [] = .accepted query.history ∧
      withDefault fields "context" Shape.dict [] = .accepted query.context := by
  constructor
  · intro h
    obtain ⟨_, context, h₁, hcontext, rfl⟩ := Checked.accepted_of_map₂ h
    obtain ⟨_, history, h₂, hhistory, rfl⟩ := Checked.accepted_of_map₂ h₁
    obtain ⟨_, text, h₃, htext, rfl⟩ := Checked.accepted_of_map₂ h₂
    cases h₃
    exact ⟨htext, hhistory, hcontext⟩
  · rintro ⟨htext, hhistory, hcontext⟩
    rw [ofFields, htext, hhistory, hcontext]
    rfl

theorem recordReading : RecordReading ofFields toFields where
  rereads h updates := by
    obtain ⟨htext, hhistory, hcontext⟩ := ofFields_eq_accepted_iff.mp h
    rw [ofFields, textReading.merge_written htext rfl updates,
      historyReading.merge_written hhistory rfl updates,
      contextReading.merge_written hcontext rfl updates]
    rfl
  blamesOnly h updates := by
    obtain ⟨htext, hhistory, hcontext⟩ := ofFields_eq_accepted_iff.mp h
    exact (((blamesOnly_accepted updates _).ap (textReading.blamesOnly htext updates)).ap
      (historyReading.blamesOnly hhistory updates)).ap (contextReading.blamesOnly hcontext updates)
  keeps {query changed updates} h hchanged name hname := by
    obtain ⟨htext, hhistory, hcontext⟩ := ofFields_eq_accepted_iff.mp h
    obtain ⟨hnewText, hnewHistory, hnewContext⟩ := ofFields_eq_accepted_iff.mp hchanged
    exact Dict.get?_cons_congr (fun hkey ↦ textReading.keeps htext hnewText (hkey ▸ hname))
      (Dict.get?_cons_congr
        (fun hkey ↦ historyReading.keeps hhistory hnewHistory (hkey ▸ hname))
        (Dict.get?_cons_congr
          (fun hkey ↦ contextReading.keeps hcontext hnewContext (hkey ▸ hname)) rfl))

end Query

/-! ### Search requests -/

namespace SearchRequest

/-- A request whose numbers keep to their bounds. -/
structure Valid (request : SearchRequest) : Prop where
  topK : 1 ≤ request.topK
  threshold_le_one : Binary64.le request.similarityThreshold 1.0 = true
  zero_le_threshold : Binary64.le 0.0 request.similarityThreshold = true

/-- What is accepted as a number of documents is an integer from one, written as that integer. -/
theorem topK_of_accepted {number : Int} {count : Nat}
    (h : (if number < 1 then Checked.fault .belowLeast else .accepted number.toNat) =
      .accepted count) : 1 ≤ count ∧ (count : Int) = number := by
  by_cases hleast : number < 1
  · rw [if_pos hleast] at h
    cases h
  · rw [if_neg hleast] at h
    cases h
    omega

/-- What is accepted as a threshold lies between zero and one and is kept as it is. -/
theorem threshold_of_accepted {number threshold : Float}
    (h : (if !Binary64.le number 1.0 then Checked.fault .aboveMost
      else if !Binary64.le 0.0 number then .fault .belowLeast
      else .accepted number) = .accepted threshold) :
    threshold = number ∧ Binary64.le threshold 1.0 = true ∧ Binary64.le 0.0 threshold = true := by
  cases hmost : Binary64.le number 1.0 with
  | false =>
    rw [hmost] at h
    cases h
  | true =>
    cases hleast : Binary64.le 0.0 number with
    | false =>
      rw [hmost, hleast] at h
      cases h
    | true =>
      rw [hmost, hleast] at h
      cases h
      exact ⟨rfl, hmost, hleast⟩

theorem rereads_topKShape : Shape.Rereads topKShape fun count : Nat ↦ .int count :=
  Shape.rereads_integer.andThen fun _ _ hcount ↦ by rw [(topK_of_accepted hcount).2]

theorem rereads_thresholdShape : Shape.Rereads thresholdShape .float :=
  Shape.rereads_number.andThen fun _ _ hthreshold ↦ by rw [(threshold_of_accepted hthreshold).1]

theorem topKShape_int {count : Nat} (h : 1 ≤ count) :
    topKShape (.int count) = .accepted count := by
  show (if (count : Int) < 1 then Checked.fault .belowLeast else .accepted (count : Int).toNat) = _
  rw [if_neg (by omega), Int.toNat_natCast]

theorem thresholdShape_float {threshold : Float} (hmost : Binary64.le threshold 1.0 = true)
    (hleast : Binary64.le 0.0 threshold = true) :
    thresholdShape (.float threshold) = .accepted threshold := by
  show (if !Binary64.le threshold 1.0 then Checked.fault .aboveMost
    else if !Binary64.le 0.0 threshold then .fault .belowLeast
    else .accepted threshold) = _
  rw [hmost, hleast]
  rfl

theorem valid_default : ({} : SearchRequest).Valid where
  topK := by decide
  threshold_le_one := by decide +kernel
  zero_le_threshold := by decide +kernel

theorem queryReading :
    FieldReading "query" .text fun fields ↦ withDefault fields "query" Shape.text "" :=
  fieldReading_withDefault Shape.rereads_text "query" rfl

theorem topKReading :
    FieldReading "top_k" (fun count : Nat ↦ .int count)
      fun fields ↦ withDefault fields "top_k" topKShape 4 :=
  fieldReading_withDefault rereads_topKShape "top_k" (topKShape_int valid_default.topK)

theorem thresholdReading :
    FieldReading "similarity_threshold" .float
      fun fields ↦ withDefault fields "similarity_threshold" thresholdShape 0.0 :=
  fieldReading_withDefault rereads_thresholdShape "similarity_threshold"
    (thresholdShape_float valid_default.threshold_le_one valid_default.zero_le_threshold)

theorem filterReading :
    FieldReading "filter_expression" id
      fun fields ↦ withDefault fields "filter_expression" Shape.anything .null :=
  fieldReading_withDefault Shape.rereads_anything "filter_expression" rfl

/-- A request is read if each of its fields is. -/
theorem ofFields_eq_accepted_iff {fields : Context} {request : SearchRequest} :
    ofFields fields = .accepted request ↔
      withDefault fields "query" Shape.text "" = .accepted request.query ∧
      withDefault fields "top_k" topKShape 4 = .accepted request.topK ∧
      withDefault fields "similarity_threshold" thresholdShape 0.0 =
        .accepted request.similarityThreshold ∧
      withDefault fields "filter_expression" Shape.anything .null =
        .accepted request.filterExpression := by
  constructor
  · intro h
    obtain ⟨_, filter, h₁, hfilter, rfl⟩ := Checked.accepted_of_map₂ h
    obtain ⟨_, threshold, h₂, hthreshold, rfl⟩ := Checked.accepted_of_map₂ h₁
    obtain ⟨_, topK, h₃, htopK, rfl⟩ := Checked.accepted_of_map₂ h₂
    obtain ⟨_, query, h₄, hquery, rfl⟩ := Checked.accepted_of_map₂ h₃
    cases h₄
    exact ⟨hquery, htopK, hthreshold, hfilter⟩
  · rintro ⟨hquery, htopK, hthreshold, hfilter⟩
    rw [ofFields, hquery, htopK, hthreshold, hfilter]
    rfl

theorem recordReading : RecordReading ofFields toFields where
  rereads h updates := by
    obtain ⟨hquery, htopK, hthreshold, hfilter⟩ := ofFields_eq_accepted_iff.mp h
    rw [ofFields, queryReading.merge_written hquery rfl updates,
      topKReading.merge_written htopK rfl updates,
      thresholdReading.merge_written hthreshold rfl updates,
      filterReading.merge_written hfilter rfl updates]
    rfl
  blamesOnly h updates := by
    obtain ⟨hquery, htopK, hthreshold, hfilter⟩ := ofFields_eq_accepted_iff.mp h
    exact ((((blamesOnly_accepted updates _).ap (queryReading.blamesOnly hquery updates)).ap
      (topKReading.blamesOnly htopK updates)).ap
        (thresholdReading.blamesOnly hthreshold updates)).ap
          (filterReading.blamesOnly hfilter updates)
  keeps {request changed updates} h hchanged name hname := by
    obtain ⟨hquery, htopK, hthreshold, hfilter⟩ := ofFields_eq_accepted_iff.mp h
    obtain ⟨hnewQuery, hnewTopK, hnewThreshold, hnewFilter⟩ := ofFields_eq_accepted_iff.mp hchanged
    exact Dict.get?_cons_congr
      (fun hkey ↦ queryReading.keeps hquery hnewQuery (hkey ▸ hname))
      (Dict.get?_cons_congr
        (fun hkey ↦ topKReading.keeps htopK hnewTopK (hkey ▸ hname))
        (Dict.get?_cons_congr
          (fun hkey ↦ thresholdReading.keeps hthreshold hnewThreshold (hkey ▸ hname))
          (Dict.get?_cons_congr
            (fun hkey ↦ filterReading.keeps hfilter hnewFilter (hkey ▸ hname)) rfl)))

/-- The valid requests are those that can be read from their own fields. -/
theorem valid_iff (request : SearchRequest) :
    request.Valid ↔ ofFields request.toFields = .accepted request := by
  rw [ofFields_eq_accepted_iff]
  constructor
  · intro h
    exact ⟨rfl, withDefault_of_get? rfl (topKShape_int h.topK),
      withDefault_of_get? rfl (thresholdShape_float h.threshold_le_one h.zero_le_threshold), rfl⟩
  · rintro ⟨-, htopK, hthreshold, -⟩
    obtain ⟨_, -, hcount⟩ := Checked.accepted_of_andThen (Checked.accepted_of_under htopK)
    obtain ⟨_, -, hnumber⟩ := Checked.accepted_of_andThen (Checked.accepted_of_under hthreshold)
    obtain ⟨-, hmost, hleast⟩ := threshold_of_accepted hnumber
    exact ⟨(topK_of_accepted hcount).1, hmost, hleast⟩

end SearchRequest

/-! ### Main statement -/

/-- Changes of queries add up, and so do those of valid search requests, whether these stand by
themselves or are stored. -/
theorem changes_compose :
    (ChangesCompose (fun _ ↦ True) Query.toFields Query.mutate ∧
        Heap.ChangesStored Query.toValue Heap.HistoryAsMessages Query.mutate) ∧
      ChangesCompose SearchRequest.Valid SearchRequest.toFields SearchRequest.mutate ∧
        Heap.ChangesStored SearchRequest.toValue (fun _ ↦ True) SearchRequest.mutate :=
  ⟨⟨Query.recordReading.changesCompose fun query ↦ iff_of_true trivial query.ofFields_toFields,
      Heap.changesStored_query⟩,
    SearchRequest.recordReading.changesCompose SearchRequest.valid_iff,
    Heap.changesStored_searchRequest⟩

/-- A text that is read as a number of documents and a truth value that is read as a threshold are
there for the second change of a request, which is refused for its own updates. A query is changed
twice, first in its history, which is given as a list of dictionaries. The first change of the
request is also made where the request and its updates are stored. -/
theorem changes_compose_converting :
    (∃ changed, ({} : SearchRequest).mutate
          [("top_k", .text " +07.0 "), ("similarity_threshold", .bool true)] = .accepted changed ∧
        changed.topK = 7 ∧ changed.similarityThreshold = 1.0 ∧
        changed.mutate [("query", .null), ("top_k", .int 0)] =
          .refused [⟨[.name "query"], .notText⟩, ⟨[.name "top_k"], .belowLeast⟩] ∧
        changed.mutate [("query", .null), ("top_k", .int 0)] = ({} : SearchRequest).mutate
          [("top_k", .int 0), ("similarity_threshold", .bool true), ("query", .null)] ∧
        ({} : Heap).Ends (do
            let request ← Heap.plantNew ({} : SearchRequest).toValue
            let changes ← Heap.plantEntries (fun _ ↦ none)
              [("top_k", .text " +07.0 "), ("similarity_threshold", .bool true)]
            Heap.mutate request changes)
          fun handle heap ↦ heap.value handle = changed.toValue) ∧
      ∃ changed, ({ text := "q" } : Query).mutate
          [("history", .list [.dict [("role", .text "assistant"), ("text", .text "a")]])] =
            .accepted changed ∧
        changed.history.map (fun message ↦ (message.role, message.text)) = [(.assistant, "a")] ∧
        changed.mutate [("text", .text "r")] = ({ text := "q" } : Query).mutate
          [("history", .list [.dict [("role", .text "assistant"), ("text", .text "a")]]),
            ("text", .text "r")] := by
  obtain ⟨⟨hquery, -⟩, hrequest, hstored⟩ := changes_compose
  have hone : SearchRequest.thresholdShape (.float 1.0) = .accepted 1.0 :=
    SearchRequest.thresholdShape_float (by decide +kernel) (by decide +kernel)
  have hfirst : ({} : SearchRequest).mutate
      [("top_k", .text " +07.0 "), ("similarity_threshold", .bool true)] =
        .accepted { topK := 7, similarityThreshold := 1.0 } :=
    SearchRequest.ofFields_eq_accepted_iff.mpr ⟨rfl, rfl, withDefault_of_get? rfl hone, rfl⟩
  refine ⟨⟨_, hfirst, rfl, rfl, ?_, ?_, ?_⟩, _, rfl, rfl, ?_⟩
  · have hthreshold : withDefault (Dict.merge (SearchRequest.toFields
          { topK := 7, similarityThreshold := 1.0 }) [("query", .null), ("top_k", .int 0)])
        "similarity_threshold" SearchRequest.thresholdShape 0.0 = .accepted 1.0 :=
      withDefault_of_get? rfl hone
    rw [SearchRequest.mutate, SearchRequest.ofFields, hthreshold]
    rfl
  · exact hrequest.composed _ [("top_k", .text " +07.0 "), ("similarity_threshold", .bool true)]
      _ _ (by decide) hfirst
  · refine (Heap.plantNew_ends {} _).bind fun request middle _ hheld ↦ ?_
    refine (Heap.plantEntries_ends middle _).bind fun changes later hextends hchanges ↦ ?_
    have hgives := hstored later {} request _ changes (hheld.mono hextends) hchanges (by decide)
      trivial
    rw [hfirst] at hgives
    exact hgives.ends.imp fun _ _ hchanged ↦ hchanged.value_eq
  · exact hquery.composed _
      [("history", .list [.dict [("role", .text "assistant"), ("text", .text "a")]])] _ _
      (by decide) rfl

end Grounding
