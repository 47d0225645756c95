import Grounding.Proofs.Pipeline.Steps

/-!
# What the callbacks of a run are told

`Pipeline.notices` are the notices of a run, as a function of its calls and of its outcome: that it
has started, the transformed query if there are transformers and all of them have answered with a
query, the documents of every retrieval that has been answered, and in the end either the result or
the failure. `Pipeline.receivers` are the tellings of one notice: every callback that handles the
event is told, in order of registration.

`run_tells`: the tellings of every run are those of its notices, one notice after the other. What
a callback is told is therefore the notices of the events that it handles. The steps of the run
lead from its first scene to its last one, so that nothing happens in between except that each
handler that failed is followed by a warning of its own.

`Walks` is the judgement about actions whose steps lead from scene to scene; `Tells` says in
addition which calls and which notices the steps are made of.
-/

set_option autoImplicit false
set_option relaxedAutoImplicit false

namespace Grounding

open Grounding.Action
open Grounding.PipelineStep (calls tellings Leads calls_append tellings_append leads_append)
open Grounding.Stream (sceneAfter)

variable {σ α β : Type}

/-! ### Notices and tellings -/

/-- The query that a transformer has answered with. -/
def PipelineExchange.transformed? : PipelineExchange → Option Query
  | ⟨.transform _ _, .ok (.transformed answer)⟩ => answer
  | _ => none

/-- The notice that a query has been answered with documents. -/
def PipelineExchange.retrieved? : PipelineExchange → Option Notice
  | ⟨.retrieve query, .ok (.documents (some documents))⟩ => some (.retrieved query documents)
  | _ => none

/-- The queries that transformers have answered with. -/
def answeredQueries (exchanges : List PipelineExchange) : List Query :=
  exchanges.filterMap PipelineExchange.transformed?

/-- The notices of the retrievals that have been answered. -/
def retrievalNotices (exchanges : List PipelineExchange) : List Notice :=
  exchanges.filterMap PipelineExchange.retrieved?

/-- The notice with which a run closes. -/
def closingNotice (query : Query) : Except Failure PipelineResult → Notice
  | .ok result => .ended result
  | .error failure => .failed query failure

/-- The notice of a telling, if it is one to the callback at a position. -/
def Telling.at? (position : Nat) (telling : Telling) : Option Notice :=
  if telling.position = position then some telling.notice else none

/-- Whether a callback handles the event of a notice. -/
def Callback.handles (callback : Callback σ Notice) (notice : Notice) : Bool :=
  (callback.handler notice.event).isSome

/-- The telling of a notice to a callback at a position, if the callback handles the event. -/
def Callback.telling? (callback : Callback σ Notice) (position : Nat) (notice : Notice) :
    Option Telling :=
  (callback.handler notice.event).map fun _ ↦ ⟨position, callback.name, notice⟩

/-- The tellings of a notice to callbacks, the first one at a position. -/
def receiversFrom (position : Nat) (callbacks : List (Callback σ Notice)) (notice : Notice) :
    List Telling :=
  (callbacks.zipIdx position).filterMap fun (callback, place) ↦ callback.telling? place notice

namespace Pipeline

/-- The tellings of a notice. -/
def receivers (pipeline : Pipeline σ) (notice : Notice) : List Telling :=
  receiversFrom 0 pipeline.callbacks notice

/-- The notice of the transformed query, if there are transformers and all of them have answered
with a query. -/
def transformationNotices (pipeline : Pipeline σ) (query : Query)
    (exchanges : List PipelineExchange) : List Notice :=
  if pipeline.transformers ≠ [] ∧
      (answeredQueries exchanges).length = pipeline.transformers.length then
    [.transformed query ((answeredQueries exchanges).getLastD query)]
  else []

/-- The notices of a run with these calls and this outcome. -/
def notices (pipeline : Pipeline σ) (query : Query) (exchanges : List PipelineExchange)
    (outcome : Except Failure PipelineResult) : List Notice :=
  .started query :: (pipeline.transformationNotices query exchanges ++
    retrievalNotices exchanges ++ [closingNotice query outcome])

/-- The notices that the callback at a position is told in a run. -/
def received (pipeline : Pipeline σ) (query : Query) (scene : Scene σ) (position : Nat) :
    List Notice :=
  (tellings (pipeline.steps query scene)).filterMap (Telling.at? position)

end Pipeline

theorem answeredQueries_append (exchanges more : List PipelineExchange) :
    answeredQueries (exchanges ++ more) = answeredQueries exchanges ++ answeredQueries more :=
  List.filterMap_append

theorem retrievalNotices_append (exchanges more : List PipelineExchange) :
    retrievalNotices (exchanges ++ more) = retrievalNotices exchanges ++ retrievalNotices more :=
  List.filterMap_append

theorem receiversFrom_cons (position : Nat) (callback : Callback σ Notice)
    (rest : List (Callback σ Notice)) (notice : Notice) :
    receiversFrom position (callback :: rest) notice =
      (callback.telling? position notice).toList ++ receiversFrom (position + 1) rest notice := by
  unfold receiversFrom
  rw [List.zipIdx_cons, List.filterMap_cons]
  cases htelling : callback.telling? position notice <;> simp [htelling]

theorem le_position_of_mem_receiversFrom {position : Nat} {callbacks : List (Callback σ Notice)}
    {notice : Notice} {telling : Telling} (h : telling ∈ receiversFrom position callbacks notice) :
    position ≤ telling.position := by
  obtain ⟨⟨callback, place⟩, hmem, htelling⟩ := List.mem_filterMap.mp h
  obtain ⟨handle, -, rfl⟩ := Option.map_eq_some_iff.mp htelling
  exact (List.mem_zipIdx hmem).1

theorem Telling.at?_of_ne {position : Nat} {telling : Telling} (h : telling.position ≠ position) :
    telling.at? position = none :=
  if_neg h

/-- A callback is told a notice exactly if it handles the event, and then once. -/
theorem filterMap_receiversFrom {callbacks : List (Callback σ Notice)} {place : Nat}
    {callback : Callback σ Notice} (h : callbacks[place]? = some callback) (position : Nat)
    (notice : Notice) :
    (receiversFrom position callbacks notice).filterMap (Telling.at? (position + place)) =
      if callback.handles notice then [notice] else [] := by
  induction callbacks generalizing position place with
  | nil => cases h
  | cons head rest ih =>
    rw [receiversFrom_cons, List.filterMap_append]
    cases place with
    | zero =>
      obtain rfl : head = callback := Option.some.inj h
      have hrest : (receiversFrom (position + 1) rest notice).filterMap
          (Telling.at? (position + 0)) = [] := by
        refine List.filterMap_eq_nil_iff.mpr fun telling hmem ↦ Telling.at?_of_ne ?_
        have hle := le_position_of_mem_receiversFrom hmem
        omega
      rw [hrest, List.append_nil]
      unfold Callback.telling? Callback.handles
      cases hhandler : head.handler notice.event <;> simp [Telling.at?]
    | succ place =>
      have hhead : (head.telling? position notice).toList.filterMap
          (Telling.at? (position + (place + 1))) = [] := by
        refine List.filterMap_eq_nil_iff.mpr fun telling hmem ↦ Telling.at?_of_ne ?_
        obtain ⟨handle, -, rfl⟩ := Option.map_eq_some_iff.mp (Option.mem_toList.mp hmem)
        show position ≠ position + (place + 1)
        omega
      have hplace : position + (place + 1) = position + 1 + place := by omega
      rw [hhead, List.nil_append, hplace]
      exact ih h (position + 1)

/-- Of the tellings of several notices, those to one callback are of the ones that it handles. -/
theorem Pipeline.filterMap_receivers {pipeline : Pipeline σ} {position : Nat}
    {callback : Callback σ Notice} (h : pipeline.callbacks[position]? = some callback)
    (notices : List Notice) :
    (notices.flatMap pipeline.receivers).filterMap (Telling.at? position) =
      notices.filter callback.handles := by
  induction notices with
  | nil => rfl
  | cons notice rest ih =>
    have hnotice := filterMap_receiversFrom h 0 notice
    rw [Nat.zero_add] at hnotice
    rw [List.flatMap_cons, List.filterMap_append, ih, receivers, hnotice, List.filter_cons]
    split <;> rfl

/-! ### Actions that proceed in steps -/

/-- From every scene an action appends steps that lead to the scene that it leaves. They satisfy a
condition together with its outcome. -/
def Walks (post : Except Failure α → List (PipelineStep σ) → Prop)
    (action : Action (Recorded σ (PipelineStep σ)) α) : Prop :=
  ∀ scene, ∃ appended, (sceneAfter action scene).record = scene.record ++ appended ∧
    Leads scene.plain appended (sceneAfter action scene).plain ∧
    post (action.outcome scene) appended

section Rules

variable {post : Except Failure α → List (PipelineStep σ) → Prop}

theorem walks_pure {value : α} (h : post (.ok value) []) :
    Walks post (pure value : Action (Recorded σ (PipelineStep σ)) α) :=
  fun scene ↦ ⟨[], by simp, rfl, h⟩

theorem walks_throw {failure : Failure} (h : post (.error failure) []) :
    Walks post (throw failure : Action (Recorded σ (PipelineStep σ)) α) :=
  fun _ ↦ ⟨[], (List.append_nil _).symm, rfl, h⟩

theorem walks_mono {action : Action (Recorded σ (PipelineStep σ)) α}
    {weaker : Except Failure α → List (PipelineStep σ) → Prop} (h : Walks post action)
    (hweaker : ∀ result appended, post result appended → weaker result appended) :
    Walks weaker action := by
  intro scene
  obtain ⟨appended, hrecord, hleads, hpost⟩ := h scene
  exact ⟨appended, hrecord, hleads, hweaker _ _ hpost⟩

/-- Assumes: a condition that holds of the step that is recorded. -/
theorem walks_watched {deed : Except Failure α → PipelineDeed} {action : Action σ α}
    (hcall : ∀ outcome, ∃ exchange, deed outcome = .called exchange)
    (h : ∀ outcome before after, post outcome [⟨deed outcome, before, after⟩]) :
    Walks post (action.watched deed) := by
  intro scene
  unfold watched
  rw [sceneAfter_witnessing, outcome_witnessing]
  refine ⟨_, rfl, ⟨rfl, ?_⟩, h _ _ _⟩
  obtain ⟨exchange, hexchange⟩ := hcall (action.outcome scene.plain)
  simp only [Leads, PipelineStep.settled, hexchange, Scene.plain_withRecord]

theorem walks_bind {action : Action (Recorded σ (PipelineStep σ)) α}
    {next : α → Action (Recorded σ (PipelineStep σ)) β}
    {post : Except Failure β → List (PipelineStep σ) → Prop}
    (h : Walks (fun result appended ↦
      match result with
      | .ok value => Walks (fun final more ↦ post final (appended ++ more)) (next value)
      | .error failure => post (.error failure) appended) action) :
    Walks post (action >>= next) := by
  intro scene
  obtain ⟨appended, hrecord, hleads, hpost⟩ := h scene
  rw [outcome_bind, sceneAfter_bind]
  cases houtcome : action.outcome scene with
  | error failure =>
    rw [houtcome] at hpost
    exact ⟨appended, hrecord, hleads, hpost⟩
  | ok value =>
    rw [houtcome] at hpost
    obtain ⟨more, hmore, hfurther, hfinal⟩ := hpost (sceneAfter action scene)
    exact ⟨appended ++ more, by rw [hmore, hrecord, List.append_assoc],
      leads_append hleads hfurther, hfinal⟩

theorem walks_attempt {action : Action (Recorded σ (PipelineStep σ)) α}
    {post : Except Failure (Except Failure α) → List (PipelineStep σ) → Prop}
    (h : Walks (fun result appended ↦ post (.ok result) appended) action) :
    Walks post (attempt action) := by
  intro scene
  simpa using h scene

theorem walks_protect {action : Action (Recorded σ (PipelineStep σ)) α}
    {wrap : Failure → Failure}
    (h : Walks (fun result appended ↦ post (result.mapError (shielded wrap)) appended) action) :
    Walks post (protect wrap action) := by
  intro scene
  simpa using h scene

/-! ### Telling the callbacks -/

/-- Delivering a notice to a callback is one step if the callback handles the event, and the warning
of a handler that failed belongs to it. -/
theorem walks_deliver (callback : Callback σ Notice) (position : Nat) (notice : Notice) :
    Walks (fun result appended ↦ result = .ok () ∧ calls appended = [] ∧
        tellings appended = (callback.telling? position notice).toList)
      ((callback.watched position).deliver notice.event notice) := by
  simp only [Callback.deliver, Callback.watched, Callback.telling?]
  cases callback.handler notice.event with
  | none => exact walks_pure ⟨rfl, rfl, rfl⟩
  | some handle =>
    intro scene
    rw [Option.map_some, outcome_bind, sceneAfter_bind, outcome_attempt, sceneAfter_attempt]
    unfold watched
    rw [outcome_witnessing, sceneAfter_witnessing]
    cases (handle notice).outcome scene.plain with
    | ok value => exact ⟨_, rfl, ⟨rfl, rfl⟩, rfl, rfl, rfl⟩
    | error failure => exact ⟨_, rfl, ⟨rfl, rfl⟩, rfl, rfl, rfl⟩

theorem walks_notify (callbacks : List (Callback σ Notice)) (position : Nat) (notice : Notice) :
    Walks (fun result appended ↦ result = .ok () ∧ calls appended = [] ∧
        tellings appended = receiversFrom position callbacks notice)
      (notify notice.event notice (watchedFrom position callbacks)) := by
  induction callbacks generalizing position with
  | nil => exact walks_pure ⟨rfl, rfl, rfl⟩
  | cons callback rest ih =>
    refine walks_bind (walks_mono (walks_deliver callback position notice) ?_)
    rintro _ appended ⟨rfl, hcalls, htellings⟩
    refine walks_mono (ih (position + 1)) ?_
    rintro _ more ⟨rfl, hmore, hfurther⟩
    refine ⟨rfl, ?_, ?_⟩
    · rw [calls_append, hcalls, hmore, List.append_nil]
    · rw [tellings_append, htellings, hfurther, receiversFrom_cons]

end Rules

/-! ### Calls and notices -/

namespace Pipeline

variable (pipeline : Pipeline σ)

/-- An action whose steps are calls and tellings of notices, which satisfy a condition together with
its outcome. -/
def Tells (post : Except Failure α → List PipelineExchange → List Notice → Prop)
    (action : Action (Recorded σ (PipelineStep σ)) α) : Prop :=
  Walks (fun result appended ↦ ∃ notices,
    tellings appended = notices.flatMap pipeline.receivers ∧ post result (calls appended) notices)
    action

variable {pipeline} {post : Except Failure α → List PipelineExchange → List Notice → Prop}

theorem tells_pure {value : α} (h : post (.ok value) [] []) :
    pipeline.Tells post (pure value : Action (Recorded σ (PipelineStep σ)) α) :=
  walks_pure ⟨[], rfl, h⟩

theorem tells_throw {failure : Failure} (h : post (.error failure) [] []) :
    pipeline.Tells post (throw failure : Action (Recorded σ (PipelineStep σ)) α) :=
  walks_throw ⟨[], rfl, h⟩

theorem tells_mono {action : Action (Recorded σ (PipelineStep σ)) α}
    {weaker : Except Failure α → List PipelineExchange → List Notice → Prop}
    (h : pipeline.Tells post action)
    (hweaker : ∀ result exchanges notices,
      post result exchanges notices → weaker result exchanges notices) :
    pipeline.Tells weaker action := by
  refine walks_mono h ?_
  rintro result appended ⟨notices, htellings, hpost⟩
  exact ⟨notices, htellings, hweaker _ _ _ hpost⟩

/-- Assumes: a condition that holds of the call with every outcome. -/
theorem tells_call {call : PipelineCall} {answer : α → PipelineAnswer} {action : Action σ α}
    (h : ∀ outcome, post outcome [.entry call answer outcome] []) :
    pipeline.Tells post (action.watchedCall call answer) :=
  walks_watched (fun _ ↦ ⟨_, rfl⟩) fun outcome _ _ ↦ ⟨[], rfl, h outcome⟩

theorem tells_bind {action : Action (Recorded σ (PipelineStep σ)) α}
    {next : α → Action (Recorded σ (PipelineStep σ)) β}
    {post : Except Failure β → List PipelineExchange → List Notice → Prop}
    (h : pipeline.Tells (fun result exchanges notices ↦
      match result with
      | .ok value => pipeline.Tells (fun final more further ↦
          post final (exchanges ++ more) (notices ++ further)) (next value)
      | .error failure => post (.error failure) exchanges notices) action) :
    pipeline.Tells post (action >>= next) := by
  refine walks_bind (walks_mono h ?_)
  rintro result appended ⟨notices, htellings, hpost⟩
  cases result with
  | error failure => exact ⟨notices, htellings, hpost⟩
  | ok value =>
    refine walks_mono hpost ?_
    rintro final more ⟨further, hmore, hfinal⟩
    refine ⟨notices ++ further, ?_, ?_⟩
    · rw [tellings_append, htellings, hmore, List.flatMap_append]
    · rw [calls_append]
      exact hfinal

theorem tells_protect {action : Action (Recorded σ (PipelineStep σ)) α} {wrap : Failure → Failure}
    (h : pipeline.Tells (fun result exchanges notices ↦
      post (result.mapError (shielded wrap)) exchanges notices) action) :
    pipeline.Tells post (protect wrap action) :=
  walks_protect h

theorem tells_attempt {action : Action (Recorded σ (PipelineStep σ)) α}
    {post : Except Failure (Except Failure α) → List PipelineExchange → List Notice → Prop}
    (h : pipeline.Tells (fun result exchanges notices ↦ post (.ok result) exchanges notices)
      action) :
    pipeline.Tells post (attempt action) :=
  walks_attempt h

/-- Telling the callbacks never fails and is made of no calls. -/
theorem tells_tell (notice : Notice) :
    pipeline.Tells (fun result exchanges notices ↦
        result = .ok () ∧ exchanges = [] ∧ notices = [notice])
      (pipeline.watched.tell notice) := by
  refine walks_mono (walks_notify pipeline.callbacks 0 notice) ?_
  rintro result appended ⟨rfl, hcalls, htellings⟩
  refine ⟨[notice], ?_, rfl, hcalls, rfl⟩
  rw [htellings, List.flatMap_singleton]
  rfl

/-! ### Stages -/

/-- Actions of a watched pipeline that transform nothing and tell of what they retrieve. -/
abbrev Reports (pipeline : Pipeline σ) (action : Action (Recorded σ (PipelineStep σ)) α) : Prop :=
  pipeline.Tells (fun _ exchanges notices ↦
    answeredQueries exchanges = [] ∧ notices = retrievalNotices exchanges) action

theorem reports_bind {action : Action (Recorded σ (PipelineStep σ)) α}
    {next : α → Action (Recorded σ (PipelineStep σ)) β} (haction : pipeline.Reports action)
    (hnext : ∀ value, pipeline.Reports (next value)) : pipeline.Reports (action >>= next) := by
  refine tells_bind (tells_mono haction fun result exchanges notices hreports ↦ ?_)
  cases result with
  | error failure => exact hreports
  | ok value =>
    refine tells_mono (hnext value) fun final more further hmore ↦ ?_
    refine ⟨?_, ?_⟩
    · rw [answeredQueries_append, hreports.1, hmore.1, List.append_nil]
    · rw [retrievalNotices_append, hreports.2, hmore.2]

/-- Answers of the transformers from a position on: all of them with a result, not all of them with
a failure. -/
theorem tells_transformAll (pipeline : Pipeline σ) (transformers : List (QueryTransformer σ))
    (position : Nat) (query : Query) :
    pipeline.Tells (fun result exchanges notices ↦
        notices = [] ∧ retrievalNotices exchanges = [] ∧
          match result with
          | .ok transformed => (answeredQueries exchanges).length = transformers.length ∧
              transformed = (answeredQueries exchanges).getLastD query
          | .error _ => (answeredQueries exchanges).length < transformers.length)
      (transformAll ((transformers.zipIdx position).map fun (transformer, place) ↦
        transformer.watched place) query) := by
  induction transformers generalizing position query with
  | nil => exact tells_pure ⟨rfl, rfl, rfl, rfl⟩
  | cons transformer rest ih =>
    have honce : pipeline.Tells (fun result exchanges notices ↦
        notices = [] ∧ retrievalNotices exchanges = [] ∧
          match result with
          | .ok transformed => answeredQueries exchanges = [transformed]
          | .error _ => answeredQueries exchanges = [])
        (transformOnce (transformer.watched position) query) := by
      refine tells_bind (tells_protect (tells_call fun outcome ↦ ?_))
      cases outcome with
      | error cause => exact ⟨rfl, rfl, rfl⟩
      | ok answer =>
        cases answer with
        | none => exact tells_throw ⟨rfl, rfl, rfl⟩
        | some transformed => exact tells_pure ⟨rfl, rfl, rfl⟩
    refine tells_bind (tells_mono honce ?_)
    rintro result exchanges _ ⟨rfl, hretrievals, hanswers⟩
    cases result with
    | error failure =>
      refine ⟨rfl, hretrievals, ?_⟩
      rw [hanswers]
      exact Nat.succ_pos rest.length
    | ok transformed =>
      refine tells_mono (ih (position + 1) transformed) ?_
      rintro final more _ ⟨rfl, hmore, hfurther⟩
      refine ⟨rfl, ?_, ?_⟩
      · rw [retrievalNotices_append, hretrievals, hmore, List.append_nil]
      · rw [answeredQueries_append, hanswers, List.singleton_append]
        cases final with
        | error failure => exact Nat.succ_lt_succ hfurther
        | ok last =>
          rw [List.getLastD_cons]
          exact ⟨congrArg (· + 1) hfurther.1, hfurther.2⟩

theorem reports_expandQuery (query : Query) :
    pipeline.Reports (pipeline.watched.expandQuery query) := by
  unfold expandQuery
  simp only [watched]
  cases pipeline.expander with
  | none => exact tells_pure ⟨rfl, rfl⟩
  | some expander =>
    refine reports_bind (tells_protect (tells_call fun _ ↦ ⟨rfl, rfl⟩)) fun expanded ↦ ?_
    match expanded with
    | none => exact tells_throw ⟨rfl, rfl⟩
    | some [] => exact tells_throw ⟨rfl, rfl⟩
    | some (first :: rest) => exact tells_pure ⟨rfl, rfl⟩

/-- A retrieval that is answered is told of right away. -/
theorem reports_retrieveOne (query : Query) :
    pipeline.Reports (pipeline.watched.retrieveOne query) := by
  refine tells_bind (tells_protect (tells_call fun outcome ↦ ?_))
  cases outcome with
  | error cause => exact ⟨rfl, rfl⟩
  | ok answer =>
    cases answer with
    | none => exact tells_throw ⟨rfl, rfl⟩
    | some documents =>
      refine tells_bind (tells_mono (tells_tell (.retrieved query documents)) ?_)
      rintro _ _ _ ⟨rfl, rfl, rfl⟩
      exact tells_pure ⟨rfl, rfl⟩

theorem reports_retrieveAll (queries : List Query) :
    pipeline.Reports (pipeline.watched.retrieveAll queries) := by
  induction queries with
  | nil => exact tells_pure ⟨rfl, rfl⟩
  | cons query rest ih =>
    refine reports_bind (reports_retrieveOne query) fun documents ↦ ?_
    exact reports_bind ih fun others ↦ tells_pure ⟨rfl, rfl⟩

theorem reports_joinGroups (groups : Groups) :
    pipeline.Reports (pipeline.watched.joinGroups groups) := by
  refine reports_bind (tells_call fun outcome ↦ ⟨rfl, ?_⟩) fun answer ↦ ?_
  · cases outcome <;> rfl
  · cases answer with
    | none => exact tells_throw ⟨rfl, rfl⟩
    | some documents => exact tells_pure ⟨rfl, rfl⟩

theorem tells_tellTransformed (query transformed : Query) :
    pipeline.Tells (fun result exchanges notices ↦ result = .ok () ∧ exchanges = [] ∧
        notices = if pipeline.transformers ≠ [] then [.transformed query transformed] else [])
      (pipeline.watched.tellTransformed query transformed) := by
  have hempty : pipeline.watched.transformers.isEmpty = pipeline.transformers.isEmpty := by
    cases htransformers : pipeline.transformers <;> simp [watched, htransformers]
  unfold tellTransformed
  rw [hempty]
  cases htransformers : pipeline.transformers with
  | nil => exact tells_pure ⟨rfl, rfl, rfl⟩
  | cons transformer rest =>
    rw [if_pos (List.cons_ne_nil transformer rest)]
    exact tells_tell (.transformed query transformed)

/-- The stages tell of the transformed query and of the retrievals. -/
theorem tells_stages (query : Query) :
    pipeline.Tells (fun _ exchanges notices ↦
        notices = pipeline.transformationNotices query exchanges ++ retrievalNotices exchanges)
      (pipeline.watched.stages query) := by
  have htransform := tells_transformAll pipeline pipeline.transformers 0 query
  refine tells_bind (tells_mono htransform ?_)
  rintro result exchanges _ ⟨rfl, hretrievals, hanswers⟩
  cases result with
  | error failure =>
    have hnot : ¬ (pipeline.transformers ≠ [] ∧
        (answeredQueries exchanges).length = pipeline.transformers.length) := by
      rintro ⟨-, hall⟩
      exact absurd hall (Nat.ne_of_lt hanswers)
    show [] = pipeline.transformationNotices query exchanges ++ retrievalNotices exchanges
    unfold transformationNotices
    rw [if_neg hnot, hretrievals]
    rfl
  | ok transformed =>
    obtain ⟨hlength, rfl⟩ := hanswers
    refine tells_bind (tells_mono (tells_tellTransformed query _) ?_)
    rintro _ _ _ ⟨rfl, rfl, rfl⟩
    have hrest : pipeline.Reports (do
        let expanded ← pipeline.watched.expandQuery ((answeredQueries exchanges).getLastD query)
        let found ← pipeline.watched.retrieveAll expanded
        let documents ← pipeline.watched.joinGroups (groupsOf found)
        let augmented ← pipeline.watched.augmenter.augment query documents
        return pipeline.watched.resultOf query ((answeredQueries exchanges).getLastD query)
          expanded found documents augmented) := by
      refine reports_bind (reports_expandQuery _) fun expanded ↦ ?_
      refine reports_bind (reports_retrieveAll _) fun found ↦ ?_
      refine reports_bind (reports_joinGroups _) fun documents ↦ ?_
      exact reports_bind (tells_call fun _ ↦ ⟨rfl, rfl⟩) fun augmented ↦ tells_pure ⟨rfl, rfl⟩
    refine tells_mono hrest ?_
    rintro final more _ ⟨hnone, rfl⟩
    unfold transformationNotices
    rw [List.nil_append, List.nil_append, answeredQueries_append, retrievalNotices_append, hnone,
      hretrievals, List.append_nil, List.nil_append, hlength]
    simp only [and_true]

/-- A run tells of its start, of what its stages tell of, and of its end. -/
theorem tells_run (pipeline : Pipeline σ) (query : Query) :
    pipeline.Tells (fun outcome exchanges notices ↦
        notices = pipeline.notices query exchanges outcome)
      (pipeline.watched.run query) := by
  refine tells_bind (tells_mono (tells_tell (.started query)) ?_)
  rintro _ _ _ ⟨rfl, rfl, rfl⟩
  refine tells_bind (tells_attempt (tells_mono (tells_stages query) ?_))
  rintro result exchanges _ rfl
  cases result with
  | ok result =>
    refine tells_bind (tells_mono (tells_tell (.ended result)) ?_)
    rintro _ _ _ ⟨rfl, rfl, rfl⟩
    exact tells_pure (by simp [notices, closingNotice])
  | error failure =>
    refine tells_bind (tells_mono (tells_tell (.failed query failure)) ?_)
    rintro _ _ _ ⟨rfl, rfl, rfl⟩
    exact tells_throw (by simp [notices, closingNotice])

/-! ### Runs -/

/-- The steps of a run lead from its first scene to its last one, and the tellings among them are
those of its notices. -/
theorem leads_steps (pipeline : Pipeline σ) (query : Query) (scene : Scene σ) :
    Leads scene (pipeline.steps query scene) (sceneAfter (pipeline.run query) scene) ∧
      tellings (pipeline.steps query scene) =
        (pipeline.notices query (pipeline.exchanges query scene)
          ((pipeline.run query).outcome scene)).flatMap pipeline.receivers := by
  obtain ⟨houtcome, hplain, hcalls⟩ := run_watched pipeline query scene
  obtain ⟨appended, hrecord, hleads, _, htellings, rfl⟩ :=
    tells_run pipeline query (scene.withRecord [])
  have hsteps : pipeline.steps query scene = appended := hrecord
  rw [hplain, ← hsteps] at hleads
  rw [← hsteps, hcalls, houtcome] at htellings
  exact ⟨hleads, htellings⟩

/-- What a callback is told in a run are the notices that it handles. -/
theorem received_eq (pipeline : Pipeline σ) {position : Nat} {callback : Callback σ Notice}
    (h : pipeline.callbacks[position]? = some callback) (query : Query) (scene : Scene σ) :
    pipeline.received query scene position =
      (pipeline.notices query (pipeline.exchanges query scene)
        ((pipeline.run query).outcome scene)).filter callback.handles := by
  unfold received
  rw [(leads_steps pipeline query scene).2, filterMap_receivers h]

/-- Watching a run does not change it. Its tellings are those of its notices, each notice told to
every callback that handles it, in order of registration, before the next one. What a single
callback is told are the notices that it handles. The steps lead from the first scene of the run to
its last one, with one warning after every handler that failed and nothing else in between. -/
theorem run_tells (pipeline : Pipeline σ) (query : Query) (scene : Scene σ) :
    ((pipeline.watched.run query).outcome (scene.withRecord []) =
        (pipeline.run query).outcome scene ∧
      (sceneAfter (pipeline.watched.run query) (scene.withRecord [])).plain =
        sceneAfter (pipeline.run query) scene ∧
      calls (pipeline.steps query scene) = pipeline.exchanges query scene) ∧
    tellings (pipeline.steps query scene) =
      (pipeline.notices query (pipeline.exchanges query scene)
        ((pipeline.run query).outcome scene)).flatMap pipeline.receivers ∧
    (∀ position callback, pipeline.callbacks[position]? = some callback →
      pipeline.received query scene position =
        (pipeline.notices query (pipeline.exchanges query scene)
          ((pipeline.run query).outcome scene)).filter callback.handles) ∧
    Leads scene (pipeline.steps query scene) (sceneAfter (pipeline.run query) scene) := by
  obtain ⟨hleads, htellings⟩ := leads_steps pipeline query scene
  exact ⟨run_watched pipeline query scene, htellings,
    fun _ _ hposition ↦ received_eq pipeline hposition query scene, hleads⟩

end Pipeline

end Grounding
