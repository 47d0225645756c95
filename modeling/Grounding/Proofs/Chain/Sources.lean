import Grounding.Proofs.Chain.Streams

/-!
# Streams that are closed

A stream that is released early delivers the first fragments of what it delivers as a whole
(`fragments_takeSome`). Taken beyond its end, it is taken as a whole (`takeSome_of_length_le`).
`Stream.consume` is what a consumer takes that stops after a number of fragments or not at all.

`Stream.watched` is a stream that notes its opening and, however it comes to its end, its closing,
even if releasing what it holds fails. `Source.observed` is a source that notes every step to the
next fragment, and its closing with the failure that comes of it, where it can be closed at all.

`record_observed`: a stream that hands on the fragments of a source, and of which some are taken,
has made as many steps of the source, never more, and has closed it. If it has got as many fragments
as are taken, a failure to close the source is the only one that is seen (`Source.closedAfter`).

Neither watching nor observing changes what a stream delivers (`watched_simulates`,
`toStream_observed_simulates`).
-/

set_option autoImplicit false
set_option relaxedAutoImplicit false

namespace Grounding

open Grounding.Action
open Grounding.Stream (sceneAfter)

variable {σ τ ε α β : Type}

/-- The scene with one more entry in its record. -/
def Scene.noting (entry : ε) (scene : Scene (Recorded σ ε)) : Scene (Recorded σ ε) :=
  scene.plain.withRecord (scene.record ++ [entry])

@[simp] theorem Scene.record_noting (entry : ε) (scene : Scene (Recorded σ ε)) :
    (scene.noting entry).record = scene.record ++ [entry] := rfl

@[simp] theorem Scene.plain_noting (entry : ε) (scene : Scene (Recorded σ ε)) :
    (scene.noting entry).plain = scene.plain := rfl

namespace Action

/-- An action with a change of the scene behind it, whether it fails or not. -/
def finishing (change : Scene σ → Scene σ) (action : Action σ α) : Action σ α := fun scene ↦
  match action scene with
  | .ok value after => .ok value (change after)
  | .error failure after => .error failure (change after)

variable (change : Scene σ → Scene σ) (action : Action σ α) (scene : Scene σ)

@[simp] theorem outcome_finishing :
    (action.finishing change).outcome scene = action.outcome scene := by
  unfold outcome finishing
  cases action scene <;> rfl

@[simp] theorem sceneAfter_finishing :
    sceneAfter (action.finishing change) scene = change (sceneAfter action scene) := by
  unfold sceneAfter finishing
  cases action scene <;> rfl

@[simp] theorem failure?_finishing :
    (action.finishing change).failure? scene = action.failure? scene := by
  rw [failure?_eq, failure?_eq, outcome_finishing]

end Action

namespace Stream

/-! ### Some fragments and all of them -/

/-- A stream that is released early has delivered the first fragments. -/
theorem fragments_takeSome (stream : Stream σ α) (more : Nat) (scene : Scene σ) :
    (stream.takeSome more scene).fragments = (stream.drain scene).fragments.take (more + 1) := by
  induction stream generalizing more scene with
  | ended => rfl
  | failed failure lasting => rfl
  | doing change rest ih => exact ih scene more (change scene)
  | giving fragment release rest ih =>
    cases more with
    | zero => rfl
    | succ more => exact congrArg (fragment :: ·) (ih more scene)

/-- Assumes: no more fragments than are taken. The stream is taken as a whole. -/
theorem takeSome_of_length_le {stream : Stream σ α} {more : Nat} {scene : Scene σ}
    (h : (stream.drain scene).fragments.length ≤ more) :
    stream.takeSome more scene = stream.drain scene := by
  induction stream generalizing more scene with
  | ended => rfl
  | failed failure lasting => rfl
  | doing change rest ih => exact ih scene h
  | giving fragment release rest ih =>
    cases more with
    | zero => cases h
    | succ more =>
      rw [takeSome, drain, ih (Nat.le_of_succ_le_succ h)]

theorem takeSome_ofAction (action : Action σ α) (next : α → Stream σ β) (more : Nat)
    (scene : Scene σ) :
    (ofAction action next).takeSome more scene =
      match action.outcome scene with
      | .ok value => (next value).takeSome more (sceneAfter action scene)
      | .error failure => ⟨[], some failure.leaving, sceneAfter action scene⟩ := by
  unfold ofAction Action.outcome sceneAfter
  rw [takeSome]
  cases action scene <;> rfl

theorem takeSome_map (f : α → β) (stream : Stream σ α) (more : Nat) (scene : Scene σ) :
    (stream.map f).takeSome more scene =
      ⟨(stream.takeSome more scene).fragments.map f, (stream.takeSome more scene).failure,
        (stream.takeSome more scene).scene⟩ := by
  induction stream generalizing more scene with
  | ended => rfl
  | failed failure lasting => rfl
  | doing change rest ih => exact ih scene more (change scene)
  | giving fragment release rest ih =>
    cases more with
    | zero => rfl
    | succ more =>
      rw [map, takeSome, ih]
      rfl

/-! ### Consumers -/

/-- What a consumer takes from a stream that stops after a number of fragments, or at its end. -/
def consume (stream : Stream σ α) (count : Option Nat) (scene : Scene σ) : Delivery σ α :=
  match count with
  | some count => stream.take count scene
  | none => stream.drain scene

/-- Assumes: a consumer that takes something. It takes some fragments, as many as it says if it
does. -/
theorem exists_consume_eq_takeSome {count : Option Nat} (hcount : count ≠ some 0)
    (stream : Stream σ α) (scene : Scene σ) :
    ∃ more, (∀ limit, count = some limit → limit = more + 1) ∧
      stream.consume count scene = stream.takeSome more scene := by
  match count with
  | none =>
    exact ⟨_, nofun, (takeSome_of_length_le (Nat.le_refl _)).symm⟩
  | some 0 => exact absurd rfl hcount
  | some (more + 1) => exact ⟨more, fun _ hlimit ↦ (Option.some.inj hlimit).symm, rfl⟩

/-- Assumes: a stream with a record that simulates the stream without one. A consumer gets the
same of both. -/
theorem consume_of_simulates {recorded : Stream (Recorded σ ε) α} {stream : Stream σ α}
    (h : Simulates Forgets recorded stream) (count : Option Nat) (scene : Scene σ)
    (record : List ε) :
    recorded.consume count (scene.withRecord record) =
      (stream.consume count scene).withRecord
        (recorded.consume count (scene.withRecord record)).scene.record := by
  have heq : ∀ {delivery : Delivery (Recorded σ ε) α} {other : Delivery σ α},
      delivery.fragments = other.fragments ∧ delivery.failure = other.failure ∧
        Forgets delivery.scene other.scene →
      delivery = other.withRecord delivery.scene.record := by
    rintro ⟨fragments, failure, scene⟩ ⟨_, _, _⟩ ⟨rfl, rfl, rfl⟩
    rfl
  have hrelated : Forgets (scene.withRecord record) scene := rfl
  match count with
  | none => exact heq (drain_simulates h hrelated)
  | some 0 => rfl
  | some (more + 1) => exact heq (takeSome_simulates h hrelated more)

/-! ### Watching a stream -/

/-- The stream with a change of the world when it comes to its end: when it ends, when it fails, and
when it has been released. -/
def finishing (change : Scene σ → Scene σ) : Stream σ α → Stream σ α
  | .ended => .doing change fun _ ↦ .ended
  | .failed failure lasting => .doing change fun _ ↦ .failed failure lasting
  | .doing step rest => .doing step fun scene ↦ (rest scene).finishing change
  | .giving fragment release rest =>
    .giving fragment (release.finishing change) (rest.finishing change)

/-- The stream with entries for its opening and its closing. -/
def watched (opened closed : ε) (stream : Stream (Recorded σ ε) α) : Stream (Recorded σ ε) α :=
  .doing (Scene.noting opened) fun _ ↦ stream.finishing (Scene.noting closed)

theorem takeSome_finishing (change : Scene σ → Scene σ) (stream : Stream σ α) (more : Nat)
    (scene : Scene σ) :
    (stream.finishing change).takeSome more scene =
      { stream.takeSome more scene with scene := change (stream.takeSome more scene).scene } := by
  induction stream generalizing more scene with
  | ended => rfl
  | failed failure lasting => rfl
  | doing step rest ih => exact ih scene more (step scene)
  | giving fragment release rest ih =>
    cases more with
    | zero => rw [finishing, takeSome, takeSome, failure?_finishing, sceneAfter_finishing]
    | succ more =>
      rw [finishing, takeSome, ih]
      rfl

/-- However much is taken of it, a stream that is watched has been opened and closed. -/
theorem takeSome_watched (opened closed : ε) (stream : Stream (Recorded σ ε) α) (more : Nat)
    (scene : Scene (Recorded σ ε)) :
    (stream.watched opened closed).takeSome more scene =
      { stream.takeSome more (scene.noting opened) with
        scene := (stream.takeSome more (scene.noting opened)).scene.noting closed } :=
  takeSome_finishing _ stream more _

/-- Assumes: a change that cannot be seen. Neither can it be at the end of a stream. -/
theorem finishing_simulates {related : Scene σ → Scene τ → Prop} {change : Scene σ → Scene σ}
    (hchange : ∀ scene twin, related scene twin → related (change scene) twin)
    {first : Stream σ α} {second : Stream τ α} (h : Simulates related first second) :
    Simulates related (first.finishing change) second := by
  induction h with
  | ended => exact .alone hchange fun _ _ _ ↦ .ended
  | failed failure lasting => exact .alone hchange fun _ _ _ ↦ .failed failure lasting
  | doing hstep _ ih => exact .doing hstep ih
  | alone hstep _ ih => exact .alone hstep ih
  | giving fragment hrelease _ ih =>
    refine .giving fragment (fun scene twin hrelated ↦ ?_) ih
    obtain ⟨houtcome, hafter⟩ := hrelease scene twin hrelated
    rw [outcome_finishing, sceneAfter_finishing]
    exact ⟨houtcome, hchange _ _ hafter⟩

theorem forgets_noting (entry : ε) (scene : Scene (Recorded σ ε)) (twin : Scene σ)
    (h : Forgets scene twin) : Forgets (scene.noting entry) twin := h

theorem watched_simulates (opened closed : ε) {first : Stream (Recorded σ ε) α}
    {second : Stream σ α} (h : Simulates Forgets first second) :
    Simulates Forgets (first.watched opened closed) second :=
  .alone (forgets_noting opened) fun _ _ _ ↦ finishing_simulates (forgets_noting closed) h

end Stream

/-! ### Sources -/

/-- What closing does, with an entry for the failure that comes of it. -/
def Closing.noted (released : Option Failure → ε) (close : Closing σ) :
    Closing (Recorded σ ε) :=
  close.map fun action ↦ action.logging fun outcome _ ↦ [released (failureOf outcome)]

section Closing

variable (released : Option Failure → ε) (close : Closing σ)

theorem Closing.run_noted_some (action : Action σ Unit) :
    (Closing.noted released (some action)).run =
      action.logging fun outcome _ ↦ [released (failureOf outcome)] := rfl

theorem Closing.run_noted_simulates :
    Action.Simulates Forgets (close.noted released).run close.run := by
  cases close with
  | none => exact simulates_pure ()
  | some action =>
    rw [run_noted_some]
    exact simulates_logging

/-- Whoever closes something sees the failure that comes of it; what cannot be closed does not
fail. -/
theorem Closing.failure?_run_noted (scene : Scene (Recorded σ ε)) :
    (close.noted released).run.failure? scene =
      (close.map fun action ↦ action.failure? scene.plain).join := by
  cases close with
  | none => rfl
  | some action =>
    rw [run_noted_some, failure?_eq, outcome_logging, ← failure?_eq]
    rfl

theorem Closing.record_run_noted (scene : Scene (Recorded σ ε)) :
    (sceneAfter (close.noted released).run scene).record =
      scene.record ++
        (close.map fun action ↦ action.failure? scene.plain).toList.map released := by
  cases close with
  | none => exact (List.append_nil _).symm
  | some action =>
    rw [run_noted_some, sceneAfter_logging, Scene.record_withRecord, ← failure?_eq]
    rfl

end Closing

namespace Source

/-- What comes of closing a source behind one fragment and some more, or at its end if it comes to
that before: the failure if there is one, and nothing at all if it cannot be closed there. -/
def closedAfter : Source σ α → Nat → Scene σ → Option (Option Failure)
  | .ended close, _, scene => close.map fun action ↦ action.failure? scene
  | .failed _ _ close, _, scene => close.map fun action ↦ action.failure? scene
  | .doing change rest, more, scene => (rest scene).closedAfter more (change scene)
  | .giving _ close rest, more, scene =>
    match more with
    | 0 => close.map fun action ↦ action.failure? scene
    | more + 1 => rest.closedAfter more scene

/-- The source with an entry for every step to a further fragment, and one for its closing. -/
def following (advanced : ε) (released : Option Failure → ε) :
    Source σ α → Source (Recorded σ ε) α
  | .ended close => .ended (close.noted released)
  | .failed failure lasting close => .failed failure lasting (close.noted released)
  | .doing change rest =>
    .doing (Scene.lifting change) fun scene ↦ (rest scene.plain).following advanced released
  | .giving fragment close rest =>
    .giving fragment (close.noted released)
      (.doing (Scene.noting advanced) fun _ ↦ rest.following advanced released)

/-- The source with an entry for every step to a fragment, and one for its closing. -/
def observed (advanced : ε) (released : Option Failure → ε) (source : Source σ α) :
    Source (Recorded σ ε) α :=
  .doing (Scene.noting advanced) fun _ ↦ source.following advanced released

variable (advanced : ε) (released : Option Failure → ε)

/-- Closing a source that has come to its end leaves the entry for that, and no fragments. -/
theorem record_closing (close : Closing σ) (next : Stream (Recorded σ ε) α)
    (hnext : ∀ more scene, (next.takeSome more scene).fragments = [] ∧
      (next.takeSome more scene).scene = scene) (more : Nat) (scene : Scene (Recorded σ ε)) :
    ((Stream.ofAction (close.noted released).run fun _ ↦ next).takeSome more
        scene).scene.record = scene.record ++
          (close.map fun action ↦ action.failure? scene.plain).toList.map released ∧
      ((Stream.ofAction (close.noted released).run fun _ ↦ next).takeSome more
        scene).fragments = [] := by
  rw [Stream.takeSome_ofAction]
  have hrecord := close.record_run_noted released scene
  cases (close.noted released).run.outcome scene with
  | error failure => exact ⟨hrecord, rfl⟩
  | ok value =>
    obtain ⟨hnone, hscene⟩ := hnext more (sceneAfter (close.noted released).run scene)
    exact ⟨(congrArg Scene.record hscene).trans hrecord, hnone⟩

/-- A source is closed once, after as many further steps as further fragments are taken, or fewer if
it has come to its end. -/
theorem record_following (source : Source σ α) (more : Nat) (scene : Scene (Recorded σ ε)) :
    ∃ steps ≤ more,
      ((source.following advanced released).toStream.takeSome more scene).scene.record =
        scene.record ++ (List.replicate steps advanced ++
          (source.closedAfter more scene.plain).toList.map released) ∧
      (((source.following advanced released).toStream.takeSome more scene).fragments.length =
        more + 1 → steps = more ∧
          ((source.following advanced released).toStream.takeSome more scene).failure =
            (source.closedAfter more scene.plain).join.map Failure.leaving) := by
  induction source generalizing more scene with
  | ended close =>
    obtain ⟨hrecord, hnone⟩ := record_closing released close (.ended : Stream _ α)
      (fun _ _ ↦ ⟨rfl, rfl⟩) more scene
    refine ⟨0, Nat.zero_le more, hrecord, fun hlength ↦ ?_⟩
    rw [following, toStream, hnone] at hlength
    cases hlength
  | failed failure lasting close =>
    obtain ⟨hrecord, hnone⟩ := record_closing released close
      (.failed failure lasting : Stream _ α) (fun _ _ ↦ ⟨rfl, rfl⟩) more scene
    refine ⟨0, Nat.zero_le more, hrecord, fun hlength ↦ ?_⟩
    rw [following, toStream, hnone] at hlength
    cases hlength
  | doing change rest ih => exact ih scene.plain more (scene.lifting change)
  | giving fragment close rest ih =>
    cases more with
    | zero =>
      refine ⟨0, Nat.le_refl 0, ?_, fun _ ↦ ⟨rfl, ?_⟩⟩
      · show (sceneAfter (close.noted released).run.withinStream scene).record = _
        rw [sceneAfter_withinStream]
        exact close.record_run_noted released scene
      · show (close.noted released).run.withinStream.failure? scene = _
        rw [failure?_withinStream, close.failure?_run_noted]
        rfl
    | succ more =>
      obtain ⟨steps, hle, hrecord, hfull⟩ := ih more (scene.noting advanced)
      refine ⟨steps + 1, Nat.succ_le_succ hle, ?_, fun hlength ↦ ?_⟩
      · refine hrecord.trans ?_
        rw [Scene.record_noting, List.replicate_succ, List.append_assoc]
        rfl
      · obtain ⟨rfl, hfailure⟩ := hfull (Nat.succ.inj hlength)
        exact ⟨rfl, hfailure⟩

/-- A stream that hands on the fragments of a source has made as many steps of it as fragments are
taken if it has got as many, never more, and has closed it in any case. If it has got as many, it
fails only if the source fails to be closed. -/
theorem record_observed (source : Source σ α) (more : Nat) (scene : Scene (Recorded σ ε)) :
    ∃ steps ≤ more,
      ((source.observed advanced released).toStream.takeSome more scene).scene.record =
        scene.record ++ (List.replicate (steps + 1) advanced ++
          (source.closedAfter more scene.plain).toList.map released) ∧
      (((source.observed advanced released).toStream.takeSome more scene).fragments.length =
        more + 1 → steps = more ∧
          ((source.observed advanced released).toStream.takeSome more scene).failure =
            (source.closedAfter more scene.plain).join.map Failure.leaving) := by
  obtain ⟨steps, hle, hrecord, hfull⟩ :=
    record_following advanced released source more (scene.noting advanced)
  refine ⟨steps, hle, hrecord.trans ?_, hfull⟩
  rw [Scene.record_noting, List.replicate_succ, List.append_assoc]
  rfl

theorem forgets_lifting (change : Scene σ → Scene σ) (scene : Scene (Recorded σ ε))
    (twin : Scene σ) (h : Forgets scene twin) :
    Forgets (scene.lifting change) (change twin) := by
  subst h
  rfl

theorem toStream_following_simulates (source : Source σ α) :
    Stream.Simulates Forgets (source.following advanced released).toStream source.toStream := by
  induction source with
  | ended close =>
    exact Stream.ofAction_simulates (close.run_noted_simulates released) fun _ ↦ .ended
  | failed failure lasting close =>
    exact Stream.ofAction_simulates (close.run_noted_simulates released)
      fun _ ↦ .failed failure lasting
  | doing change rest ih =>
    refine .doing (forgets_lifting change) ?_
    rintro scene _ rfl
    exact ih scene.plain
  | giving fragment close rest ih =>
    exact .giving fragment (simulates_withinStream (close.run_noted_simulates released))
      (.alone (Stream.forgets_noting advanced) fun _ _ _ ↦ ih)

/-- Observing a source does not change what its stream delivers. -/
theorem toStream_observed_simulates (source : Source σ α) :
    Stream.Simulates Forgets (source.observed advanced released).toStream source.toStream :=
  .alone (Stream.forgets_noting advanced) fun _ _ _ ↦
    toStream_following_simulates advanced released source

end Source

end Grounding
