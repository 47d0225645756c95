import Grounding.Advisor.Retrieval
import Grounding.Proofs.Record

/-!
# Streams over different worlds

`Stream.Simulates` compares streams over different worlds step by step: they give the same fragments
and end in the same way, and from related scenes every change and every release leads to related
scenes, a release also to the same outcome. The first one may take steps of its own that cannot be
seen in the second. Such streams deliver the same when they are taken, as a whole or in part
(`drain_simulates`, `takeSome_simulates`). The lemmas beside it say that everything a chain makes of
a stream keeps the relation.

`Stream.unrecorded` and `Source.unrecorded` work on a world with a record that they leave as it is
(`Source.unrecorded_simulates`).
-/

set_option autoImplicit false
set_option relaxedAutoImplicit false

namespace Grounding

open Grounding.Action

variable {σ τ ε α β γ : Type}

namespace Stream

/-! ### Simulation -/

/-- Streams that give the same fragments and end in the same way, with changes that keep scenes
related and releases that simulate each other. The first one may change the world alone. -/
inductive Simulates (related : Scene σ → Scene τ → Prop) : Stream σ α → Stream τ α → Prop
  | ended : Simulates related .ended .ended
  | failed (failure : Failure) (lasting : failure.IsLasting) :
    Simulates related (.failed failure lasting) (.failed failure lasting)
  | doing {change : Scene σ → Scene σ} {other : Scene τ → Scene τ} {rest : Scene σ → Stream σ α}
    {follow : Scene τ → Stream τ α}
    (hchange : ∀ scene twin, related scene twin → related (change scene) (other twin))
    (hrest : ∀ scene twin, related scene twin → Simulates related (rest scene) (follow twin)) :
    Simulates related (.doing change rest) (.doing other follow)
  | alone {change : Scene σ → Scene σ} {rest : Scene σ → Stream σ α} {follow : Stream τ α}
    (hchange : ∀ scene twin, related scene twin → related (change scene) twin)
    (hrest : ∀ scene twin, related scene twin → Simulates related (rest scene) follow) :
    Simulates related (.doing change rest) follow
  | giving (fragment : α) {release : Action σ Unit} {other : Action τ Unit} {rest : Stream σ α}
    {follow : Stream τ α} (hrelease : Action.Simulates related release other)
    (hrest : Simulates related rest follow) :
    Simulates related (.giving fragment release rest) (.giving fragment other follow)

variable {related : Scene σ → Scene τ → Prop}

/-- Streams that simulate each other deliver the same from related scenes. -/
theorem drain_simulates {first : Stream σ α} {second : Stream τ α}
    (h : Simulates related first second) {scene : Scene σ} {twin : Scene τ}
    (hrelated : related scene twin) :
    (first.drain scene).fragments = (second.drain twin).fragments ∧
      (first.drain scene).failure = (second.drain twin).failure ∧
      related (first.drain scene).scene (second.drain twin).scene := by
  induction h generalizing scene twin with
  | ended => exact ⟨rfl, rfl, hrelated⟩
  | failed failure lasting => exact ⟨rfl, rfl, hrelated⟩
  | doing hchange _ ih => exact ih scene twin hrelated (hchange scene twin hrelated)
  | alone hchange _ ih => exact ih scene twin hrelated (hchange scene twin hrelated)
  | giving fragment _ _ ih =>
    obtain ⟨hfragments, hfailure, hscene⟩ := ih hrelated
    exact ⟨congrArg (fragment :: ·) hfragments, hfailure, hscene⟩

/-- Streams that simulate each other deliver the same when they are released early. -/
theorem takeSome_simulates {first : Stream σ α} {second : Stream τ α}
    (h : Simulates related first second) {scene : Scene σ} {twin : Scene τ}
    (hrelated : related scene twin) (more : Nat) :
    (first.takeSome more scene).fragments = (second.takeSome more twin).fragments ∧
      (first.takeSome more scene).failure = (second.takeSome more twin).failure ∧
      related (first.takeSome more scene).scene (second.takeSome more twin).scene := by
  induction h generalizing scene twin more with
  | ended => exact ⟨rfl, rfl, hrelated⟩
  | failed failure lasting => exact ⟨rfl, rfl, hrelated⟩
  | doing hchange _ ih => exact ih scene twin hrelated (hchange scene twin hrelated) more
  | alone hchange _ ih => exact ih scene twin hrelated (hchange scene twin hrelated) more
  | giving fragment hrelease _ ih =>
    cases more with
    | zero => exact ⟨rfl, hrelease.failure?_eq hrelated, (hrelease scene twin hrelated).2⟩
    | succ more =>
      obtain ⟨hfragments, hfailure, hscene⟩ := ih hrelated more
      exact ⟨congrArg (fragment :: ·) hfragments, hfailure, hscene⟩

theorem map_simulates {first : Stream σ α} {second : Stream τ α}
    (h : Simulates related first second) (f : α → β) :
    Simulates related (first.map f) (second.map f) := by
  induction h with
  | ended => exact .ended
  | failed failure lasting => exact .failed failure lasting
  | doing hchange _ ih => exact .doing hchange ih
  | alone hchange _ ih => exact .alone hchange ih
  | giving fragment hrelease _ ih => exact .giving (f fragment) hrelease ih

/-- Assumes: actions that simulate each other, and streams that do so for every result. -/
theorem ofAction_simulates {first : Action σ α} {second : Action τ α} {next : α → Stream σ β}
    {follow : α → Stream τ β} (h : Action.Simulates related first second)
    (hnext : ∀ value, Simulates related (next value) (follow value)) :
    Simulates related (ofAction first next) (ofAction second follow) := by
  refine .doing (fun scene twin hrelated ↦ (h scene twin hrelated).2) fun scene twin hrelated ↦ ?_
  have houtcome := (h scene twin hrelated).1
  unfold Action.outcome at houtcome
  revert houtcome
  cases first scene <;> cases second twin <;> intro houtcome
  · obtain rfl := Except.ok.inj houtcome
    exact hnext _
  · cases houtcome
  · cases houtcome
  · obtain rfl := Except.error.inj houtcome
    exact .failed _ _

/-- What is made of the result of an action can be made of it inside the stream. -/
theorem ofAction_map (action : Action σ α) (f : α → β) (next : β → Stream σ γ) :
    ofAction (action >>= fun value ↦ pure (f value)) next =
      ofAction action fun value ↦ next (f value) := by
  have hscene : sceneAfter (action >>= fun value ↦ pure (f value)) = sceneAfter action :=
    funext (sceneAfter_bind_pure action f)
  unfold ofAction
  rw [hscene]
  refine congrArg (Stream.doing _) (funext fun scene ↦ ?_)
  simp only [bind, EStateM.bind]
  cases action scene <;> rfl

end Stream

/-! ### Streams and records -/

/-- A change of the world that leaves the record as it is. -/
def Scene.lifting (change : Scene σ → Scene σ) (scene : Scene (Recorded σ ε)) :
    Scene (Recorded σ ε) :=
  (change scene.plain).withRecord scene.record

/-- A scene with a given record beside the same scene without one. -/
def Scene.HasRecord (record : List ε) (scene : Scene (Recorded σ ε)) (twin : Scene σ) : Prop :=
  scene.plain = twin ∧ scene.record = record

theorem Scene.HasRecord.eq_withRecord {record : List ε} {scene : Scene (Recorded σ ε)}
    {twin : Scene σ} (h : scene.HasRecord record twin) : scene = twin.withRecord record := by
  obtain ⟨rfl, rfl⟩ := h
  rfl

theorem Scene.HasRecord.lifting {record : List ε} {scene : Scene (Recorded σ ε)} {twin : Scene σ}
    (h : scene.HasRecord record twin) (change : Scene σ → Scene σ) :
    (scene.lifting change).HasRecord record (change twin) := by
  obtain ⟨rfl, hrecord⟩ := h
  exact ⟨rfl, hrecord⟩

/-- An action that leaves the record as it is simulates the action itself, whatever the record
is. -/
theorem Action.unrecorded_simulates (record : List ε) (action : Action σ α) :
    Action.Simulates (Scene.HasRecord record) action.unrecorded action := by
  rintro scene _ ⟨rfl, rfl⟩
  unfold unrecorded
  rw [outcome_logging, sceneAfter_logging, List.append_nil]
  exact ⟨rfl, rfl, rfl⟩

/-- What was taken from a stream, with a record in the scene left. -/
def Delivery.withRecord (delivery : Delivery σ α) (record : List ε) :
    Delivery (Recorded σ ε) α :=
  ⟨delivery.fragments, delivery.failure, delivery.scene.withRecord record⟩

/-- Assumes: a stream that simulates another one and keeps a record. Taken with this record it
delivers what the other one does, and the record is left. -/
theorem Stream.drain_of_simulates {record : List ε} {recorded : Stream (Recorded σ ε) α}
    {stream : Stream σ α} (h : Stream.Simulates (Scene.HasRecord record) recorded stream)
    (scene : Scene σ) :
    recorded.drain (scene.withRecord record) = (stream.drain scene).withRecord record := by
  have hrelated : (scene.withRecord record).HasRecord record scene := ⟨rfl, rfl⟩
  obtain ⟨hfragments, hfailure, hscene⟩ := Stream.drain_simulates h hrelated
  generalize recorded.drain (scene.withRecord record) = delivery at hfragments hfailure hscene ⊢
  unfold Delivery.withRecord
  rw [← hfragments, ← hfailure, ← hscene.eq_withRecord]

namespace Source

/-- The source on a world with a record, which it leaves as it is. -/
def unrecorded : Source σ α → Source (Recorded σ ε) α
  | .ended close => .ended (close.map Action.unrecorded)
  | .failed failure lasting close => .failed failure lasting (close.map Action.unrecorded)
  | .doing change rest => .doing (Scene.lifting change) fun scene ↦ (rest scene.plain).unrecorded
  | .giving fragment close rest => .giving fragment (close.map Action.unrecorded) rest.unrecorded

theorem run_simulates (record : List ε) (close : Closing σ) :
    Action.Simulates (Scene.HasRecord record) (Closing.run (close.map Action.unrecorded))
      close.run := by
  cases close with
  | none => exact simulates_pure ()
  | some close => exact Action.unrecorded_simulates record close

/-- The stream of a source that leaves the record as it is simulates the stream of the source
itself, whatever the record is. -/
theorem unrecorded_simulates (record : List ε) (source : Source σ α) :
    Stream.Simulates (Scene.HasRecord record) source.unrecorded.toStream source.toStream := by
  induction source with
  | ended close => exact Stream.ofAction_simulates (run_simulates record close) fun _ ↦ .ended
  | failed failure lasting close =>
    exact Stream.ofAction_simulates (run_simulates record close) fun _ ↦ .failed failure lasting
  | doing change rest ih =>
    refine .doing (fun scene twin hrelated ↦ hrelated.lifting change) ?_
    rintro scene _ ⟨rfl, -⟩
    exact ih scene.plain
  | giving fragment close rest ih =>
    exact .giving fragment (simulates_withinStream (run_simulates record close)) ih

end Source

/-! ### Relays -/

namespace RetrievalAdvisor

variable {related : Scene σ → Scene τ → Prop}

theorem relay_simulates (name : String) {first : Stream σ AdvisedResponse}
    {second : Stream τ AdvisedResponse} (h : Stream.Simulates related first second)
    (fragments : Nat) (terminal : Bool) :
    Stream.Simulates related (relay name first fragments terminal)
      (relay name second fragments terminal) := by
  induction h generalizing fragments terminal with
  | ended =>
    cases terminal with
    | true => exact .ended
    | false => exact .failed _ _
  | failed failure lasting => exact .failed failure lasting
  | doing hchange _ ih =>
    exact .doing hchange fun scene twin hrelated ↦ ih scene twin hrelated fragments terminal
  | alone hchange _ ih =>
    exact .alone hchange fun scene twin hrelated ↦ ih scene twin hrelated fragments terminal
  | giving fragment hrelease _ ih =>
    have hwithin := simulates_withinStream hrelease
    rw [relay, relay]
    split
    · cases after fragment with
      | ok shown => exact .giving shown hwithin (ih (fragments + 1) true)
      | error failure => exact Stream.ofAction_simulates hrelease fun _ ↦ .failed _ _
    · exact .giving fragment hwithin (ih (fragments + 1) terminal)

end RetrievalAdvisor

end Grounding
