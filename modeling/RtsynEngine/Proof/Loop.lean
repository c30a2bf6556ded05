import RtsynEngine.Loop
import RtsynEngine.Proof.Handlers
import RtsynEngine.Proof.Publishing

/-! The steps of the RT thread's function, one for each of its branches, and what they do to the
engine's flags and surroundings. -/

namespace RtsynEngine

variable {D : Deps}

/-- A step of the RT thread's function in the world `w`. -/
inductive RtStep (w : World D) : RtState D.limits → RtState D.limits → World D → Prop
  | enter : RtStep w .enter (.test w.getTime.1) w.getTime.2
  | leave (nextDeadlineNs : UInt64) (hstop : w.engine.flags.stopRequested = true) :
    RtStep w (.test nextDeadlineNs) .returned w
  | again (nextDeadlineNs : UInt64) (hstop : w.engine.flags.stopRequested = false) :
    RtStep w (.test nextDeadlineNs) (.cycleBegin nextDeadlineNs) w
  | cycleBegin (nextDeadlineNs : UInt64) :
    RtStep w (.cycleBegin nextDeadlineNs) (.drain nextDeadlineNs w.getTime.1 0)
      (w.getTime.2.publish (.cycleBegin w.getTime.1))
  | pop (nextDeadlineNs startedAtNs : UInt64) (i : Nat) (message : CommandMessage D.limits)
    (commands : List (CommandMessage D.limits))
    (hi : i < w.engine.config.maxCommandsPerCycle.toNat)
    (hcommands : w.commands = message :: commands) :
    RtStep w (.drain nextDeadlineNs startedAtNs i) (.dispatch nextDeadlineNs startedAtNs i message)
      { w with commands }
  | empty (nextDeadlineNs startedAtNs : UInt64) (i : Nat)
    (hi : i < w.engine.config.maxCommandsPerCycle.toNat) (hcommands : w.commands = []) :
    RtStep w (.drain nextDeadlineNs startedAtNs i) (.pauseTest nextDeadlineNs startedAtNs) w
  | spent (nextDeadlineNs startedAtNs : UInt64) (i : Nat)
    (hi : w.engine.config.maxCommandsPerCycle.toNat ≤ i) :
    RtStep w (.drain nextDeadlineNs startedAtNs i) (.pauseTest nextDeadlineNs startedAtNs) w
  | dispatch (nextDeadlineNs startedAtNs : UInt64) (i : Nat) (message : CommandMessage D.limits) :
    RtStep w (.dispatch nextDeadlineNs startedAtNs i message)
      (.drain nextDeadlineNs startedAtNs (i + 1))
      ((w.emit (.dispatched message)).dispatchCommand message).2
  | paused (nextDeadlineNs startedAtNs : UInt64) (hpaused : w.engine.flags.paused = true) :
    RtStep w (.pauseTest nextDeadlineNs startedAtNs) (.finish nextDeadlineNs startedAtNs) w
  | unpaused (nextDeadlineNs startedAtNs : UInt64) (hpaused : w.engine.flags.paused = false) :
    RtStep w (.pauseTest nextDeadlineNs startedAtNs) (.step nextDeadlineNs startedAtNs) w
  | step (nextDeadlineNs startedAtNs : UInt64) :
    RtStep w (.step nextDeadlineNs startedAtNs) (.finish nextDeadlineNs startedAtNs) w.runtimeStep
  | finish (nextDeadlineNs startedAtNs : UInt64) :
    RtStep w (.finish nextDeadlineNs startedAtNs)
      (.sleep nextDeadlineNs startedAtNs w.getTime.1 (D.periodNs w.runtime))
      (w.getTime.2.publishCycle startedAtNs w.getTime.1)
  | sleep (nextDeadlineNs startedAtNs finishedAtNs periodNs : UInt64) (hperiod : 0 < periodNs) :
    RtStep w (.sleep nextDeadlineNs startedAtNs finishedAtNs periodNs)
      (.measure (nextDeadlineNs + periodNs) startedAtNs
        (w.sleepUntil (nextDeadlineNs + periodNs)).getTime.1 periodNs)
      (w.sleepUntil (nextDeadlineNs + periodNs)).getTime.2
  | free (nextDeadlineNs startedAtNs finishedAtNs periodNs : UInt64) (hperiod : ¬0 < periodNs) :
    RtStep w (.sleep nextDeadlineNs startedAtNs finishedAtNs periodNs)
      (.measure nextDeadlineNs startedAtNs finishedAtNs periodNs) w
  | measure (nextDeadlineNs startedAtNs cycleCompletedAtNs periodNs : UInt64) :
    RtStep w (.measure nextDeadlineNs startedAtNs cycleCompletedAtNs periodNs)
      (.test nextDeadlineNs)
      (w.measureCycle nextDeadlineNs startedAtNs cycleCompletedAtNs periodNs).nextCycle

theorem World.rtThreadStep_cases {w w' : World D} {state state' : RtState D.limits}
    (h : w.rtThreadStep state = some (state', w')) : RtStep w state state' w' := by
  cases state with
  | enter =>
    cases h
    exact .enter
  | test nextDeadlineNs =>
    dsimp only [rtThreadStep] at h
    split at h
    · next hstop =>
      cases h
      exact .leave _ hstop
    · next hstop =>
      cases h
      exact .again _ (Bool.not_eq_true _ ▸ hstop)
  | cycleBegin nextDeadlineNs =>
    cases h
    exact .cycleBegin _
  | drain nextDeadlineNs startedAtNs i =>
    dsimp only [rtThreadStep, commandTryPop] at h
    split at h
    · next hi =>
      cases hcommands : w.commands with
      | nil =>
        rw [hcommands] at h
        cases h
        exact .empty _ _ _ hi hcommands
      | cons message commands =>
        rw [hcommands] at h
        cases h
        exact .pop _ _ _ _ _ hi hcommands
    · next hi =>
      cases h
      exact .spent _ _ _ (Nat.le_of_not_lt hi)
  | dispatch nextDeadlineNs startedAtNs i message =>
    cases h
    exact .dispatch _ _ _ _
  | pauseTest nextDeadlineNs startedAtNs =>
    dsimp only [rtThreadStep] at h
    split at h
    · next hpaused =>
      cases h
      exact .paused _ _ hpaused
    · next hpaused =>
      cases h
      exact .unpaused _ _ (Bool.not_eq_true _ ▸ hpaused)
  | step nextDeadlineNs startedAtNs =>
    cases h
    exact .step _ _
  | finish nextDeadlineNs startedAtNs =>
    cases h
    exact .finish _ _
  | sleep nextDeadlineNs startedAtNs finishedAtNs periodNs =>
    dsimp only [rtThreadStep] at h
    split at h
    · next hperiod =>
      cases h
      exact .sleep _ _ _ _ hperiod
    · next hperiod =>
      cases h
      exact .free _ _ _ _ hperiod
  | measure nextDeadlineNs startedAtNs cycleCompletedAtNs periodNs =>
    cases h
    exact .measure _ _ _ _
  | returned => cases h

theorem World.rtThreadStep_isSome (w : World D) {state : RtState D.limits}
    (h : state ≠ .returned) : (w.rtThreadStep state).isSome = true := by
  cases state with
  | returned => exact absurd rfl h
  | test nextDeadlineNs =>
    dsimp only [rtThreadStep]
    split <;> rfl
  | drain nextDeadlineNs startedAtNs i =>
    dsimp only [rtThreadStep]
    split
    · split <;> rfl
    · rfl
  | pauseTest nextDeadlineNs startedAtNs =>
    dsimp only [rtThreadStep]
    split <;> rfl
  | sleep nextDeadlineNs startedAtNs finishedAtNs periodNs =>
    dsimp only [rtThreadStep]
    split <;> rfl
  | _ => rfl

/-- What the next step of an RT thread does to the flags. -/
def RtState.flags {L : Limits} (state : RtState L) (f : Flags) : Flags :=
  match state with
  | .dispatch _ _ _ m => m.data.flags f
  | _ => f

theorem Publishes.flags {pushed : TelemetryData → Prop} {w w' : World D}
    (h : Publishes pushed w w') : w'.engine.flags = w.engine.flags := by
  rw [h.engine]

namespace World

theorem publish_flags (w : World D) (call : PublisherCall D.limits) :
    (w.publish call).engine.flags = w.engine.flags := by
  have hpublishes : Publishes (fun _ => True) w (w.publish call) :=
    w.publish_publishes call fun _ _ => trivial
  exact hpublishes.flags

theorem publishCycle_flags (w : World D) (startedAtNs finishedAtNs : UInt64) :
    (w.publishCycle startedAtNs finishedAtNs).engine.flags = w.engine.flags := by
  have hvalues := w.publish_flags (.requestedValues finishedAtNs)
  have hend := publish_flags (w.publish (.requestedValues finishedAtNs))
    (.cycleEnd startedAtNs finishedAtNs)
  exact (publish_flags _ (.dropped finishedAtNs)).trans (hend.trans hvalues)

theorem measureCycle_flags (w : World D)
    (nextDeadlineNs startedAtNs cycleCompletedAtNs periodNs : UInt64) :
    (w.measureCycle nextDeadlineNs startedAtNs cycleCompletedAtNs periodNs).engine.flags =
      w.engine.flags := by
  unfold measureCycle
  split
  · rfl
  · exact publish_flags _ (.measurement cycleCompletedAtNs (some _))

theorem publish_runtime (w : World D) (call : PublisherCall D.limits) :
    (w.publish call).runtime = w.runtime := by
  have hpublishes : Publishes (fun _ => True) w (w.publish call) :=
    w.publish_publishes call fun _ _ => trivial
  exact hpublishes.runtime

theorem publish_env (w : World D) (call : PublisherCall D.limits) :
    (w.publish call).env = w.env := by
  have hpublishes : Publishes (fun _ => True) w (w.publish call) :=
    w.publish_publishes call fun _ _ => trivial
  exact hpublishes.env

theorem publishCycle_runtime (w : World D) (startedAtNs finishedAtNs : UInt64) :
    (w.publishCycle startedAtNs finishedAtNs).runtime = w.runtime := by
  have hvalues := w.publish_runtime (.requestedValues finishedAtNs)
  have hend := publish_runtime (w.publish (.requestedValues finishedAtNs))
    (.cycleEnd startedAtNs finishedAtNs)
  exact (publish_runtime _ (.dropped finishedAtNs)).trans (hend.trans hvalues)

theorem publishCycle_env (w : World D) (startedAtNs finishedAtNs : UInt64) :
    (w.publishCycle startedAtNs finishedAtNs).env = w.env := by
  have hvalues := w.publish_env (.requestedValues finishedAtNs)
  have hend := publish_env (w.publish (.requestedValues finishedAtNs))
    (.cycleEnd startedAtNs finishedAtNs)
  exact (publish_env _ (.dropped finishedAtNs)).trans (hend.trans hvalues)

theorem measureCycle_runtime (w : World D)
    (nextDeadlineNs startedAtNs cycleCompletedAtNs periodNs : UInt64) :
    (w.measureCycle nextDeadlineNs startedAtNs cycleCompletedAtNs periodNs).runtime =
      w.runtime := by
  unfold measureCycle
  split
  · rfl
  · exact publish_runtime _ (.measurement cycleCompletedAtNs (some _))

theorem rtThreadStep_flags {w w' : World D} {state state' : RtState D.limits}
    (h : w.rtThreadStep state = some (state', w')) :
    w'.engine.flags = state.flags w.engine.flags := by
  cases rtThreadStep_cases h with
  | cycleBegin nextDeadlineNs => exact publish_flags _ (.cycleBegin _)
  | dispatch nextDeadlineNs startedAtNs i message => exact dispatch_flags _ message
  | finish nextDeadlineNs startedAtNs => exact publishCycle_flags _ _ _
  | measure nextDeadlineNs startedAtNs cycleCompletedAtNs periodNs =>
    exact w.measureCycle_flags nextDeadlineNs startedAtNs cycleCompletedAtNs periodNs
  | _ => rfl

end World

theorem RtState.flags_frame {L : Limits} (state : RtState L) (f : Flags) :
    (state.flags f).running = f.running ∧ (state.flags f).started = f.started ∧
      (state.flags f).rtJoined = f.rtJoined ∧ (state.flags f).waitJoined = f.waitJoined := by
  unfold RtState.flags
  split
  · unfold CommandData.flags
    split
    · split <;> exact ⟨rfl, rfl, rfl, rfl⟩
    · exact ⟨rfl, rfl, rfl, rfl⟩
  · exact ⟨rfl, rfl, rfl, rfl⟩

end RtsynEngine
