import RtsynEngine.Proof.Cycles
import RtsynEngine.Proof.Unseen

/-! What the RT loop shares with the other threads, the flags and the command queue, is read in
three places only: at the head of the loop, at a pop and before the step.  Everything else it does,
it does in the same way whatever the others store and push meanwhile. -/

namespace RtsynEngine

variable {D : Deps}

namespace World

/-- The same world with other flags and other commands pending. -/
def withShared (w : World D) (flags : Flags) (commands : List (CommandMessage D.limits)) :
    World D :=
  { w with engine := { w.engine with flags }, commands }

theorem keepsGraph_withShared (f : Flags) (cs : List (CommandMessage D.limits)) :
    KeepsGraph fun w : World D => w.withShared f cs where
  runtime _ := rfl
  env _ := rfl
  results _ := rfl
  loadedNodes _ := rfl
  resultQueue _ := rfl
  setRuntime _ _ := rfl
  setEnv _ _ := rfl
  setResults _ _ := rfl
  emit _ _ := rfl
  setLoadedNodes _ _ := rfl
  setRtThreadPriority w priority := by
    unfold setRtThreadPriority
    split <;> rfl

/-- The handlers read neither the flags nor the queue of commands. -/
theorem dispatchCommand_withShared (w : World D) (f : Flags) (cs : List (CommandMessage D.limits))
    (m : CommandMessage D.limits) :
    (w.withShared f cs).dispatchCommand m =
      ((w.dispatchCommand m).1, (w.dispatchCommand m).2.withShared (m.data.flags f) cs) := by
  have hgraph := (keepsGraph_withShared f cs).dispatchCommand w m
  obtain ⟨seq, data⟩ := m
  cases data with
  | globalCommand command =>
    dsimp only [dispatchCommand, eventGlobalCommand, CommandData.flags]
    cases GlobalCommand.ofField command <;> rfl
  | requestPortValues | requestPortVariables => rfl
  | setRuntimeDeadlineTolerance => rfl
  | _ => exact hgraph rfl

theorem eventPushTelemetry_withShared (w : World D) (f : Flags)
    (cs : List (CommandMessage D.limits)) (m : TelemetryMessage) :
    (w.withShared f cs).eventPushTelemetry m =
      ((w.eventPushTelemetry m).1, (w.eventPushTelemetry m).2.withShared f cs) := by
  have hconfig : (w.withShared f cs).engine.config = w.engine.config := rfl
  have hqueue : (w.withShared f cs).telemetry = w.telemetry := rfl
  unfold eventPushTelemetry
  dsimp only [nextTelemetrySeq]
  rw [hconfig, hqueue]
  split
  · rfl
  · dsimp only [withShared]
    split <;> rfl

theorem eventPublishValues_withShared (w : World D) (f : Flags)
    (cs : List (CommandMessage D.limits)) (timestampNs : UInt64) (nodeId : UInt32)
    (source : TelemetrySource) (samples : Option (List (Sample D.limits))) :
    (w.withShared f cs).eventPublishValues timestampNs nodeId source samples =
      ((w.eventPublishValues timestampNs nodeId source samples).1,
        (w.eventPublishValues timestampNs nodeId source samples).2.withShared f cs) := by
  have hconfig : (w.withShared f cs).engine.config = w.engine.config := rfl
  have hqueue : (w.withShared f cs).telemetry = w.telemetry := rfl
  unfold eventPublishValues
  split
  · rfl
  · dsimp only [nextTelemetrySeq]
    rw [hconfig, hqueue]
    split
    · rfl
    · dsimp only [withShared]
      split <;> rfl

theorem publishSlot_withShared (f : Flags) (cs : List (CommandMessage D.limits))
    (timestampNs : UInt64) (r : Bool × World D) (i : Fin D.limits.subscriptionCapacity) :
    publishSlot timestampNs (r.1, r.2.withShared f cs) i =
      ((publishSlot timestampNs r i).1, (publishSlot timestampNs r i).2.withShared f cs) := by
  obtain ⟨published, w⟩ := r
  unfold publishSlot
  dsimp only
  have htable : (w.withShared f cs).engine.telemetrySubscriptions =
      w.engine.telemetrySubscriptions := rfl
  have hsource : (w.withShared f cs).getNodeSource = w.getNodeSource := rfl
  have hbatch : (w.withShared f cs).requestedBatch = w.requestedBatch := rfl
  rw [htable, hsource, hbatch, eventPublishValues_withShared]
  split
  · rfl
  · split
    · rfl
    · split <;> rfl

theorem publish_withShared (w : World D) (f : Flags) (cs : List (CommandMessage D.limits))
    (call : PublisherCall D.limits) :
    (w.withShared f cs).publish call = (w.publish call).withShared f cs := by
  cases call with
  | push m => exact congrArg Prod.snd (w.eventPushTelemetry_withShared f cs m)
  | cycleBegin | cycleEnd => exact congrArg Prod.snd (w.eventPushTelemetry_withShared f cs _)
  | measurement timestampNs metrics =>
    cases metrics with
    | none => rfl
    | some metrics => exact congrArg Prod.snd (w.eventPushTelemetry_withShared f cs _)
  | dropped timestampNs =>
    have hengine : (w.withShared f cs).engine = { w.engine with flags := f } := rfl
    dsimp only [publish, eventPublishDropped]
    rw [hengine]
    dsimp only
    split
    · rfl
    · exact congrArg Prod.snd (w.eventPushTelemetry_withShared f cs _)
  | values timestampNs nodeId source samples =>
    exact congrArg Prod.snd (w.eventPublishValues_withShared f cs timestampNs nodeId source samples)
  | requestedValues timestampNs =>
    have hslots : ∀ (is : List (Fin D.limits.subscriptionCapacity)) (r : Bool × World D),
        (is.foldl (publishSlot timestampNs) (r.1, r.2.withShared f cs)).2 =
          (is.foldl (publishSlot timestampNs) r).2.withShared f cs := by
      intro is
      induction is with
      | nil => exact fun r => rfl
      | cons i is ih =>
        intro r
        rw [List.foldl_cons, List.foldl_cons, publishSlot_withShared, ih]
    exact hslots _ (true, w)

theorem publishCycle_withShared (w : World D) (f : Flags) (cs : List (CommandMessage D.limits))
    (startedAtNs finishedAtNs : UInt64) :
    (w.withShared f cs).publishCycle startedAtNs finishedAtNs =
      (w.publishCycle startedAtNs finishedAtNs).withShared f cs := by
  have hcalls : ∀ w : World D, w.publishCycle startedAtNs finishedAtNs =
      ((w.publish (.requestedValues finishedAtNs)).publish
        (.cycleEnd startedAtNs finishedAtNs)).publish (.dropped finishedAtNs) := fun _ => rfl
  rw [hcalls, hcalls, publish_withShared, publish_withShared, publish_withShared]

theorem measureCycle_withShared (w : World D) (f : Flags) (cs : List (CommandMessage D.limits))
    (deadline started completed period : UInt64) :
    (w.withShared f cs).measureCycle deadline started completed period =
      (w.measureCycle deadline started completed period).withShared f cs := by
  have henv : (w.withShared f cs).env = w.env := rfl
  unfold measureCycle
  rw [henv]
  split
  · rfl
  · next metrics env hcycle =>
    exact publish_withShared { w with env } f cs (.measurement completed (some _))

end World

/-- The places of the loop at which its next step reads a flag or the command queue. -/
def RtState.reads {L : Limits} : RtState L → Bool
  | .test _ | .drain _ _ _ | .pauseTest _ _ => true
  | _ => false

namespace World

variable {w w' : World D} {state state' : RtState D.limits}

theorem rtThreadStep_withShared (hreads : state.reads = false)
    (h : w.rtThreadStep state = some (state', w')) (f : Flags)
    (cs : List (CommandMessage D.limits)) :
    (w.withShared f cs).rtThreadStep state = some (state', w'.withShared (state.flags f) cs) := by
  cases state with
  | enter | step =>
    cases h
    rfl
  | cycleBegin deadline =>
    cases h
    have hpublish := w.getTime.2.publish_withShared f cs (.cycleBegin w.getTime.1)
    exact congrArg (fun w' => some (RtState.drain deadline w.getTime.1 0, w')) hpublish
  | dispatch deadline started i m =>
    cases h
    have hdispatch := (w.emit (.dispatched m)).dispatchCommand_withShared f cs m
    exact congrArg (fun r => some (RtState.drain deadline started (i + 1), r.2)) hdispatch
  | finish deadline started =>
    cases h
    have hpublish := w.getTime.2.publishCycle_withShared f cs started w.getTime.1
    exact congrArg
      (fun w' => some (RtState.sleep deadline started w.getTime.1 (D.periodNs w.runtime), w'))
      hpublish
  | sleep deadline started finished period =>
    dsimp only [rtThreadStep] at h ⊢
    split at h
    · next hpositive =>
      rw [if_pos hpositive]
      cases h
      rfl
    · next hzero =>
      rw [if_neg hzero]
      cases h
      rfl
  | measure deadline started completed period =>
    cases h
    have hmeasure := w.measureCycle_withShared f cs deadline started completed period
    exact congrArg (fun w' : World D => some (RtState.test deadline, w'.nextCycle)) hmeasure
  | test | drain | pauseTest => cases hreads
  | returned => cases h

theorem rtThreadStep_commands (hreads : state.reads = false)
    (h : w.rtThreadStep state = some (state', w')) : w'.commands = w.commands := by
  have hcommands := (rtThreadStep_loopStep h).commands
  cases rtThreadStep_cases h with
  | leave | again | pop | empty | spent | paused | unpaused => cases hreads
  | _ => exact hcommands.symm

end World

/-- The flags after another thread may have asked for the stop. -/
def Flags.asked (f : Flags) (stop : Bool) : Flags :=
  { f with stopRequested := stop || f.stopRequested }

theorem CommandData.flags_asked {L : Limits} (data : CommandData L) (f : Flags) (stop : Bool) :
    data.flags (f.asked stop) = (data.flags f).asked stop := by
  cases data with
  | globalCommand command =>
    dsimp only [CommandData.flags]
    cases GlobalCommand.ofField command <;> simp [Flags.asked]
  | _ => rfl

theorem RtState.flags_asked {L : Limits} (state : RtState L) (f : Flags) (stop : Bool) :
    state.flags (f.asked stop) = (state.flags f).asked stop := by
  cases state with
  | dispatch deadline started i m => exact m.data.flags_asked f stop
  | _ => rfl

namespace World

variable {w w' : World D} {state state' : RtState D.limits}

/-- Another thread may have asked for the stop. -/
def asked (w : World D) (stop : Bool) : World D := w.setFlags (w.engine.flags.asked stop)

/-- A client has pushed a command. -/
def pushed (w : World D) (m : CommandMessage D.limits) : World D :=
  { w with commands := w.commands ++ [m] }

/-- Where the loop does not test for the stop, its step is the same after a request. -/
theorem rtThreadStep_asked (hhead : ∀ deadline, state ≠ .test deadline)
    (h : w.rtThreadStep state = some (state', w')) (stop : Bool) :
    (w.asked stop).rtThreadStep state = some (state', w'.asked stop) := by
  cases hreads : state.reads with
  | false =>
    have hflags : w'.engine.flags = state.flags w.engine.flags := rtThreadStep_flags h
    have hcommands : w'.commands = w.commands := rtThreadStep_commands hreads h
    have hstep : (w.withShared (w.engine.flags.asked stop) w.commands).rtThreadStep state =
        some (state', w'.withShared (w'.engine.flags.asked stop) w'.commands) := by
      rw [hflags, hcommands, ← state.flags_asked]
      exact rtThreadStep_withShared hreads h _ _
    exact hstep
  | true =>
    cases state with
    | test deadline => exact absurd rfl (hhead deadline)
    | drain deadline started i =>
      have hcommands : (w.asked stop).commands = w.commands := rfl
      have hconfig : (w.asked stop).engine.config = w.engine.config := rfl
      dsimp only [rtThreadStep, commandTryPop] at h ⊢
      rw [hcommands, hconfig]
      split at h
      · next hi =>
        rw [if_pos hi]
        cases hqueue : w.commands with
        | nil =>
          rw [hqueue] at h
          cases h
          rfl
        | cons m commands =>
          rw [hqueue] at h
          cases h
          rfl
      · next hi =>
        rw [if_neg hi]
        cases h
        rfl
    | pauseTest deadline started =>
      have hpaused : (w.asked stop).engine.flags.paused = w.engine.flags.paused := rfl
      dsimp only [rtThreadStep] at h ⊢
      rw [hpaused]
      split at h
      · next hi =>
        rw [if_pos hi]
        cases h
        rfl
      · next hi =>
        rw [if_neg hi]
        cases h
        rfl
    | _ => cases hreads

/-- Where the loop does not find the command queue empty, its step is the same after a push. -/
theorem rtThreadStep_pushed (hempty : state.findsEmpty w = false)
    (h : w.rtThreadStep state = some (state', w')) (m : CommandMessage D.limits) :
    (w.pushed m).rtThreadStep state = some (state', w'.pushed m) := by
  have hflags : (w.pushed m).engine.flags = w.engine.flags := rfl
  cases hreads : state.reads with
  | false =>
    have hflags' : w'.engine.flags = state.flags w.engine.flags := rtThreadStep_flags h
    have hcommands : w'.commands = w.commands := rtThreadStep_commands hreads h
    have hstep : (w.withShared w.engine.flags (w.commands ++ [m])).rtThreadStep state =
        some (state', w'.withShared w'.engine.flags (w'.commands ++ [m])) := by
      rw [hflags', hcommands]
      exact rtThreadStep_withShared hreads h _ _
    exact hstep
  | true =>
    cases state with
    | test deadline =>
      dsimp only [rtThreadStep] at h ⊢
      rw [hflags]
      split at h
      · next hstop =>
        rw [if_pos hstop]
        cases h
        rfl
      · next hgo =>
        rw [if_neg hgo]
        cases h
        rfl
    | drain deadline started i =>
      have hcommands : (w.pushed m).commands = w.commands ++ [m] := rfl
      have hconfig : (w.pushed m).engine.config = w.engine.config := rfl
      dsimp only [rtThreadStep, commandTryPop] at h ⊢
      rw [hcommands, hconfig]
      split at h
      · next hi =>
        rw [if_pos hi]
        cases hqueue : w.commands with
        | nil =>
          simp [RtState.findsEmpty, hi, hqueue] at hempty
        | cons m' commands =>
          rw [hqueue] at h
          cases h
          rfl
      · next hi =>
        rw [if_neg hi]
        cases h
        rfl
    | pauseTest deadline started =>
      dsimp only [rtThreadStep] at h ⊢
      rw [hflags]
      split at h
      · next hi =>
        rw [if_pos hi]
        cases h
        rfl
      · next hi =>
        rw [if_neg hi]
        cases h
        rfl
    | _ => cases hreads

end World

end RtsynEngine
