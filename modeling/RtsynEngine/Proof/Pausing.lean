import RtsynEngine.Proof.Sharing

/-! The pause flag over a run of the RT loop: whether a cycle steps the runtime is decided by the
last `PAUSE` or `RESUME` that the run has dispatched, and all else of a paused cycle goes on. -/

namespace RtsynEngine

open Handle Transition History

variable {D : Deps} {L : Limits}

/-- What a command stores in the pause flag: `PAUSE` and `RESUME` do, and no other. -/
def CommandData.pauses : CommandData L → Option Bool
  | .globalCommand command =>
    match GlobalCommand.ofField command with
    | .pause => some true
    | .resume => some false
    | _ => .none
  | _ => .none

/-- Whether the last `PAUSE` or `RESUME` of some commands is a `PAUSE`. -/
def lastPauses (ms : List (CommandMessage L)) : Bool :=
  (ms.filterMap (·.data.pauses)).getLast?.getD false

theorem lastPauses_append_singleton (ms : List (CommandMessage L)) (m : CommandMessage L) :
    lastPauses (ms ++ [m]) = m.data.pauses.getD (lastPauses ms) := by
  unfold lastPauses
  rw [List.filterMap_append]
  cases hm : m.data.pauses <;> simp [hm]

theorem CommandData.flags_paused (data : CommandData L) (f : Flags) :
    (data.flags f).paused = data.pauses.getD f.paused := by
  cases data with
  | globalCommand command =>
    dsimp only [flags, pauses]
    cases GlobalCommand.ofField command <;> rfl
  | _ => rfl

/-- The commands that a cycle has dispatched, oldest first. -/
def CycleRun.commands (c : CycleRun D) : List (CommandMessage D.limits) :=
  dispatchedCommands c.events

def commandsOf (cycles : List (CycleRun D)) : List (CommandMessage D.limits) :=
  cycles.flatMap CycleRun.commands

/-- An attempt to send a message with such a body. -/
def Attempted (sent : TelemetryData → Prop) (events : List (Event L)) : Prop :=
  ∃ m accepted, .telemetryPush m accepted ∈ events ∧ sent m.data

theorem Attempted.mono {sent : TelemetryData → Prop} {events events' : List (Event L)}
    (h : Attempted sent events) (hsub : events ⊆ events') : Attempted sent events' := by
  obtain ⟨m, accepted, hmem, hsent⟩ := h
  exact ⟨m, accepted, hsub hmem, hsent⟩

/-- The cycle attempts its `CYCLE_BEGIN`, if telemetry is configured. -/
def CycleRun.Begins (telemetry : Bool) (c : CycleRun D) : Prop :=
  telemetry = true → Attempted (fun data => ∃ timestampNs, data = .cycleBegin c.cycleId timestampNs)
    c.events

/-- The cycle attempts its `CYCLE_END`, if telemetry is configured. -/
def CycleRun.Ends (telemetry : Bool) (c : CycleRun D) : Prop :=
  telemetry = true → Attempted (fun data => ∃ startedAtNs finishedAtNs,
    data = .cycleEnd c.cycleId startedAtNs finishedAtNs) c.events

/-- The cycle dispatches commands until the queue is empty or the budget spent. -/
structure CycleRun.Drains (budget : Nat) (c : CycleRun D) : Prop where
  within : c.commands.length ≤ budget
  exhausts : c.commands.length = budget ∨ c.foundEmpty = true

/-- Commands dispatched one after the other. -/
def World.dispatchEach (w : World D) (ms : List (CommandMessage D.limits)) : World D :=
  ms.foldl (fun w m => ((w.emit (.dispatched m)).dispatchCommand m).2) w

/-- The drain does to the runtime and the environment what the cycle's commands do. -/
structure CycleRun.Drained (c : CycleRun D) : Prop where
  runtime : c.drained.runtime = (c.began.dispatchEach c.commands).runtime
  env : c.drained.env = (c.began.dispatchEach c.commands).env

/-- What the cycle does to the runtime: its commands, then one step, or none if it is paused.  It
begins with the runtime that the cycle before it has left. -/
structure CycleRun.Executes (paused : Bool) (before : List (CycleRun D)) (c : CycleRun D) :
    Prop where
  began : ∀ b, before.getLast? = some b → c.began.runtime = b.left.runtime
  drained : c.Drained
  worked : (c.worked.runtime, c.worked.env) =
    if paused then (c.drained.runtime, c.drained.env)
    else D.step c.drained.runtime c.drained.env
  left : c.left.runtime = c.worked.runtime

/-- The law of a completed cycle, after the ones `before` it in its run. -/
structure PauseLaw (budget : Nat) (telemetry : Bool) (before : List (CycleRun D))
    (c : CycleRun D) : Prop where
  executes : c.Executes (lastPauses (commandsOf (before ++ [c]))) before
  steps : runtimeSteps c.events = if lastPauses (commandsOf (before ++ [c])) then 0 else 1
  drains : c.Drains budget
  begins : c.Begins telemetry
  ends : c.Ends telemetry
  nextCycleId : c.nextCycleId = c.cycleId + 1

/-! ### The stages of a cycle -/

/-- The budget and the telemetry queue of the engine. -/
def Configured (budget : Nat) (telemetry : Bool) (w : World D) : Prop :=
  w.engine.config.maxCommandsPerCycle.toNat = budget ∧ w.engine.config.telemetryQueue = telemetry

/-- A cycle that has begun. -/
structure Begun (telemetry : Bool) (w : World D) (before : List (CycleRun D))
    (c : CycleRun D) : Prop where
  cycleId : c.cycleId = w.engine.cycleId
  begins : c.Begins telemetry
  paused : w.engine.flags.paused = lastPauses (commandsOf (before ++ [c]))
  began : ∀ b, before.getLast? = some b → c.began.runtime = b.left.runtime

/-- The drain has come to `w`, but for what other threads have stored and pushed. -/
def CycleRun.DrainsTo (c : CycleRun D) (w : World D) : Prop :=
  ∃ f cs, w = (c.began.dispatchEach c.commands).withShared f cs

/-- The cycle's work is done in `w`. -/
def CycleRun.WorksTo (paused : Bool) (c : CycleRun D) (w : World D) : Prop :=
  (w.runtime, w.env) =
    if paused then (c.drained.runtime, c.drained.env)
    else D.step c.drained.runtime c.drained.env

/-- The stage of a cycle, by the state of the loop. -/
def CycleRun.PauseStage (budget : Nat) (telemetry paused : Bool) (w : World D) (c : CycleRun D) :
    RtState D.limits → Prop
  | .drain _ _ i =>
    runtimeSteps c.events = 0 ∧ c.commands.length = i ∧ i ≤ budget ∧ c.DrainsTo w
  | .dispatch _ _ i _ =>
    runtimeSteps c.events = 0 ∧ c.commands.length = i ∧ i < budget ∧ c.DrainsTo w
  | .pauseTest _ _ => runtimeSteps c.events = 0 ∧ c.Drains budget ∧ c.DrainsTo w
  | .step _ _ => runtimeSteps c.events = 0 ∧ c.Drains budget ∧ paused = false ∧ c.Drained ∧
    w.runtime = c.drained.runtime ∧ w.env = c.drained.env
  | .finish _ _ => runtimeSteps c.events = (if paused then 0 else 1) ∧ c.Drains budget ∧
    c.Drained ∧ c.WorksTo paused w
  | .sleep _ _ _ _ | .measure _ _ _ _ =>
    runtimeSteps c.events = (if paused then 0 else 1) ∧ c.Drains budget ∧ c.Drained ∧
      c.WorksTo paused c.worked ∧ w.runtime = c.worked.runtime ∧ c.Ends telemetry
  | _ => True

/-- The stage of a run of the loop. -/
def PauseStage (budget : Nat) (telemetry : Bool) (w : World D) (state : RtState D.limits)
    (r : LoopRun D) : Prop :=
  match state with
  | .enter | .returned => True
  | .test _ | .cycleBegin _ =>
    r.current = none ∧ w.engine.flags.paused = lastPauses (commandsOf r.cycles) ∧
      ∀ b, r.cycles.getLast? = some b → w.runtime = b.left.runtime
  | state => ∃ c, r.current = some c ∧ Begun telemetry w r.cycles c ∧
    c.PauseStage budget telemetry w.engine.flags.paused w state

/-- What a step within a cycle does to the cycle's record. -/
structure Extends (state : RtState D.limits) (c c' : CycleRun D) : Prop where
  steps : runtimeSteps c'.events = runtimeSteps c.events + state.steps
  commands : c'.commands = c.commands ++ state.inFlight
  attempted {sent : TelemetryData → Prop} : Attempted sent c.events → Attempted sent c'.events

theorem CycleRun.extended_extends (c : CycleRun D) {w w' : World D}
    {state state' : RtState D.limits} (hstep : w.rtThreadStep state = some (state', w')) :
    Extends state c (c.extended w state w') := by
  obtain ⟨⟨events, htrace, hemits⟩, -, -, -⟩ := World.rtThreadStep_loopStep hstep
  have hevents : (c.extended w state w').events = c.events ++ events :=
    congrArg (c.events ++ ·) (World.added_eq htrace)
  constructor
  · rw [hevents, runtimeSteps, List.countP_append, ← runtimeSteps, ← runtimeSteps, hemits.steps]
  · rw [commands, hevents, dispatchedCommands, List.filterMap_append, ← dispatchedCommands,
      ← dispatchedCommands, hemits.commands]
    rfl
  · intro sent h
    rw [hevents]
    exact h.mono (List.subset_append_left _ _)

section Extended

variable {budget : Nat} {telemetry : Bool} {w w' : World D} {before : List (CycleRun D)}
  {c : CycleRun D} {state state' : RtState D.limits}

theorem paused_extended (hpaused : w.engine.flags.paused = lastPauses (commandsOf (before ++ [c])))
    (hstep : w.rtThreadStep state = some (state', w')) :
    w'.engine.flags.paused = lastPauses (commandsOf (before ++ [c.extended w state w'])) := by
  have hcommands : commandsOf (before ++ [c.extended w state w']) =
      commandsOf (before ++ [c]) ++ state.inFlight := by
    simp [commandsOf, (c.extended_extends hstep).commands]
  rw [World.rtThreadStep_flags hstep, hcommands]
  cases state with
  | dispatch nextDeadlineNs startedAtNs i m =>
    change (m.data.flags _).paused = lastPauses (_ ++ [m])
    rw [lastPauses_append_singleton, CommandData.flags_paused, hpaused]
  | _ => simpa [RtState.flags, RtState.inFlight] using hpaused

theorem Begun.extended (h : Begun telemetry w before c)
    (hstep : w.rtThreadStep state = some (state', w')) (hcycles : state.cycles = 0) :
    Begun telemetry w' before (c.extended w state w') := by
  have hcycleId : w'.engine.cycleId = w.engine.cycleId := by
    rw [(World.rtThreadStep_loopStep hstep).cycleId, hcycles]
    exact UInt64.add_zero _
  have hbegins : (c.extended w state w').Begins telemetry := fun htelemetry =>
    (c.extended_extends hstep).attempted (h.begins htelemetry)
  exact ⟨h.cycleId.trans hcycleId.symm, hbegins, paused_extended h.paused hstep, h.began⟩

theorem CycleRun.Drains.extended (h : c.Drains budget)
    (hstep : w.rtThreadStep state = some (state', w')) (hinFlight : state.inFlight = []) :
    (c.extended w state w').Drains budget := by
  have hcommands : (c.extended w state w').commands = c.commands := by
    rw [(c.extended_extends hstep).commands, hinFlight, List.append_nil]
  refine ⟨by rw [hcommands]; exact h.within, ?_⟩
  rw [hcommands]
  exact h.exhausts.imp_right fun hfound => by simp [CycleRun.extended, hfound]

theorem CycleRun.Drained.extended (h : c.Drained)
    (hstep : w.rtThreadStep state = some (state', w')) (hinFlight : state.inFlight = [])
    (hdrained : (c.extended w state w').drained = c.drained) : (c.extended w state w').Drained := by
  have hcommands : (c.extended w state w').commands = c.commands := by
    rw [(c.extended_extends hstep).commands, hinFlight, List.append_nil]
  exact ⟨by rw [hdrained, hcommands]; exact h.runtime, by rw [hdrained, hcommands]; exact h.env⟩

theorem CycleRun.DrainsTo.drained (h : c.DrainsTo w)
    (hcommands : (c.extended w state w').commands = c.commands)
    (hdrained : (c.extended w state w').drained = w) : (c.extended w state w').Drained := by
  obtain ⟨f, cs, hw⟩ := h
  have hbegan : (c.extended w state w').began = c.began := rfl
  exact ⟨by rw [hdrained, hbegan, hcommands, hw]; rfl, by rw [hdrained, hbegan, hcommands, hw]; rfl⟩

theorem CycleRun.Ends.extended (h : c.Ends telemetry)
    (hstep : w.rtThreadStep state = some (state', w')) :
    (c.extended w state w').Ends telemetry := fun htelemetry =>
  (c.extended_extends hstep).attempted (h htelemetry)

end Extended

namespace World

theorem cycleBegin_attempted (w : World D) (htelemetry : w.engine.config.telemetryQueue = true)
    (timestampNs : UInt64) :
    Attempted (fun data => ∃ timestampNs, data = .cycleBegin w.engine.cycleId timestampNs)
      (w.added (w.publish (.cycleBegin timestampNs))) := by
  rcases w.eventPushTelemetry_sent (telemetryMessage timestampNs
    (.cycleBegin w.engine.cycleId timestampNs)) with ⟨hnone, -⟩ | ⟨m, accepted, htrace, hdata, -⟩
  · rw [htelemetry] at hnone
    cases hnone
  · have hadded : w.added (w.publish (.cycleBegin timestampNs)) = [.telemetryPush m accepted] :=
      added_eq htrace
    rw [hadded]
    exact ⟨m, accepted, List.mem_singleton_self _, timestampNs, hdata⟩

theorem publishCycle_attempted (w : World D) (htelemetry : w.engine.config.telemetryQueue = true)
    (startedAtNs finishedAtNs : UInt64) :
    Attempted (fun data => ∃ startedAtNs finishedAtNs,
        data = .cycleEnd w.engine.cycleId startedAtNs finishedAtNs)
      (w.added (w.publishCycle startedAtNs finishedAtNs)) := by
  let w₁ := w.publish (.requestedValues finishedAtNs)
  let w₂ := w₁.publish (.cycleEnd startedAtNs finishedAtNs)
  obtain ⟨values, hvalues, -⟩ := w.publish_trace (.requestedValues finishedAtNs)
  obtain ⟨drops, hdrops, -⟩ := w₂.publish_trace (.dropped finishedAtNs)
  obtain ⟨-, hconfig, hcycleId⟩ := w.publish_kept (.requestedValues finishedAtNs)
  rcases w₁.eventPushTelemetry_sent (telemetryMessage finishedAtNs
    (.cycleEnd w₁.engine.cycleId startedAtNs finishedAtNs)) with
    ⟨hnone, -⟩ | ⟨m, accepted, hend, hdata, -⟩
  · rw [hconfig, htelemetry] at hnone
    cases hnone
  · have hend₂ : w₂.trace = w₁.trace ++ [.telemetryPush m accepted] := hend
    have htrace : (w.publishCycle startedAtNs finishedAtNs).trace =
        w.trace ++ (values ++ .telemetryPush m accepted :: drops) := by
      have hcycle : w.publishCycle startedAtNs finishedAtNs = w₂.publish (.dropped finishedAtNs) :=
        rfl
      rw [hcycle, hdrops, hend₂, hvalues]
      simp
    rw [added_eq htrace, ← hcycleId]
    exact ⟨m, accepted, List.mem_append_right _ (List.mem_cons_self ..), _, _, hdata⟩

end World

/-- A cycle that begins. -/
theorem pauseStage_cycleBegin {budget : Nat} {telemetry : Bool} {w w' : World D}
    {r : LoopRun D} {nextDeadlineNs : UInt64} {state' : RtState D.limits}
    (hconfigured : Configured budget telemetry w)
    (hstep : w.rtThreadStep (.cycleBegin nextDeadlineNs) = some (state', w'))
    (h : PauseStage budget telemetry w (.cycleBegin nextDeadlineNs) r) :
    PauseStage budget telemetry w' state' (r.after w (.cycleBegin nextDeadlineNs) w') := by
  obtain ⟨⟨events, htrace, hemits⟩, -, -, hcycleId⟩ := World.rtThreadStep_loopStep hstep
  have hflags := World.rtThreadStep_flags hstep
  have hadded : w.added w' = events := World.added_eq htrace
  have hcommands : (CycleRun.start w w').commands = [] := by
    show dispatchedCommands (w.added w') = []
    rw [hadded, hemits.commands]
    rfl
  have hsteps : runtimeSteps (w.added w') = 0 := by rw [hadded, hemits.steps]; rfl
  have hbegins : (CycleRun.start w w').Begins telemetry := by
    intro htelemetry
    cases hstep
    exact World.cycleBegin_attempted w.getTime.2 (hconfigured.2.trans htelemetry) w.getTime.1
  have hpaused : w'.engine.flags.paused =
      lastPauses (commandsOf (r.cycles ++ [CycleRun.start w w'])) := by
    rw [hflags]
    refine h.2.1.trans ?_
    simp [commandsOf, hcommands]
  have hruntime : w'.runtime = w.runtime := by
    cases hstep
    exact World.publish_runtime w.getTime.2 (.cycleBegin w.getTime.1)
  have hbegun : Begun telemetry w' r.cycles (CycleRun.start w w') :=
    ⟨hcycleId.symm ▸ (UInt64.add_zero _).symm, hbegins, hpaused,
      fun b hb => hruntime.trans (h.2.2 b hb)⟩
  have hdrains : (CycleRun.start w w').DrainsTo w' := by
    refine ⟨w'.engine.flags, w'.commands, ?_⟩
    rw [hcommands]
    rfl
  have hlength := congrArg List.length hcommands
  cases hstep
  exact ⟨_, rfl, hbegun, hsteps, hlength, Nat.zero_le budget, hdrains⟩

/-- A step within a cycle, by what it makes of the stage. -/
theorem pauseStage_within {budget : Nat} {telemetry : Bool} {w w' : World D}
    {state state' : RtState D.limits} {r : LoopRun D}
    (hstep : w.rtThreadStep state = some (state', w')) (hcycles : state.cycles = 0)
    (h : ∃ c, r.current = some c ∧ Begun telemetry w r.cycles c ∧
      c.PauseStage budget telemetry w.engine.flags.paused w state)
    (hstage : ∀ c : CycleRun D, Begun telemetry w r.cycles c →
      c.PauseStage budget telemetry w.engine.flags.paused w state →
      Extends state c (c.extended w state w') →
      (c.extended w state w').PauseStage budget telemetry w'.engine.flags.paused w' state') :
    ∃ c, r.current.map (·.extended w state w') = some c ∧ Begun telemetry w' r.cycles c ∧
      c.PauseStage budget telemetry w'.engine.flags.paused w' state' := by
  obtain ⟨c, hcurrent, hbegun, hc⟩ := h
  refine ⟨c.extended w state w', ?_, hbegun.extended hstep hcycles,
    hstage c hbegun hc (c.extended_extends hstep)⟩
  rw [hcurrent]
  rfl

/-- A step that dispatches nothing leaves the cycle's commands. -/
theorem Extends.commands_kept {state : RtState D.limits} {c c' : CycleRun D}
    (h : Extends state c c') (hinFlight : state.inFlight = []) : c'.commands = c.commands := by
  rw [h.commands, hinFlight, List.append_nil]

theorem pauseStage_step {budget : Nat} {telemetry : Bool} {w w' : World D}
    {state state' : RtState D.limits} {r : LoopRun D}
    (hconfigured : Configured budget telemetry w)
    (hstep : w.rtThreadStep state = some (state', w')) (hentered : state ≠ .enter)
    (hlive : state' ≠ .returned) (h : PauseStage budget telemetry w state r) :
    PauseStage budget telemetry w' state' (r.after w state w') := by
  have hflags := World.rtThreadStep_flags hstep
  have hcases := World.rtThreadStep_cases hstep
  cases hcases with
  | enter => exact absurd rfl hentered
  | leave nextDeadlineNs hstop => exact absurd rfl hlive
  | again nextDeadlineNs hstop => exact ⟨congrArg (Option.map _) h.1, h.2⟩
  | cycleBegin nextDeadlineNs => exact pauseStage_cycleBegin hconfigured hstep h
  | pop nextDeadlineNs startedAtNs i message commands hi hcommands =>
    refine pauseStage_within hstep rfl h fun c _ hc hextends => ?_
    obtain ⟨hsteps, hlength, -, f, cs, hdrains⟩ := hc
    have hkept := hextends.commands_kept rfl
    rw [hconfigured.1] at hi
    refine ⟨hextends.steps.trans hsteps, by rw [hkept, hlength], hi, f, commands, ?_⟩
    rw [hkept, hdrains]
    rfl
  | empty nextDeadlineNs startedAtNs i hi hcommands =>
    refine pauseStage_within hstep rfl h fun c _ hc hextends => ?_
    obtain ⟨hsteps, hlength, hbudget, f, cs, hdrains⟩ := hc
    have hkept := hextends.commands_kept rfl
    have hfound : (c.extended w (.drain nextDeadlineNs startedAtNs i) w).foundEmpty = true := by
      simp [CycleRun.extended, RtState.findsEmpty, hi, hcommands]
    refine ⟨hextends.steps.trans hsteps, ⟨?_, .inr hfound⟩, f, cs, by rw [hkept]; exact hdrains⟩
    rw [hkept, hlength]
    exact hbudget
  | spent nextDeadlineNs startedAtNs i hi =>
    refine pauseStage_within hstep rfl h fun c _ hc hextends => ?_
    obtain ⟨hsteps, hlength, hbudget, f, cs, hdrains⟩ := hc
    have hkept := hextends.commands_kept rfl
    rw [hconfigured.1] at hi
    have hspent : (c.extended w (.drain nextDeadlineNs startedAtNs i) w).commands.length =
        budget := by
      rw [hkept, hlength]
      exact Nat.le_antisymm hbudget hi
    exact ⟨hextends.steps.trans hsteps, ⟨Nat.le_of_eq hspent, .inl hspent⟩, f, cs,
      by rw [hkept]; exact hdrains⟩
  | dispatch nextDeadlineNs startedAtNs i message =>
    refine pauseStage_within hstep rfl h fun c _ hc hextends => ?_
    obtain ⟨hsteps, hlength, hbudget, f, cs, hdrains⟩ := hc
    refine ⟨hextends.steps.trans hsteps, ?_, hbudget, message.data.flags f, cs, ?_⟩
    · rw [hextends.commands, ← hlength]
      exact List.length_append
    · -- the handlers do not read what the other threads share
      have hdispatch := World.dispatchCommand_withShared
        ((c.began.dispatchEach c.commands).emit (.dispatched message)) f cs message
      have hcommands : (c.extended w (.dispatch nextDeadlineNs startedAtNs i message)
          ((w.emit (.dispatched message)).dispatchCommand message).2).commands =
            c.commands ++ [message] := hextends.commands
      rw [hcommands, World.dispatchEach, List.foldl_append, hdrains]
      exact congrArg Prod.snd hdispatch
  | paused nextDeadlineNs startedAtNs hpaused =>
    refine pauseStage_within hstep rfl h fun c _ hc hextends => ?_
    obtain ⟨hsteps, hdrains, hdrainsTo⟩ := hc
    refine ⟨?_, hdrains.extended hstep rfl, hdrainsTo.drained (hextends.commands_kept rfl) rfl, ?_⟩
    · rw [hpaused]
      exact hextends.steps.trans hsteps
    · rw [CycleRun.WorksTo, if_pos hpaused]
      rfl
  | unpaused nextDeadlineNs startedAtNs hpaused =>
    refine pauseStage_within hstep rfl h fun c _ hc hextends => ?_
    obtain ⟨hsteps, hdrains, hdrainsTo⟩ := hc
    exact ⟨hextends.steps.trans hsteps, hdrains.extended hstep rfl, hpaused,
      hdrainsTo.drained (hextends.commands_kept rfl) rfl, rfl, rfl⟩
  | step nextDeadlineNs startedAtNs =>
    refine pauseStage_within hstep rfl h fun c _ hc hextends => ?_
    obtain ⟨hsteps, hdrains, hunpaused, hdrained, hruntime, henv⟩ := hc
    have hpaused : w.runtimeStep.engine.flags.paused = false :=
      (congrArg Flags.paused hflags).trans hunpaused
    refine ⟨?_, hdrains.extended hstep rfl, hdrained.extended hstep rfl rfl, ?_⟩
    · rw [hextends.steps, hsteps, hpaused]
      rfl
    · rw [CycleRun.WorksTo, hpaused]
      change D.step w.runtime w.env = D.step c.drained.runtime c.drained.env
      rw [hruntime, henv]
  | finish nextDeadlineNs startedAtNs =>
    refine pauseStage_within hstep rfl h fun c hbegun hc hextends => ?_
    obtain ⟨hsteps, hdrains, hdrained, hworked⟩ := hc
    have hends : (c.extended w (.finish nextDeadlineNs startedAtNs)
        (w.getTime.2.publishCycle startedAtNs w.getTime.1)).Ends telemetry := by
      intro htelemetry
      have hattempted := World.publishCycle_attempted w.getTime.2
        (hconfigured.2.trans htelemetry) startedAtNs w.getTime.1
      have hcycleId : w.getTime.2.engine.cycleId = c.cycleId := hbegun.cycleId.symm
      rw [hcycleId] at hattempted
      exact hattempted.mono (List.subset_append_right _ _)
    rw [congrArg Flags.paused hflags]
    exact ⟨hextends.steps.trans hsteps, hdrains.extended hstep rfl, hdrained.extended hstep rfl rfl,
      hworked, World.publishCycle_runtime w.getTime.2 startedAtNs w.getTime.1, hends⟩
  | sleep nextDeadlineNs startedAtNs finishedAtNs periodNs hperiod =>
    refine pauseStage_within hstep rfl h fun c _ hc hextends => ?_
    obtain ⟨hsteps, hdrains, hdrained, hworked, hruntime, hends⟩ := hc
    rw [congrArg Flags.paused hflags]
    exact ⟨hextends.steps.trans hsteps, hdrains.extended hstep rfl, hdrained.extended hstep rfl rfl,
      hworked, hruntime, hends.extended hstep⟩
  | free nextDeadlineNs startedAtNs finishedAtNs periodNs hperiod =>
    refine pauseStage_within hstep rfl h fun c _ hc hextends => ?_
    obtain ⟨hsteps, hdrains, hdrained, hworked, hruntime, hends⟩ := hc
    exact ⟨hextends.steps.trans hsteps, hdrains.extended hstep rfl, hdrained.extended hstep rfl rfl,
      hworked, hruntime, hends.extended hstep⟩
  | measure nextDeadlineNs startedAtNs cycleCompletedAtNs periodNs =>
    obtain ⟨c, hcurrent, hbegun, -⟩ := h
    refine ⟨rfl, ?_⟩
    rw [LoopRun.after_measure hcurrent]
    refine ⟨paused_extended hbegun.paused hstep, fun b hb => ?_⟩
    rw [List.getLast?_concat] at hb
    cases hb
    rfl

theorem pauseStage_law {budget : Nat} {telemetry : Bool} {w w' : World D}
    {state state' : RtState D.limits} {r : LoopRun D}
    (hstep : w.rtThreadStep state = some (state', w'))
    (h : PauseStage budget telemetry w state r)
    (hlawful : Each (PauseLaw budget telemetry) r.cycles) :
    Each (PauseLaw budget telemetry) (r.after w state w').cycles := by
  cases state with
  | measure nextDeadlineNs startedAtNs cycleCompletedAtNs periodNs =>
    obtain ⟨c, hcurrent, hbegun, hsteps, hdrains, hdrained, hworked, hruntime, hends⟩ := h
    rw [LoopRun.after_measure hcurrent]
    have hpaused := paused_extended hbegun.paused hstep
    rw [World.rtThreadStep_flags hstep] at hpaused
    refine each_append_singleton.mpr ⟨hlawful, ⟨hbegun.began, ?_, ?_, ?_⟩, ?_,
      hdrains.extended hstep rfl, ?_, hends.extended hstep, ?_⟩
    · exact hdrained.extended hstep rfl rfl
    · rw [← hpaused]
      exact hworked
    · cases hstep
      exact (World.measureCycle_runtime w _ _ _ _).trans hruntime
    · rw [← hpaused]
      exact (c.extended_extends hstep).steps.trans hsteps
    · exact fun htelemetry => (c.extended_extends hstep).attempted (hbegun.begins htelemetry)
    · change w'.engine.cycleId = c.cycleId + 1
      rw [(World.rtThreadStep_loopStep hstep).cycleId, hbegun.cycleId]
      rfl
  | _ => exact hlawful

/-- What other threads do leaves the stage. -/
theorem PauseStage.frame {budget : Nat} {telemetry : Bool} {w : World D}
    {state : RtState D.limits} {r : LoopRun D} (h : PauseStage budget telemetry w state r)
    {f : Flags} (hpaused : f.paused = w.engine.flags.paused)
    (cs : List (CommandMessage D.limits)) :
    PauseStage budget telemetry (w.withShared f cs) state r := by
  have hdrainsTo : ∀ {c : CycleRun D}, c.DrainsTo w → c.DrainsTo (w.withShared f cs) := by
    rintro c ⟨f', cs', hdrains⟩
    exact ⟨f, cs, by rw [hdrains]; rfl⟩
  have hflag : (w.withShared f cs).engine.flags.paused = w.engine.flags.paused := hpaused
  cases state with
  | enter => trivial
  | returned => trivial
  | test nextDeadlineNs => exact ⟨h.1, hpaused.trans h.2.1, h.2.2⟩
  | cycleBegin nextDeadlineNs => exact ⟨h.1, hpaused.trans h.2.1, h.2.2⟩
  | _ =>
    obtain ⟨c, hcurrent, hbegun, hc⟩ := h
    refine ⟨c, hcurrent, ⟨hbegun.cycleId, hbegun.begins, hpaused.trans hbegun.paused,
      hbegun.began⟩, ?_⟩
    rw [hflag]
    first
    | exact hc
    | exact ⟨hc.1, hc.2.1, hc.2.2.1, hdrainsTo hc.2.2.2⟩
    | exact ⟨hc.1, hc.2.1, hdrainsTo hc.2.2⟩

theorem configured_lasts {budget : Nat} {telemetry : Bool} {s s' : System D} {a : Act D.limits}
    (hcovered : s.Covered) (hstep : s.act a = some s')
    (h : Configured budget telemetry s.world) : Configured budget telemetry s'.world := by
  cases (System.act_effect hcovered hstep).share with
  | loop hloop =>
    obtain ⟨-, -, ⟨rtThread, tolerance, hconfig⟩, -⟩ := World.rtThreadStep_loopStep hloop
    rw [Configured, hconfig]
    exact h
  | push m hloop hworld =>
    rw [hworld]
    exact h
  | idle hidle =>
    rw [Configured, hidle.config]
    exact h

theorem pauseLogs (budget : Nat) (telemetry : Bool) :
    Logs (D := D) (Configured budget telemetry) (fun _ => PauseLaw budget telemetry)
      (PauseStage budget telemetry) where
  lasts := configured_lasts
  enter _ _ hpaused := ⟨rfl, hpaused, fun _ => nofun⟩
  step := pauseStage_step
  law _ := pauseStage_law
  store _ hpaused h := h.frame hpaused _
  push _ h := h.frame rfl _

/-- In every run, each completed cycle steps the runtime once after its drain, or not at all if the
last `PAUSE` or `RESUME` that the loop has dispatched since its launch is a `PAUSE`, and does all
else either way. -/
theorem pause_freezes_cycles {s₀ : System D} (h : s₀.Initial) {as : List (Act D.limits)}
    {s : System D} {runs : List (LoopRun D)}
    (hpath : Path System.cycledAct (fun _ _ => True) (s₀, []) as (s, runs)) :
    ∀ r ∈ runs, Each (PauseLaw s₀.budget s₀.world.engine.config.telemetryQueue) r.cycles :=
  ((pauseLogs s₀.budget s₀.world.engine.config.telemetryQueue).path h ⟨rfl, rfl⟩ hpath).lawful

namespace Reference

def pauseMessage : CommandMessage limits := ⟨1, .globalCommand 2⟩

/-- The reference dependencies with a runtime that keeps an output value for each of its steps. -/
def countingDeps : Deps :=
  { deps with step := fun r e => ({ r with outputValues := ((0, 0), 0) :: r.outputValues }, e) }

def pausing : System countingDeps where
  world := { world with trace := [] }
  controller := .idle
  rtThreads := []
  waitThreads := []
  log := []

/-- The start of the engine, a cycle of its RT loop, and a cycle that drains a `PAUSE`. -/
def pausingActs : List (Act limits) :=
  .step (.call .start) :: List.replicate 9 (.step (.controller true)) ++
    List.replicate 9 (.step (.rt 0)) ++ .step (.pushCommand pauseMessage) ::
    List.replicate 9 (.step (.rt 0))

def pausedRun : System countingDeps × List (LoopRun countingDeps) :=
  (Transition.run System.cycledAct (pausing, []) pausingActs).get (by decide)

/-- How often the runtime had been stepped when a cycle was over. -/
def stepsOf (c : CycleRun countingDeps) : Nat :=
  List.length (Runtime.outputValues c.left.runtime)

end Reference

theorem pause_freezes_cycles_reference :
    (∀ r ∈ Reference.pausedRun.2, Each (PauseLaw 4 true) r.cycles) ∧
      Reference.pausedRun.2.map (·.cycles.map fun c => runtimeSteps c.events) = [[1, 0]] ∧
      Reference.pausedRun.2.map (·.cycles.map Reference.stepsOf) = [[1, 1]] := by
  have hrun : Transition.run System.cycledAct (Reference.pausing, []) Reference.pausingActs =
      some Reference.pausedRun := (Option.some_get _).symm
  have hinitial : Reference.pausing.Initial := ⟨rfl, rfl, rfl, rfl, rfl⟩
  exact ⟨pause_freezes_cycles hinitial (.of_run (fun _ _ => trivial) hrun), rfl, rfl⟩

end RtsynEngine
