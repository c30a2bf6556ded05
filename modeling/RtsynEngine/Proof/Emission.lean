import Mathlib.Data.List.Forall2
import RtsynEngine.Proof.Conservation
import RtsynEngine.Proof.Loop

/-! What each step of the RT loop adds to the trace, and what it leaves of the engine. -/

namespace RtsynEngine

variable {D : Deps} {L : Limits}

namespace Event

def isRuntimeStep : Event L → Bool
  | .runtimeStep => true
  | _ => false

/-- An attempt to send `CYCLE_BEGIN`. -/
def isCycleBegin : Event L → Bool
  | .telemetryPush ⟨_, _, _, .cycleBegin _ _⟩ _ => true
  | _ => false

/-- The command that an event passed to the dispatcher. -/
def dispatch : Event L → Option (CommandMessage L)
  | .dispatched m => some m
  | _ => none

end Event

/-- The steps of the runtime in a history. -/
def runtimeSteps (trace : List (Event L)) : Nat := trace.countP Event.isRuntimeStep

/-- The attempts to send `CYCLE_BEGIN` in a history. -/
def cycleBegins (trace : List (Event L)) : Nat := trace.countP Event.isCycleBegin

/-- The commands dispatched in a history, oldest first. -/
def dispatchedCommands (trace : List (Event L)) : List (CommandMessage L) :=
  trace.filterMap Event.dispatch

def TelemetryData.isMeasurement : TelemetryData → Prop
  | .measurement _ _ _ _ _ _ _ _ _ _ _ => True
  | _ => False

/-- The body of a message that a call may send in the cycle `cycleId`. -/
def PublisherCall.Sends {L : Limits} (cycleId : UInt64) (data : TelemetryData) :
    PublisherCall L → Prop
  | .cycleBegin timestampNs => data = .cycleBegin cycleId timestampNs
  | .cycleEnd startedAtNs finishedAtNs => data = .cycleEnd cycleId startedAtNs finishedAtNs
  | .measurement _ _ => data.isMeasurement
  | .dropped _ => ∃ events values, data = .dropped cycleId events values
  | .values _ nodeId source _ => data = .valuesWritten cycleId nodeId source
  | .requestedValues _ => ∃ nodeId source, data = .valuesWritten cycleId nodeId source
  | .push m => data = m.data

namespace World

theorem eventPushTelemetry_events (w : World D) (m : TelemetryMessage) :
    ∃ events, (w.eventPushTelemetry m).2.trace = w.trace ++ events ∧ events.length ≤ 1 ∧
      ∀ e ∈ events, ∃ m', e.telemetry = some m' ∧ m'.data = m.data := by
  rcases w.eventPushTelemetry_sent m with ⟨-, hsame⟩ | ⟨m', accepted, htrace, hdata, -⟩
  · exact ⟨[], by rw [hsame, List.append_nil], Nat.zero_le 1, fun _ h => nomatch h⟩
  · refine ⟨_, htrace, Nat.le_refl 1, fun e he => ?_⟩
    rw [List.mem_singleton.mp he]
    exact ⟨m', rfl, hdata⟩

theorem publish_trace (w : World D) (call : PublisherCall D.limits) :
    ∃ events, (w.publish call).trace = w.trace ++ events ∧
      (∀ timestampNs, call = .cycleBegin timestampNs → events.length ≤ 1) ∧
      ∀ e ∈ events, ∃ m, e.telemetry = some m ∧ call.Sends w.engine.cycleId m.data := by
  cases call with
  | cycleBegin timestampNs =>
    obtain ⟨events, htrace, hlength, hevents⟩ := w.eventPushTelemetry_events
      (telemetryMessage timestampNs (.cycleBegin w.engine.cycleId timestampNs))
    exact ⟨events, htrace, fun _ _ => hlength, hevents⟩
  | cycleEnd startedAtNs finishedAtNs =>
    obtain ⟨events, htrace, -, hevents⟩ := w.eventPushTelemetry_events
      (telemetryMessage finishedAtNs (.cycleEnd w.engine.cycleId startedAtNs finishedAtNs))
    exact ⟨events, htrace, fun _ h => (nomatch h), hevents⟩
  | measurement timestampNs metrics =>
    cases metrics with
    | none => exact ⟨[], (List.append_nil _).symm, fun _ h => (nomatch h), fun _ h => nomatch h⟩
    | some metrics =>
      dsimp only [publish, eventPublishMeasurement]
      generalize hbody : telemetryMessage timestampNs _ = body
      obtain ⟨events, htrace, -, hevents⟩ := w.eventPushTelemetry_events body
      refine ⟨events, htrace, fun _ h => (nomatch h), fun e he => ?_⟩
      obtain ⟨m, hm, hdata⟩ := hevents e he
      rw [← hbody] at hdata
      refine ⟨m, hm, ?_⟩
      rw [hdata]
      trivial
  | dropped timestampNs =>
    dsimp only [publish]
    rcases w.eventPublishDropped_trace timestampNs with hsame | ⟨m, accepted, htrace, hdata⟩
    · exact ⟨[], by rw [hsame, List.append_nil], fun _ h => (nomatch h), fun _ h => nomatch h⟩
    · refine ⟨_, htrace, fun _ h => (nomatch h), fun e he => ?_⟩
      rw [List.mem_singleton.mp he]
      exact ⟨m, rfl, _, _, hdata⟩
  | values timestampNs nodeId source samples =>
    dsimp only [publish]
    rcases w.eventPublishValues_sent timestampNs nodeId source samples with
      hsame | ⟨m, samples', accepted, htrace, hdata⟩
    · exact ⟨[], by rw [hsame, List.append_nil], fun _ h => (nomatch h), fun _ h => nomatch h⟩
    · refine ⟨_, htrace, fun _ h => (nomatch h), fun e he => ?_⟩
      rw [List.mem_singleton.mp he]
      exact ⟨m, rfl, hdata⟩
  | requestedValues timestampNs =>
    obtain ⟨js, events, -, htrace, hslots⟩ := publishSlots_sent timestampNs
      (List.finRange D.limits.subscriptionCapacity) (true, w)
    refine ⟨events, htrace, fun _ h => (nomatch h), fun e he => ?_⟩
    obtain ⟨k, hk, rfl⟩ := List.getElem_of_mem he
    obtain ⟨hlength, hslots⟩ := List.forall₂_iff_get.mp hslots
    obtain ⟨-, m, samples, accepted, source, heq, hdata⟩ := hslots k (hlength ▸ hk) hk
    have hevent : events[k] = .valuesPublish m samples accepted := heq
    rw [hevent]
    exact ⟨m, rfl, _, _, hdata⟩
  | push m =>
    obtain ⟨events, htrace, -, hevents⟩ := w.eventPushTelemetry_events m
    exact ⟨events, htrace, fun _ h => (nomatch h), hevents⟩

end World

/-- The steps of the runtime, attempts to send `CYCLE_BEGIN` and commands that a step of the loop
adds to a history; the second is a bound. -/
structure Emits (steps begins : Nat) (commands : List (CommandMessage L))
    (events : List (Event L)) : Prop where
  steps : runtimeSteps events = steps
  begins : cycleBegins events ≤ begins
  commands : dispatchedCommands events = commands

theorem Emits.silent {events : List (Event L)}
    (h : ∀ e ∈ events, e.isRuntimeStep = false ∧ e.isCycleBegin = false ∧ e.dispatch = none) :
    Emits 0 0 [] events where
  steps := List.countP_eq_zero.mpr fun e he => by simp [(h e he).1]
  begins := Nat.le_of_eq (List.countP_eq_zero.mpr fun e he => by simp [(h e he).2.1])
  commands := List.filterMap_eq_nil_iff.mpr fun e he => (h e he).2.2

theorem Emits.nil : Emits 0 0 [] ([] : List (Event L)) := .silent (List.forall_mem_nil _)

theorem Emits.append {steps steps' begins begins' : Nat} {ms ms' : List (CommandMessage L)}
    {events events' : List (Event L)} (h : Emits steps begins ms events)
    (h' : Emits steps' begins' ms' events') :
    Emits (steps + steps') (begins + begins') (ms ++ ms') (events ++ events') where
  steps := by rw [runtimeSteps, List.countP_append, ← runtimeSteps, ← runtimeSteps, h.steps,
    h'.steps]
  begins := by
    rw [cycleBegins, List.countP_append, ← cycleBegins, ← cycleBegins]
    exact Nat.add_le_add h.begins h'.begins
  commands := by rw [dispatchedCommands, List.filterMap_append, ← dispatchedCommands,
    ← dispatchedCommands, h.commands, h'.commands]

namespace Event

theorem silent_of_handler {e : Event L} (h : e.ofHandler) :
    e.isRuntimeStep = false ∧ e.isCycleBegin = false ∧ e.dispatch = none := by
  cases e <;> first | exact ⟨rfl, rfl, rfl⟩ | exact h.elim

theorem silent_of_telemetry {e : Event L} {m : TelemetryMessage} (h : e.telemetry = some m)
    (hbegin : ∀ cycleId timestampNs, m.data ≠ .cycleBegin cycleId timestampNs) :
    e.isRuntimeStep = false ∧ e.isCycleBegin = false ∧ e.dispatch = none := by
  cases e with
  | telemetryPush m' accepted =>
    cases h
    refine ⟨rfl, ?_, rfl⟩
    unfold isCycleBegin
    split
    · next heq =>
      cases heq
      exact absurd rfl (hbegin _ _)
    · rfl
  | valuesPublish m' samples accepted => exact ⟨rfl, rfl, rfl⟩
  | _ => cases h

end Event

namespace World

/-- A publisher other than that of `CYCLE_BEGIN` adds none of what is counted. -/
theorem publish_silent (w : World D) (call : PublisherCall D.limits)
    (hbegin : ∀ data cycleId, call.Sends cycleId data → ∀ k timestampNs,
      data ≠ .cycleBegin k timestampNs) :
    ∃ events, (w.publish call).trace = w.trace ++ events ∧ Emits 0 0 [] events := by
  obtain ⟨events, htrace, -, hevents⟩ := w.publish_trace call
  refine ⟨events, htrace, .silent fun e he => ?_⟩
  obtain ⟨m, hm, hsends⟩ := hevents e he
  exact Event.silent_of_telemetry hm (hbegin _ _ hsends)

theorem publish_cycleBegin_emits (w : World D) (timestampNs : UInt64) :
    ∃ events, (w.publish (.cycleBegin timestampNs)).trace = w.trace ++ events ∧
      Emits 0 1 [] events := by
  obtain ⟨events, htrace, hlength, hevents⟩ := w.publish_trace (.cycleBegin timestampNs)
  have hquiet : ∀ e ∈ events, e.isRuntimeStep = false ∧ e.dispatch = none := by
    intro e he
    obtain ⟨m, hm, -⟩ := hevents e he
    cases e <;> first | exact ⟨rfl, rfl⟩ | cases hm
  refine ⟨events, htrace, ?_, ?_, ?_⟩
  · exact List.countP_eq_zero.mpr fun e he => by simp [(hquiet e he).1]
  · exact List.countP_le_length.trans (hlength timestampNs rfl)
  · exact List.filterMap_eq_nil_iff.mpr fun e he => (hquiet e he).2

theorem publishCycle_emits (w : World D) (startedAtNs finishedAtNs : UInt64) :
    ∃ events, (w.publishCycle startedAtNs finishedAtNs).trace = w.trace ++ events ∧
      Emits 0 0 [] events := by
  obtain ⟨values, hvalues, hvaluesSilent⟩ :=
    w.publish_silent (.requestedValues finishedAtNs) (by rintro _ _ ⟨_, _, rfl⟩; nofun)
  let w₁ := w.publish (.requestedValues finishedAtNs)
  obtain ⟨ends, hends, hendsSilent⟩ :=
    w₁.publish_silent (.cycleEnd startedAtNs finishedAtNs) (by rintro _ _ rfl; nofun)
  let w₂ := w₁.publish (.cycleEnd startedAtNs finishedAtNs)
  obtain ⟨drops, hdrops, hdropsSilent⟩ :=
    w₂.publish_silent (.dropped finishedAtNs) (by rintro _ _ ⟨_, _, rfl⟩; nofun)
  refine ⟨values ++ ends ++ drops, ?_, (hvaluesSilent.append hendsSilent).append hdropsSilent⟩
  have hcycle : w.publishCycle startedAtNs finishedAtNs = w₂.publish (.dropped finishedAtNs) := rfl
  rw [hcycle, hdrops, hends, hvalues, List.append_assoc, List.append_assoc, List.append_assoc]

theorem measureCycle_emits (w : World D)
    (nextDeadlineNs startedAtNs cycleCompletedAtNs periodNs : UInt64) :
    ∃ events, (w.measureCycle nextDeadlineNs startedAtNs cycleCompletedAtNs periodNs).trace =
      w.trace ++ events ∧ Emits 0 0 [] events := by
  unfold measureCycle
  split
  · exact ⟨[], (List.append_nil _).symm, .nil⟩
  · next metrics env _ =>
    refine publish_silent { w with env } (.measurement cycleCompletedAtNs (some _)) ?_
    rintro _ _ hmeasurement _ _ rfl
    exact hmeasurement

end World

namespace RtState

/-- The command that the loop has popped and not dispatched yet. -/
def inFlight : RtState L → List (CommandMessage L)
  | .dispatch _ _ _ m => [m]
  | _ => []

/-- The steps of the runtime in the next step of the loop. -/
def steps : RtState L → Nat
  | .step _ _ => 1
  | _ => 0

/-- The attempts to send `CYCLE_BEGIN` in the next step of the loop. -/
def begins : RtState L → Nat
  | .cycleBegin _ => 1
  | _ => 0

/-- What the next step of the loop adds to the cycle id. -/
def cycles : RtState L → Nat
  | .measure _ _ _ _ => 1
  | _ => 0

end RtState

/-- What one step of the loop adds to the trace, takes from the queue and leaves of the engine. -/
structure LoopStep (w w' : World D) (state state' : RtState D.limits) : Prop where
  trace : ∃ events, w'.trace = w.trace ++ events ∧
    Emits state.steps state.begins state.inFlight events
  commands : w.commands = state'.inFlight ++ w'.commands
  config : ∃ rtThread deadlineToleranceNs,
    w'.engine.config = { w.engine.config with rtThread, deadlineToleranceNs }
  cycleId : w'.engine.cycleId = w.engine.cycleId + UInt64.ofNat state.cycles

theorem LoopStep.silent {w w' : World D} {state state' : RtState D.limits}
    (hengine : w'.engine = w.engine) (htrace : w'.trace = w.trace)
    (hcommands : w.commands = state'.inFlight ++ w'.commands)
    (hstate : state.steps = 0 ∧ state.begins = 0 ∧ state.inFlight = [] ∧ state.cycles = 0) :
    LoopStep w w' state state' := by
  obtain ⟨hsteps, hbegins, hinFlight, hcycles⟩ := hstate
  refine ⟨⟨[], by rw [htrace, List.append_nil], ?_⟩, hcommands, ?_, ?_⟩
  · rw [hsteps, hbegins, hinFlight]
    exact .nil
  · rw [hengine]
    exact ⟨_, _, rfl⟩
  · rw [hengine, hcycles]
    simp

theorem Publishes.commands {pushed : TelemetryData → Prop} {w w' : World D}
    (h : Publishes pushed w w') : w'.commands = w.commands := by
  induction h with
  | refl => rfl
  | tail _ hattempt ih => cases hattempt <;> exact ih

namespace World

theorem publish_kept (w : World D) (call : PublisherCall D.limits) :
    (w.publish call).commands = w.commands ∧
      (w.publish call).engine.config = w.engine.config ∧
      (w.publish call).engine.cycleId = w.engine.cycleId := by
  have hpublishes : Publishes (fun _ => True) w (w.publish call) :=
    w.publish_publishes call fun _ _ => trivial
  exact ⟨hpublishes.commands, by rw [hpublishes.engine], by rw [hpublishes.engine]⟩

theorem publishCycle_kept (w : World D) (startedAtNs finishedAtNs : UInt64) :
    (w.publishCycle startedAtNs finishedAtNs).commands = w.commands ∧
      (w.publishCycle startedAtNs finishedAtNs).engine.config = w.engine.config ∧
      (w.publishCycle startedAtNs finishedAtNs).engine.cycleId = w.engine.cycleId := by
  let w₁ := w.publish (.requestedValues finishedAtNs)
  let w₂ := w₁.publish (.cycleEnd startedAtNs finishedAtNs)
  obtain ⟨hcommands, hconfig, hcycleId⟩ := w.publish_kept (.requestedValues finishedAtNs)
  obtain ⟨hcommands₁, hconfig₁, hcycleId₁⟩ := w₁.publish_kept (.cycleEnd startedAtNs finishedAtNs)
  obtain ⟨hcommands₂, hconfig₂, hcycleId₂⟩ := w₂.publish_kept (.dropped finishedAtNs)
  exact ⟨hcommands₂.trans (hcommands₁.trans hcommands), hconfig₂.trans (hconfig₁.trans hconfig),
    hcycleId₂.trans (hcycleId₁.trans hcycleId)⟩

theorem measureCycle_kept (w : World D)
    (nextDeadlineNs startedAtNs cycleCompletedAtNs periodNs : UInt64) :
    let w' := w.measureCycle nextDeadlineNs startedAtNs cycleCompletedAtNs periodNs
    w'.commands = w.commands ∧ w'.engine.config = w.engine.config ∧
      w'.engine.cycleId = w.engine.cycleId := by
  unfold measureCycle
  split
  · exact ⟨rfl, rfl, rfl⟩
  · exact publish_kept _ (.measurement cycleCompletedAtNs (some _))

theorem rtThreadStep_loopStep {w w' : World D} {state state' : RtState D.limits}
    (h : w.rtThreadStep state = some (state', w')) : LoopStep w w' state state' := by
  cases rtThreadStep_cases h with
  | cycleBegin nextDeadlineNs =>
    obtain ⟨hcommands, hconfig, hcycleId⟩ := publish_kept w.getTime.2 (.cycleBegin w.getTime.1)
    refine ⟨publish_cycleBegin_emits w.getTime.2 w.getTime.1, hcommands.symm,
      ⟨_, _, hconfig⟩, hcycleId.trans ?_⟩
    simp [RtState.cycles, getTime]
  | pop nextDeadlineNs startedAtNs i message commands hi hcommands =>
    exact .silent rfl rfl hcommands ⟨rfl, rfl, rfl, rfl⟩
  | dispatch nextDeadlineNs startedAtNs i message =>
    let w₁ := w.emit (.dispatched message)
    obtain ⟨events, htrace, hhandler⟩ := w₁.dispatch_trace message
    have hkept := w₁.dispatch_kept message
    refine ⟨⟨.dispatched message :: events, ?_, ?_⟩, (w₁.dispatch_commands message).symm,
      hkept.config, hkept.cycleId.trans ?_⟩
    · rw [htrace, emit_trace, List.append_assoc]
      rfl
    · have hfirst : Emits 0 0 [message] [(.dispatched message : Event D.limits)] :=
        ⟨rfl, Nat.le_refl _, rfl⟩
      exact hfirst.append (.silent fun e he => Event.silent_of_handler (hhandler e he))
    · simp [RtState.cycles, w₁, emit]
  | step nextDeadlineNs startedAtNs =>
    refine ⟨⟨[.runtimeStep], rfl, rfl, Nat.le_refl _, rfl⟩, rfl, ⟨_, _, rfl⟩, ?_⟩
    simp [RtState.cycles, runtimeStep, emit]
  | finish nextDeadlineNs startedAtNs =>
    obtain ⟨hcommands, hconfig, hcycleId⟩ :=
      publishCycle_kept w.getTime.2 startedAtNs w.getTime.1
    refine ⟨publishCycle_emits w.getTime.2 startedAtNs w.getTime.1, hcommands.symm,
      ⟨_, _, hconfig⟩, hcycleId.trans ?_⟩
    simp [RtState.cycles, getTime]
  | sleep nextDeadlineNs startedAtNs finishedAtNs periodNs hperiod =>
    refine ⟨⟨[.sleepUntil _], rfl, rfl, Nat.le_refl _, rfl⟩, rfl, ⟨_, _, rfl⟩, ?_⟩
    simp [RtState.cycles, sleepUntil, getTime, emit]
  | measure nextDeadlineNs startedAtNs cycleCompletedAtNs periodNs =>
    obtain ⟨hcommands, hconfig, hcycleId⟩ :=
      w.measureCycle_kept nextDeadlineNs startedAtNs cycleCompletedAtNs periodNs
    refine ⟨w.measureCycle_emits nextDeadlineNs startedAtNs cycleCompletedAtNs periodNs,
      hcommands.symm, ⟨_, _, hconfig⟩, ?_⟩
    dsimp only [nextCycle]
    rw [hcycleId]
    rfl
  | _ => exact .silent rfl rfl rfl ⟨rfl, rfl, rfl, rfl⟩

end World

end RtsynEngine
