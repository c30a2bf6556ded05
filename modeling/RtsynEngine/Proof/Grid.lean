import RtsynEngine.Lib.Grid
import RtsynEngine.Proof.Cycles

/-! The deadlines of the RT loop: each is the time of entry and the sum of the periods so far,
whatever the cycles and the sleeps take. -/

namespace RtsynEngine

open Handle Transition History

variable {D : Deps} {L : Limits}

/-- The call that sets the runtime's period sets it, and no other call changes it. -/
structure Deps.PeriodLaws (D : Deps) : Prop where
  setPeriod {r r' : D.Runtime} {periodNs : UInt64} :
    D.setPeriod r periodNs = some r' → D.periodNs r' = periodNs
  addNode {r r' : D.Runtime} {n : Node D.limits} :
    D.addNode r n = some r' → D.periodNs r' = D.periodNs r
  removeNodeById {r r' : D.Runtime} {id : UInt32} :
    D.removeNodeById r id = some r' → D.periodNs r' = D.periodNs r
  removeNodesByName (r : D.Runtime) (name : CString) :
    D.periodNs (D.removeNodesByName r name) = D.periodNs r
  transitionNode {r r' : D.Runtime} {id state : UInt32} :
    D.transitionNode r id state = some r' → D.periodNs r' = D.periodNs r
  addConnectionBetween {r r' : D.Runtime} {id sourceNode sourcePort node port : UInt32} :
    D.addConnectionBetween r id sourceNode sourcePort node port = some r' →
      D.periodNs r' = D.periodNs r
  removeConnection {r r' : D.Runtime} {id : UInt32} :
    D.removeConnection r id = some r' → D.periodNs r' = D.periodNs r
  setNodeParam {r r' : D.Runtime} {id param : UInt32} {value : ParamPointer D.limits} :
    D.setNodeParam r id param value = some r' → D.periodNs r' = D.periodNs r
  step (r : D.Runtime) (e : D.Env) : D.periodNs (D.step r e).1 = D.periodNs r

namespace World

/-- The runtime's period. -/
def periodNs (w : World D) : UInt64 := D.periodNs w.runtime

theorem ofRuntime_periodNs (w : World D) {runtime : Option D.Runtime}
    (h : ∀ r', runtime = some r' → D.periodNs r' = D.periodNs w.runtime) :
    (w.ofRuntime runtime).2.periodNs = w.periodNs := by
  cases runtime with
  | none => rfl
  | some r' => exact h r' rfl

theorem loadNodeDescriptorAs_periodNs (laws : D.PeriodLaws) (w : World D) (modulePath : CString)
    (nodeType : NodeType) :
    (w.loadNodeDescriptorAs modulePath nodeType).2.periodNs = w.periodNs := by
  have houtcome := w.loadNodeDescriptorAs_outcome modulePath nodeType
  generalize w.loadNodeDescriptorAs modulePath nodeType = r at houtcome
  cases houtcome with
  | rejected env => rfl
  | unloaded env loader => rfl
  | lost env e name hname => exact laws.removeNodesByName w.runtime name
  | registered env e name hname htype => exact laws.removeNodesByName w.runtime name

theorem addNodeAs_periodNs (laws : D.PeriodLaws) (w : World D) (nodeName : CString)
    (nodeType : NodeType) : (w.addNodeAs nodeName nodeType).2.periodNs = w.periodNs := by
  have houtcome := (w.addNodeAs_outcome nodeName nodeType).1
  generalize w.addNodeAs nodeName nodeType = r at houtcome
  cases houtcome with
  | rejected env => rfl
  | added env e node runtime hfound hcreated hadd => exact laws.addNode hadd

/-- Only a `SET_RUNTIME_PERIOD` command changes the period. -/
theorem dispatch_periodNs (laws : D.PeriodLaws) (w : World D) (m : CommandMessage D.limits)
    (hm : ∀ periodNs, m.data ≠ .setRuntimePeriod periodNs) :
    (w.dispatchCommand m).2.periodNs = w.periodNs := by
  cases hanswered : m.data.answered with
  | false =>
    have hmove := w.dispatch_move hanswered
    generalize m.data = data, (w.dispatchCommand m).2 = w' at hm hmove
    cases hmove with
    | transitionNode h => exact laws.transitionNode h
    | addConnectionBetween h => exact laws.addConnectionBetween h
    | removeConnection h => exact laws.removeConnection h
    | setNodeParam h => exact laws.setNodeParam h
    | @setPeriod periodNs r h => exact absurd rfl (hm periodNs)
    | _ => rfl
  | true =>
    obtain ⟨w₁, haction, hpushes⟩ := w.dispatch_action m
    have hperiod : (w.dispatchCommand m).2.periodNs = w₁.periodNs :=
      congrArg D.periodNs hpushes.runtime
    rw [hperiod]
    generalize m.data = data at hanswered haction
    cases haction with
    | quiet hdata hquiet =>
      rw [hanswered] at hdata
      cases hdata
    | nothing hdata => rfl
    | load nodeType modulePath => exact loadNodeDescriptorAs_periodNs laws w _ nodeType
    | add nodeType nodeName => exact addNodeAs_periodNs laws w _ nodeType
    | remove nodeId => exact w.ofRuntime_periodNs fun _ => laws.removeNodeById

/-- A `SET_RUNTIME_PERIOD` command that succeeds sets the period to its own, and any other command
keeps it. -/
theorem dispatch_accepted (laws : D.PeriodLaws) (w : World D) (m : CommandMessage D.limits)
    (nextDeadlineNs startedAtNs : UInt64) (i : Nat) {acceptedNs : Option UInt64}
    (h : ∀ periodNs, acceptedNs = some periodNs → w.periodNs = periodNs) (periodNs : UInt64)
    (haccepted : ((RtState.dispatch nextDeadlineNs startedAtNs i m).accepts w).or acceptedNs =
      some periodNs) :
    ((w.emit (.dispatched m)).dispatchCommand m).2.periodNs = periodNs := by
  obtain ⟨seq, data⟩ := m
  by_cases hset : ∃ p, data = .setRuntimePeriod p
  · obtain ⟨p, rfl⟩ := hset
    have hdispatch : (w.emit (.dispatched ⟨seq, .setRuntimePeriod p⟩)).dispatchCommand
        ⟨seq, .setRuntimePeriod p⟩ = (w.emit (.dispatched ⟨seq, .setRuntimePeriod p⟩)).ofRuntime
          (D.setPeriod w.runtime p) := rfl
    dsimp only [RtState.accepts] at haccepted
    rw [hdispatch] at haccepted ⊢
    cases hcall : D.setPeriod w.runtime p with
    | none =>
      rw [hcall] at haccepted
      exact h periodNs haccepted
    | some r' =>
      rw [hcall] at haccepted
      cases haccepted
      exact laws.setPeriod hcall
  · have hother : ∀ p, data ≠ .setRuntimePeriod p := fun p heq => hset ⟨p, heq⟩
    have hnone : (RtState.dispatch nextDeadlineNs startedAtNs i ⟨seq, data⟩).accepts w = none := by
      cases data <;> first | rfl | exact absurd rfl (hother _)
    rw [hnone] at haccepted
    rw [dispatch_periodNs laws _ _ hother]
    exact h periodNs haccepted

end World

/-! ### Sleeps and measurements -/

/-- The deadline of a sleep. -/
def Event.sleep : Event L → Option UInt64
  | .sleepUntil deadlineNs => some deadlineNs
  | _ => none

/-- The body of a `MEASUREMENT` that an event tries to send. -/
def Event.measurement : Event L → Option TelemetryData
  | .telemetryPush m _ =>
    match m.data with
    | .measurement _ _ _ _ _ _ _ _ _ _ _ => some m.data
    | _ => none
  | _ => none

/-- The deadlines that a history passed to `rtsyn_thread_sleep_until`, oldest first. -/
def sleeps (events : List (Event L)) : List UInt64 := events.filterMap Event.sleep

/-- The measurements that a history tried to send, oldest first. -/
def measurements (events : List (Event L)) : List TelemetryData :=
  events.filterMap Event.measurement

/-- The body of the message that reports some metrics. -/
def Metrics.body (m : Metrics) : TelemetryData :=
  .measurement m.cycleId m.periodNs m.actualPeriodNs m.latencyNs m.wakeLatenessNs
    m.skippedCycleCount m.devicesReadNs m.pluginsTimeNs m.devicesWriteNs
    (if m.missedCycle then 1 else 0) (if m.deadlineMissed then 1 else 0)

/-- What the measurement tool makes of a cycle that was to end at a deadline, if it has metrics. -/
def World.measurement (w : World D) (deadlineNs startedAtNs completedAtNs periodNs : UInt64) :
    Option TelemetryData :=
  (D.calculateCycle w.env periodNs startedAtNs completedAtNs).1.map fun metrics =>
    (D.calculateDeadline periodNs completedAtNs deadlineNs w.engine.config.deadlineToleranceNs
      metrics).body

/-- The sleeps in the next step of the loop. -/
def RtState.sleeps : RtState L → List UInt64
  | .sleep nextDeadlineNs _ _ periodNs => if 0 < periodNs then [nextDeadlineNs + periodNs] else []
  | _ => []

/-- The next step of the loop measures the cycle. -/
def RtState.measures : RtState L → Bool
  | .measure _ _ _ _ => true
  | _ => false

/-- The trace has grown by neither sleeps nor measurements. -/
def StaysAwake (w w' : World D) : Prop :=
  ∃ events, w'.trace = w.trace ++ events ∧ sleeps events = [] ∧ measurements events = []

theorem StaysAwake.of_eq {w w' : World D} (h : w'.trace = w.trace) : StaysAwake w w' :=
  ⟨[], by rw [h, List.append_nil], rfl, rfl⟩

theorem StaysAwake.trans {w w₁ w₂ : World D} (h : StaysAwake w w₁) (h' : StaysAwake w₁ w₂) :
    StaysAwake w w₂ := by
  obtain ⟨events, htrace, hsleeps, hmeasurements⟩ := h
  obtain ⟨events', htrace', hsleeps', hmeasurements'⟩ := h'
  refine ⟨events ++ events', by rw [htrace', htrace, List.append_assoc], ?_, ?_⟩
  · rw [sleeps, List.filterMap_append, ← sleeps, ← sleeps, hsleeps, hsleeps']
    rfl
  · rw [measurements, List.filterMap_append, ← measurements, ← measurements, hmeasurements,
      hmeasurements']
    rfl

theorem Event.sleep_telemetry {e : Event L} {m : TelemetryMessage} (hm : e.telemetry = some m) :
    e.sleep = none := by
  cases e <;> first | rfl | cases hm

theorem Event.measurement_telemetry {e : Event L} {m : TelemetryMessage}
    (hm : e.telemetry = some m) (hdata : ¬m.data.isMeasurement) : e.measurement = none := by
  cases e with
  | telemetryPush m' accepted =>
    cases hm
    obtain ⟨seq, timestampNs, dropped, data⟩ := m
    cases data with
    | measurement => exact absurd trivial hdata
    | _ => rfl
  | _ => rfl

namespace World

theorem publish_staysAwake (w : World D) {call : PublisherCall D.limits}
    (hcall : ∀ data, call.Sends w.engine.cycleId data → ¬data.isMeasurement) :
    StaysAwake w (w.publish call) := by
  obtain ⟨events, htrace, -, hevents⟩ := w.publish_trace call
  refine ⟨events, htrace, List.filterMap_eq_nil_iff.mpr fun e he => ?_,
    List.filterMap_eq_nil_iff.mpr fun e he => ?_⟩
  · obtain ⟨m, hm, -⟩ := hevents e he
    exact Event.sleep_telemetry hm
  · obtain ⟨m, hm, hsends⟩ := hevents e he
    exact Event.measurement_telemetry hm (hcall m.data hsends)

theorem cycleBegin_staysAwake (w : World D) (timestampNs : UInt64) :
    StaysAwake w (w.publish (.cycleBegin timestampNs)) := by
  apply publish_staysAwake
  rintro data rfl
  exact id

theorem publishCycle_staysAwake (w : World D) (startedAtNs finishedAtNs : UInt64) :
    StaysAwake w (w.publishCycle startedAtNs finishedAtNs) := by
  have hvalues : StaysAwake w (w.publish (.requestedValues finishedAtNs)) := by
    apply publish_staysAwake
    rintro data ⟨nodeId, source, rfl⟩
    exact id
  have hend : ∀ w : World D,
      StaysAwake w (w.publish (.cycleEnd startedAtNs finishedAtNs)) := by
    intro w
    apply publish_staysAwake
    rintro data rfl
    exact id
  have hdropped : ∀ w : World D, StaysAwake w (w.publish (.dropped finishedAtNs)) := by
    intro w
    apply publish_staysAwake
    rintro data ⟨events, values, rfl⟩
    exact id
  exact (hvalues.trans (hend _)).trans (hdropped _)

/-- The measurement of a cycle tries to send what the measurement tool makes of it, and sleeps
not. -/
theorem measureCycle_measurements (w : World D) (htelemetry : w.engine.config.telemetryQueue = true)
    (nextDeadlineNs startedAtNs cycleCompletedAtNs periodNs : UInt64) :
    measurements
        (w.added (w.measureCycle nextDeadlineNs startedAtNs cycleCompletedAtNs periodNs)) =
      (w.measurement nextDeadlineNs startedAtNs cycleCompletedAtNs periodNs).toList := by
  unfold measureCycle measurement
  split
  · next env hcycle =>
    have hadded : w.added { w with env } = [] := added_eq (List.append_nil _).symm
    rw [hcycle, hadded]
    rfl
  · next metrics env hcycle =>
    rw [hcycle]
    dsimp only [eventPublishMeasurement]
    rcases eventPushTelemetry_sent { w with env } (telemetryMessage cycleCompletedAtNs
      (D.calculateDeadline periodNs cycleCompletedAtNs nextDeadlineNs
        w.engine.config.deadlineToleranceNs metrics).body) with
      ⟨hnone, -⟩ | ⟨⟨seq, timestampNs, dropped, data⟩, accepted, htrace, hdata, -⟩
    · rw [htelemetry] at hnone
      cases hnone
    · cases hdata
      exact congrArg measurements (added_eq (w := w) htrace)

theorem measureCycle_sleeps (w : World D)
    (nextDeadlineNs startedAtNs cycleCompletedAtNs periodNs : UInt64) :
    sleeps (w.added (w.measureCycle nextDeadlineNs startedAtNs cycleCompletedAtNs periodNs)) =
      [] := by
  unfold measureCycle
  split
  · next env _ =>
    have hadded : w.added { w with env } = [] := added_eq (List.append_nil _).symm
    rw [hadded]
    rfl
  · next metrics env _ =>
    obtain ⟨events, htrace, -, hevents⟩ := publish_trace { w with env }
      (.measurement cycleCompletedAtNs (some (D.calculateDeadline periodNs cycleCompletedAtNs
        nextDeadlineNs w.engine.config.deadlineToleranceNs metrics)))
    refine (congrArg sleeps (added_eq (w := w) htrace)).trans ?_
    refine List.filterMap_eq_nil_iff.mpr fun e he => ?_
    obtain ⟨m, hm, -⟩ := hevents e he
    exact Event.sleep_telemetry hm

theorem dispatch_staysAwake (w : World D) (m : CommandMessage D.limits) :
    StaysAwake w ((w.emit (.dispatched m)).dispatchCommand m).2 := by
  obtain ⟨events, htrace, hhandler⟩ := (w.emit (.dispatched m)).dispatch_trace m
  have hsilent : ∀ e ∈ events, e.sleep = none ∧ e.measurement = none := by
    intro e he
    have he' := hhandler e he
    cases e <;> first | exact ⟨rfl, rfl⟩ | exact he'.elim
  refine ⟨.dispatched m :: events, by rw [htrace, emit_trace]; simp, ?_, ?_⟩
  · exact List.filterMap_eq_nil_iff.mpr
      (List.forall_mem_cons.mpr ⟨rfl, fun e he => (hsilent e he).1⟩)
  · exact List.filterMap_eq_nil_iff.mpr
      (List.forall_mem_cons.mpr ⟨rfl, fun e he => (hsilent e he).2⟩)

/-- What a step adds in sleeps; only the measurement of a cycle adds measurements. -/
theorem rtThreadStep_added {w w' : World D} {state state' : RtState D.limits}
    (h : w.rtThreadStep state = some (state', w')) :
    sleeps (w.added w') = state.sleeps ∧
      (state.measures = false → measurements (w.added w') = []) := by
  have hawake : StaysAwake w w' → state.sleeps = [] → sleeps (w.added w') = state.sleeps ∧
      (state.measures = false → measurements (w.added w') = []) := by
    rintro ⟨events, htrace, hsleeps, hmeasurements⟩ hnone
    rw [added_eq htrace, hsleeps, hnone]
    exact ⟨rfl, fun _ => hmeasurements⟩
  cases rtThreadStep_cases h with
  | cycleBegin nextDeadlineNs =>
    exact hawake (cycleBegin_staysAwake w.getTime.2 w.getTime.1) rfl
  | dispatch nextDeadlineNs startedAtNs i message =>
    exact hawake (w.dispatch_staysAwake message) rfl
  | step nextDeadlineNs startedAtNs => exact hawake ⟨[.runtimeStep], rfl, rfl, rfl⟩ rfl
  | finish nextDeadlineNs startedAtNs =>
    exact hawake (publishCycle_staysAwake w.getTime.2 startedAtNs w.getTime.1) rfl
  | sleep nextDeadlineNs startedAtNs finishedAtNs periodNs hperiod =>
    have hadded : w.added (w.sleepUntil (nextDeadlineNs + periodNs)).getTime.2 =
        [.sleepUntil (nextDeadlineNs + periodNs)] := added_eq rfl
    rw [hadded]
    exact ⟨(if_pos hperiod).symm, fun _ => rfl⟩
  | free nextDeadlineNs startedAtNs finishedAtNs periodNs hperiod =>
    exact hawake (.of_eq rfl) (if_neg hperiod)
  | measure nextDeadlineNs startedAtNs cycleCompletedAtNs periodNs =>
    exact ⟨w.measureCycle_sleeps nextDeadlineNs startedAtNs cycleCompletedAtNs periodNs, nofun⟩
  | _ => exact hawake (.of_eq rfl) rfl

end World

/-! ### The stages of a cycle -/

def periods (cycles : List (CycleRun D)) : List UInt64 := cycles.map CycleRun.periodNs

@[simp] theorem periods_append (cycles cycles' : List (CycleRun D)) :
    periods (cycles ++ cycles') = periods cycles ++ periods cycles' := List.map_append

/-- The point of the grid after some cycles of a run entered at `enteredAtNs`. -/
def gridPoint (enteredAtNs : UInt64) (cycles : List (CycleRun D)) : UInt64 :=
  Grid.point enteredAtNs (periods cycles)

theorem gridPoint_append_singleton (enteredAtNs : UInt64) (cycles : List (CycleRun D))
    (c : CycleRun D) :
    gridPoint enteredAtNs (cycles ++ [c]) = gridPoint enteredAtNs cycles + c.periodNs := by
  rw [gridPoint, periods_append]
  exact Grid.point_append_singleton _ _ _

/-- The thread has slept until the deadline and then read the clock, or it has not slept; and what
the measurement tool makes of the cycle with that deadline is what the cycle tries to report. -/
structure CycleRun.Rests (c : CycleRun D) : Prop where
  sleeps : sleeps c.events = if 0 < c.periodNs then [c.deadlineNs] else []
  slept : 0 < c.periodNs →
    D.threadGetTime (D.threadSleepUntil c.published.env c.deadlineNs) =
      (c.completedAtNs, c.rested.env)
  awake : ¬0 < c.periodNs → c.rested.env = c.published.env
  measured : c.rested.engine.config.telemetryQueue = true → measurements c.events =
    (c.rested.measurement c.deadlineNs c.startedAtNs c.completedAtNs c.periodNs).toList

/-- The law of a completed cycle, after the ones `before` it in its run. -/
structure GridLaw (D : Deps) (enteredAtNs : UInt64) (before : List (CycleRun D))
    (c : CycleRun D) : Prop where
  rests : c.Rests
  deadline : c.deadlineNs = gridPoint enteredAtNs (before ++ [c])
  accepted : D.PeriodLaws → ∀ periodNs, c.acceptedNs = some periodNs → c.periodNs = periodNs

/-- A cycle that has not read the period yet. -/
structure Unpaced (w : World D) (c : CycleRun D) : Prop where
  sleeps : sleeps c.events = []
  measurements : measurements c.events = []
  accepted : D.PeriodLaws → ∀ periodNs, c.acceptedNs = some periodNs → w.periodNs = periodNs

/-- A cycle that has read the period and is not measured yet. -/
structure CycleRun.ReadsPeriod (periodNs : UInt64) (c : CycleRun D) : Prop where
  measurements : RtsynEngine.measurements c.events = []
  period : c.periodNs = periodNs
  accepted : D.PeriodLaws → ∀ acceptedNs, c.acceptedNs = some acceptedNs → periodNs = acceptedNs

/-- A cycle whose sleep, if it has one, has ended in `w`. -/
structure CycleRun.RestsTo (deadlineNs completedAtNs periodNs : UInt64) (c : CycleRun D)
    (w : World D) : Prop where
  sleeps : RtsynEngine.sleeps c.events = if 0 < periodNs then [deadlineNs] else []
  slept : 0 < periodNs →
    D.threadGetTime (D.threadSleepUntil c.published.env deadlineNs) = (completedAtNs, w.env)
  awake : ¬0 < periodNs → w.env = c.published.env

/-- The stage of a run of the loop. -/
def GridStage (w : World D) (state : RtState D.limits) (r : LoopRun D) : Prop :=
  match state with
  | .enter | .returned => True
  | .test nextDeadlineNs | .cycleBegin nextDeadlineNs =>
    r.current = none ∧ nextDeadlineNs = gridPoint r.enteredAtNs r.cycles
  | .drain nextDeadlineNs _ _ | .dispatch nextDeadlineNs _ _ _ | .pauseTest nextDeadlineNs _
  | .step nextDeadlineNs _ | .finish nextDeadlineNs _ =>
    nextDeadlineNs = gridPoint r.enteredAtNs r.cycles ∧ ∃ c, r.current = some c ∧ Unpaced w c
  | .sleep nextDeadlineNs _ _ periodNs =>
    ∃ c, r.current = some c ∧ nextDeadlineNs = gridPoint r.enteredAtNs r.cycles ∧
      sleeps c.events = [] ∧ c.ReadsPeriod periodNs
  | .measure nextDeadlineNs _ cycleCompletedAtNs periodNs =>
    ∃ c, r.current = some c ∧ nextDeadlineNs = gridPoint r.enteredAtNs (r.cycles ++ [c]) ∧
      c.RestsTo nextDeadlineNs cycleCompletedAtNs periodNs w ∧ c.ReadsPeriod periodNs

theorem CycleRun.extended_sleeps (c : CycleRun D) {w w' : World D}
    {state state' : RtState D.limits} (hstep : w.rtThreadStep state = some (state', w')) :
    RtsynEngine.sleeps (c.extended w state w').events =
      RtsynEngine.sleeps c.events ++ state.sleeps := by
  rw [← (World.rtThreadStep_added hstep).1]
  exact List.filterMap_append

theorem CycleRun.extended_measurements (c : CycleRun D) {w w' : World D}
    {state state' : RtState D.limits} (hstep : w.rtThreadStep state = some (state', w'))
    (hmeasures : state.measures = false) (hnone : RtsynEngine.measurements c.events = []) :
    RtsynEngine.measurements (c.extended w state w').events = [] := by
  have happend : RtsynEngine.measurements (c.extended w state w').events =
      RtsynEngine.measurements c.events ++ RtsynEngine.measurements (w.added w') :=
    List.filterMap_append
  rw [happend, hnone, (World.rtThreadStep_added hstep).2 hmeasures]
  rfl

/-- A step before the period is read, by what it makes of the runtime's period. -/
theorem gridStage_within {w w' : World D} {state state' : RtState D.limits}
    {r : LoopRun D} (hstep : w.rtThreadStep state = some (state', w'))
    (hsleeps : state.sleeps = []) (hmeasures : state.measures = false)
    (h : ∃ c, r.current = some c ∧ Unpaced w c)
    (haccepted : ∀ c : CycleRun D, D.PeriodLaws →
      (∀ periodNs, c.acceptedNs = some periodNs → w.periodNs = periodNs) →
      ∀ periodNs, (c.extended w state w').acceptedNs = some periodNs → w'.periodNs = periodNs) :
    ∃ c, r.current.map (·.extended w state w') = some c ∧ Unpaced w' c := by
  obtain ⟨c, hcurrent, hawake, hnone, hc⟩ := h
  refine ⟨c.extended w state w', ?_, ?_, c.extended_measurements hstep hmeasures hnone,
    fun laws => haccepted c laws (hc laws)⟩
  · rw [hcurrent]
    rfl
  · rw [c.extended_sleeps hstep, hawake, hsleeps]
    rfl

theorem gridStage_step {w w' : World D} {state state' : RtState D.limits} {r : LoopRun D}
    (hstep : w.rtThreadStep state = some (state', w')) (hentered : state ≠ .enter)
    (hlive : state' ≠ .returned) (h : GridStage w state r) :
    GridStage w' state' (r.after w state w') := by
  have hcases := World.rtThreadStep_cases hstep
  cases hcases with
  | enter => exact absurd rfl hentered
  | leave nextDeadlineNs hstop => exact absurd rfl hlive
  | again nextDeadlineNs hstop => exact ⟨congrArg (Option.map _) h.1, h.2⟩
  | cycleBegin nextDeadlineNs =>
    obtain ⟨hsleeps, hmeasurements⟩ := World.rtThreadStep_added hstep
    exact ⟨h.2, _, rfl, hsleeps, hmeasurements rfl, fun _ _ => nofun⟩
  | dispatch nextDeadlineNs startedAtNs i message =>
    exact ⟨h.1, gridStage_within hstep rfl rfl h.2 fun c laws hc =>
      w.dispatch_accepted laws message nextDeadlineNs startedAtNs i hc⟩
  | step nextDeadlineNs startedAtNs =>
    refine ⟨h.1, gridStage_within hstep rfl rfl h.2 fun c laws hc periodNs haccepted => ?_⟩
    exact (laws.step w.runtime w.env).trans (hc periodNs haccepted)
  | finish nextDeadlineNs startedAtNs =>
    obtain ⟨hdeadline, c, hcurrent, hc⟩ := h
    refine ⟨c.extended w (.finish nextDeadlineNs startedAtNs)
      (w.getTime.2.publishCycle startedAtNs w.getTime.1), congrArg (Option.map _) hcurrent,
      hdeadline, ?_, c.extended_measurements hstep rfl hc.measurements, rfl, hc.accepted⟩
    rw [c.extended_sleeps hstep, hc.sleeps]
    rfl
  | sleep nextDeadlineNs startedAtNs finishedAtNs periodNs hperiod =>
    obtain ⟨c, hcurrent, hdeadline, hawake, hc⟩ := h
    refine ⟨c.extended w _ _, congrArg (Option.map _) hcurrent, ?_, ⟨?_, fun _ => rfl,
      fun hfree => absurd hperiod hfree⟩, c.extended_measurements hstep rfl hc.measurements,
      hc.period, hc.accepted⟩
    · rw [gridPoint_append_singleton]
      change nextDeadlineNs + periodNs = gridPoint r.enteredAtNs r.cycles + c.periodNs
      rw [hc.period, hdeadline]
    · rw [c.extended_sleeps hstep, hawake]
      exact (if_pos hperiod).trans (if_pos hperiod).symm
  | free nextDeadlineNs startedAtNs finishedAtNs periodNs hperiod =>
    obtain ⟨c, hcurrent, hdeadline, hawake, hc⟩ := h
    have hzero : periodNs = 0 := UInt64.le_antisymm (UInt64.not_lt.mp hperiod) (by simp)
    refine ⟨c.extended w _ _, congrArg (Option.map _) hcurrent, ?_, ⟨?_,
      fun hpositive => absurd hpositive hperiod, fun _ => rfl⟩,
      c.extended_measurements hstep rfl hc.measurements, hc.period, hc.accepted⟩
    · rw [gridPoint_append_singleton]
      change nextDeadlineNs = gridPoint r.enteredAtNs r.cycles + c.periodNs
      rw [hc.period, hzero, UInt64.add_zero, hdeadline]
    · rw [c.extended_sleeps hstep, hawake]
      exact (if_neg hperiod).trans (if_neg hperiod).symm
  | measure nextDeadlineNs startedAtNs cycleCompletedAtNs periodNs =>
    obtain ⟨c, hcurrent, hdeadline, -⟩ := h
    refine ⟨rfl, ?_⟩
    rw [LoopRun.after_enteredAtNs, LoopRun.after_measure hcurrent, gridPoint_append_singleton,
      hdeadline, gridPoint_append_singleton]
    rfl
  | _ => exact ⟨h.1, gridStage_within hstep rfl rfl h.2 fun _ _ hc => hc⟩

theorem gridStage_law {w w' : World D} {state state' : RtState D.limits} {r : LoopRun D}
    (hstep : w.rtThreadStep state = some (state', w')) (h : GridStage w state r)
    (hlawful : Each (GridLaw D r.enteredAtNs) r.cycles) :
    Each (GridLaw D r.enteredAtNs) (r.after w state w').cycles := by
  cases state with
  | measure nextDeadlineNs startedAtNs cycleCompletedAtNs periodNs =>
    obtain ⟨c, hcurrent, hdeadline, hrests, hc⟩ := h
    rw [LoopRun.after_measure hcurrent]
    refine each_append_singleton.mpr ⟨hlawful, ⟨?_, ?_, ?_, fun htelemetry => ?_⟩, ?_, ?_⟩
    · rw [c.extended_sleeps hstep, hrests.sleeps]
      change _ ++ [] = if 0 < c.periodNs then [nextDeadlineNs] else []
      rw [hc.period, List.append_nil]
    · exact fun hpositive => hrests.slept (hc.period ▸ hpositive)
    · exact fun hfree => hrests.awake (hc.period ▸ hfree)
    · have hmeasured : measurements (w.added w') =
          (w.measurement nextDeadlineNs startedAtNs cycleCompletedAtNs periodNs).toList := by
        cases hstep
        exact w.measureCycle_measurements htelemetry _ _ _ _
      have hperiod : (c.extended w (.measure nextDeadlineNs startedAtNs cycleCompletedAtNs
          periodNs) w').periodNs = periodNs := hc.period
      rw [hperiod]
      refine (List.filterMap_append ..).trans ?_
      rw [← measurements, ← measurements, hc.measurements, hmeasured]
      rfl
    · rw [gridPoint_append_singleton] at hdeadline ⊢
      exact hdeadline
    · exact fun laws acceptedNs h => hc.period.trans (hc.accepted laws acceptedNs h)
  | _ => exact hlawful

theorem GridStage.frame {w w' : World D} {state : RtState D.limits} {r : LoopRun D}
    (h : GridStage w state r) (hruntime : w'.runtime = w.runtime) (henv : w'.env = w.env) :
    GridStage w' state r := by
  have hunpaced : ∀ {c}, Unpaced w c → Unpaced w' c := by
    intro c hc
    refine ⟨hc.sleeps, hc.measurements, fun laws periodNs haccepted => ?_⟩
    rw [World.periodNs, hruntime]
    exact hc.accepted laws periodNs haccepted
  cases state with
  | drain | dispatch | pauseTest | step | finish =>
    exact ⟨h.1, h.2.imp fun _ hc => ⟨hc.1, hunpaced hc.2⟩⟩
  | measure =>
    obtain ⟨c, hcurrent, hdeadline, hrests, hc⟩ := h
    exact ⟨c, hcurrent, hdeadline, ⟨hrests.sleeps, by rw [henv]; exact hrests.slept,
      by rw [henv]; exact hrests.awake⟩, hc⟩
  | _ => exact h

theorem gridLogs : Logs (D := D) (fun _ => True) (GridLaw D) GridStage where
  lasts _ _ _ := trivial
  enter _ _ _ := ⟨rfl, rfl⟩
  step _ := gridStage_step
  law _ := gridStage_law
  store _ _ h := h.frame rfl rfl
  push _ h := h.frame rfl rfl

/-- A cycle on the grid: it sleeps exactly if its period is positive, until the deadline that it is
measured against, which is the time of entry and the sum of the periods up to its own.  Within the
range of the clock that deadline is later than those before, and a period that its drain has set is
its own. -/
structure OnGrid (D : Deps) (enteredAtNs : UInt64) (before : List (CycleRun D))
    (c : CycleRun D) : Prop where
  rests : c.Rests
  deadline : enteredAtNs.toNat + Grid.span (periods (before ++ [c])) < 2 ^ 64 →
    c.deadlineNs.toNat = enteredAtNs.toNat + Grid.span (periods (before ++ [c]))
  increasing : enteredAtNs.toNat + Grid.span (periods (before ++ [c])) < 2 ^ 64 →
    0 < c.periodNs → ∀ b ∈ before, b.deadlineNs < c.deadlineNs
  accepted : D.PeriodLaws → ∀ periodNs, c.acceptedNs = some periodNs → c.periodNs = periodNs

theorem onGrid_of_gridLaw {enteredAtNs : UInt64} {cycles : List (CycleRun D)}
    (h : Each (GridLaw D enteredAtNs) cycles) : Each (OnGrid D enteredAtNs) cycles := by
  intro before c after hcycles
  have hc := h before c after hcycles
  refine ⟨hc.rests, fun hfits => ?_, fun hfits hperiod b hb => ?_, hc.accepted⟩
  · rw [hc.deadline]
    exact Grid.point_toNat hfits
  · obtain ⟨earlier, later, rfl⟩ := List.append_of_mem hb
    have hb' := h earlier b (later ++ c :: after) (by rw [hcycles]; simp)
    have hlast : periods (earlier ++ b :: later ++ [c]) =
        periods (earlier ++ [b]) ++ periods later ++ [c.periodNs] := by simp [periods]
    rw [hlast] at hfits
    rw [hb'.deadline, hc.deadline, gridPoint, gridPoint, hlast]
    exact Grid.point_lt hfits hperiod

/-- In every run, the deadlines of each launch of the loop are on its grid. -/
theorem deadlines_on_grid {s₀ : System D} (h : s₀.Initial) {as : List (Act D.limits)}
    {s : System D} {runs : List (LoopRun D)}
    (hpath : Path System.cycledAct (fun _ _ => True) (s₀, []) as (s, runs)) :
    ∀ r ∈ runs, Each (OnGrid D r.enteredAtNs) r.cycles := fun r hr =>
  onGrid_of_gridLaw ((gridLogs.path h trivial hpath).lawful r hr)

namespace Reference

theorem periodNs_guarded {accepted : Bool} {r r' : Runtime} (h : guarded accepted r = some r') :
    r'.periodNs = r.periodNs := by
  rw [guarded_eq_some h]

/-- The reference dependencies with a measurement tool, and a sleep that ends 2 ns too late. -/
def measuringDeps : Deps :=
  { deps with
    threadSleepUntil := fun e deadline => { e with now := max e.now deadline + 2 }
    calculateCycle := fun e periodNs startedAtNs completedAtNs =>
      (some ⟨0, periodNs, completedAtNs - startedAtNs, 0, 0, 0, 0, 0, 0, false, false⟩, e)
    calculateDeadline := fun _ completedAtNs deadlineNs toleranceNs metrics =>
      { metrics with
        wakeLatenessNs := completedAtNs - deadlineNs
        deadlineMissed := deadlineNs + toleranceNs < completedAtNs } }

theorem periodLaws : measuringDeps.PeriodLaws where
  setPeriod h := (periodNs_guarded h :)
  addNode h := (periodNs_guarded h :)
  removeNodeById h := (periodNs_guarded h :)
  removeNodesByName _ _ := rfl
  transitionNode h := (periodNs_guarded h :)
  addConnectionBetween h := (periodNs_guarded h :)
  removeConnection h := (periodNs_guarded h :)
  setNodeParam h := (periodNs_guarded h :)
  step _ _ := rfl

/-- A created engine with a command in its queue that sets a period of 11 ns. -/
def repacing : System measuringDeps where
  world := { world with commands := [⟨1, .setRuntimePeriod 11⟩], trace := [] }
  controller := .idle
  rtThreads := []
  waitThreads := []
  log := []

/-- The start of the engine, and two cycles of its RT loop. -/
def repacingActs : List (Act limits) :=
  .step (.call .start) :: List.replicate 9 (.step (.controller true)) ++
    List.replicate 20 (.step (.rt 0))

def gridRun : System measuringDeps × List (LoopRun measuringDeps) :=
  (Transition.run System.cycledAct (repacing, []) repacingActs).get (by decide)

/-- When a cycle was over. -/
def wokenAtNs (c : CycleRun measuringDeps) : UInt64 := Env.now c.rested.env

end Reference

theorem deadlines_on_grid_reference :
    (∀ r ∈ Reference.gridRun.2, Each (OnGrid Reference.measuringDeps r.enteredAtNs) r.cycles ∧
        ∀ c ∈ r.cycles, ∀ periodNs, c.acceptedNs = some periodNs → c.periodNs = periodNs) ∧
      Reference.gridRun.2.map (·.cycles.map fun c => sleeps c.events) = [[[11], [22]]] ∧
      Reference.gridRun.2.map (·.cycles.map Reference.wokenAtNs) = [[13, 24]] ∧
      Reference.gridRun.2.map (·.cycles.map fun c => measurements c.events) =
        [[[.measurement 0 11 13 0 2 0 0 0 0 0 1], [.measurement 0 11 11 0 2 0 0 0 0 0 1]]] := by
  have hrun : Transition.run System.cycledAct (Reference.repacing, []) Reference.repacingActs =
      some Reference.gridRun := (Option.some_get _).symm
  have hinitial : Reference.repacing.Initial := ⟨rfl, rfl, rfl, rfl, rfl⟩
  have hgrid := deadlines_on_grid hinitial (.of_run (fun _ _ => trivial) hrun)
  refine ⟨fun r hr => ⟨hgrid r hr, fun c hc => ?_⟩, rfl, rfl, rfl⟩
  obtain ⟨before, after, heq⟩ := List.append_of_mem hc
  exact (hgrid r hr before c after heq).accepted Reference.periodLaws

end RtsynEngine
