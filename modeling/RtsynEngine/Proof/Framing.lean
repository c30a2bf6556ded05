import RtsynEngine.Proof.Consumption
import RtsynEngine.Proof.Frames
import RtsynEngine.Proof.Lifetime

/-! The telemetry that the RT loop attempts to send is framed by cycles: over any starts and stops,
commands and refused pushes, it is the frames of the cycles in their order. -/

namespace RtsynEngine

open Framing Handle History

variable {D : Deps} {L : Limits}

/-- What the publishers of the RT loop keep: the counters agree with the history, the subscription
table is sound, and there is a queue. -/
structure Reporting (w : World D) : Prop where
  conserved : Conserved (fun _ => False) w
  table : ∃ f, TableMatches D.limits w.engine.telemetrySubscriptions f
  queue : w.engine.config.telemetryQueue = true

namespace Reporting

variable {w w' : World D}

theorem publishes (h : Reporting w) (hw : Publishes (fun _ => False) w w') : Reporting w' where
  conserved := h.conserved.publishes hw
  table := by
    rw [hw.engine]
    exact h.table
  queue := by
    rw [hw.engine]
    exact h.queue

theorem publish (h : Reporting w) (call : PublisherCall D.limits) (hcall : ∀ m, call ≠ .push m) :
    Reporting (w.publish call) ∧ (w.publish call).engine.cycleId = w.engine.cycleId ∧
      (w.publish call).engine.telemetrySubscriptions = w.engine.telemetrySubscriptions := by
  have hpublishes : Publishes (fun _ => False) w (w.publish call) :=
    w.publish_publishes call fun m hm => absurd hm (hcall m)
  exact ⟨h.publishes hpublishes, by rw [hpublishes.engine], by rw [hpublishes.engine]⟩

theorem silent (h : Reporting w) {events : List (Event D.limits)}
    (htrace : w'.trace = w.trace ++ events) (hsilent : ∀ e ∈ events, e.telemetry = none)
    (hkept : EngineKept w.engine w'.engine)
    (htable : ∃ f, TableMatches D.limits w'.engine.telemetrySubscriptions f) : Reporting w' where
  conserved := h.conserved.silent htrace hsilent hkept.telemetrySeq hkept.droppedTelemetryEvents
    hkept.droppedTelemetryValues
  table := htable
  queue := by
    obtain ⟨rtThread, deadlineToleranceNs, hconfig⟩ := hkept.config
    rw [hconfig]
    exact h.queue

/-- A push with the queue configured adds one message. -/
theorem push_trace (h : Reporting w) (m : TelemetryMessage) :
    ∃ e m', (w.eventPushTelemetry m).2.trace = w.trace ++ [e] ∧ e.telemetry = some m' ∧
      m'.data = m.data ∧ m'.timestampNs = m.timestampNs := by
  rcases w.eventPushTelemetry_sent m with ⟨hnone, -⟩ | ⟨m', accepted, htrace, hdata, htime⟩
  · rw [h.queue] at hnone
    cases hnone
  · exact ⟨_, m', htrace, rfl, hdata, htime⟩

/-- `DROPPED` is sent exactly if the history has counted a loss. -/
theorem dropped_trace (h : Reporting w) (timestampNs : UInt64) :
    ∃ report : Option (Event D.limits),
      (w.publish (.dropped timestampNs)).trace = w.trace ++ report.toList ∧
      (report.isSome = true ↔ CountsLoss w.trace) ∧
      ∀ e ∈ report, ∃ events values, e.body = some (.dropped w.engine.cycleId events values) := by
  dsimp only [World.publish, World.eventPublishDropped]
  rw [CountsLoss, ← h.conserved.events, ← h.conserved.values, h.queue]
  split
  · next hskip =>
    have hzero : w.engine.droppedTelemetryEvents = 0 ∧ w.engine.droppedTelemetryValues = 0 := by
      simpa using hskip
    exact ⟨none, (List.append_nil _).symm, by simp [hzero],
      fun e he => absurd he (Option.not_mem_none e)⟩
  · next hskip =>
    have hlossy : w.engine.droppedTelemetryEvents ≠ 0 ∨ w.engine.droppedTelemetryValues ≠ 0 := by
      by_contra hzero
      rw [not_or, not_not, not_not] at hzero
      exact hskip (by simp [hzero])
    obtain ⟨e, m, htrace, hm, hdata, -⟩ := h.push_trace (World.telemetryMessage timestampNs
      (.dropped w.engine.cycleId w.engine.droppedTelemetryEvents w.engine.droppedTelemetryValues))
    have hbody := Event.body_of_telemetry hm
    rw [hdata] at hbody
    refine ⟨some e, htrace, by simpa using hlossy, fun e' he' => ?_⟩
    cases he'
    exact ⟨_, _, hbody⟩

theorem measureCycle_trace (h : Reporting w)
    (nextDeadlineNs startedAtNs cycleCompletedAtNs periodNs : UInt64) :
    let w' := w.measureCycle nextDeadlineNs startedAtNs cycleCompletedAtNs periodNs
    Reporting w' ∧ ∃ measurement : Option (Event D.limits),
      w'.trace = w.trace ++ measurement.toList ∧
      ∀ e ∈ measurement, ∃ data, e.body = some data ∧ data.isMeasurement := by
  have hread : ∀ env, Reporting { w with env } := fun env =>
    ⟨⟨h.conserved.seq, h.conserved.events, h.conserved.values, h.conserved.numbered,
      h.conserved.totalled⟩, h.table, h.queue⟩
  unfold World.measureCycle
  split
  · next env _ =>
    exact ⟨hread env, none, (List.append_nil _).symm,
      fun e he => absurd he (Option.not_mem_none e)⟩
  · next metrics env _ =>
    dsimp only
    generalize D.calculateDeadline periodNs cycleCompletedAtNs nextDeadlineNs _ metrics = metrics
    have hpublish := (hread env).publish (.measurement cycleCompletedAtNs (some metrics))
      fun _ => nofun
    refine ⟨hpublish.1, ?_⟩
    dsimp only [World.eventPublishMeasurement]
    generalize hmessage : World.telemetryMessage cycleCompletedAtNs _ = message
    obtain ⟨e, m, htrace, hm, hdata, -⟩ := (hread env).push_trace message
    refine ⟨some e, htrace, fun e' he' => ?_⟩
    cases he'
    refine ⟨_, Event.body_of_telemetry hm, ?_⟩
    rw [hdata, ← hmessage]
    trivial

/-- The batches of the requested values: at most one for each node. -/
theorem requestedValues_trace (h : Reporting w) (timestampNs : UInt64) :
    ∃ batches, (w.publish (.requestedValues timestampNs)).trace = w.trace ++ batches ∧
      Batches w.engine.cycleId batches := by
  obtain ⟨f, htable⟩ := h.table
  obtain ⟨js, batches, hjs, htrace, hslots⟩ := World.publishSlots_sent timestampNs
    (List.finRange D.limits.subscriptionCapacity) (true, w)
  let table := w.engine.telemetrySubscriptions
  have hused : ∀ i ∈ js, table[i].used = true := by
    intro i hi
    obtain ⟨k, hk, rfl⟩ := List.getElem_of_mem hi
    obtain ⟨hlength, hslots⟩ := List.forall₂_iff_get.mp hslots
    exact (hslots k hk (hlength ▸ hk)).1
  refine ⟨batches, htrace, js.map fun i => table[i].nodeId, ?_, ?_⟩
  · have hnodup : js.Nodup := hjs.nodup (List.nodup_finRange _)
    refine hnodup.map_on fun i hi j hj hij => ?_
    exact htable.readsAs.distinct i j (hused i hi) (hused j hj) hij
  · rw [List.forall₂_map_left_iff]
    refine hslots.imp fun i e hslot => ?_
    obtain ⟨-, m, samples, accepted, source, rfl, hdata⟩ := hslot
    exact ⟨source, congrArg some hdata⟩

/-- What a cycle sends after its work. -/
theorem publishCycle_trace (h : Reporting w) (startedAtNs finishedAtNs : UInt64) :
    let w' := w.publishCycle startedAtNs finishedAtNs
    Reporting w' ∧ ∃ batches closing, ∃ report : Option (Event D.limits),
      w'.trace = w.trace ++ (batches ++ [closing]) ++ report.toList ∧
      Batches w.engine.cycleId batches ∧
      closing.body = some (.cycleEnd w.engine.cycleId startedAtNs finishedAtNs) ∧
      (report.isSome = true ↔ CountsLoss (w.trace ++ (batches ++ [closing]))) ∧
      ∀ e ∈ report, ∃ events values, e.body = some (.dropped w.engine.cycleId events values) := by
  obtain ⟨batches, hvalues, hbatches⟩ := h.requestedValues_trace finishedAtNs
  let w₁ := w.publish (.requestedValues finishedAtNs)
  obtain ⟨(hreporting₁ : Reporting w₁), (hcycle₁ : w₁.engine.cycleId = _), -⟩ :=
    h.publish (.requestedValues finishedAtNs) fun _ => nofun
  obtain ⟨closing, m, hclosing, hm, hend, -⟩ := hreporting₁.push_trace
    (World.telemetryMessage finishedAtNs (.cycleEnd w₁.engine.cycleId startedAtNs finishedAtNs))
  let w₂ := w₁.publish (.cycleEnd startedAtNs finishedAtNs)
  obtain ⟨(hreporting₂ : Reporting w₂), (hcycle₂ : w₂.engine.cycleId = _), -⟩ :=
    hreporting₁.publish (.cycleEnd startedAtNs finishedAtNs) fun _ => nofun
  obtain ⟨report, hdropped, hlossy, hreport⟩ := hreporting₂.dropped_trace finishedAtNs
  have htrace : w₂.trace = w.trace ++ (batches ++ [closing]) := by
    rw [← List.append_assoc, ← hvalues]
    exact hclosing
  have hbody := Event.body_of_telemetry hm
  rw [hend, hcycle₁] at hbody
  rw [htrace] at hlossy hdropped
  rw [hcycle₂, hcycle₁] at hreport
  exact ⟨(hreporting₂.publish (.dropped finishedAtNs) fun _ => nofun).1, batches, closing, report,
    hdropped, hbatches, hbody, hlossy, hreport⟩

end Reporting

/-- The attempts of the loop so far: whole frames, and what there is of the current one. -/
structure Streamed (w : World D) (state : FrameState) : Prop where
  reporting : Reporting w
  framed : ∃ frames current, attempted w.trace = attemptsOf frames ++ current ∧
    Frames CountsLoss frames ∧ w.engine.cycleId = UInt64.ofNat frames.length ∧
    state.Attempted CountsLoss (attemptsOf frames) w.engine.cycleId current

namespace Streamed

variable {w w' : World D} {state : FrameState}

theorem silent (h : Streamed w state) {events : List (Event D.limits)}
    (htrace : w'.trace = w.trace ++ events) (hsilent : ∀ e ∈ events, e.telemetry = none)
    (hkept : EngineKept w.engine w'.engine)
    (htable : ∃ f, TableMatches D.limits w'.engine.telemetrySubscriptions f) :
    Streamed w' state := by
  obtain ⟨frames, current, hstream, hframes, hcycle, hcurrent⟩ := h.framed
  refine ⟨h.reporting.silent htrace hsilent hkept htable, frames, current, ?_, hframes, ?_, ?_⟩
  · rw [htrace, attempted_append, attempted_silent hsilent, List.append_nil, hstream]
  · rw [hkept.cycleId, hcycle]
  · rw [hkept.cycleId]
    exact hcurrent

theorem quiet (h : Streamed w state) {events : List (Event D.limits)}
    (htrace : w'.trace = w.trace ++ events) (hsilent : ∀ e ∈ events, e.telemetry = none)
    (hengine : w'.engine = w.engine) : Streamed w' state := by
  refine h.silent htrace hsilent ?_ ?_
  · rw [hengine]
    exact .refl _
  · rw [hengine]
    exact h.reporting.table

theorem same (h : Streamed w state) (htrace : w'.trace = w.trace)
    (hengine : w'.engine = w.engine) : Streamed w' state := by
  have hnothing : w'.trace = w.trace ++ [] := by rw [htrace, List.append_nil]
  exact h.quiet hnothing (List.forall_mem_nil _) hengine

theorem opens (h : Streamed w .between) (timestampNs : UInt64) :
    Streamed (w.publish (.cycleBegin timestampNs)) (.opened timestampNs) := by
  obtain ⟨frames, _, hstream, hframes, hcycle, rfl⟩ := h.framed
  obtain ⟨hreporting, hcycleId, -⟩ := h.reporting.publish (.cycleBegin timestampNs) fun _ => nofun
  obtain ⟨e, m, htrace, hm, hdata, htime⟩ := h.reporting.push_trace
    (World.telemetryMessage timestampNs (.cycleBegin w.engine.cycleId timestampNs))
  have htrace : (w.publish (.cycleBegin timestampNs)).trace = w.trace ++ [e] := htrace
  refine ⟨hreporting, frames, [e], ?_, hframes, hcycleId.trans hcycle, e, m, rfl, hm, ?_, htime⟩
  · have hopening : attempted [e] = [e] :=
      attempted_self (List.forall_mem_singleton.mpr ⟨_, Event.body_of_telemetry hm⟩)
    rw [htrace, attempted_append, hstream, hopening, List.append_nil]
  · rw [hcycleId]
    exact hdata

theorem closes {startedAtNs : UInt64} (h : Streamed w (.opened startedAtNs))
    (finishedAtNs : UInt64) : Streamed (w.publishCycle startedAtNs finishedAtNs) .closed := by
  obtain ⟨frames, _, hstream, hframes, hcycle, opening, begun, rfl, hbegun, hbegin, htime⟩ :=
    h.framed
  obtain ⟨hreporting, batches, closing, report, htrace, hbatches, hend, hlossy, hreport⟩ :=
    h.reporting.publishCycle_trace startedAtNs finishedAtNs
  obtain ⟨-, -, hcycleId⟩ := w.publishCycle_kept startedAtNs finishedAtNs
  let f : Frame D.limits := ⟨opening, batches, closing, report, none⟩
  have hupToEnd : attempted (w.trace ++ (batches ++ [closing])) =
      attemptsOf frames ++ f.upToEnd := by
    have htelemetry : attempted (batches ++ [closing]) = batches ++ [closing] := by
      refine attempted_self (List.forall_mem_append.mpr ⟨fun e he => ?_, ?_⟩)
      · obtain ⟨nodeId, source, hbody⟩ := hbatches.body he
        exact ⟨_, hbody⟩
      · exact List.forall_mem_singleton.mpr ⟨_, hend⟩
    rw [attempted_append, hstream, htelemetry, List.append_assoc]
    rfl
  have hevents : attempted (w.publishCycle startedAtNs finishedAtNs).trace =
      attemptsOf frames ++ f.events := by
    have htelemetry : attempted report.toList = report.toList := by
      refine attempted_self fun e he => ?_
      obtain ⟨events, values, hbody⟩ := hreport e (Option.mem_toList.mp he)
      exact ⟨_, hbody⟩
    rw [htrace, attempted_append, hupToEnd, htelemetry, List.append_assoc]
    simp [f, Frame.events]
  have hvalid : f.Valid CountsLoss (attemptsOf frames) w.engine.cycleId := by
    rw [← countsLoss_attempted, hupToEnd] at hlossy
    rw [← htime] at hbegin hend
    exact ⟨⟨begun, finishedAtNs, hbegun, hbegin, hend⟩, hbatches, hlossy, hreport,
      fun e he => absurd he (Option.not_mem_none e)⟩
  have hcurrent : FrameState.closed.Attempted CountsLoss (attemptsOf frames) w.engine.cycleId
      f.events := ⟨f, hvalid, rfl, rfl⟩
  rw [← hcycleId] at hcycle hcurrent
  exact ⟨hreporting, frames, f.events, hevents, hframes, hcycle, hcurrent⟩

theorem measures (h : Streamed w .closed)
    (nextDeadlineNs startedAtNs cycleCompletedAtNs periodNs : UInt64) :
    Streamed (w.measureCycle nextDeadlineNs startedAtNs cycleCompletedAtNs periodNs).nextCycle
      .between := by
  obtain ⟨frames, _, hstream, hframes, hcycle, f, hvalid, hnone, rfl⟩ := h.framed
  obtain ⟨hreporting, measurement, htrace, hbody⟩ :=
    h.reporting.measureCycle_trace nextDeadlineNs startedAtNs cycleCompletedAtNs periodNs
  obtain ⟨-, -, hcycleId⟩ :=
    w.measureCycle_kept nextDeadlineNs startedAtNs cycleCompletedAtNs periodNs
  let f' : Frame D.limits := { f with measurement }
  have hevents : f'.events = f.events ++ measurement.toList := by
    simp [f', Frame.events, Frame.upToEnd, hnone]
  have hvalid' : f'.Valid CountsLoss (attemptsOf frames) (UInt64.ofNat frames.length) := by
    rw [hcycle] at hvalid
    exact ⟨hvalid.bounds, hvalid.batches, hvalid.report, hvalid.dropped, hbody⟩
  have htelemetry : attempted measurement.toList = measurement.toList := by
    refine attempted_self fun e he => ?_
    obtain ⟨data, hdata, -⟩ := hbody e (Option.mem_toList.mp he)
    exact ⟨data, hdata⟩
  refine ⟨⟨?_, hreporting.table, hreporting.queue⟩, frames ++ [f'], [], ?_,
    each_append_singleton.mpr ⟨hframes, hvalid'⟩, ?_, rfl⟩
  · obtain ⟨hseq, hevents, hvalues, hnumbered, htotalled⟩ := hreporting.conserved
    exact ⟨hseq, hevents, hvalues, hnumbered, htotalled⟩
  · have hattempts : attempted (w.trace ++ measurement.toList) =
        attemptsOf (frames ++ [f']) ++ [] := by
      rw [attempted_append, hstream, htelemetry, attemptsOf_append, attemptsOf_singleton, hevents,
        List.append_nil, List.append_assoc]
    rw [← hattempts, ← htrace]
    rfl
  · rw [List.length_append, UInt64.ofNat_add, ← hcycle, ← hcycleId]
    rfl

end Streamed

theorem Event.telemetry_of_handler {e : Event L} (h : e.ofHandler) : e.telemetry = none := by
  cases e <;> first | rfl | exact h.elim

namespace World

theorem dispatch_table (w : World D) (m : CommandMessage D.limits)
    (h : ∃ f, TableMatches D.limits w.engine.telemetrySubscriptions f) :
    ∃ f, TableMatches D.limits (w.dispatchCommand m).2.engine.telemetrySubscriptions f := by
  obtain ⟨f, htable⟩ := h
  cases hm : m.data.subscribes with
  | false =>
    rw [w.dispatch_subscriptions hm]
    exact ⟨f, htable⟩
  | true =>
    obtain ⟨r, rfl⟩ := exists_maskRequest hm
    obtain ⟨-, ⟨table, hw, htable'⟩, -⟩ := w.maskRequest_refines r htable
    rw [hw]
    exact ⟨_, htable'⟩

theorem rtThreadStep_streamed {w w' : World D} {state state' : RtState D.limits}
    (h : Streamed w state.frame) (hstep : w.rtThreadStep state = some (state', w')) :
    Streamed w' state'.frame := by
  cases rtThreadStep_cases hstep with
  | cycleBegin nextDeadlineNs =>
    have hread : Streamed w.getTime.2 .between := h.same rfl rfl
    exact hread.opens w.getTime.1
  | dispatch nextDeadlineNs startedAtNs i message =>
    let w₁ := w.emit (.dispatched message)
    have hemitted : Streamed w₁ (.opened startedAtNs) := by
      have htrace : w₁.trace = w.trace ++ [.dispatched message] := rfl
      exact h.quiet htrace (List.forall_mem_singleton.mpr rfl) rfl
    obtain ⟨events, htrace, hhandler⟩ := w₁.dispatch_trace message
    exact hemitted.silent htrace (fun e he => Event.telemetry_of_handler (hhandler e he))
      (w₁.dispatch_kept message) (w₁.dispatch_table message hemitted.reporting.table)
  | step nextDeadlineNs startedAtNs =>
    have htrace : w.runtimeStep.trace = w.trace ++ [.runtimeStep] := rfl
    exact h.quiet htrace (List.forall_mem_singleton.mpr rfl) rfl
  | finish nextDeadlineNs startedAtNs =>
    have hread : Streamed w.getTime.2 (.opened startedAtNs) := h.same rfl rfl
    exact hread.closes w.getTime.1
  | sleep nextDeadlineNs startedAtNs finishedAtNs periodNs hperiod =>
    have htrace : (w.sleepUntil (nextDeadlineNs + periodNs)).getTime.2.trace =
        w.trace ++ [.sleepUntil (nextDeadlineNs + periodNs)] := rfl
    exact h.quiet htrace (List.forall_mem_singleton.mpr rfl) rfl
  | measure nextDeadlineNs startedAtNs cycleCompletedAtNs periodNs =>
    exact h.measures nextDeadlineNs startedAtNs cycleCompletedAtNs periodNs
  | _ => exact h.same rfl rfl

end World

namespace System

variable {s s' : System D}

/-- A created engine, before any call and with an empty history. -/
def Unused (config : Config) (s : System D) : Prop := s.Created config ∧ s.world.trace = []

theorem effect_streamed {a : Act D.limits} (heffect : Effect s s' a)
    (h : Streamed s.world s.loop.frame) : Streamed s'.world s'.loop.frame := by
  cases heffect with
  | loop hstep => exact World.rtThreadStep_streamed h hstep
  | launch ha hbefore hafter hworld =>
    rw [hbefore] at h
    rw [hafter, hworld]
    exact h
  | store ha hloop hworld hstop =>
    rw [hloop, hworld]
    have hnothing : (s.world.setFlags _).trace = s.world.trace ++ [] := (List.append_nil _).symm
    exact h.silent hnothing (List.forall_mem_nil _) ⟨⟨_, _, rfl⟩, rfl, rfl, rfl, rfl⟩
      h.reporting.table
  | push m hloop hworld =>
    rw [hloop, hworld]
    exact h.same rfl rfl
  | free ha hbefore hloop hworld =>
    rw [World.collectionDestroy, World.destroyElements_eq] at hworld
    have htrace : s'.world.trace = s.world.trace ++
        World.unloadEvents s.world.engine.loadedNodes (D.nodes s.world.runtime) := by
      rw [hworld]
      rfl
    have hsilent : ∀ e ∈ World.unloadEvents s.world.engine.loadedNodes
        (D.nodes s.world.runtime), e.telemetry = none := fun e he =>
      Event.telemetry_of_handler (World.unloadEvents_ofHandler _ _ e he)
    rw [hloop]
    refine h.silent htrace hsilent ?_ ?_
    · rw [hworld]
      exact ⟨⟨_, _, rfl⟩, rfl, rfl, rfl, rfl⟩
    · rw [hworld]
      exact h.reporting.table

theorem streamed {config : Config} (hqueue : config.telemetryQueue = true)
    (h : Transition.Reachable (Unused config) act s) : Streamed s.world s.loop.frame := by
  have hinvariant : s.Covered ∧ Streamed s.world s.loop.frame := by
    refine Transition.Reachable.invariant (P := fun s : System D =>
      s.Covered ∧ Streamed s.world s.loop.frame) ?_ ?_ h
    · rintro s ⟨⟨hinitial, hcreate⟩, hstart⟩
      have hfresh := Engine.create_fresh hcreate
      have hidle : s.loop = .returned := by
        rw [loop, hinitial.2.2.1]
        rfl
      have hconfigured : s.world.engine.config.telemetryQueue = true := by
        rw [← hqueue, ← congrArg Config.telemetryQueue hfresh.config]
      have hreporting : Reporting s.world := by
        refine ⟨.of_fresh hfresh hstart, ⟨fun _ => 0, ?_⟩, hconfigured⟩
        rw [hfresh.telemetrySubscriptions]
        exact tableMatches_zero D.limits
      refine ⟨covered_of_initial hinitial, hreporting, [], [], ?_, each_nil, hfresh.cycleId, ?_⟩
      · rw [hstart]
        rfl
      · rw [hidle]
        rfl
    · rintro s a s' ⟨hcovered, hstreamed⟩ hstep
      exact ⟨hcovered.act hstep, effect_streamed (act_effect hcovered hstep) hstreamed⟩
  exact hinvariant.2

end System

/-- The telemetry attempted so far is the frames of whole cycles, counted from 0 over all launches
of the loop, and the beginning of one more. -/
structure System.Framed (lossy : List (Event D.limits) → Prop) (s : System D)
    (frames : List (Frame D.limits)) (current : List (Event D.limits)) : Prop where
  stream : attempted s.world.trace = attemptsOf frames ++ current
  whole : Frames lossy frames
  beginning : ∃ f : Frame D.limits,
    f.Valid lossy (attemptsOf frames) (UInt64.ofNat frames.length) ∧ current <+: f.events
  between : s.loop.frame = .between → current = []
  cycleId : s.world.engine.cycleId = UInt64.ofNat frames.length

theorem Streamed.framed_system {s : System D} (h : Streamed s.world s.loop.frame) :
    ∃ frames current, s.Framed CountsLoss frames current ∧
      (refusedEvents s.world.trace < UInt64.size → lostSamples s.world.trace < UInt64.size →
        s.Framed Lossy frames current) := by
  obtain ⟨frames, current, hstream, hframes, hcycle, hcurrent⟩ := h.framed
  rw [hcycle] at hcurrent
  have hbetween : s.loop.frame = .between → current = [] := by
    intro hstate
    rw [hstate] at hcurrent
    exact hcurrent
  refine ⟨frames, current, ⟨hstream, hframes, hcurrent.beginning, hbetween, hcycle⟩,
    fun hevents hvalues => ?_⟩
  have hiff : ∀ history, history <+: attemptsOf frames ++ current →
      (CountsLoss history ↔ Lossy history) := by
    intro history hprefix
    rw [← hstream] at hprefix
    exact countsLoss_iff hevents hvalues hprefix
  refine ⟨hstream, fun before f after hsplit => ?_, (hcurrent.congr hiff).beginning, hbetween,
    hcycle⟩
  refine (hframes before f after hsplit).congr (hiff _ (f.upToEnd_prefix.trans ?_))
  rw [hsplit, attemptsOf_append, attemptsOf_cons, List.append_assoc, List.append_assoc,
    ← List.append_assoc]
  exact List.prefix_append _ _

/-- The telemetry stream is framed by cycles: over any starts and stops, commands and refused
pushes, the attempts are the frames of the cycles in their order, each with `DROPPED` exactly if the
64-bit counts of the loss before it are not both 0, and so if there was a loss while these fit; they
are numbered from 1 on; the delivered messages are those of the accepted attempts, and if all are
accepted the stream of whole cycles can be divided into them, in one way. -/
theorem cycles_framed {config : Config} (hqueue : config.telemetryQueue = true) {s : System D}
    (h : Transition.Reachable (System.Unused config) System.act s) :
    ∃ frames current, s.Framed CountsLoss frames current ∧
      (refusedEvents s.world.trace < UInt64.size → lostSamples s.world.trace < UInt64.size →
        s.Framed Lossy frames current) ∧
      (s.world.trace.filterMap Event.telemetry).map (·.seq) =
        (List.range (attempts s.world.trace)).map (fun i => UInt64.ofNat (i + 1)) ∧
      s.world.trace.filterMap Event.delivered =
        ((attempted s.world.trace).filter Event.accepted).filterMap Event.telemetry ∧
      ((∀ e ∈ attempted s.world.trace, e.accepted = true) → s.loop.frame = .between →
        divide TelemetryMessage.isCycleBegin (s.world.trace.filterMap Event.delivered) =
          ([], frames.map Frame.messages) ∧
        ∀ frames', (∀ f ∈ frames', IsFrame TelemetryMessage.isCycleBegin f) →
          frames'.flatten = s.world.trace.filterMap Event.delivered →
            frames' = frames.map Frame.messages) := by
  have hstreamed := System.streamed hqueue h
  obtain ⟨frames, current, hframed, hlossy⟩ := hstreamed.framed_system
  refine ⟨frames, current, hframed, hlossy, seqs_of_numbered hstreamed.reporting.conserved.numbered,
    delivered_eq _, fun haccepted hbetween => ?_⟩
  have hstream : s.world.trace.filterMap Event.delivered = (frames.map Frame.messages).flatten := by
    rw [delivered_eq, List.filter_eq_self.mpr haccepted, hframed.stream, hframed.between hbetween,
      List.append_nil, messages_attemptsOf]
  have hdivided : ∀ f ∈ frames.map Frame.messages, IsFrame TelemetryMessage.isCycleBegin f := by
    intro _ hmem
    obtain ⟨f, hf, rfl⟩ := List.mem_map.mp hmem
    obtain ⟨before, after, rfl⟩ := List.append_of_mem hf
    exact (hframed.whole before f after rfl).isFrame
  rw [hstream]
  exact ⟨divide_flatten hdivided, fun frames' hframes' heq =>
    flatten_injective hframes' hdivided heq⟩

namespace Reference

/-- A created engine with a runtime of one node that shows a state, a request for that state in the
command queue, and the coming answers of the telemetry queue. -/
def observing (answers : List Bool) : System deps where
  world := { world with
    runtime := { loadedWorld.runtime with stateValues := [((0, 2), 9)] }
    telemetry := answers
    commands := [⟨1, .requestPortVariables 0 4 true⟩] }
  controller := .idle
  rtThreads := []
  waitThreads := []
  log := []

/-- The start of the engine and a cycle of its RT loop. -/
def observingActs : List (Act limits) :=
  .step (.call .start) :: List.replicate 9 (.step (.controller true)) ++
    List.replicate 11 (.step (.rt 0))

def observed : System deps :=
  (Transition.run System.act (observing []) observingActs).get (by decide)

/-- The cycle whose values the queue refuses. -/
def observedInPart : System deps :=
  (Transition.run System.act (observing [true, false]) observingActs).get (by decide)

theorem observing_unused (answers : List Bool) : System.Unused config (observing answers) :=
  ⟨⟨⟨rfl, rfl, rfl, rfl, rfl⟩, rfl⟩, rfl⟩

end Reference

theorem cycles_framed_reference :
    (∃ frames current, Reference.observed.Framed CountsLoss frames current ∧
      frames.map Frame.messages =
        [[⟨1, 0, 0, .cycleBegin 0 0⟩, ⟨2, 0, 0, .valuesWritten 0 0 .plugin⟩,
          ⟨3, 0, 0, .cycleEnd 0 0 0⟩]]) ∧
      ∃ frames current, Reference.observedInPart.Framed CountsLoss frames current ∧
        (attemptsOf frames).filterMap Event.telemetry =
          [⟨1, 0, 0, .cycleBegin 0 0⟩, ⟨2, 0, 0, .valuesWritten 0 0 .plugin⟩,
            ⟨3, 0, 0, .cycleEnd 0 0 0⟩, ⟨4, 0, 0, .dropped 0 0 1⟩] := by
  have hrun : Transition.run System.act (Reference.observing []) Reference.observingActs =
      some Reference.observed := (Option.some_get _).symm
  have hrun' : Transition.run System.act (Reference.observing [true, false])
      Reference.observingActs = some Reference.observedInPart := (Option.some_get _).symm
  have hstart (answers : List Bool) : Transition.Reachable (System.Unused Reference.config)
      System.act (Reference.observing answers) := .start (Reference.observing_unused answers)
  obtain ⟨frames, current, hframed, -, -, -, hparse⟩ := cycles_framed rfl
    ((hstart []).run hrun)
  obtain ⟨frames', current', hframed', -⟩ := cycles_framed rfl ((hstart [true, false]).run hrun')
  have hdelivered : Reference.observed.world.trace.filterMap Event.delivered =
      [⟨1, 0, 0, .cycleBegin 0 0⟩, ⟨2, 0, 0, .valuesWritten 0 0 .plugin⟩,
        ⟨3, 0, 0, .cycleEnd 0 0 0⟩] := by
    decide +kernel
  obtain ⟨hdivided, -⟩ := hparse (by decide +kernel) rfl
  rw [hdelivered] at hdivided
  refine ⟨⟨frames, current, hframed, (Prod.mk.inj hdivided).2.symm⟩, frames', current', hframed',
    ?_⟩
  have hstream := hframed'.stream
  rw [hframed'.between rfl, List.append_nil] at hstream
  rw [← hstream]
  decide +kernel

namespace Reference

/-- The world of the started engine with other counters, coming answers of the queue and history. -/
def counting (cycleId seq events : UInt64) (answers : List Bool) (trace : List (Event limits)) :
    World deps :=
  { started.world with
    engine := { started.world.engine with
      cycleId, telemetrySeq := seq, droppedTelemetryEvents := events }
    telemetry := answers
    trace }

/-- The started engine with its RT loop at its test. -/
def looping (w : World deps) : System deps := { started with world := w }

/-- A history with a further cycle, up to its `CYCLE_END`, whose two messages are refused. -/
def refusedCycle (cycleId seq events : UInt64) (trace : List (Event limits)) :
    List (Event limits) :=
  trace ++ [.telemetryPush ⟨seq + 1, 0, events, .cycleBegin cycleId 0⟩ false] ++ [.runtimeStep] ++
    [.telemetryPush ⟨seq + 1 + 1, 0, events + 1, .cycleEnd cycleId 0 0⟩ false]

theorem cycleBegins_refusedCycle (cycleId seq events : UInt64) (trace : List (Event limits)) :
    cycleBegins (refusedCycle cycleId seq events trace) = cycleBegins trace + 1 := by
  rw [refusedCycle, List.append_assoc, List.append_assoc, cycleBegins, List.countP_append]
  rfl

/-- The answers of the queue to `n` cycles in which `DROPPED` alone is accepted, and to one in which
nothing is accepted. -/
def answers : Nat → List Bool
  | 0 => [false, false]
  | n + 1 => false :: false :: true :: answers n

theorem looping_run (cycleId seq events : UInt64) (rest : List Bool)
    (trace : List (Event limits)) :
    Transition.run System.act
      (looping (counting cycleId seq events (false :: false :: rest) trace))
      (List.replicate 8 (.step (.rt 0))) =
    some (looping ((counting cycleId (seq + 1 + 1) (events + 1 + 1) rest
      (refusedCycle cycleId seq events trace)).eventPublishDropped 0).2.nextCycle) :=
  (rfl)

theorem start_run (rest : List Bool) :
    Transition.run System.act { created with world := { world with telemetry := rest } }
      (.step (.call .start) :: List.replicate 9 (.step (.controller true)) ++ [.step (.rt 0)]) =
    some (looping (counting 0 0 0 rest [])) :=
  (rfl)

/-- From a count of events that `n` such cycles and one more bring to 2^64, the run in which the
last `CYCLE_END` wraps the count to 0. -/
theorem wrapping_run {init : System deps → Prop} {n : Nat} {cycleId seq events : UInt64}
    {trace : List (Event limits)} (hevents : events.toNat + 2 * n + 2 = UInt64.size)
    (h : Transition.Reachable init System.act
      (looping (counting cycleId seq events (answers n) trace))) :
    ∃ cycleId' seq' events' trace',
      cycleBegins (refusedCycle cycleId' seq' events' trace') = cycleBegins trace + n + 1 ∧
      Transition.Reachable init System.act (looping
        (counting cycleId' (seq' + 1 + 1) 0 []
          (refusedCycle cycleId' seq' events' trace')).nextCycle) := by
  induction n generalizing cycleId seq events trace with
  | zero =>
    have hwraps : events + 1 + 1 = 0 := by
      rw [← UInt64.toNat_inj, UInt64.toNat_add, UInt64.toNat_add]
      simp only [UInt64.size, UInt64.reduceToNat] at hevents ⊢
      omega
    have hrun := looping_run cycleId seq events [] trace
    rw [hwraps] at hrun
    exact ⟨cycleId, seq, events, trace, cycleBegins_refusedCycle .., h.run hrun⟩
  | succ n ih =>
    have hcounts : (events + 1 + 1).toNat = events.toNat + 2 := by
      rw [UInt64.toNat_add, UInt64.toNat_add]
      simp only [UInt64.size, UInt64.reduceToNat] at hevents ⊢
      omega
    have hnonzero : events + 1 + 1 ≠ 0 := by
      intro hzero
      rw [hzero] at hcounts
      cases hcounts
    let trace' := refusedCycle cycleId seq events trace
    let dropped : Event limits := .telemetryPush
      ⟨seq + 1 + 1 + 1, 0, events + 1 + 1, .dropped cycleId (events + 1 + 1) 0⟩ true
    have hreported :
        ((counting cycleId (seq + 1 + 1) (events + 1 + 1) (true :: answers n)
          trace').eventPublishDropped 0).2 =
        counting cycleId (seq + 1 + 1 + 1) (events + 1 + 1) (answers n) (trace' ++ [dropped]) := by
      have hreports : ¬(!true || events + 1 + 1 == 0 && (0 : UInt64) == 0) = true := by
        simpa using hnonzero
      exact congrArg Prod.snd (if_neg hreports)
    have hrun := looping_run cycleId seq events (true :: answers n) trace
    rw [hreported] at hrun
    have hbegins : cycleBegins (trace' ++ [dropped]) = cycleBegins trace + 1 := by
      rw [cycleBegins, List.countP_append, ← cycleBegins, cycleBegins_refusedCycle]
      rfl
    have hnext : Transition.Reachable init System.act (looping (counting (cycleId + 1)
        (seq + 1 + 1 + 1) (events + 1 + 1) (answers n) (trace' ++ [dropped]))) := h.run hrun
    obtain ⟨cycleId', seq', events', trace'', hcount, hreachable⟩ := ih (by omega) hnext
    refine ⟨cycleId', seq', events', trace'', ?_, hreachable⟩
    rw [hcount, hbegins]
    omega

end Reference

/-- In a run of 2^63 cycles that loses the bounds of each, the 64-bit count of refused events has
come to 0 at the last `CYCLE_END`, and no `DROPPED` follows it. -/
theorem wrapped_count_not_reported :
    ¬∀ (config : Config) (s : System Reference.deps), config.telemetryQueue = true →
      config.telemetryValues = true →
      Transition.Reachable (System.Unused config) System.act s →
      cycleBegins s.world.trace < UInt64.size →
        ∃ frames current, s.Framed Lossy frames current := by
  intro hclaim
  let created : System Reference.deps :=
    { Reference.created with world := { Reference.world with
      telemetry := Reference.answers (2 ^ 63 - 1) } }
  have hunused : System.Unused Reference.config created := ⟨⟨⟨rfl, rfl, rfl, rfl, rfl⟩, rfl⟩, rfl⟩
  have hstart : Transition.Reachable (System.Unused Reference.config) System.act created :=
    .start hunused
  obtain ⟨cycleId, seq, events, trace, hbegins, hreachable⟩ :=
    Reference.wrapping_run (by decide) (hstart.run (Reference.start_run _))
  let opening : Event Reference.limits :=
    .telemetryPush ⟨seq + 1, 0, events, .cycleBegin cycleId 0⟩ false
  let closing : Event Reference.limits :=
    .telemetryPush ⟨seq + 1 + 1, 0, events + 1, .cycleEnd cycleId 0 0⟩ false
  have hnowrap : cycleBegins (Reference.refusedCycle cycleId seq events trace) < UInt64.size := by
    rw [hbegins]
    decide
  obtain ⟨frames, current, hframed⟩ := hclaim Reference.config _ rfl rfl hreachable hnowrap
  have hstream : attemptsOf frames = attempted trace ++ [opening, closing] := by
    have hattempts := hframed.stream
    rw [hframed.between rfl, List.append_nil] at hattempts
    have htrace : (Reference.refusedCycle cycleId seq events trace) =
        trace ++ [opening, .runtimeStep, closing] := by
      rw [Reference.refusedCycle, List.append_assoc, List.append_assoc]
      rfl
    have hsplit : attempted (Reference.refusedCycle cycleId seq events trace) =
        attempted trace ++ [opening, closing] := by
      rw [htrace, attempted_append]
      rfl
    exact hattempts.symm.trans hsplit
  rcases frames.eq_nil_or_concat with rfl | ⟨earlier, last, rfl⟩
  · exact (List.append_ne_nil_of_right_ne_nil _ (List.cons_ne_nil _ _) hstream.symm).elim
  · rw [List.concat_eq_append] at hframed hstream
    obtain ⟨-, hlast⟩ := each_append_singleton.mp hframed.whole
    rw [attemptsOf_append, attemptsOf_singleton] at hstream
    have hend : attemptsOf earlier ++ last.events = attempted trace ++ [opening] ++ [closing] := by
      rw [hstream, List.append_assoc]
      rfl
    have hmem : closing ∈ attempted trace ++ [opening, closing] :=
      List.mem_append_right _ (List.mem_cons_of_mem _ (List.mem_cons_self ..))
    rw [← hstream] at hmem
    exact hlast.not_lossy hend rfl (.inl fun hnone => List.countP_eq_zero.mp hnone closing hmem rfl)

end RtsynEngine
