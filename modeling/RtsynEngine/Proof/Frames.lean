import RtsynEngine.Lib.Framing
import RtsynEngine.Proof.Emission

/-! The frames of the telemetry stream: what the RT loop attempts to send in one cycle, and what it
has attempted of it at each of its places. -/

namespace RtsynEngine

open Framing History

variable {L : Limits}

/-- The body of the telemetry message that an event tried to send. -/
def Event.body (e : Event L) : Option TelemetryData := e.telemetry.map (·.data)

theorem Event.body_of_telemetry {e : Event L} {m : TelemetryMessage} (h : e.telemetry = some m) :
    e.body = some m.data := by
  rw [body, h, Option.map_some]

/-- Whether an attempt to send telemetry was accepted. -/
def Event.accepted : Event L → Bool
  | .telemetryPush _ accepted | .valuesPublish _ _ accepted => accepted
  | _ => false

def TelemetryMessage.isCycleBegin (m : TelemetryMessage) : Bool :=
  match m.data with
  | .cycleBegin _ _ => true
  | _ => false

/-- The attempts to send telemetry in a history, oldest first. -/
def attempted (trace : List (Event L)) : List (Event L) := trace.filter (·.telemetry.isSome)

/-- The value batches of the cycle `k`, each of another node. -/
def Batches (k : UInt64) (batches : List (Event L)) : Prop :=
  ∃ nodeIds : List UInt32, nodeIds.Nodup ∧ List.Forall₂
    (fun nodeId e => ∃ source, e.body = some (.valuesWritten k nodeId source)) nodeIds batches

/-- The attempts of one cycle: `CYCLE_BEGIN`, the value batches, `CYCLE_END`, `DROPPED` and
`MEASUREMENT`. -/
structure Frame (L : Limits) where
  opening : Event L
  batches : List (Event L)
  closing : Event L
  report : Option (Event L)
  measurement : Option (Event L)

namespace Frame

/-- The attempts up to `CYCLE_END`. -/
def upToEnd (f : Frame L) : List (Event L) := f.opening :: f.batches ++ [f.closing]

def events (f : Frame L) : List (Event L) :=
  f.upToEnd ++ f.report.toList ++ f.measurement.toList

/-- The messages of a frame. -/
def messages (f : Frame L) : List TelemetryMessage := f.events.filterMap Event.telemetry

/-- The frame of the cycle `k` after the attempts `before`; `DROPPED` is in it where `lossy` holds
of the attempts up to `CYCLE_END`. -/
structure Valid (lossy : List (Event L) → Prop) (before : List (Event L)) (k : UInt64)
    (f : Frame L) : Prop where
  bounds : ∃ opening finishedAtNs, f.opening.telemetry = some opening ∧
    opening.data = .cycleBegin k opening.timestampNs ∧
    f.closing.body = some (.cycleEnd k opening.timestampNs finishedAtNs)
  batches : Batches k f.batches
  report : f.report.isSome = true ↔ lossy (before ++ f.upToEnd)
  dropped : ∀ e ∈ f.report, ∃ events values, e.body = some (.dropped k events values)
  measurement : ∀ e ∈ f.measurement, ∃ data, e.body = some data ∧ data.isMeasurement

end Frame

/-- Some telemetry was lost in a history. -/
def Lossy (history : List (Event L)) : Prop :=
  refusedEvents history ≠ 0 ∨ lostSamples history ≠ 0

/-- The 64-bit counters of what was lost in a history are not both 0. -/
def CountsLoss (history : List (Event L)) : Prop :=
  UInt64.ofNat (refusedEvents history) ≠ 0 ∨ UInt64.ofNat (lostSamples history) ≠ 0

/-- The attempts of the frames so far. -/
def attemptsOf (frames : List (Frame L)) : List (Event L) := frames.flatMap Frame.events

theorem attemptsOf_append (frames frames' : List (Frame L)) :
    attemptsOf (frames ++ frames') = attemptsOf frames ++ attemptsOf frames' :=
  List.flatMap_append

theorem attemptsOf_cons (f : Frame L) (frames : List (Frame L)) :
    attemptsOf (f :: frames) = f.events ++ attemptsOf frames :=
  List.flatMap_cons

theorem attemptsOf_singleton (f : Frame L) : attemptsOf [f] = f.events :=
  List.flatMap_singleton ..

/-- The frames of the cycles from 0 on. -/
def Frames (lossy : List (Event L) → Prop) (frames : List (Frame L)) : Prop :=
  Each (fun before f => f.Valid lossy (attemptsOf before) (UInt64.ofNat before.length)) frames

theorem attempted_append (trace events : List (Event L)) :
    attempted (trace ++ events) = attempted trace ++ attempted events :=
  List.filter_append ..

theorem attempted_silent {events : List (Event L)} (h : ∀ e ∈ events, e.telemetry = none) :
    attempted events = [] :=
  List.filter_eq_nil_iff.mpr fun e he => by simp [h e he]

theorem attempted_self {events : List (Event L)} (h : ∀ e ∈ events, ∃ data, e.body = some data) :
    attempted events = events := by
  refine List.filter_eq_self.mpr fun e he => ?_
  obtain ⟨data, hbody⟩ := h e he
  obtain ⟨m, hm, -⟩ := Option.map_eq_some_iff.mp hbody
  rw [hm]
  rfl

theorem delivered_eq (trace : List (Event L)) :
    trace.filterMap Event.delivered =
      ((attempted trace).filter Event.accepted).filterMap Event.telemetry := by
  induction trace with
  | nil => rfl
  | cons e trace ih =>
    have hcons : attempted (e :: trace) = attempted [e] ++ attempted trace :=
      attempted_append [e] trace
    rw [hcons, List.filter_append, List.filterMap_append, ← ih]
    cases e with
    | telemetryPush m accepted => cases accepted <;> rfl
    | valuesPublish m samples accepted => cases accepted <;> rfl
    | _ => rfl

theorem messages_attemptsOf (frames : List (Frame L)) :
    (attemptsOf frames).filterMap Event.telemetry = (frames.map Frame.messages).flatten := by
  induction frames with
  | nil => rfl
  | cons f frames ih =>
    rw [attemptsOf_cons, List.filterMap_append, ih, List.map_cons, List.flatten_cons]
    rfl

theorem refusedEvents_attempted (trace : List (Event L)) :
    refusedEvents (attempted trace) = refusedEvents trace := by
  unfold refusedEvents attempted
  rw [List.countP_filter]
  refine List.countP_congr fun e _ => ?_
  cases e <;> simp [Event.refusedEvent, Event.telemetry]

theorem lostSamples_attempted (trace : List (Event L)) :
    lostSamples (attempted trace) = lostSamples trace := by
  induction trace with
  | nil => rfl
  | cons e trace ih =>
    have hcons : lostSamples (e :: trace) = e.lostSamples + lostSamples trace := by
      simp [lostSamples]
    rw [hcons, ← ih]
    cases e <;> simp [attempted, Event.telemetry, Event.lostSamples, lostSamples]

theorem countsLoss_attempted (trace : List (Event L)) :
    CountsLoss (attempted trace) ↔ CountsLoss trace := by
  unfold CountsLoss
  rw [refusedEvents_attempted, lostSamples_attempted]

/-- While the counts of a history fit 64 bits, they tell of every loss. -/
theorem countsLoss_iff {trace history : List (Event L)}
    (hevents : refusedEvents trace < UInt64.size) (hvalues : lostSamples trace < UInt64.size)
    (h : history <+: attempted trace) : CountsLoss history ↔ Lossy history := by
  obtain ⟨rest, hrest⟩ := h
  rw [← refusedEvents_attempted, ← hrest, refusedEvents, List.countP_append, ← refusedEvents]
    at hevents
  rw [← lostSamples_attempted, ← hrest, lostSamples, List.map_append, List.sum_append,
    ← lostSamples] at hvalues
  have hzero : ∀ n, n < UInt64.size → (UInt64.ofNat n ≠ 0 ↔ n ≠ 0) := by
    intro n hn
    rw [Ne, ← UInt64.toNat_inj, UInt64.toNat_ofNat_of_lt' hn]
    rfl
  rw [CountsLoss, Lossy, hzero _ (by omega), hzero _ (by omega)]

theorem Batches.body {k : UInt64} {batches : List (Event L)} (h : Batches k batches)
    {e : Event L} (he : e ∈ batches) :
    ∃ nodeId source, e.body = some (.valuesWritten k nodeId source) := by
  obtain ⟨nodeIds, -, hbatches⟩ := h
  obtain ⟨i, hi, rfl⟩ := List.getElem_of_mem he
  obtain ⟨hlength, hbodies⟩ := List.forall₂_iff_get.mp hbatches
  exact ⟨_, hbodies i (hlength ▸ hi) hi⟩

namespace Frame

/-- The messages of a frame have one `CYCLE_BEGIN`, at their head. -/
theorem Valid.isFrame {lossy : List (Event L) → Prop} {before : List (Event L)} {k : UInt64}
    {f : Frame L} (h : f.Valid lossy before k) :
    IsFrame TelemetryMessage.isCycleBegin f.messages := by
  obtain ⟨opening, finishedAtNs, hopening, hbegin, hclosing⟩ := h.bounds
  have hmessages : f.messages = opening ::
      (f.batches ++ [f.closing] ++ f.report.toList ++ f.measurement.toList).filterMap
        Event.telemetry := by
    rw [messages, events, upToEnd, List.cons_append, List.cons_append, List.cons_append,
      List.filterMap_cons_some hopening]
  refine ⟨opening, _, hmessages, ?_, fun m hm => ?_⟩
  · rw [TelemetryMessage.isCycleBegin, hbegin]
  · obtain ⟨e, he, htelemetry⟩ := List.mem_filterMap.mp hm
    have hbody := Event.body_of_telemetry htelemetry
    simp only [List.mem_append, List.mem_singleton, Option.mem_toList] at he
    unfold TelemetryMessage.isCycleBegin
    rcases he with ((hbatch | rfl) | hreport) | hmeasurement
    · obtain ⟨nodeId, source, hvalues⟩ := h.batches.body hbatch
      rw [Option.some.inj (hbody.symm.trans hvalues)]
    · rw [Option.some.inj (hbody.symm.trans hclosing)]
    · obtain ⟨events, values, hdropped⟩ := h.dropped e hreport
      rw [Option.some.inj (hbody.symm.trans hdropped)]
    · obtain ⟨data, hdata, hmeasured⟩ := h.measurement e hmeasurement
      rw [Option.some.inj (hbody.symm.trans hdata)]
      cases data <;> first | rfl | exact hmeasured.elim

theorem Valid.congr {lossy lossy' : List (Event L) → Prop} {before : List (Event L)} {k : UInt64}
    {f : Frame L} (h : f.Valid lossy before k)
    (hiff : lossy (before ++ f.upToEnd) ↔ lossy' (before ++ f.upToEnd)) :
    f.Valid lossy' before k where
  bounds := h.bounds
  batches := h.batches
  report := h.report.trans hiff
  dropped := h.dropped
  measurement := h.measurement

theorem upToEnd_prefix (f : Frame L) {before : List (Event L)} :
    before ++ f.upToEnd <+: before ++ f.events := by
  refine (List.prefix_append_right_inj before).mpr ?_
  exact ⟨f.report.toList ++ f.measurement.toList, (List.append_assoc ..).symm⟩

/-- An opened frame can be completed. -/
theorem exists_valid (lossy : List (Event L) → Prop) (before : List (Event L)) {k : UInt64}
    {e : Event L} {m : TelemetryMessage} (he : e.telemetry = some m)
    (hm : m.data = .cycleBegin k m.timestampNs) :
    ∃ f : Frame L, f.Valid lossy before k ∧ [e] <+: f.events := by
  let closing : TelemetryMessage := ⟨0, 0, 0, .cycleEnd k m.timestampNs 0⟩
  let dropped : TelemetryMessage := ⟨0, 0, 0, .dropped k 0 0⟩
  by_cases hlossy : lossy (before ++ [e, .telemetryPush closing true])
  · refine ⟨⟨e, [], .telemetryPush closing true, some (.telemetryPush dropped true), none⟩,
      ⟨⟨m, 0, he, hm, rfl⟩, ⟨[], .nil, .nil⟩, ⟨fun _ => hlossy, fun _ => rfl⟩, ?_,
        fun e he => absurd he (Option.not_mem_none e)⟩, ⟨_, rfl⟩⟩
    intro e' he'
    cases he'
    exact ⟨0, 0, rfl⟩
  · have hnone : ((none : Option (Event L)).isSome = true) ↔
        lossy (before ++ [e, .telemetryPush closing true]) :=
      ⟨fun hsome => (nomatch hsome), fun h => absurd h hlossy⟩
    exact ⟨⟨e, [], .telemetryPush closing true, none, none⟩,
      ⟨⟨m, 0, he, hm, rfl⟩, ⟨[], .nil, .nil⟩, hnone,
        fun e he => absurd he (Option.not_mem_none e),
        fun e he => absurd he (Option.not_mem_none e)⟩, ⟨_, rfl⟩⟩

/-- A frame whose last message is `CYCLE_END` reports no loss. -/
theorem Valid.not_lossy {lossy : List (Event L) → Prop} {before front : List (Event L)}
    {k : UInt64} {f : Frame L} (h : f.Valid lossy before k) {e : Event L}
    (hlast : before ++ f.events = front ++ [e]) {k' startedAtNs finishedAtNs : UInt64}
    (hend : e.body = some (.cycleEnd k' startedAtNs finishedAtNs)) :
    ¬lossy (before ++ f.events) := by
  have hgetLast := congrArg List.getLast? hlast
  rw [List.getLast?_append, List.getLast?_concat] at hgetLast
  cases hmeasurement : f.measurement with
  | some m =>
    obtain ⟨data, hdata, hmeasured⟩ := h.measurement m hmeasurement
    have hm : m = e := by simpa [events, hmeasurement] using hgetLast
    rw [hm, hend] at hdata
    cases hdata
    exact hmeasured.elim
  | none =>
    cases hreport : f.report with
    | some r =>
      obtain ⟨events, values, hdropped⟩ := h.dropped r hreport
      have hr : r = e := by simpa [Frame.events, hmeasurement, hreport] using hgetLast
      rw [hr, hend] at hdropped
      cases hdropped
    | none =>
      have hupToEnd : f.events = f.upToEnd := by simp [events, hmeasurement, hreport]
      intro hlossy
      rw [hupToEnd] at hlossy
      have hsome := h.report.mpr hlossy
      rw [hreport] at hsome
      cases hsome

end Frame

/-- What the loop has attempted of its current frame. -/
inductive FrameState
  | between
  | opened (startedAtNs : UInt64)
  | closed

def RtState.frame : RtState L → FrameState
  | .enter | .test _ | .cycleBegin _ | .returned => .between
  | .drain _ startedAtNs _ | .dispatch _ startedAtNs _ _ | .pauseTest _ startedAtNs
  | .step _ startedAtNs | .finish _ startedAtNs => .opened startedAtNs
  | .sleep _ _ _ _ | .measure _ _ _ _ => .closed

/-- The attempts `current` of the frame of the cycle `k` so far. -/
def FrameState.Attempted (lossy : List (Event L) → Prop) (before : List (Event L)) (k : UInt64)
    (current : List (Event L)) : FrameState → Prop
  | .between => current = []
  | .opened startedAtNs => ∃ e m, current = [e] ∧ e.telemetry = some m ∧
      m.data = .cycleBegin k startedAtNs ∧ m.timestampNs = startedAtNs
  | .closed => ∃ f : Frame L, f.Valid lossy before k ∧ f.measurement = none ∧ current = f.events

namespace FrameState.Attempted

variable {lossy : List (Event L) → Prop} {state : FrameState} {before current : List (Event L)}
  {k : UInt64}

theorem beginning (h : state.Attempted lossy before k current) :
    ∃ f : Frame L, f.Valid lossy before k ∧ current <+: f.events := by
  cases state with
  | between =>
    have hnil : current = [] := h
    let opening : TelemetryMessage := ⟨0, 0, 0, .cycleBegin k 0⟩
    have hopening : (Event.telemetryPush opening true : Event L).telemetry = some opening := rfl
    obtain ⟨f, hvalid, -⟩ := Frame.exists_valid lossy before hopening rfl
    exact ⟨f, hvalid, hnil ▸ List.nil_prefix⟩
  | opened startedAtNs =>
    obtain ⟨e, m, rfl, he, hbegin, htime⟩ := h
    exact Frame.exists_valid lossy before he (htime.symm ▸ hbegin)
  | closed =>
    obtain ⟨f, hvalid, -, rfl⟩ := h
    exact ⟨f, hvalid, List.prefix_rfl⟩

theorem congr {lossy' : List (Event L) → Prop} (h : state.Attempted lossy before k current)
    (hiff : ∀ history, history <+: before ++ current → (lossy history ↔ lossy' history)) :
    state.Attempted lossy' before k current := by
  cases state with
  | between => exact h
  | opened startedAtNs => exact h
  | closed =>
    obtain ⟨f, hvalid, hnone, rfl⟩ := h
    exact ⟨f, hvalid.congr (hiff _ f.upToEnd_prefix), hnone, rfl⟩

end FrameState.Attempted

end RtsynEngine
