import Mathlib.Data.UInt
import RtsynEngine.Lib.History
import RtsynEngine.Proof.Publishing
import RtsynEngine.Reference

/-! The telemetry counters against the history of attempts: every message that is not delivered and
every sample that is lost is counted once. -/

namespace RtsynEngine

open History

variable {D : Deps} {L : Limits}

namespace Event

/-- The telemetry message that an event tried to send. -/
def telemetry : Event L → Option TelemetryMessage
  | .telemetryPush m _ | .valuesPublish m _ _ => some m
  | _ => none

/-- The telemetry message that an event delivered. -/
def delivered : Event L → Option TelemetryMessage
  | .telemetryPush m true | .valuesPublish m _ true => some m
  | _ => none

def refusedEvent : Event L → Bool
  | .telemetryPush _ false => true
  | _ => false

def refusedBatch : Event L → Bool
  | .valuesPublish _ _ false => true
  | _ => false

/-- The number of samples handed to the queue, and how many of them were delivered and lost. -/
def sentSamples : Event L → Nat
  | .valuesPublish _ samples _ => samples.length
  | _ => 0

def deliveredSamples : Event L → Nat
  | .valuesPublish _ samples true => samples.length
  | _ => 0

def lostSamples : Event L → Nat
  | .valuesPublish _ samples false => samples.length
  | _ => 0

end Event

/-- The messages attempted in a history. -/
def attempts (trace : List (Event L)) : Nat := trace.countP (·.telemetry.isSome)

def refusedEvents (trace : List (Event L)) : Nat := trace.countP Event.refusedEvent

def refusedBatches (trace : List (Event L)) : Nat := trace.countP Event.refusedBatch

def lostSamples (trace : List (Event L)) : Nat := (trace.map Event.lostSamples).sum

theorem attempts_eq (trace : List (Event L)) :
    attempts trace = (trace.filterMap Event.delivered).length + refusedEvents trace +
      refusedBatches trace := by
  induction trace with
  | nil => rfl
  | cons e trace ih =>
    simp only [attempts, refusedEvents, refusedBatches] at ih ⊢
    rw [List.countP_cons, List.countP_cons, List.countP_cons, List.filterMap_cons, ih]
    cases e with
    | telemetryPush m accepted =>
      cases accepted <;>
        simp [Event.telemetry, Event.delivered, Event.refusedEvent, Event.refusedBatch] <;> omega
    | valuesPublish m samples accepted =>
      cases accepted <;>
        simp [Event.telemetry, Event.delivered, Event.refusedEvent, Event.refusedBatch] <;> omega
    | _ => simp [Event.telemetry, Event.delivered, Event.refusedEvent, Event.refusedBatch]

theorem sentSamples_eq (trace : List (Event L)) :
    (trace.map Event.sentSamples).sum =
      (trace.map Event.deliveredSamples).sum + lostSamples trace := by
  induction trace with
  | nil => rfl
  | cons e trace ih =>
    simp only [lostSamples, List.map_cons, List.sum_cons] at ih ⊢
    rw [ih]
    cases e with
    | valuesPublish m samples accepted =>
      cases accepted <;>
        simp [Event.sentSamples, Event.deliveredSamples, Event.lostSamples] <;> omega
    | _ => simp [Event.sentSamples, Event.deliveredSamples, Event.lostSamples]

/-- What the header of a message says of the history before it: the number of the attempt and the
events refused. -/
def Numbered (before : List (Event L)) (e : Event L) : Prop :=
  ∀ m, e.telemetry = some m → m.seq = UInt64.ofNat (attempts before + 1) ∧
    m.droppedEventCount = UInt64.ofNat (refusedEvents before)

/-- A `DROPPED` body holds the totals of the history before it, unless it is a `pushed` one. -/
def Totalled (pushed : TelemetryData → Prop) (before : List (Event L)) (e : Event L) : Prop :=
  ∀ m, e.telemetry = some m → ∀ cycleId events values, m.data = .dropped cycleId events values →
    (events = UInt64.ofNat (refusedEvents before) ∧
      values = UInt64.ofNat (lostSamples before)) ∨ pushed m.data

/-- The counters agree with the history. -/
structure Conserved (pushed : TelemetryData → Prop) (w : World D) : Prop where
  seq : w.engine.telemetrySeq = UInt64.ofNat (attempts w.trace)
  events : w.engine.droppedTelemetryEvents = UInt64.ofNat (refusedEvents w.trace)
  values : w.engine.droppedTelemetryValues = UInt64.ofNat (lostSamples w.trace)
  numbered : Each Numbered w.trace
  totalled : Each (Totalled pushed) w.trace

variable {pushed : TelemetryData → Prop}

theorem attempts_append (trace : List (Event L)) (e : Event L) :
    attempts (trace ++ [e]) = attempts trace + if e.telemetry.isSome then 1 else 0 := by
  rw [attempts, List.countP_append, List.countP_singleton, attempts]

theorem refusedEvents_append (trace : List (Event L)) (e : Event L) :
    refusedEvents (trace ++ [e]) = refusedEvents trace + if e.refusedEvent then 1 else 0 := by
  rw [refusedEvents, List.countP_append, List.countP_singleton, refusedEvents]

theorem lostSamples_append (trace : List (Event L)) (e : Event L) :
    lostSamples (trace ++ [e]) = lostSamples trace + e.lostSamples := by
  simp [lostSamples]

/-- What an attempt records and counts, of either kind. -/
theorem Attempt.recorded {w w' : World D} (h : Attempt pushed w w') :
    ∃ e m, e.telemetry = some m ∧ w'.trace = w.trace ++ [e] ∧
      w'.engine.telemetrySeq = w.engine.telemetrySeq + 1 ∧
      w'.engine.droppedTelemetryEvents =
        w.engine.droppedTelemetryEvents + UInt64.ofNat (if e.refusedEvent then 1 else 0) ∧
      w'.engine.droppedTelemetryValues =
        w.engine.droppedTelemetryValues + UInt64.ofNat e.lostSamples ∧
      m.seq = w.engine.telemetrySeq + 1 ∧
      m.droppedEventCount = w.engine.droppedTelemetryEvents ∧ ExactBody w pushed m.data := by
  cases h with
  | event m accepted telemetry hseq hcount hbody =>
    refine ⟨.telemetryPush m accepted, m, rfl, rfl, rfl, ?_, ?_, hseq, hcount, hbody⟩
    · cases accepted <;> simp [Event.refusedEvent]
    · simp [Event.lostSamples]
  | values m samples accepted telemetry hseq hcount hbody =>
    refine ⟨.valuesPublish m samples accepted, m, rfl, rfl, rfl, ?_, ?_, hseq, hcount, hbody⟩
    · simp [Event.refusedEvent]
    · cases accepted <;> simp [Event.lostSamples]

theorem Conserved.attempt {w w' : World D} (h : Conserved pushed w) (ha : Attempt pushed w w') :
    Conserved pushed w' := by
  obtain ⟨e, m, htelemetry, htrace, hnext, hevents, hvalues, hseq, hcount, hbody⟩ := ha.recorded
  refine ⟨?_, ?_, ?_, ?_, ?_⟩
  · rw [hnext, htrace, attempts_append, htelemetry, h.seq]
    simp
  · rw [hevents, htrace, refusedEvents_append, h.events, UInt64.ofNat_add]
  · rw [hvalues, htrace, lostSamples_append, h.values, UInt64.ofNat_add]
  · rw [htrace]
    refine each_append_singleton.mpr ⟨h.numbered, fun m' hm' => ?_⟩
    cases htelemetry.symm.trans hm'
    exact ⟨by rw [hseq, h.seq]; simp, by rw [hcount, h.events]⟩
  · rw [htrace]
    refine each_append_singleton.mpr ⟨h.totalled, fun m' hm' => ?_⟩
    cases htelemetry.symm.trans hm'
    rw [← h.events, ← h.values]
    exact hbody

theorem Conserved.publishes {w w' : World D} (h : Conserved pushed w)
    (hw : Publishes pushed w w') : Conserved pushed w' := by
  induction hw with
  | refl => exact h
  | tail _ hattempt ih => exact ih.attempt hattempt

theorem Conserved.of_fresh {w : World D} {config : Config} (hfresh : w.engine.Fresh config)
    (hstart : w.trace = []) : Conserved pushed w := by
  refine ⟨?_, ?_, ?_, ?_, ?_⟩
  · rw [hfresh.telemetrySeq, hstart]
    rfl
  · rw [hfresh.droppedTelemetryEvents, hstart]
    rfl
  · rw [hfresh.droppedTelemetryValues, hstart]
    rfl
  · rw [hstart]
    exact each_nil
  · rw [hstart]
    exact each_nil

/-- Events that send no telemetry, with the counters left as they are. -/
theorem Conserved.silent {w w' : World D} (h : Conserved pushed w) {events : List (Event D.limits)}
    (htrace : w'.trace = w.trace ++ events) (hsilent : ∀ e ∈ events, e.telemetry = none)
    (hseq : w'.engine.telemetrySeq = w.engine.telemetrySeq)
    (hevents : w'.engine.droppedTelemetryEvents = w.engine.droppedTelemetryEvents)
    (hvalues : w'.engine.droppedTelemetryValues = w.engine.droppedTelemetryValues) :
    Conserved pushed w' := by
  have hnone : ∀ before e after, events = before ++ e :: after → ∀ m, e.telemetry ≠ some m := by
    intro before e after hevents m hm
    have hmem : e ∈ events := by simp [hevents]
    rw [hsilent e hmem] at hm
    cases hm
  have hcounts : attempts events = 0 ∧ refusedEvents events = 0 ∧ lostSamples events = 0 := by
    have hzero : ∀ k ∈ events.map Event.lostSamples, k = 0 := by
      intro k hk
      obtain ⟨e, he, rfl⟩ := List.mem_map.mp hk
      have hnot := hsilent e he
      cases e <;> first | rfl | cases hnot
    refine ⟨List.countP_eq_zero.mpr fun e he => ?_, List.countP_eq_zero.mpr fun e he => ?_,
      List.sum_eq_zero_iff_forall_eq_nat.mpr hzero⟩
    · simp [hsilent e he]
    · have hnot := hsilent e he
      cases e <;> first | exact Bool.false_ne_true | cases hnot
  refine ⟨?_, ?_, ?_, ?_, ?_⟩
  · rw [hseq, h.seq, htrace, attempts, attempts, List.countP_append, ← attempts, ← attempts,
      hcounts.1, Nat.add_zero]
  · rw [hevents, h.events, htrace, refusedEvents, refusedEvents, List.countP_append,
      ← refusedEvents, ← refusedEvents, hcounts.2.1, Nat.add_zero]
  · rw [hvalues, h.values, htrace, lostSamples, lostSamples, List.map_append, List.sum_append,
      ← lostSamples, ← lostSamples, hcounts.2.2, Nat.add_zero]
  · rw [htrace]
    exact h.numbered.append fun before e after he m hm => absurd hm (hnone before e after he m)
  · rw [htrace]
    exact h.totalled.append fun before e after he m hm => absurd hm (hnone before e after he m)

/-- The attempts are numbered from 1 on. -/
theorem seqs_of_numbered {trace : List (Event L)} (h : Each Numbered trace) :
    (trace.filterMap Event.telemetry).map (·.seq) =
      (List.range (attempts trace)).map fun i => UInt64.ofNat (i + 1) := by
  induction trace using List.reverseRecOn with
  | nil => rfl
  | append_singleton trace e ih =>
    obtain ⟨htrace, he⟩ := each_append_singleton.mp h
    rw [List.filterMap_append, List.map_append, ih htrace, attempts_append]
    cases hm : e.telemetry with
    | none => simp [hm]
    | some m => simp [hm, List.range_succ, (he m hm).1]

theorem Event.telemetry_of_delivered {e : Event L} {m : TelemetryMessage}
    (h : e.delivered = some m) : e.telemetry = some m := by
  cases e with
  | telemetryPush m' accepted => cases accepted <;> first | exact h | cases h
  | valuesPublish m' samples accepted => cases accepted <;> first | exact h | cases h
  | _ => cases h

theorem attempts_split (before after : List (Event L)) (e : Event L) {m : TelemetryMessage}
    (h : e.telemetry = some m) :
    attempts (before ++ e :: after) = attempts before + 1 + attempts after := by
  simp [attempts, h]
  omega

theorem refusedEvents_le_attempts (trace : List (Event L)) :
    refusedEvents trace ≤ attempts trace := by
  rw [attempts_eq]
  omega

theorem seq_eq_attempts {trace before after : List (Event L)} {e : Event L}
    {m : TelemetryMessage} (hnumbered : Each Numbered trace) (hbound : attempts trace < UInt64.size)
    (htrace : trace = before ++ e :: after) (hm : e.telemetry = some m) :
    m.seq.toNat = attempts before + 1 := by
  rw [htrace, attempts_split before after e hm] at hbound
  rw [(hnumbered before e after htrace m hm).1, UInt64.toNat_ofNat_of_lt' (by omega)]

theorem delivered_increasing {trace : List (Event L)} (hnumbered : Each Numbered trace)
    (hbound : attempts trace < UInt64.size) :
    (trace.filterMap Event.delivered).Pairwise fun a b => a.seq.toNat < b.seq.toNat := by
  refine Each.pairwise (fun m : TelemetryMessage => m.seq.toNat)
    fun before e after htrace m hm m' hm' => ?_
  obtain ⟨e', he', hdelivered⟩ := List.mem_filterMap.mp hm'
  obtain ⟨before', between, rfl⟩ := List.append_of_mem he'
  have htelemetry := Event.telemetry_of_delivered hdelivered
  rw [seq_eq_attempts hnumbered hbound htrace (Event.telemetry_of_delivered hm),
    seq_eq_attempts hnumbered hbound (htrace.trans (List.append_assoc ..)) htelemetry,
    attempts_split before' between e' htelemetry]
  omega

/-- The counters of an engine and the messages in its trace conserve what was published; the
`DROPPED` bodies that callers `pushed` themselves are theirs. -/
structure TelemetryConserved (pushed : TelemetryData → Prop) (w : World D) : Prop where
  seq : w.engine.telemetrySeq.toNat = (w.trace.filterMap Event.delivered).length +
    w.engine.droppedTelemetryEvents.toNat + refusedBatches w.trace
  events : w.engine.droppedTelemetryEvents.toNat = refusedEvents w.trace
  values : w.engine.droppedTelemetryValues.toNat = lostSamples w.trace
  samples : (w.trace.map Event.sentSamples).sum =
    (w.trace.map Event.deliveredSamples).sum + w.engine.droppedTelemetryValues.toNat
  increasing : (w.trace.filterMap Event.delivered).Pairwise fun a b => a.seq < b.seq
  positive : ∀ m ∈ w.trace.filterMap Event.delivered, 0 < m.seq
  header : ∀ before e after, w.trace = before ++ e :: after → ∀ m, e.delivered = some m →
    m.droppedEventCount.toNat = refusedEvents before
  dropped : ∀ before e after, w.trace = before ++ e :: after → ∀ m, e.delivered = some m →
    ∀ cycleId events values, m.data = .dropped cycleId events values →
      (events.toNat = refusedEvents before ∧ values.toNat = lostSamples before) ∨ pushed m.data
  /-- `publish_dropped` sends nothing, or one message with the totals so far. -/
  body : ∀ timestampNs, (w.eventPublishDropped timestampNs).2 = w ∨
    ∃ m accepted cycleId events values,
      (w.eventPublishDropped timestampNs).2.trace = w.trace ++ [.telemetryPush m accepted] ∧
      m.data = .dropped cycleId events values ∧
      events.toNat = refusedEvents w.trace ∧ values.toNat = lostSamples w.trace
  /-- `publish_values` makes one attempt to send all the samples it is handed. -/
  batch : ∀ timestampNs nodeId source samples, samples ≠ [] → ∃ m accepted,
    (w.eventPublishValues timestampNs nodeId source (some samples)).2.trace =
      w.trace ++ [.valuesPublish m samples accepted]

theorem Conserved.telemetryConserved {w : World D} (h : Conserved pushed w)
    (hqueue : w.engine.config.telemetryQueue = true)
    (hvalues : w.engine.config.telemetryValues = true) (hattempts : attempts w.trace < UInt64.size)
    (hlost : lostSamples w.trace < UInt64.size) : TelemetryConserved pushed w := by
  have hle := refusedEvents_le_attempts w.trace
  have hevents : w.engine.droppedTelemetryEvents.toNat = refusedEvents w.trace := by
    rw [h.events, UInt64.toNat_ofNat_of_lt' (by omega)]
  have hlostSamples : w.engine.droppedTelemetryValues.toNat = lostSamples w.trace := by
    rw [h.values, UInt64.toNat_ofNat_of_lt' hlost]
  refine ⟨?_, hevents, hlostSamples, ?_, ?_, ?_, ?_, ?_, ?_, ?_⟩
  · rw [h.seq, UInt64.toNat_ofNat_of_lt' hattempts, hevents, attempts_eq]
  · rw [hlostSamples, sentSamples_eq]
  · exact delivered_increasing h.numbered hattempts
  · intro m hm
    obtain ⟨e, he, hdelivered⟩ := List.mem_filterMap.mp hm
    obtain ⟨before, after, htrace⟩ := List.append_of_mem he
    have hseq := seq_eq_attempts h.numbered hattempts htrace
      (Event.telemetry_of_delivered hdelivered)
    rw [UInt64.lt_iff_toNat_lt, hseq]
    exact Nat.succ_pos _
  · intro before e after htrace m hm
    have htelemetry := Event.telemetry_of_delivered hm
    have hcount := (h.numbered before e after htrace m htelemetry).2
    rw [htrace, attempts_split before after e htelemetry] at hattempts
    have hbefore := refusedEvents_le_attempts before
    rw [hcount, UInt64.toNat_ofNat_of_lt' (by omega)]
  · intro before e after htrace m hm cycleId events values hdata
    have htelemetry := Event.telemetry_of_delivered hm
    refine (h.totalled before e after htrace m htelemetry _ _ _ hdata).imp_left fun htotals => ?_
    rw [htrace, attempts_split before after e htelemetry] at hattempts
    have hbefore := refusedEvents_le_attempts before
    have hlostBefore : lostSamples before ≤ lostSamples w.trace := by
      rw [htrace]
      simp [lostSamples]
    rw [htotals.1, htotals.2, UInt64.toNat_ofNat_of_lt' (by omega),
      UInt64.toNat_ofNat_of_lt' (by omega)]
    exact ⟨rfl, rfl⟩
  · intro timestampNs
    rcases w.eventPublishDropped_trace timestampNs with hsame | ⟨m, accepted, ht, hm⟩
    · exact .inl hsame
    · exact .inr ⟨m, accepted, _, _, _, ht, hm, hevents, hlostSamples⟩
  · intro timestampNs nodeId source samples hsamples
    obtain ⟨(_ : Attempt pushed w _), htrace⟩ :=
      w.eventPublishValues_attempt hqueue hvalues timestampNs nodeId source hsamples
    exact htrace

/-- A body of a message that one of the calls hands to `push_telemetry`. -/
def PushedBody (calls : List (PublisherCall L)) (data : TelemetryData) : Prop :=
  ∃ m, .push m ∈ calls ∧ m.data = data

/-- After any publisher calls on a fresh engine with both telemetry queues, while the counters fit
their 64 bits, telemetry is conserved. -/
theorem telemetry_conserved (w : World D) (config : Config)
    (hcreate : Engine.create D.limits config = some w.engine) (hstart : w.trace = [])
    (hqueue : config.telemetryQueue = true) (hvalues : config.telemetryValues = true)
    (calls : List (PublisherCall D.limits))
    (hattempts : attempts (w.publishAll calls).trace < UInt64.size)
    (hlost : lostSamples (w.publishAll calls).trace < UInt64.size) :
    TelemetryConserved (PushedBody calls) (w.publishAll calls) := by
  have hfresh := Engine.create_fresh hcreate
  have hpublishes : Publishes (PushedBody calls) w (w.publishAll calls) :=
    w.publishAll_publishes calls fun m hm => ⟨m, hm, rfl⟩
  have hconserved : Conserved (PushedBody calls) w := .of_fresh hfresh hstart
  refine (hconserved.publishes hpublishes).telemetryConserved ?_ ?_ hattempts hlost
  · rw [hpublishes.engine, ← hqueue, ← congrArg Config.telemetryQueue hfresh.config]
  · rw [hpublishes.engine, ← hvalues, ← congrArg Config.telemetryValues hfresh.config]

theorem telemetry_conserved_reference :
    TelemetryConserved (PushedBody (L := Reference.limits) [.cycleBegin 5, .dropped 6])
      (World.publishAll { Reference.world with telemetry := [false] }
        [.cycleBegin 5, .dropped 6]) :=
  telemetry_conserved { Reference.world with telemetry := [false] } Reference.config rfl rfl rfl
    rfl [.cycleBegin 5, .dropped 6] (by decide +kernel) (by decide +kernel)

/-- A `DROPPED` message that is handed to `push_telemetry` keeps the body it came with. -/
theorem pushed_dropped_inexact :
    ¬∀ before e after,
      (Reference.world.publishAll [.push ⟨0, 0, 0, .dropped 0 7 0⟩]).trace = before ++ e :: after →
        ∀ m, e.delivered = some m → ∀ cycleId events values,
          m.data = .dropped cycleId events values →
            events.toNat = refusedEvents before ∧ values.toNat = lostSamples before := by
  intro h
  have hbody := h [] (.telemetryPush ⟨1, 0, 0, .dropped 0 7 0⟩ true) [] rfl _ rfl 0 7 0 rfl
  exact absurd hbody.1 (by decide)

end RtsynEngine
