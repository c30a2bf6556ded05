import Mathlib.Logic.Relation
import RtsynEngine.Telemetry

/-! What the telemetry publishers do to the world: attempts to send a message, one after the
other. -/

namespace RtsynEngine

variable {D : Deps}

/-- A `DROPPED` body holds the engine's totals, unless it is one of the `pushed` ones. -/
def ExactBody (w : World D) (pushed : TelemetryData → Prop) (data : TelemetryData) : Prop :=
  ∀ cycleId events values, data = .dropped cycleId events values →
    (events = w.engine.droppedTelemetryEvents ∧ values = w.engine.droppedTelemetryValues) ∨
      pushed data

/-- One attempt to send a message. -/
inductive Attempt (pushed : TelemetryData → Prop) (w : World D) : World D → Prop
  | event (m : TelemetryMessage) (accepted : Bool) (telemetry : D.TelemetryQueue)
    (hseq : m.seq = w.engine.telemetrySeq + 1)
    (hcount : m.droppedEventCount = w.engine.droppedTelemetryEvents)
    (hbody : ExactBody w pushed m.data) :
    Attempt pushed w { w with
      telemetry
      trace := w.trace ++ [.telemetryPush m accepted]
      engine := { w.engine with
        telemetrySeq := w.engine.telemetrySeq + 1
        droppedTelemetryEvents :=
          if accepted then w.engine.droppedTelemetryEvents
          else w.engine.droppedTelemetryEvents + 1 } }
  | values (m : TelemetryMessage) (samples : List (Sample D.limits)) (accepted : Bool)
    (telemetry : D.TelemetryQueue) (hseq : m.seq = w.engine.telemetrySeq + 1)
    (hcount : m.droppedEventCount = w.engine.droppedTelemetryEvents)
    (hbody : ExactBody w pushed m.data) :
    Attempt pushed w { w with
      telemetry
      trace := w.trace ++ [.valuesPublish m samples accepted]
      engine := { w.engine with
        telemetrySeq := w.engine.telemetrySeq + 1
        droppedTelemetryValues :=
          if accepted then w.engine.droppedTelemetryValues
          else w.engine.droppedTelemetryValues + UInt64.ofNat samples.length } }

/-- Attempts one after the other. -/
def Publishes (pushed : TelemetryData → Prop) (w w' : World D) : Prop :=
  Relation.ReflTransGen (Attempt pushed) w w'

variable {pushed : TelemetryData → Prop}

theorem Publishes.engine {w w' : World D} (h : Publishes pushed w w') :
    w'.engine = { w.engine with
      telemetrySeq := w'.engine.telemetrySeq
      droppedTelemetryEvents := w'.engine.droppedTelemetryEvents
      droppedTelemetryValues := w'.engine.droppedTelemetryValues } := by
  induction h with
  | refl => rfl
  | tail _ hattempt ih =>
    cases hattempt with
    | event => dsimp only; rw [ih]
    | values => dsimp only; rw [ih]

theorem Publishes.runtime {w w' : World D} (h : Publishes pushed w w') :
    w'.runtime = w.runtime := by
  induction h with
  | refl => rfl
  | tail _ hattempt ih => cases hattempt <;> exact ih

theorem Publishes.env {w w' : World D} (h : Publishes pushed w w') : w'.env = w.env := by
  induction h with
  | refl => rfl
  | tail _ hattempt ih => cases hattempt <;> exact ih

namespace World

theorem eventPushTelemetry_publishes (w : World D) (m : TelemetryMessage)
    (hbody : ExactBody w pushed m.data) : Publishes pushed w (w.eventPushTelemetry m).2 := by
  unfold eventPushTelemetry
  split
  · exact .refl
  · dsimp only [nextTelemetrySeq]
    split
    · exact .single (.event _ true _ rfl rfl hbody)
    · exact .single (.event _ false _ rfl rfl hbody)

theorem eventPublishValues_attempt {w : World D} (hqueue : w.engine.config.telemetryQueue = true)
    (hvalues : w.engine.config.telemetryValues = true) (timestampNs : UInt64) (nodeId : UInt32)
    (source : TelemetrySource) {samples : List (Sample D.limits)} (hsamples : samples ≠ []) :
    Attempt pushed w (w.eventPublishValues timestampNs nodeId source (some samples)).2 ∧
      ∃ m accepted, (w.eventPublishValues timestampNs nodeId source (some samples)).2.trace =
        w.trace ++ [.valuesPublish m samples accepted] := by
  unfold eventPublishValues
  have hpublish : ¬(!w.engine.config.telemetryQueue || !w.engine.config.telemetryValues
      || samples.isEmpty) = true := by
    simpa [hqueue, hvalues] using hsamples
  dsimp only [nextTelemetrySeq]
  rw [if_neg hpublish]
  split
  · exact ⟨.values _ samples true _ rfl rfl fun _ _ _ => nofun, _, true, rfl⟩
  · exact ⟨.values _ samples false _ rfl rfl fun _ _ _ => nofun, _, false, rfl⟩

theorem eventPublishValues_publishes (w : World D) (timestampNs : UInt64) (nodeId : UInt32)
    (source : TelemetrySource) (samples : Option (List (Sample D.limits))) :
    Publishes pushed w (w.eventPublishValues timestampNs nodeId source samples).2 := by
  cases samples with
  | none => exact .refl
  | some samples =>
    by_cases hpublish : (!w.engine.config.telemetryQueue || !w.engine.config.telemetryValues
        || samples.isEmpty) = true
    · have hsame : w.eventPublishValues timestampNs nodeId source (some samples) = (false, w) :=
        if_pos hpublish
      rw [hsame]
      exact .refl
    · simp only [Bool.or_eq_true, not_or, Bool.not_eq_true', Bool.not_eq_false,
        List.isEmpty_iff] at hpublish
      exact .single (w.eventPublishValues_attempt hpublish.1.1 hpublish.1.2 timestampNs nodeId
        source hpublish.2).1

theorem publishSlot_publishes (timestampNs : UInt64) (r : Bool × World D)
    (i : Fin D.limits.subscriptionCapacity) :
    Publishes pushed r.2 (publishSlot timestampNs r i).2 := by
  unfold publishSlot
  dsimp only
  split
  · exact .refl
  · split
    · exact .refl
    · split
      · exact .refl
      · exact eventPublishValues_publishes ..

theorem publishSlots_publishes (timestampNs : UInt64)
    (is : List (Fin D.limits.subscriptionCapacity)) (r : Bool × World D) :
    Publishes pushed r.2 (is.foldl (publishSlot timestampNs) r).2 := by
  induction is generalizing r with
  | nil => exact .refl
  | cons i is ih => exact (publishSlot_publishes timestampNs r i).trans (ih _)

theorem publish_publishes (w : World D) (call : PublisherCall D.limits)
    (hpushed : ∀ m, call = .push m → pushed m.data) : Publishes pushed w (w.publish call) := by
  cases call with
  | cycleBegin => exact w.eventPushTelemetry_publishes _ fun _ _ _ => nofun
  | cycleEnd => exact w.eventPushTelemetry_publishes _ fun _ _ _ => nofun
  | measurement timestampNs metrics =>
    cases metrics with
    | none => exact .refl
    | some m => exact w.eventPushTelemetry_publishes _ fun _ _ _ => nofun
  | dropped timestampNs =>
    dsimp only [publish, eventPublishDropped]
    split
    · exact .refl
    · refine w.eventPushTelemetry_publishes _ fun cycleId events values hbody => ?_
      cases hbody
      exact .inl ⟨rfl, rfl⟩
  | values => exact w.eventPublishValues_publishes _ _ _ _
  | requestedValues => exact publishSlots_publishes _ _ (true, w)
  | push m => exact w.eventPushTelemetry_publishes _ fun _ _ _ _ => .inr (hpushed m rfl)

theorem publishAll_publishes (w : World D) (calls : List (PublisherCall D.limits))
    (hpushed : ∀ m, .push m ∈ calls → pushed m.data) :
    Publishes pushed w (w.publishAll calls) := by
  induction calls generalizing w with
  | nil => exact .refl
  | cons call calls ih =>
    have hfirst := w.publish_publishes call fun m hm => hpushed m (hm ▸ List.mem_cons_self ..)
    exact hfirst.trans (ih _ fun m hm => hpushed m (List.mem_cons_of_mem call hm))

/-- A push adds one message with the body and the timestamp it was given, or none without the
queue. -/
theorem eventPushTelemetry_sent (w : World D) (m : TelemetryMessage) :
    (w.engine.config.telemetryQueue = false ∧ (w.eventPushTelemetry m).2 = w) ∨
      ∃ m' accepted, (w.eventPushTelemetry m).2.trace = w.trace ++ [.telemetryPush m' accepted] ∧
        m'.data = m.data ∧ m'.timestampNs = m.timestampNs := by
  unfold eventPushTelemetry
  split
  · next hqueue =>
    rw [Bool.not_eq_true'] at hqueue
    exact .inl ⟨hqueue, rfl⟩
  · dsimp only [nextTelemetrySeq]
    split
    · exact .inr ⟨_, true, rfl, rfl, rfl⟩
    · exact .inr ⟨_, false, rfl, rfl, rfl⟩

theorem eventPushTelemetry_trace {w : World D}
    (hqueue : w.engine.config.telemetryQueue = true) (m : TelemetryMessage) :
    ∃ m' accepted, (w.eventPushTelemetry m).2.trace = w.trace ++ [.telemetryPush m' accepted] ∧
      m'.data = m.data := by
  rcases w.eventPushTelemetry_sent m with ⟨hnone, -⟩ | ⟨m', accepted, htrace, hdata, -⟩
  · rw [hqueue] at hnone
    cases hnone
  · exact ⟨m', accepted, htrace, hdata⟩

theorem eventPublishDropped_trace (w : World D) (timestampNs : UInt64) :
    (w.eventPublishDropped timestampNs).2 = w ∨ ∃ m accepted,
      (w.eventPublishDropped timestampNs).2.trace = w.trace ++ [.telemetryPush m accepted] ∧
      m.data = .dropped w.engine.cycleId w.engine.droppedTelemetryEvents
        w.engine.droppedTelemetryValues := by
  unfold eventPublishDropped
  split
  · exact .inl rfl
  · next hpublish =>
    rw [Bool.or_eq_true, not_or, Bool.not_eq_true', Bool.not_eq_false] at hpublish
    exact .inr (eventPushTelemetry_trace hpublish.1 _)

end World

/-- The message of a batch that is published for a used slot of the table. -/
def SlotEvent {L : Limits} (table : Vector Subscription L.subscriptionCapacity) (cycleId : UInt64)
    (i : Fin L.subscriptionCapacity) (e : Event L) : Prop :=
  table[i].used = true ∧ ∃ m samples accepted source, e = .valuesPublish m samples accepted ∧
    m.data = .valuesWritten cycleId table[i].nodeId source

namespace World

theorem eventPublishValues_sent (w : World D) (timestampNs : UInt64) (nodeId : UInt32)
    (source : TelemetrySource) (samples : Option (List (Sample D.limits))) :
    (w.eventPublishValues timestampNs nodeId source samples).2 = w ∨
      ∃ m samples' accepted,
        (w.eventPublishValues timestampNs nodeId source samples).2.trace =
          w.trace ++ [.valuesPublish m samples' accepted] ∧
        m.data = .valuesWritten w.engine.cycleId nodeId source := by
  unfold eventPublishValues
  split
  · exact .inl rfl
  · dsimp only [nextTelemetrySeq]
    split
    · exact .inl rfl
    · split
      · exact .inr ⟨_, _, true, rfl, rfl⟩
      · exact .inr ⟨_, _, false, rfl, rfl⟩

theorem publishSlot_sent (timestampNs : UInt64) (r : Bool × World D)
    (i : Fin D.limits.subscriptionCapacity) :
    (publishSlot timestampNs r i).2 = r.2 ∨ ∃ e,
      (publishSlot timestampNs r i).2.trace = r.2.trace ++ [e] ∧
      SlotEvent r.2.engine.telemetrySubscriptions r.2.engine.cycleId i e := by
  unfold publishSlot
  dsimp only
  split
  · exact .inl rfl
  · next hused =>
    split
    · exact .inl rfl
    · split
      · exact .inl rfl
      · dsimp only
        rcases eventPublishValues_sent r.2 timestampNs _ _ _ with
          hsame | ⟨m, samples, accepted, htrace, hdata⟩
        · exact .inl hsame
        · rw [Bool.not_eq_true', Bool.not_eq_false] at hused
          exact .inr ⟨_, htrace, hused, m, samples, accepted, _, rfl, hdata⟩

theorem publishSlots_sent (timestampNs : UInt64)
    (is : List (Fin D.limits.subscriptionCapacity)) (r : Bool × World D) :
    ∃ js events, js.Sublist is ∧
      (is.foldl (publishSlot timestampNs) r).2.trace = r.2.trace ++ events ∧
      List.Forall₂ (SlotEvent r.2.engine.telemetrySubscriptions r.2.engine.cycleId) js events := by
  induction is generalizing r with
  | nil => exact ⟨[], [], .slnil, (List.append_nil _).symm, .nil⟩
  | cons i is ih =>
    obtain ⟨js, events, hsublist, htrace, hslots⟩ := ih (publishSlot timestampNs r i)
    have hpublishes : Publishes (fun _ => True) r.2 (publishSlot timestampNs r i).2 :=
      publishSlot_publishes timestampNs r i
    rw [hpublishes.engine] at hslots
    rw [List.foldl_cons, htrace]
    rcases publishSlot_sent timestampNs r i with hsame | ⟨e, hfirst, he⟩
    · rw [hsame]
      exact ⟨js, events, hsublist.cons i, rfl, hslots⟩
    · rw [hfirst, List.append_assoc]
      exact ⟨i :: js, e :: events, hsublist.cons_cons i, rfl, .cons he hslots⟩

end World

end RtsynEngine
