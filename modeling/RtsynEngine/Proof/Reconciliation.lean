import RtsynEngine.Proof.Conservation

/-! Gaps in the sequence of delivered telemetry messages against the counts that they carry: a gap
is the events that the counts grew by and the value batches that were refused in between. -/

namespace RtsynEngine

open History

variable {D : Deps}

/-- What the header of a message says when the history before it began on the counters `seq` and
`events`. -/
def NumberedFrom (seq events : UInt64) (before : List (Event D.limits)) (e : Event D.limits) :
    Prop :=
  ∀ m, e.telemetry = some m → m.seq = seq + UInt64.ofNat (attempts before + 1) ∧
    m.droppedEventCount = events + UInt64.ofNat (refusedEvents before)

/-- The events that publishers added to the trace, numbered on from the counters they found. -/
structure Continues (w w' : World D) (events : List (Event D.limits)) : Prop where
  trace : w'.trace = w.trace ++ events
  seq : w'.engine.telemetrySeq = w.engine.telemetrySeq + UInt64.ofNat (attempts events)
  dropped : w'.engine.droppedTelemetryEvents =
    w.engine.droppedTelemetryEvents + UInt64.ofNat (refusedEvents events)
  numbered :
    Each (NumberedFrom w.engine.telemetrySeq w.engine.droppedTelemetryEvents) events

theorem Publishes.continues {pushed : TelemetryData → Prop} {w w' : World D}
    (h : Publishes pushed w w') : ∃ events, Continues w w' events := by
  induction h with
  | refl => exact ⟨[], by simp, by simp [attempts], by simp [refusedEvents], each_nil⟩
  | tail _ hattempt ih =>
    obtain ⟨events, htrace, hseq, hevents, hnumbered⟩ := ih
    obtain ⟨e, m, htelemetry, htrace', hnext, hevents', -, hm, hcount, -⟩ := hattempt.recorded
    refine ⟨events ++ [e], ?_, ?_, ?_, each_append_singleton.mpr ⟨hnumbered, fun m' hm' => ?_⟩⟩
    · rw [htrace', htrace, List.append_assoc]
    · rw [hnext, hseq, attempts_append, htelemetry, UInt64.ofNat_add, UInt64.add_assoc]
      rfl
    · rw [hevents', hevents, refusedEvents_append, UInt64.ofNat_add, UInt64.add_assoc]
    · cases htelemetry.symm.trans hm'
      exact ⟨by rw [hm, hseq, UInt64.ofNat_add, UInt64.add_assoc]; rfl, by rw [hcount, hevents]⟩

/-- Two messages that are delivered one after the other, with the events between them. -/
structure ConsecutiveDeliveries (events : List (Event D.limits)) (a b : TelemetryMessage)
    (between : List (Event D.limits)) : Prop where
  split : ∃ before e e' after, events = before ++ e :: between ++ e' :: after ∧
    e.delivered = some a ∧ e'.delivered = some b
  none : between.filterMap Event.delivered = []

theorem Event.not_refused_of_delivered {L : Limits} {e : Event L} {m : TelemetryMessage}
    (h : e.delivered = some m) : e.refusedEvent = false := by
  cases e with
  | telemetryPush m' accepted => cases accepted <;> first | rfl | cases h
  | _ => rfl

theorem Continues.gap {w w' : World D} {events between : List (Event D.limits)}
    {a b : TelemetryMessage} (h : Continues w w' events)
    (hab : ConsecutiveDeliveries events a b between) :
    b.seq - a.seq - 1 = (b.droppedEventCount - a.droppedEventCount) +
      UInt64.ofNat (refusedBatches between) := by
  obtain ⟨⟨before, e, e', after, rfl, ha, hb⟩, hnone⟩ := hab
  have hnumbered := h.numbered
  have he := Event.telemetry_of_delivered ha
  have he' := Event.telemetry_of_delivered hb
  obtain ⟨haseq, hacount⟩ := hnumbered before e (between ++ e' :: after) (by simp) a he
  obtain ⟨hbseq, hbcount⟩ := hnumbered (before ++ e :: between) e' after rfl b he'
  have hattempts : attempts (before ++ e :: between) =
      attempts before + 1 + (refusedEvents between + refusedBatches between) := by
    rw [attempts_split before between e he, attempts_eq between, hnone, List.length_nil,
      Nat.zero_add]
  have hrefused : refusedEvents (before ++ e :: between) =
      refusedEvents before + refusedEvents between := by
    simp [refusedEvents, Event.not_refused_of_delivered ha]
  rw [hbseq, haseq, hbcount, hacount, hattempts, hrefused]
  simp only [UInt64.ofNat_add]
  grind

/-- For any publisher calls on any engine and any refused pushes, the gap between two messages
delivered one after the other is the growth of `dropped_event_count` and the number of value batches
refused in between, which that count leaves out. -/
theorem gaps_reconciled (w : World D) (calls : List (PublisherCall D.limits)) :
    ∃ events, (w.publishAll calls).trace = w.trace ++ events ∧
      ∀ a b between, ConsecutiveDeliveries events a b between →
        b.seq - a.seq - 1 = (b.droppedEventCount - a.droppedEventCount) +
          UInt64.ofNat (refusedBatches between) := by
  have hpublishes : Publishes (fun _ => True) w (w.publishAll calls) :=
    w.publishAll_publishes calls fun _ _ => trivial
  obtain ⟨events, hcontinues⟩ := hpublishes.continues
  exact ⟨events, hcontinues.trace, fun _ _ _ => hcontinues.gap⟩

/-- An event, a batch that is refused, and an event. -/
def refusedBatchCalls : List (PublisherCall Reference.limits) :=
  [.cycleBegin 5,
    .values 5 1 .plugin (some [⟨0, 5, 1, 0, 0, .port, .plugin, .u64, .u64 9⟩]),
    .cycleEnd 5 5]

/-- The count of events alone does not account for the refused batch. -/
theorem batches_not_counted :
    ¬∀ (w : World Reference.deps) (calls : List (PublisherCall Reference.limits)),
      w.engine.config.telemetryQueue = true → w.engine.config.telemetryValues = true →
      ∃ events, (w.publishAll calls).trace = w.trace ++ events ∧
        ∀ a b between, ConsecutiveDeliveries events a b between →
          b.seq - a.seq - 1 = b.droppedEventCount - a.droppedEventCount := by
  intro h
  obtain ⟨events, htrace, hgap⟩ :=
    h { Reference.world with telemetry := [true, false, true] } refusedBatchCalls rfl rfl
  cases htrace
  have hdeliveries := hgap ⟨1, 5, 0, .cycleBegin 0 5⟩ ⟨3, 5, 0, .cycleEnd 0 5 5⟩
    [.valuesPublish ⟨2, 5, 0, .valuesWritten 0 1 .plugin⟩
      [⟨0, 5, 1, 0, 0, .port, .plugin, .u64, .u64 9⟩] false]
    ⟨⟨[], _, _, [], rfl, rfl, rfl⟩, rfl⟩
  exact absurd hdeliveries (by decide)

end RtsynEngine
