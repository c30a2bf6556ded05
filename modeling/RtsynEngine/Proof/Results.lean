import RtsynEngine.Command
import RtsynEngine.Lib.Channel

/-! The result queue through the trace: the records it took, and bursts of pushes. -/

namespace RtsynEngine

variable {D : Deps}

/-- The record that an event put in the result queue. -/
def Event.acceptedResult {L : Limits} : Event L → Option (ResultMessage L)
  | .resultPush m true => some m
  | _ => none

/-- The record that an event tried to put there. -/
def Event.attemptedResult {L : Limits} : Event L → Option (ResultMessage L)
  | .resultPush m _ => some m
  | _ => none

/-- The engine, the runtime and the other queues are as they were; results may have been pushed.
-/
structure OnlyPushes (w w' : World D) : Prop where
  engine : w'.engine = w.engine
  runtime : w'.runtime = w.runtime
  telemetry : w'.telemetry = w.telemetry
  commands : w'.commands = w.commands
  trace : ∃ pushes : List (ResultMessage D.limits × Bool),
    w'.trace = w.trace ++ pushes.map fun p => .resultPush p.1 p.2

theorem OnlyPushes.refl (w : World D) : OnlyPushes w w :=
  ⟨rfl, rfl, rfl, rfl, [], by simp⟩

theorem OnlyPushes.trans {w w' w'' : World D} (h : OnlyPushes w w') (h' : OnlyPushes w' w'') :
    OnlyPushes w w'' := by
  obtain ⟨pushes, hpushes⟩ := h.trace
  obtain ⟨pushes', hpushes'⟩ := h'.trace
  exact ⟨h'.engine.trans h.engine, h'.runtime.trans h.runtime,
    h'.telemetry.trans h.telemetry, h'.commands.trans h.commands, pushes ++ pushes',
    by rw [hpushes', hpushes, List.map_append, List.append_assoc]⟩

namespace World

/-- The records that the result queue took, oldest first. -/
def accepted (w : World D) : List (ResultMessage D.limits) :=
  w.trace.filterMap Event.acceptedResult

/-- The records that the engine pushed, whether the queue took them or not. -/
def attempted (w : World D) : List (ResultMessage D.limits) :=
  w.trace.filterMap Event.attemptedResult

/-- The records that the result queue takes while a command is dispatched. -/
def answers (w : World D) (m : CommandMessage D.limits) : List (ResultMessage D.limits) :=
  (w.dispatchCommand m).2.accepted.drop w.accepted.length

theorem answers_eq {w : World D} {m : CommandMessage D.limits}
    {rs : List (ResultMessage D.limits)}
    (h : (w.dispatchCommand m).2.accepted = w.accepted ++ rs) : w.answers m = rs := by
  rw [answers, h, List.drop_left]

/-- Each record that a history accepted was attempted in it. -/
theorem acceptedResults_sublist {L : Limits} (events : List (Event L)) :
    (events.filterMap Event.acceptedResult).Sublist (events.filterMap Event.attemptedResult) := by
  induction events with
  | nil => exact .refl _
  | cons e events ih =>
    cases e with
    | resultPush m taken =>
      cases taken with
      | true => exact ih.cons_cons m
      | false => exact ih.cons m
    | _ => exact ih

/-- The records that a world has attempted since another, and those of them that it has put in the
queue. -/
structure Recorded (w w' : World D) (as rs : List (ResultMessage D.limits)) : Prop where
  attempted : w'.attempted = w.attempted ++ as
  accepted : w'.accepted = w.accepted ++ rs
  taken : rs.Sublist as

theorem Recorded.of_trace {w w' : World D} {events : List (Event D.limits)}
    (h : w'.trace = w.trace ++ events) :
    Recorded w w' (events.filterMap Event.attemptedResult)
      (events.filterMap Event.acceptedResult) where
  attempted := by rw [World.attempted, h, List.filterMap_append, World.attempted]
  accepted := by rw [World.accepted, h, List.filterMap_append, World.accepted]
  taken := acceptedResults_sublist events

theorem Recorded.trans {w w₁ w₂ : World D} {as as' rs rs' : List (ResultMessage D.limits)}
    (h : Recorded w w₁ as rs) (h' : Recorded w₁ w₂ as' rs') :
    Recorded w w₂ (as ++ as') (rs ++ rs') where
  attempted := by rw [h'.attempted, h.attempted, List.append_assoc]
  accepted := by rw [h'.accepted, h.accepted, List.append_assoc]
  taken := h.taken.append h'.taken

theorem eventPushResult_onlyPushes (w : World D) (m : ResultMessage D.limits) :
    OnlyPushes w (w.eventPushResult m).2 := by
  unfold eventPushResult
  split
  · exact ⟨rfl, rfl, rfl, rfl, [(m, _)], rfl⟩
  · exact .refl w

/-- A push attempts its record, or nothing if there is no queue. -/
theorem eventPushResult_attempted (w : World D) (m : ResultMessage D.limits) :
    ∃ as, (w.eventPushResult m).2.attempted = w.attempted ++ as ∧ as.Sublist [m] := by
  unfold eventPushResult
  split
  · exact ⟨[m], by simp [attempted, Event.attemptedResult], .refl _⟩
  · exact ⟨[], (List.append_nil _).symm, List.nil_sublist _⟩

theorem eventPushResult_eq {w : World D} (hqueue : w.engine.config.resultQueue = true)
    (m : ResultMessage D.limits) :
    w.eventPushResult m = ((D.resultTryPush w.results m).1,
      { w with results := (D.resultTryPush w.results m).2 }.emit
        (.resultPush m (D.resultTryPush w.results m).1)) := if_pos hqueue

theorem eventPushResult_accepted (w : World D) (m : ResultMessage D.limits) :
    (w.eventPushResult m).2.accepted =
      w.accepted ++ if (w.eventPushResult m).1 then [m] else [] := by
  unfold eventPushResult
  split
  · dsimp only
    cases (D.resultTryPush w.results m).1 <;> simp [accepted, Event.acceptedResult]
  · simp

/-- Pushes of records one after the other, with their outcomes. -/
def pushResults : World D → List (ResultMessage D.limits) → List Bool × World D
  | w, [] => ([], w)
  | w, r :: rs =>
    let (pushed, w) := w.eventPushResult r
    let (outcomes, w) := w.pushResults rs
    (pushed :: outcomes, w)

theorem pushResults_onlyPushes (w : World D) (rs : List (ResultMessage D.limits)) :
    OnlyPushes w (w.pushResults rs).2 := by
  induction rs generalizing w with
  | nil => exact .refl w
  | cons r rs ih => exact (w.eventPushResult_onlyPushes r).trans (ih _)

theorem pushResults_length (w : World D) (rs : List (ResultMessage D.limits)) :
    (w.pushResults rs).1.length = rs.length := by
  induction rs generalizing w with
  | nil => rfl
  | cons r rs ih => exact congrArg Nat.succ (ih _)

theorem pushResults_accepted (w : World D) (rs : List (ResultMessage D.limits)) :
    (w.pushResults rs).2.accepted = w.accepted ++ Channel.taken rs (w.pushResults rs).1 := by
  induction rs generalizing w with
  | nil => simp [pushResults, Channel.taken]
  | cons r rs ih =>
    simp only [pushResults]
    rw [ih, eventPushResult_accepted]
    cases (w.eventPushResult r).1 <;> simp [Channel.taken]

theorem pushResults_attempted_sublist (w : World D) (rs : List (ResultMessage D.limits)) :
    ∃ as, (w.pushResults rs).2.attempted = w.attempted ++ as ∧ as.Sublist rs := by
  induction rs generalizing w with
  | nil => exact ⟨[], (List.append_nil _).symm, .refl _⟩
  | cons r rs ih =>
    obtain ⟨as, has, hfirst⟩ := w.eventPushResult_attempted r
    obtain ⟨as', has', hrest⟩ := ih (w.eventPushResult r).2
    refine ⟨as ++ as', ?_, hfirst.append hrest⟩
    simp only [pushResults]
    rw [has', has, List.append_assoc]

theorem pushResults_attempted (w : World D) (hqueue : w.engine.config.resultQueue = true)
    (rs : List (ResultMessage D.limits)) :
    (w.pushResults rs).2.attempted = w.attempted ++ rs := by
  induction rs generalizing w with
  | nil => simp [pushResults]
  | cons r rs ih =>
    have hpush : (w.eventPushResult r).2.attempted = w.attempted ++ [r] := by
      simp [eventPushResult, hqueue, attempted, Event.attemptedResult]
    have hqueue' : (w.eventPushResult r).2.engine.config.resultQueue = true := by
      rwa [(w.eventPushResult_onlyPushes r).engine]
    simp only [pushResults]
    rw [ih _ hqueue', hpush, List.append_assoc, List.singleton_append]

end World

end RtsynEngine
