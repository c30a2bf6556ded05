import Mathlib.Data.UInt
import RtsynEngine.Lib.History

/-! Loops that pace themselves by an accumulated deadline: a lap with a positive period adds it to
the deadline and sleeps until then, and a lap with period zero runs on at once.  All times are
64-bit readings of one clock, and only the work of a lap takes time. -/

namespace Pacing

open History

/-- One lap: when its work began and ended, its period, and the deadline that it then had. -/
structure Lap where
  startedAt : UInt64
  finishedAt : UInt64
  period : UInt64
  deadline : UInt64

namespace Lap

def periodic (c : Lap) : Prop := 0 < c.period

instance (c : Lap) : Decidable c.periodic := inferInstanceAs (Decidable (0 < c.period))

/-- The time that the lap's work takes. -/
def work (c : Lap) : Nat := c.finishedAt.toNat - c.startedAt.toNat

/-- The clock when the lap is over. -/
def completedAt (c : Lap) : UInt64 :=
  if c.periodic then max c.finishedAt c.deadline else c.finishedAt

theorem completedAt_periodic {c : Lap} (h : c.periodic) :
    c.completedAt = max c.finishedAt c.deadline := if_pos h

theorem completedAt_free {c : Lap} (h : ¬c.periodic) : c.completedAt = c.finishedAt := if_neg h

/-- The lap finishes before its deadline, which is at most one period after its start. -/
structure InTime (c : Lap) : Prop where
  sleeps : c.finishedAt < c.deadline
  near : c.deadline.toNat ≤ c.startedAt.toNat + c.period.toNat

end Lap

variable (enteredAt : UInt64)

/-- The clock after some laps of a loop entered at `enteredAt`. -/
def clock (laps : List Lap) : UInt64 := (laps.getLast?.map Lap.completedAt).getD enteredAt

/-- The accumulated deadline after some laps. -/
def deadline (laps : List Lap) : UInt64 := laps.foldl (fun d c => d + c.period) enteredAt

/-- The work of the free-running laps since the last periodic one. -/
def freeTime (laps : List Lap) : Nat :=
  laps.foldl (fun t c => if c.periodic then 0 else t + c.work) 0

/-- The sum of the periods. -/
def span (laps : List Lap) : Nat := (laps.map fun c => c.period.toNat).sum

@[simp] theorem clock_append (laps : List Lap) (c : Lap) :
    clock enteredAt (laps ++ [c]) = c.completedAt := by
  simp [clock]

@[simp] theorem deadline_append (laps : List Lap) (c : Lap) :
    deadline enteredAt (laps ++ [c]) = deadline enteredAt laps + c.period := by
  simp [deadline]

@[simp] theorem freeTime_append (laps : List Lap) (c : Lap) :
    freeTime (laps ++ [c]) = if c.periodic then 0 else freeTime laps + c.work := by
  simp [freeTime]

@[simp] theorem span_append (laps : List Lap) (c : Lap) :
    span (laps ++ [c]) = span laps + c.period.toNat := by
  simp [span]

/-- A lap starts when the one before it is over and adds its period to the deadline. -/
structure Timed (before : List Lap) (c : Lap) : Prop where
  started : c.startedAt = clock enteredAt before
  finished : c.startedAt ≤ c.finishedAt
  deadline : c.deadline = deadline enteredAt before + c.period

/-- The work of a periodic lap, with that of the free-running ones right before it, takes less than
the period, and no deadline is beyond the clock's range. -/
structure Feasible (before : List Lap) (c : Lap) : Prop where
  work : freeTime before + c.work < c.period.toNat
  range : enteredAt.toNat + span (before ++ [c]) < 2 ^ 64

/-- Where the clock and the deadline are as long as each periodic lap is feasible. -/
structure OnGrid (laps : List Lap) : Prop where
  range : enteredAt.toNat + span laps < 2 ^ 64
  deadline : (deadline enteredAt laps).toNat = enteredAt.toNat + span laps
  clock : (clock enteredAt laps).toNat = enteredAt.toNat + span laps + freeTime laps

variable {enteredAt}

theorem OnGrid.nil : OnGrid enteredAt [] where
  range := enteredAt.toNat_lt
  deadline := rfl
  clock := rfl

section Lap

variable {laps : List Lap} {c : Lap} (h : OnGrid enteredAt laps) (hc : Timed enteredAt laps c)
include h hc

theorem OnGrid.finishedAt_eq :
    c.finishedAt.toNat = enteredAt.toNat + span laps + freeTime laps + c.work := by
  have hclock := h.clock
  have hle := UInt64.le_iff_toNat_le.mp hc.finished
  rw [← hc.started] at hclock
  simp only [Lap.work]
  omega

theorem OnGrid.free (hfree : ¬c.periodic) : OnGrid enteredAt (laps ++ [c]) := by
  have hzero : c.period.toNat = 0 := by
    have hle := UInt64.le_iff_toNat_le.mp (UInt64.not_lt.mp hfree)
    exact Nat.le_zero.mp hle
  have hfinished := h.finishedAt_eq hc
  obtain ⟨hrange, hdeadline, -⟩ := h
  refine ⟨?_, ?_, ?_⟩
  · rw [span_append]
    omega
  · rw [deadline_append, UInt64.toNat_add, span_append, hzero, hdeadline]
    omega
  · rw [clock_append, Lap.completedAt_free hfree, freeTime_append, if_neg hfree, span_append]
    omega

/-- A lap is in time exactly if it is feasible: past the clock's range its deadline would be before
its start. -/
theorem OnGrid.inTime_iff : c.InTime ↔ Feasible enteredAt laps c := by
  have hfinished := h.finishedAt_eq hc
  have hclock := h.clock
  have hrange := h.range
  rw [← hc.started] at hclock
  have hdeadline : c.deadline.toNat =
      (enteredAt.toNat + span laps + c.period.toNat) % 2 ^ 64 := by
    rw [hc.deadline, UInt64.toNat_add, h.deadline]
  have hperiod := c.period.toNat_lt
  constructor
  · intro hin
    have hsleeps := UInt64.lt_iff_toNat_lt.mp hin.sleeps
    refine ⟨by omega, ?_⟩
    rw [span_append]
    omega
  · intro hfeasible
    have hwork := hfeasible.work
    have hfits := hfeasible.range
    rw [span_append] at hfits
    refine ⟨UInt64.lt_iff_toNat_lt.mpr ?_, ?_⟩ <;> omega

theorem OnGrid.periodic (hperiodic : c.periodic) (hfeasible : Feasible enteredAt laps c) :
    OnGrid enteredAt (laps ++ [c]) := by
  have hin := (h.inTime_iff hc).mpr hfeasible
  have hdeadline : c.deadline.toNat = enteredAt.toNat + span (laps ++ [c]) := by
    have hfits := hfeasible.range
    rw [span_append] at hfits ⊢
    rw [hc.deadline, UInt64.toNat_add, h.deadline]
    omega
  refine ⟨hfeasible.range, ?_, ?_⟩
  · rw [deadline_append, ← hc.deadline, hdeadline]
  · have hmax : max c.finishedAt c.deadline = c.deadline := by
      show (if c.finishedAt ≤ c.deadline then c.deadline else c.finishedAt) = c.deadline
      exact if_pos (UInt64.le_of_lt hin.sleeps)
    rw [clock_append, Lap.completedAt_periodic hperiodic, freeTime_append, if_pos hperiodic, hmax,
      hdeadline, Nat.add_zero]

end Lap

/-- All periodic laps are in time exactly if all are feasible. -/
theorem inTime_iff_feasible {laps : List Lap} (h : Each (Timed enteredAt) laps) :
    (∀ c ∈ laps, c.periodic → c.InTime) ↔
      Each (fun before c => c.periodic → Feasible enteredAt before c) laps := by
  have hgrid : ((∀ c ∈ laps, c.periodic → c.InTime) ↔
      Each (fun before c => c.periodic → Feasible enteredAt before c) laps) ∧
      (Each (fun before c => c.periodic → Feasible enteredAt before c) laps →
        OnGrid enteredAt laps) := by
    induction laps using List.reverseRecOn with
    | nil => exact ⟨⟨fun _ => each_nil, fun _ _ h => nomatch h⟩, fun _ => .nil⟩
    | append_singleton laps c ih =>
      obtain ⟨hlaps, hc⟩ := each_append_singleton.mp h
      obtain ⟨hiff, hon⟩ := ih hlaps
      rw [each_append_singleton, List.forall_mem_append, List.forall_mem_singleton, hiff]
      constructor
      · refine and_congr_right fun hfeasible => forall_congr' fun _ => ?_
        exact (hon hfeasible).inTime_iff hc
      · rintro ⟨hfeasible, hlast⟩
        by_cases hperiodic : c.periodic
        · exact (hon hfeasible).periodic hc hperiodic (hlast hperiodic)
        · exact (hon hfeasible).free hc hperiodic
  exact hgrid.1

end Pacing
