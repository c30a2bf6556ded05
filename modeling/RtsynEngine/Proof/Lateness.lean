import RtsynEngine.Lib.Lateness
import RtsynEngine.Proof.Pacing

/-! How late the RT loop is: in every launch a cycle starts as long after the grid of the periods as
some last cycles before it took beyond theirs. -/

namespace RtsynEngine

open Transition Pacing History

variable {D : Deps}

/-- When the cycle `c` of the launch starts and ends, after the cycles `before`. -/
structure Launch.Scheduled (l : Launch) (before : List Lap) (c : Lap) : Prop where
  started : (c.startedAt.toNat : Int) =
    ((l.enteredAtNs.toNat + span before : Nat) : Int) + lateness before
  deadline : c.deadline.toNat = l.enteredAtNs.toNat + span (before ++ [c])
  /-- The greatest excess of the last cycles' work over their periods. -/
  late : IsGreatest (overruns before) (lateness before)
  /-- The loop has to wait for the next cycle. -/
  early : c.finishedAt < c.deadline ↔ lateness before + c.work < (c.period.toNat : Int)
  /-- Cycles that leave some of their periods make up for earlier ones. -/
  recovers : ∀ earlier later : List Lap, ∀ slack : Nat, before = earlier ++ later →
    (∀ c ∈ later, c.work + slack ≤ c.period.toNat) →
      lateness before ≤ max 0 (lateness earlier - later.length * slack)

theorem Launch.Timed.scheduled {l : Launch} (h : l.Timed) :
    Each (fun before c => l.enteredAtNs.toNat + span (before ++ [c]) < 2 ^ 64 →
      l.Scheduled before c) l.laps := by
  intro before c after hlaps hrange
  have htimed : Each (Pacing.Timed l.enteredAtNs) before := by
    intro earlier c' later hbefore
    refine h earlier c' (later ++ c :: after) ?_
    rw [hlaps, hbefore, List.append_assoc, List.cons_append]
  have hbefore : l.enteredAtNs.toNat + span before < 2 ^ 64 := by
    rw [span_append] at hrange
    omega
  have hlate := late_of_timed htimed hbefore
  have hc := h before c after hlaps
  refine ⟨hlate.startedAt_eq hc, hlate.deadline_eq hc hrange, lateness_isGreatest before,
    hlate.early_iff hc hrange, ?_⟩
  rintro earlier later slack rfl hslack
  exact lateness_append_le earlier hslack

/-- In every run, every cycle whose deadline is in the clock's range starts after the grid of the
periods, by the greatest excess that some last cycles before it have together. -/
theorem cycles_late {now : D.Env → UInt64} (laws : D.ClockLaws now) {s₀ : System D}
    (h : s₀.Initial) {as : List (Act D.limits)} {s : System D} {launches : List Launch}
    (hpath : Path System.pacedAct (fun _ _ => True) (s₀, []) as (s, launches)) :
    ∀ l ∈ launches, Each (fun before c => l.enteredAtNs.toNat + span (before ++ [c]) < 2 ^ 64 →
      l.Scheduled before c) l.laps := by
  intro l hl
  have htimed : l.Timed := (System.paced_of_path laws h hpath).2.timed l hl
  exact htimed.scheduled

/-- A cycle that ran free makes the next one late by all of its work. -/
theorem cycles_late_reference :
    lateness [⟨0, 10, 0, 0⟩] = 10 ∧
      (⟨0, [⟨0, 10, 0, 0⟩, ⟨10, 20, 11, 11⟩]⟩ : Launch).Scheduled [⟨0, 10, 0, 0⟩]
        ⟨10, 20, 11, 11⟩ := by
  refine ⟨rfl, ?_⟩
  have hrun : Transition.run System.pacedAct (Reference.timedCreated [], [])
      (Reference.startActs 9 ++ .step (.pushCommand Reference.periodMessage) ::
        List.replicate 9 (.step (.rt 0))) = some Reference.switchedRun :=
    (Option.some_get _).symm
  have hlaunches : Reference.switchedRun.2 = [⟨0, [⟨0, 10, 0, 0⟩, ⟨10, 20, 11, 11⟩]⟩] := rfl
  have hmem : (⟨0, [⟨0, 10, 0, 0⟩, ⟨10, 20, 11, 11⟩]⟩ : Launch) ∈ Reference.switchedRun.2 := by
    rw [hlaunches]
    exact List.mem_singleton_self _
  have hpath := Path.of_run (fun _ _ => trivial) hrun
  exact cycles_late Reference.clockLaws (Reference.timedCreated_initial _) hpath _ hmem
    [⟨0, 10, 0, 0⟩] _ [] rfl (by decide)

end RtsynEngine
