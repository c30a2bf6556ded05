import Mathlib.Algebra.Order.Group.Int
import Mathlib.Algebra.Order.Group.MinMax
import Mathlib.Algebra.BigOperators.Group.List.Basic
import Mathlib.Order.Bounds.Basic
import RtsynEngine.Lib.Pacing

/-! How late a self-paced loop is.  What each lap takes beyond its period adds to a backlog, which
what it leaves of its period works off, and which is never negative: the backlog is the greatest
total of the last laps, any number of them. -/

namespace Backlog

variable {α : Type} [AddCommGroup α] [LinearOrder α]

/-- What is left of some gains and losses, taken one after another, when only what is there can be
lost. -/
def backlog (gains : List α) : α := gains.foldl (fun b x => max 0 (b + x)) 0

@[simp] theorem backlog_nil : backlog ([] : List α) = 0 := rfl

@[simp] theorem backlog_append_singleton (gains : List α) (x : α) :
    backlog (gains ++ [x]) = max 0 (backlog gains + x) := by
  simp [backlog]

theorem backlog_nonneg (gains : List α) : 0 ≤ backlog gains := by
  induction gains using List.reverseRecOn with
  | nil => exact le_refl _
  | append_singleton gains x _ =>
    rw [backlog_append_singleton]
    exact le_max_left _ _

variable [IsOrderedAddMonoid α]

/-- Later gains meet what the earlier ones left, unless all of it is lost. -/
theorem backlog_append (earlier later : List α) :
    backlog (earlier ++ later) = max (backlog earlier + later.sum) (backlog later) := by
  induction later using List.reverseRecOn with
  | nil => simp [backlog_nonneg]
  | append_singleton later x ih =>
    rw [← List.append_assoc, backlog_append_singleton, ih, backlog_append_singleton,
      List.sum_append, List.sum_singleton, max_add, ← add_assoc]
    exact max_left_comm _ _ _

/-- The backlog is the greatest sum of the last gains. -/
theorem backlog_isGreatest (gains : List α) :
    IsGreatest {t | ∃ last, last <:+ gains ∧ last.sum = t} (backlog gains) := by
  constructor
  · induction gains using List.reverseRecOn with
    | nil => exact ⟨[], List.suffix_refl _, rfl⟩
    | append_singleton gains x ih =>
      obtain ⟨last, ⟨before, hlast⟩, hsum⟩ := ih
      rw [backlog_append_singleton]
      rcases max_choice 0 (backlog gains + x) with hmax | hmax
      · exact ⟨[], List.nil_suffix, by rw [hmax]; rfl⟩
      · refine ⟨last ++ [x], ⟨before, by rw [← List.append_assoc, hlast]⟩, ?_⟩
        rw [hmax, List.sum_append, List.sum_singleton, hsum]
  · rintro t ⟨last, ⟨before, rfl⟩, rfl⟩
    rw [backlog_append]
    have hbefore := backlog_nonneg before
    exact le_max_of_le_left (le_add_of_nonneg_left hbefore)

/-- A backlog shrinks as fast as each later step loses more than it gains. -/
theorem backlog_append_le (earlier later : List α) {loss : α} (hloss : 0 ≤ loss)
    (h : ∀ x ∈ later, x + loss ≤ 0) :
    backlog (earlier ++ later) ≤ max 0 (backlog earlier - later.length • loss) := by
  induction later using List.reverseRecOn with
  | nil => simp [backlog_nonneg]
  | append_singleton later x ih =>
    obtain ⟨hlater, hx⟩ := List.forall_mem_append.mp h
    have hx : x ≤ -loss := le_neg_iff_add_nonpos_right.mpr (hx x (List.mem_singleton_self _))
    have hle := add_le_add (ih hlater) hx
    rw [max_add] at hle
    rw [← List.append_assoc, backlog_append_singleton, List.length_append, List.length_singleton,
      succ_nsmul, ← sub_sub]
    refine max_le (le_max_left _ _) (hle.trans (max_le ?_ ?_))
    · rw [zero_add]
      exact (neg_nonpos.mpr hloss).trans (le_max_left _ _)
    · rw [← sub_eq_add_neg]
      exact le_max_right _ _

end Backlog

namespace Pacing

open History Backlog

/-- What a lap takes beyond its period. -/
def Lap.excess (c : Lap) : Int := (c.work : Int) - c.period.toNat

/-- How late a loop is after some laps. -/
def lateness (laps : List Lap) : Int := backlog (laps.map Lap.excess)

@[simp] theorem lateness_append_singleton (laps : List Lap) (c : Lap) :
    lateness (laps ++ [c]) = max 0 (lateness laps + c.excess) := by
  simp [lateness]

theorem lateness_nonneg (laps : List Lap) : 0 ≤ lateness laps := backlog_nonneg _

/-- The total excess of some last laps. -/
def overruns (laps : List Lap) : Set Int :=
  {t | ∃ last, last <:+ laps ∧ (last.map Lap.excess).sum = t}

theorem lateness_isGreatest (laps : List Lap) : IsGreatest (overruns laps) (lateness laps) := by
  obtain ⟨⟨last, hlast, hsum⟩, hgreatest⟩ := backlog_isGreatest (laps.map Lap.excess)
  constructor
  · obtain ⟨last', hlast', rfl⟩ := List.suffix_map_iff.mp hlast
    exact ⟨last', hlast', hsum⟩
  · rintro t ⟨last', hlast', rfl⟩
    exact hgreatest ⟨_, hlast'.map _, rfl⟩

/-- A loop catches up by what each later lap leaves of its period. -/
theorem lateness_append_le (earlier : List Lap) {later : List Lap} {slack : Nat}
    (h : ∀ c ∈ later, c.work + slack ≤ c.period.toNat) :
    lateness (earlier ++ later) ≤ max 0 (lateness earlier - later.length * slack) := by
  have hlosses : ∀ x ∈ later.map Lap.excess, x + (slack : Int) ≤ 0 := by
    intro x hx
    obtain ⟨c, hc, rfl⟩ := List.mem_map.mp hx
    have hslack := h c hc
    simp only [Lap.excess]
    omega
  have hle := backlog_append_le (earlier.map Lap.excess) (later.map Lap.excess)
    (Int.natCast_nonneg slack) hlosses
  rw [List.length_map, nsmul_eq_mul] at hle
  rw [lateness, List.map_append]
  exact hle

variable {enteredAt : UInt64}

/-- Where the clock and the deadline of a timed loop are: the deadline is on the grid of the
periods, and the clock is the lateness after it. -/
structure Late (enteredAt : UInt64) (laps : List Lap) : Prop where
  deadline : (deadline enteredAt laps).toNat = enteredAt.toNat + span laps
  clock : ((clock enteredAt laps).toNat : Int) =
    ((enteredAt.toNat + span laps : Nat) : Int) + lateness laps

namespace Late

theorem nil : Late enteredAt [] where
  deadline := rfl
  clock := by simp [Pacing.clock, span, lateness]

section Lap

variable {laps : List Lap} {c : Lap} (h : Late enteredAt laps) (hc : Timed enteredAt laps c)
include h hc

theorem startedAt_eq : (c.startedAt.toNat : Int) =
    ((enteredAt.toNat + span laps : Nat) : Int) + lateness laps := by
  rw [hc.started, h.clock]

theorem finishedAt_eq : (c.finishedAt.toNat : Int) =
    ((enteredAt.toNat + span laps : Nat) : Int) + lateness laps + c.work := by
  have hstarted := h.startedAt_eq hc
  have hle := UInt64.le_iff_toNat_le.mp hc.finished
  simp only [Lap.work]
  omega

variable (hrange : enteredAt.toNat + span (laps ++ [c]) < 2 ^ 64)
include hrange

theorem deadline_eq : c.deadline.toNat = enteredAt.toNat + span (laps ++ [c]) := by
  rw [span_append] at hrange ⊢
  rw [hc.deadline, UInt64.toNat_add, h.deadline]
  omega

/-- A lap ends before its deadline exactly if its period covers its work and the lateness. -/
theorem early_iff :
    c.finishedAt < c.deadline ↔ lateness laps + c.work < (c.period.toNat : Int) := by
  have hfinished := h.finishedAt_eq hc
  have hdeadline := h.deadline_eq hc hrange
  rw [span_append] at hdeadline
  rw [UInt64.lt_iff_toNat_lt]
  omega

theorem append : Late enteredAt (laps ++ [c]) := by
  have hdeadline := h.deadline_eq hc hrange
  have hfinished := h.finishedAt_eq hc
  have hlate := lateness_nonneg laps
  constructor
  · rw [deadline_append, ← hc.deadline, hdeadline]
  · rw [clock_append, lateness_append_singleton]
    rw [span_append] at hdeadline ⊢
    simp only [Lap.excess]
    by_cases hperiodic : c.periodic
    · rw [Lap.completedAt_periodic hperiodic]
      show ((if c.finishedAt ≤ c.deadline then c.deadline else c.finishedAt).toNat : Int) = _
      split
      · next hle =>
        rw [UInt64.le_iff_toNat_le] at hle
        omega
      · next hlt =>
        rw [UInt64.le_iff_toNat_le] at hlt
        omega
    · have hzero : c.period.toNat = 0 :=
        Nat.le_zero.mp (UInt64.le_iff_toNat_le.mp (UInt64.not_lt.mp hperiodic))
      rw [Lap.completedAt_free hperiodic]
      omega

end Lap

end Late

/-- A timed loop whose grid is in the clock's range. -/
theorem late_of_timed {laps : List Lap} (h : Each (Timed enteredAt) laps)
    (hrange : enteredAt.toNat + span laps < 2 ^ 64) : Late enteredAt laps := by
  induction laps using List.reverseRecOn with
  | nil => exact .nil
  | append_singleton laps c ih =>
    obtain ⟨hlaps, hc⟩ := each_append_singleton.mp h
    have hbefore : enteredAt.toNat + span laps < 2 ^ 64 := by
      rw [span_append] at hrange
      omega
    exact (ih hlaps hbefore).append hc hrange

end Pacing
