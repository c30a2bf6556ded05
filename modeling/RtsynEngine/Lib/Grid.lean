import Mathlib.Data.List.Induction
import Mathlib.Data.UInt

/-! Points of a grid: a 64-bit start to which one period after another is added, with arithmetic
that wraps modulo `2 ^ 64`. -/

namespace Grid

/-- The point after some periods. -/
def point (start : UInt64) (periods : List UInt64) : UInt64 := periods.foldl (· + ·) start

/-- The sum of some periods, which does not wrap. -/
def span (periods : List UInt64) : Nat := (periods.map UInt64.toNat).sum

@[simp] theorem point_append_singleton (start : UInt64) (periods : List UInt64) (period : UInt64) :
    point start (periods ++ [period]) = point start periods + period := by
  simp [point]

@[simp] theorem span_append (periods periods' : List UInt64) :
    span (periods ++ periods') = span periods + span periods' := by
  simp [span]

/-- A point within the range of a clock is the start and the sum of the periods. -/
theorem point_toNat {start : UInt64} {periods : List UInt64}
    (hfits : start.toNat + span periods < 2 ^ 64) :
    (point start periods).toNat = start.toNat + span periods := by
  induction periods using List.reverseRecOn with
  | nil => rfl
  | append_singleton periods period ih =>
    have hlast : span [period] = period.toNat := by simp [span]
    rw [span_append, hlast] at hfits ⊢
    have hbefore := ih (by omega)
    rw [point_append_singleton, UInt64.toNat_add, hbefore, Nat.mod_eq_of_lt (by omega),
      Nat.add_assoc]

/-- Within that range a positive period leads to a later point. -/
theorem point_lt {start : UInt64} {earlier later : List UInt64} {period : UInt64}
    (hfits : start.toNat + span (earlier ++ later ++ [period]) < 2 ^ 64) (hperiod : 0 < period) :
    point start earlier < point start (earlier ++ later ++ [period]) := by
  have hpositive : 0 < period.toNat := UInt64.lt_iff_toNat_lt.mp hperiod
  have hlast : span [period] = period.toNat := by simp [span]
  rw [UInt64.lt_iff_toNat_lt, point_toNat hfits]
  rw [span_append, span_append, hlast] at hfits ⊢
  rw [point_toNat (by omega)]
  omega

end Grid
