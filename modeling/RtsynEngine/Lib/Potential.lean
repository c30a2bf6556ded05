import Mathlib.Algebra.GroupWithZero.Nat
import Mathlib.Data.List.Basic
import RtsynEngine.Lib.Handle
import RtsynEngine.Lib.Transition

/-! The potential method: the work that a transition system can do is bounded by a potential, which
each piece of work uses up and which only some actions add to. -/

namespace Transition

variable {σ α : Type}

/-- In the states of `Inv`, a working action uses up potential, and an action adds no more to it
than its grant. -/
structure Amortised (step : σ → α → Option σ) (ok : σ → α → Prop) (Inv : σ → Prop)
    (potential : σ → Nat) (works : α → Bool) (grant : α → Nat) : Prop where
  inv {s s' : σ} {a : α} : Inv s → ok s a → step s a = some s' → Inv s'
  pays {s s' : σ} {a : α} : Inv s → ok s a → step s a = some s' →
    (works a).toNat + potential s' ≤ potential s + grant a

variable {step : σ → α → Option σ} {ok : σ → α → Prop} {Inv : σ → Prop} {potential : σ → Nat}
  {works : α → Bool} {grant : α → Nat}

/-- A run does no more work than its first state has potential and its actions grant. -/
theorem Amortised.path (h : Amortised step ok Inv potential works grant) {s s' : σ}
    {as : List α} (hs : Inv s) (hpath : Path step ok s as s') :
    Inv s' ∧ as.countP works + potential s' ≤ potential s + (as.map grant).sum := by
  induction hpath with
  | refl => exact ⟨hs, by simp⟩
  | @tail as s₁ s₂ a _ hok hstep ih =>
    obtain ⟨hinv, hbound⟩ := ih
    have hpays := h.pays hinv hok hstep
    have hcount : (as ++ [a]).countP works = as.countP works + (works a).toNat := by
      cases hworks : works a <;> simp [hworks]
    refine ⟨h.inv hinv hok hstep, ?_⟩
    rw [hcount, List.map_append, List.sum_append, List.map_singleton, List.sum_singleton]
    omega

/-- If in each state that is not at rest some action works without a grant, then a run of such
actions leads to rest. -/
theorem Amortised.exhausts (h : Amortised step ok Inv potential works grant) {rest : σ → Prop}
    (hworks : ∀ s, Inv s → ¬rest s →
      ∃ a s', works a = true ∧ grant a = 0 ∧ ok s a ∧ step s a = some s')
    {s : σ} (hs : Inv s) :
    ∃ as s', Path step ok s as s' ∧ rest s' ∧ ∀ a ∈ as, works a = true := by
  -- by induction on the potential, which each action on the way uses up
  induction hpotential : potential s using Nat.strongRecOn generalizing s with
  | ind n ih =>
    by_cases hrest : rest s
    · exact ⟨[], s, .refl, hrest, by simp⟩
    · obtain ⟨a, s₁, ha, hgrant, hok, hstep⟩ := hworks s hs hrest
      have hpays := h.pays hs hok hstep
      rw [ha, hgrant, Bool.toNat_true] at hpays
      obtain ⟨as, s', hpath, hrest', has⟩ := ih (potential s₁) (by omega) (h.inv hs hok hstep) rfl
      exact ⟨a :: as, s', .head hok hstep hpath, hrest', by simpa [ha] using has⟩

end Transition

namespace Handle

variable {State : Type} (rank : State → Nat)

/-- The sum of the ranks of a handle's threads. -/
def weight (ts : List (Thread State)) : Nat := (ts.map fun t => rank t.state).sum

@[simp] theorem weight_nil : weight rank [] = 0 := rfl

@[simp] theorem weight_cons (t : Thread State) (ts : List (Thread State)) :
    weight rank (t :: ts) = rank t.state + weight rank ts := by
  simp [weight]

/-- A step of one thread changes the sum by its own rank. -/
theorem weight_set {ts : List (Thread State)} {i : Nat} {t : Thread State} (hi : ts[i]? = some t)
    (state : State) :
    weight rank (ts.set i { t with state }) + rank t.state = weight rank ts + rank state := by
  induction ts generalizing i with
  | nil => simp at hi
  | cons head ts ih =>
    cases i with
    | zero =>
      cases hi
      simp only [List.set_cons_zero, weight_cons]
      omega
    | succ i =>
      have htail := ih (i := i) hi
      simp only [List.set_cons_succ, weight_cons]
      omega

theorem weight_threadJoin {returned : State} [DecidableEq State] {ts ts' : List (Thread State)}
    {outcome joined : Bool} (hjoin : threadJoin returned ts outcome = some (joined, ts')) :
    weight rank ts' = weight rank ts := by
  cases ts with
  | nil =>
    cases hjoin
    rfl
  | cons t ts =>
    dsimp only [threadJoin] at hjoin
    split at hjoin
    · split at hjoin <;> cases hjoin
      simp
    · cases hjoin
      simp

/-- All threads but the newest are done, so their ranks are low. -/
theorem Settled.weight_le {done : State → Prop} {returned : State} {ts : List (Thread State)}
    (h : Settled done returned ts) (low high : Nat) (hlow : ∀ state, done state → rank state ≤ low)
    (hhigh : ∀ state, rank state ≤ high) : weight rank ts ≤ high + ts.length * low := by
  have hdone : ∀ ts : List (Thread State), (∀ t ∈ ts, done t.state) →
      weight rank ts ≤ ts.length * low := by
    intro ts hts
    induction ts with
    | nil => simp
    | cons t ts ih =>
      have ht := hlow t.state (hts t (by simp))
      have htail := ih fun t' ht' => hts t' (by simp [ht'])
      rw [weight_cons, List.length_cons, Nat.add_mul]
      omega
  cases ts with
  | nil => simp
  | cons t ts =>
    have ht := hhigh t.state
    have htail := hdone ts h.tail
    rw [weight_cons, List.length_cons, Nat.add_mul]
    omega

/-- A join does not block on a handle whose threads have all returned. -/
theorem threadJoin_isSome {returned : State} [DecidableEq State] {ts : List (Thread State)}
    (hreturned : ∀ t ∈ ts, t.state = returned) (outcome : Bool) :
    (threadJoin returned ts outcome).isSome = true := by
  cases ts with
  | nil => rfl
  | cons t ts =>
    have ht : t.state = returned := hreturned t (by simp)
    dsimp only [threadJoin]
    rw [if_pos ht]
    split <;> rfl

end Handle
