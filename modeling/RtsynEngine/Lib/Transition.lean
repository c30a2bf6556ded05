/-! Transition systems given by a step function: `step s a` is the state after the action `a`, or
`none` where `a` cannot happen in `s`. -/

namespace Transition

variable {σ α : Type} (init : σ → Prop) (step : σ → α → Option σ)

/-- The states that some actions lead to from an initial one. -/
inductive Reachable : σ → Prop
  | start {s : σ} (hinit : init s) : Reachable s
  | next {s s' : σ} {a : α} (hs : Reachable s) (hstep : step s a = some s') : Reachable s'

/-- The state after a sequence of actions, if all can happen. -/
def run (s : σ) (as : List α) : Option σ := as.foldlM step s

variable {init step}

/-- What holds initially and is preserved by each step holds in every reachable state. -/
theorem Reachable.invariant {P : σ → Prop} (hinit : ∀ s, init s → P s)
    (hpreserved : ∀ s a s', P s → step s a = some s' → P s') {s : σ}
    (h : Reachable init step s) : P s := by
  induction h with
  | start hs => exact hinit _ hs
  | next _ hstep ih => exact hpreserved _ _ _ ih hstep

theorem Reachable.run {s s' : σ} {as : List α} (h : Reachable init step s)
    (hrun : run step s as = some s') : Reachable init step s' := by
  induction as generalizing s with
  | nil =>
    cases hrun
    exact h
  | cons a as ih =>
    obtain ⟨s₁, hfirst, hrest⟩ := Option.bind_eq_some_iff.mp hrun
    exact ih (h.next hfirst) hrest

theorem run_concat {s s' s'' : σ} {as : List α} {a : α} (hrun : run step s as = some s')
    (hstep : step s' a = some s'') : run step s (as ++ [a]) = some s'' := by
  have hlast : run step s' [a] = some s'' := by
    rw [run, List.foldlM_cons, hstep]
    rfl
  rw [run, List.foldlM_append]
  exact Option.bind_eq_some_iff.mpr ⟨s', hrun, hlast⟩

/-- A sequence of actions that leads from `s` to a state, each taken where `ok` allows it. -/
inductive Path (step : σ → α → Option σ) (ok : σ → α → Prop) (s : σ) : List α → σ → Prop
  | refl : Path step ok s [] s
  | tail {as : List α} {s' s'' : σ} {a : α} (h : Path step ok s as s') (hok : ok s' a)
    (hstep : step s' a = some s'') : Path step ok s (as ++ [a]) s''

variable {ok : σ → α → Prop}

theorem Reachable.path {s s' : σ} {as : List α} (hs : Reachable init step s)
    (h : Path step ok s as s') : Reachable init step s' := by
  induction h with
  | refl => exact hs
  | tail _ _ hstep ih => exact ih.next hstep

theorem Path.head {s s' s'' : σ} {a : α} {as : List α} (hok : ok s a) (hstep : step s a = some s')
    (h : Path step ok s' as s'') : Path step ok s (a :: as) s'' := by
  induction h with
  | refl => exact .tail .refl hok hstep
  | tail _ hok' hstep' ih => exact ih.tail hok' hstep'

theorem Path.of_run {s s' : σ} {as : List α} (hok : ∀ s a, ok s a)
    (h : Transition.run step s as = some s') : Path step ok s as s' := by
  induction as generalizing s with
  | nil =>
    cases h
    exact .refl
  | cons a as ih =>
    obtain ⟨s₁, hfirst, hrest⟩ := Option.bind_eq_some_iff.mp h
    exact .head (hok s a) hfirst (ih hrest)

/-- The system in which an action happens only where `ok` allows it. -/
def guarded (step : σ → α → Option σ) (ok : σ → α → Prop) [∀ s a, Decidable (ok s a)] (s : σ)
    (a : α) : Option σ :=
  if ok s a then step s a else none

theorem Path.of_guarded_run [∀ s a, Decidable (ok s a)] {s s' : σ} {as : List α}
    (h : Transition.run (guarded step ok) s as = some s') : Path step ok s as s' := by
  induction as generalizing s with
  | nil =>
    cases h
    exact .refl
  | cons a as ih =>
    obtain ⟨s₁, hfirst, hrest⟩ := Option.bind_eq_some_iff.mp h
    unfold guarded at hfirst
    split at hfirst
    · next hok => exact .head hok hfirst (ih hrest)
    · cases hfirst

/-- What each allowed action preserves holds at the end of a path. -/
theorem Path.invariant {P : List α → σ → Prop} {s s' : σ} {as : List α} (hs : P [] s)
    (hpreserved : ∀ as s' a s'', P as s' → ok s' a → step s' a = some s'' → P (as ++ [a]) s'')
    (h : Path step ok s as s') : P as s' := by
  induction h with
  | refl => exact hs
  | tail _ hok hstep ih => exact hpreserved _ _ _ _ ih hok hstep

/-- The system with a history variable, on which `record` writes down each action and the state
that it is taken in. -/
def recording {η : Type} (step : σ → α → Option σ) (record : σ → α → η → η) (s : σ × η) (a : α) :
    Option (σ × η) :=
  (step s.1 a).map fun s' => (s', record s.1 a s.2)

/-- What is recorded has no part in what happens. -/
theorem Reachable.of_recording {η : Type} {record : σ → α → η → η} {init' : σ × η → Prop}
    (hinit : ∀ s, init' s → init s.1) {s : σ × η} (h : Reachable init' (recording step record) s) :
    Reachable init step s.1 := by
  refine h.invariant (P := fun s => Reachable init step s.1) (fun s hs => .start (hinit s hs)) ?_
  intro s a s' hs hstep
  obtain ⟨t, hact, rfl⟩ := Option.map_eq_some_iff.mp hstep
  exact hs.next hact

theorem Reachable.mono {init' : σ → Prop} (hinit : ∀ s, init s → init' s) {s : σ}
    (h : Reachable init step s) : Reachable init' step s := by
  induction h with
  | start hs => exact .start (hinit _ hs)
  | next _ hstep ih => exact ih.next hstep

/-- The states that actions which `ok` allows lead to from an initial one. -/
def ReachableBy (init : σ → Prop) (step : σ → α → Option σ) (ok : σ → α → Prop) (s : σ) : Prop :=
  ∃ s₀ as, init s₀ ∧ Path step ok s₀ as s

theorem ReachableBy.reachable {s : σ} (h : ReachableBy init step ok s) :
    Reachable init step s := by
  obtain ⟨s₀, as, hinit, hpath⟩ := h
  exact (Reachable.start hinit).path hpath

theorem ReachableBy.invariant {P : σ → Prop} (hinit : ∀ s, init s → P s)
    (hpreserved : ∀ s a s', P s → ok s a → step s a = some s' → P s') {s : σ}
    (h : ReachableBy init step ok s) : P s := by
  obtain ⟨s₀, as, hs₀, hpath⟩ := h
  induction hpath with
  | refl => exact hinit _ hs₀
  | tail _ hok hstep ih => exact hpreserved _ _ _ ih hok hstep

end Transition
