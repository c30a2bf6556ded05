import RtsynEngine.Lib.Transition

/-! Simulations between transition systems, which carry over from steps to runs. -/

namespace Transition

variable {σ τ α β : Type}

/-- Related states take the same actions, to related states. -/
structure LockStep (step : σ → α → Option σ) (step' : τ → α → Option τ) (R : σ → τ → Prop) :
    Prop where
  forth {s s' : σ} {t : τ} {a : α} : R s t → step s a = some s' →
    ∃ t', step' t a = some t' ∧ R s' t'

theorem LockStep.run {step : σ → α → Option σ} {step' : τ → α → Option τ} {R : σ → τ → Prop}
    (h : LockStep step step' R) {s s' : σ} {t : τ} {as : List α} (hst : R s t)
    (hrun : Transition.run step s as = some s') :
    ∃ t', Transition.run step' t as = some t' ∧ R s' t' := by
  induction as generalizing s t with
  | nil =>
    cases hrun
    exact ⟨t, rfl, hst⟩
  | cons a as ih =>
    obtain ⟨s₁, hfirst, hrest⟩ := Option.bind_eq_some_iff.mp hrun
    obtain ⟨t₁, hfirst', hst₁⟩ := h.forth hst hfirst
    obtain ⟨t', hrest', hst'⟩ := ih hst₁ hrest
    exact ⟨t', Option.bind_eq_some_iff.mpr ⟨t₁, hfirst', hrest'⟩, hst'⟩

end Transition
