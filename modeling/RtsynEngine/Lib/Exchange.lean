import RtsynEngine.Lib.Transition

/-! Exchanges.  A system serves the requests that wait for it, the oldest first, and gives replies;
what its steps serve and reply adds up over a run. -/

namespace Exchange

open Transition

variable {σ α μ ρ : Type}

/-- The requests that wait in a state, the request that an action brings, and the replies that have
been given in a state, each oldest first. -/
structure View (σ α μ ρ : Type) where
  waiting : σ → List μ
  brings : α → Option μ
  given : σ → List ρ

/-- A relation between requests and the replies to them which holds of two stretches together if it
holds of each. -/
structure Additive (R : List μ → List ρ → Prop) : Prop where
  nil : R [] []
  append {ms ms' : List μ} {rs rs' : List ρ} : R ms rs → R ms' rs' → R (ms ++ ms') (rs ++ rs')

/-- Each request has the reply that `f` says, if any. -/
theorem additive_eq (f : μ → Option ρ) : Additive fun ms rs => rs = ms.filterMap f where
  nil := rfl
  append h h' := by rw [h, h', List.filterMap_append]

/-- Each request has the reply that `f` says, or none. -/
theorem additive_sublist (f : μ → Option ρ) :
    Additive fun ms rs => List.Sublist rs (ms.filterMap f) where
  nil := .slnil
  append h h' := by
    rw [List.filterMap_append]
    exact h.append h'

/-- Between two states some of the oldest requests, of those that wait and those that are brought,
are served, and the replies given relate to them by `R`. -/
def Serves (v : View σ α μ ρ) (R : List μ → List ρ → Prop) (s s' : σ) (brought : List μ) : Prop :=
  ∃ served replies, v.waiting s ++ brought = served ++ v.waiting s' ∧
    v.given s' = v.given s ++ replies ∧ R served replies

variable {v : View σ α μ ρ} {R : List μ → List ρ → Prop} {s s' s'' : σ} {brought brought' : List μ}

namespace Serves

theorem refl (hR : Additive R) (s : σ) : Serves v R s s [] :=
  ⟨[], [], List.append_nil _, (List.append_nil _).symm, hR.nil⟩

theorem trans (hR : Additive R) (h : Serves v R s s' brought) (h' : Serves v R s' s'' brought') :
    Serves v R s s'' (brought ++ brought') := by
  obtain ⟨served, replies, hwaiting, hgiven, hrelated⟩ := h
  obtain ⟨served', replies', hwaiting', hgiven', hrelated'⟩ := h'
  refine ⟨served ++ served', replies ++ replies', ?_, ?_, hR.append hrelated hrelated'⟩
  · rw [← List.append_assoc, hwaiting, List.append_assoc, hwaiting', List.append_assoc]
  · rw [hgiven', hgiven, List.append_assoc]

end Serves

variable {step : σ → α → Option σ} {ok : σ → α → Prop} {as : List α}

/-- What each allowed step serves and replies adds up over a path. -/
theorem serves_of_path (Inv : σ → Prop) (hR : Additive R)
    (hstep : ∀ s a s', Inv s → ok s a → step s a = some s' →
      Inv s' ∧ Serves v R s s' (v.brings a).toList)
    (hs : Inv s) (hpath : Path step ok s as s') : Serves v R s s' (as.filterMap v.brings) := by
  have hrun : Inv s' ∧ Serves v R s s' (as.filterMap v.brings) := by
    refine hpath.invariant (P := fun as t => Inv t ∧ Serves v R s t (as.filterMap v.brings))
      ⟨hs, .refl hR s⟩ ?_
    rintro as t a t' ⟨ht, hserves⟩ hok hact
    obtain ⟨ht', hlast⟩ := hstep t a t' ht hok hact
    refine ⟨ht', ?_⟩
    have hbrought : (as ++ [a]).filterMap v.brings =
        as.filterMap v.brings ++ (v.brings a).toList := by
      rw [List.filterMap_append]
      cases h : v.brings a <;> simp [h]
    rw [hbrought]
    exact hserves.trans hR hlast
  exact hrun.2

end Exchange
