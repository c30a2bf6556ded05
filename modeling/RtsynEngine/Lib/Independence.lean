/-! Systems that answer requests of several classes, where requests of different classes do not
affect each other: what a sequence of requests does and answers depends only on the order within
each class. -/

namespace Independence

variable {σ α β κ : Type} (step : σ → α → β × σ)

/-- The requests of a sequence with their answers, and the state after it. -/
def answerAll (s : σ) : List α → List (α × β) × σ
  | [] => ([], s)
  | a :: as => ((a, (step s a).1) :: (answerAll (step s a).2 as).1, (answerAll (step s a).2 as).2)

/-- Requests of different classes have the same effects and answers in either order. -/
def Independent (cls : α → κ) : Prop :=
  ∀ s a b, cls a ≠ cls b →
    (step (step s a).2 b).2 = (step (step s b).2 a).2 ∧ (step (step s b).2 a).1 = (step s a).1

variable [DecidableEq κ] (cls : α → κ)

/-- The requests of one class, in their order. -/
def ofClass (k : κ) (as : List α) : List α := as.filter (cls · = k)

/-- Two sequences lead from `s` to the same state, with the same answers in each class. -/
structure Same (s : σ) (as bs : List α) : Prop where
  state : (answerAll step s as).2 = (answerAll step s bs).2
  answers (k : κ) : (answerAll step s as).1.filter (cls ·.1 = k) =
    (answerAll step s bs).1.filter (cls ·.1 = k)

variable {step cls} {s : σ} {as bs cs : List α} {a : α}

namespace Same

theorem refl (s : σ) (as : List α) : Same step cls s as as := ⟨rfl, fun _ => rfl⟩

theorem trans (h : Same step cls s as bs) (h' : Same step cls s bs cs) :
    Same step cls s as cs :=
  ⟨h.state.trans h'.state, fun k => (h.answers k).trans (h'.answers k)⟩

theorem cons (h : Same step cls (step s a).2 as bs) : Same step cls s (a :: as) (a :: bs) := by
  refine ⟨h.state, fun k => ?_⟩
  simp only [answerAll, List.filter_cons, h.answers k]

theorem swap (h : Independent step cls) {b : α} (hne : cls a ≠ cls b) (s : σ) (as : List α) :
    Same step cls s (b :: a :: as) (a :: b :: as) := by
  obtain ⟨hstate, ha⟩ := h s a b hne
  obtain ⟨-, hb⟩ := h s b a (Ne.symm hne)
  constructor
  · simp only [answerAll, hstate]
  · intro k
    simp only [answerAll, hstate, ha, hb, List.filter_cons]
    by_cases hka : cls a = k
    · have hkb : cls b ≠ k := fun hkb => hne (hka.trans hkb.symm)
      simp [hka, hkb]
    · simp [hka]

/-- A request comes first among those of other classes. -/
theorem front (h : Independent step cls) {before : List α} (hother : ∀ b ∈ before, cls a ≠ cls b)
    (s : σ) (after : List α) :
    Same step cls s (before ++ a :: after) (a :: (before ++ after)) := by
  induction before generalizing s with
  | nil => exact .refl s _
  | cons b before ih =>
    obtain ⟨hb, hbefore⟩ := List.forall_mem_cons.mp hother
    exact (cons (ih hbefore (step s b).2)).trans (swap h hb s _)

end Same

/-- A sequence with a request of some class is that request behind requests of other classes. -/
theorem exists_first {k : κ} (h : ofClass cls k bs = a :: as) :
    ∃ before after, bs = before ++ a :: after ∧ (∀ b ∈ before, cls b ≠ k) ∧ cls a = k := by
  induction bs with
  | nil => cases h
  | cons b bs ih =>
    by_cases hb : cls b = k
    · rw [ofClass, List.filter_cons_of_pos (by simpa using hb)] at h
      cases h
      exact ⟨[], bs, rfl, List.forall_mem_nil _, hb⟩
    · rw [ofClass, List.filter_cons_of_neg (by simpa using hb)] at h
      obtain ⟨before, after, rfl, hbefore, ha⟩ := ih h
      exact ⟨b :: before, after, rfl, List.forall_mem_cons.mpr ⟨hb, hbefore⟩, ha⟩

/-- The order between independent requests of different classes makes no difference. -/
theorem Independent.same (h : Independent step cls)
    (heq : ∀ k, ofClass cls k as = ofClass cls k bs) (s : σ) : Same step cls s as bs := by
  induction as generalizing s bs with
  | nil =>
    cases bs with
    | nil => exact .refl s _
    | cons b bs =>
      have hb := heq (cls b)
      simp [ofClass] at hb
  | cons a as ih =>
    have hfirst : ofClass cls (cls a) bs = a :: ofClass cls (cls a) as := by
      rw [← heq]
      simp [ofClass]
    obtain ⟨before, after, rfl, hbefore, -⟩ := exists_first hfirst
    have hrest : ∀ k, ofClass cls k as = ofClass cls k (before ++ after) := by
      intro k
      have hk := heq k
      simp only [ofClass, List.filter_append, List.filter_cons] at hk ⊢
      by_cases hak : cls a = k
      · subst hak
        have hnone : before.filter (cls · = cls a) = [] := by
          simpa [List.filter_eq_nil_iff] using hbefore
        simpa [hnone] using hk
      · simpa [hak] using hk
    have hfront := Same.front h (fun b hb => Ne.symm (hbefore b hb)) s after
    have hsame : Same step cls s (a :: as) (a :: (before ++ after)) := .cons (ih hrest _)
    exact ⟨hsame.state.trans hfront.state.symm,
      fun k => (hsame.answers k).trans (hfront.answers k).symm⟩

end Independence
