import RtsynEngine.Lib.Transition

/-! Reduction.  One thread's actions form transactions, and the actions of the others can be moved
out of them: what the thread still waits for, to before the transaction, and all else to after
it. -/

namespace Transition

variable {σ α : Type}

/-- Whose action it is. -/
inductive Mover
  /-- An action of the thread whose transactions are gathered. -/
  | own
  /-- An action of another thread that a growing transaction may depend on. -/
  | early
  | other
deriving DecidableEq

/-- How far the thread is in a transaction. -/
inductive Extent
  | between
  /-- Early actions can still be moved to before the transaction. -/
  | growing
  /-- The thread depends on no other thread until the transaction is over. -/
  | shrinking
deriving DecidableEq

/-- Which actions commute, in the states where `inv` holds. -/
structure Movers (step : σ → α → Option σ) (inv : σ → Prop) (mover : α → Mover)
    (extent : σ → Extent) : Prop where
  preserved {s s' : σ} {a : α} : inv s → step s a = some s' → inv s'
  extent_eq {s s' : σ} {a : α} : inv s → mover a ≠ .own → step s a = some s' → extent s' = extent s
  shrinks {s s' : σ} {a : α} : inv s → extent s = .shrinking → step s a = some s' →
    extent s' ≠ .growing
  /-- In a transaction the thread need not wait for the other threads. -/
  left {s s₁ s₂ : σ} {a b : α} : inv s → extent s ≠ .between → mover a = .own → mover b ≠ .own →
    (extent s = .growing → mover b = .other) → step s b = some s₁ → step s₁ a = some s₂ →
    ∃ t, step s a = some t ∧ step t b = some s₂
  early_own {s s₁ s₂ : σ} {a b : α} : inv s → mover a = .own → mover b = .early →
    step s a = some s₁ → extent s₁ = .growing → step s₁ b = some s₂ →
    ∃ t, step s b = some t ∧ step t a = some s₂
  early_other {s s₁ s₂ : σ} {a b : α} : inv s → mover a = .other → mover b = .early →
    step s a = some s₁ → step s₁ b = some s₂ → ∃ t, step s b = some t ∧ step t a = some s₂

/-- Each kind of action happens as often and in the same order. -/
def SameOrders (mover : α → Mover) (as bs : List α) : Prop :=
  ∀ k, as.filter (mover · = k) = bs.filter (mover · = k)

namespace SameOrders

variable {mover : α → Mover} {as bs cs : List α}

theorem refl (as : List α) : SameOrders mover as as := fun _ => rfl

theorem trans (h : SameOrders mover as bs) (h' : SameOrders mover bs cs) :
    SameOrders mover as cs := fun k => (h k).trans (h' k)

theorem append (h : SameOrders mover as bs) (cs : List α) :
    SameOrders mover (as ++ cs) (bs ++ cs) := fun k => by
  rw [List.filter_append, List.filter_append, h k]

theorem append_left (cs : List α) (h : SameOrders mover as bs) :
    SameOrders mover (cs ++ as) (cs ++ bs) := fun k => by
  rw [List.filter_append, List.filter_append, h k]

/-- An action can be taken before others that are not of its kind. -/
theorem move {a : α} (h : ∀ b ∈ bs, mover b ≠ mover a) :
    SameOrders mover (a :: bs) (bs ++ [a]) := by
  intro k
  rw [List.filter_append]
  by_cases hk : mover a = k
  · have hnone : bs.filter (mover · = k) = [] := by
      apply List.filter_eq_nil_iff.mpr
      intro b hb
      simpa [← hk] using h b hb
    simp [hk, hnone]
  · simp [hk]

end SameOrders

/-- An action that does not interrupt a transaction. -/
def Uninterrupted (mover : α → Mover) (extent : σ → Extent) (s : σ) (a : α) : Prop :=
  extent s ≠ .between → mover a = .own

namespace Movers

variable {step : σ → α → Option σ} {inv : σ → Prop} {mover : α → Mover} {extent : σ → Extent}
  {s s₀ s' m m' : σ} {a : α} {as bs late : List α}

theorem path_inv (h : Movers step inv mover extent) {ok : σ → α → Prop} (hs : inv s)
    (hpath : Path step ok s as s') : inv s' := by
  induction hpath with
  | refl => exact hs
  | tail _ _ hstep ih => exact h.preserved ih hstep

theorem run_extent (h : Movers step inv mover extent) (hm : inv m)
    (hlate : ∀ b ∈ late, mover b ≠ .own) (hrun : run step m late = some s) :
    extent s = extent m := by
  induction late generalizing m with
  | nil =>
    cases hrun
    rfl
  | cons b late ih =>
    obtain ⟨m₁, hfirst, hrest⟩ := Option.bind_eq_some_iff.mp hrun
    have hlast : extent s = extent m₁ := ih (h.preserved hm hfirst)
      (fun b' hb' => hlate b' (List.mem_cons_of_mem _ hb')) hrest
    exact hlast.trans (h.extent_eq hm (hlate b List.mem_cons_self) hfirst)

/-- The thread's next action is taken before the late actions of the others. -/
theorem left_run (h : Movers step inv mover extent) (hm : inv m) (hextent : extent m ≠ .between)
    (hown : mover a = .own) (hlate : ∀ b ∈ late, mover b ≠ .own)
    (hother : extent m = .growing → ∀ b ∈ late, mover b = .other)
    (hrun : run step m late = some s) (hstep : step s a = some s') :
    ∃ m', step m a = some m' ∧ run step m' late = some s' := by
  induction late generalizing m with
  | nil =>
    cases hrun
    exact ⟨s', hstep, rfl⟩
  | cons b late ih =>
    obtain ⟨m₁, hfirst, hrest⟩ := Option.bind_eq_some_iff.mp hrun
    have hb : mover b ≠ .own := hlate b List.mem_cons_self
    have hsame : extent m₁ = extent m := h.extent_eq hm hb hfirst
    obtain ⟨m₂, hown', hrest'⟩ := ih (h.preserved hm hfirst) (by rw [hsame]; exact hextent)
      (fun b' hb' => hlate b' (List.mem_cons_of_mem _ hb'))
      (fun hgrowing b' hb' => hother (hsame ▸ hgrowing) b' (List.mem_cons_of_mem _ hb')) hrest
    obtain ⟨t, ht, hb'⟩ := h.left hm hextent hown hb
      (fun hgrowing => hother hgrowing b List.mem_cons_self) hfirst hown'
    exact ⟨t, ht, Option.bind_eq_some_iff.mpr ⟨m₂, hb', hrest'⟩⟩

/-- An early action is taken before the late actions of the others. -/
theorem early_run (h : Movers step inv mover extent) (hm : inv m) (hearly : mover a = .early)
    (hother : ∀ b ∈ late, mover b = .other) (hrun : run step m late = some s)
    (hstep : step s a = some s') :
    ∃ m', step m a = some m' ∧ run step m' late = some s' := by
  induction late generalizing m with
  | nil =>
    cases hrun
    exact ⟨s', hstep, rfl⟩
  | cons b late ih =>
    obtain ⟨m₁, hfirst, hrest⟩ := Option.bind_eq_some_iff.mp hrun
    obtain ⟨m₂, hearly', hrest'⟩ := ih (h.preserved hm hfirst)
      (fun b' hb' => hother b' (List.mem_cons_of_mem _ hb')) hrest
    obtain ⟨t, ht, hb⟩ := h.early_other hm (hother b List.mem_cons_self) hearly hfirst hearly'
    exact ⟨t, ht, Option.bind_eq_some_iff.mpr ⟨m₂, hb, hrest'⟩⟩

/-- An early action is taken before the transaction that is growing. -/
theorem early_path (h : Movers step inv mover extent) (hs₀ : inv s₀)
    (hbetween : extent s₀ = .between) (hearly : mover a = .early)
    (hpath : Path step (Uninterrupted mover extent) s₀ as m) (hgrowing : extent m = .growing)
    (hstep : step m a = some m') :
    ∃ bs, Path step (Uninterrupted mover extent) s₀ bs m' ∧ SameOrders mover bs (as ++ [a]) := by
  induction hpath generalizing m' with
  | refl =>
    rw [hbetween] at hgrowing
    cases hgrowing
  | @tail as s m b hpath hok hb ih =>
    have hs : inv s := h.path_inv hs₀ hpath
    by_cases hown : mover b = .own
    · obtain ⟨t, ht, hb'⟩ := h.early_own hs hown hearly hb hgrowing hstep
      have hafter : SameOrders mover (as ++ [a] ++ [b]) (as ++ [b] ++ [a]) := by
        rw [List.append_assoc, List.append_assoc]
        apply SameOrders.append_left as
        apply SameOrders.move
        rw [hearly]
        simp [hown]
      cases hextent : extent s with
      | between =>
        have hmoved : Uninterrupted mover extent s a := fun hinside => absurd hextent hinside
        exact ⟨as ++ [a] ++ [b], (hpath.tail hmoved ht).tail (fun _ => hown) hb', hafter⟩
      | growing =>
        obtain ⟨bs, hbs, hsame⟩ := ih hextent ht
        exact ⟨bs ++ [b], hbs.tail (fun _ => hown) hb', (hsame.append [b]).trans hafter⟩
      | shrinking => exact absurd hgrowing (h.shrinks hs hextent hb)
    · have hsame : extent m = extent s := h.extent_eq hs hown hb
      have hinside : extent s ≠ .between := by
        rw [← hsame, hgrowing]
        decide
      exact absurd (hok hinside) hown

/-- Between two transactions the late actions interrupt nothing. -/
theorem between_path (h : Movers step inv mover extent) (hm : inv m)
    (hbetween : extent m = .between) (hlate : ∀ b ∈ late, mover b ≠ .own)
    (hpath : Path step (Uninterrupted mover extent) s₀ as m) (hrun : run step m late = some s) :
    Path step (Uninterrupted mover extent) s₀ (as ++ late) s := by
  induction late generalizing m as with
  | nil =>
    cases hrun
    rw [List.append_nil]
    exact hpath
  | cons b late ih =>
    obtain ⟨m₁, hfirst, hrest⟩ := Option.bind_eq_some_iff.mp hrun
    have hsame : extent m₁ = extent m := h.extent_eq hm (hlate b List.mem_cons_self) hfirst
    have hnext := ih (h.preserved hm hfirst) (hsame.trans hbetween)
      (fun b' hb' => hlate b' (List.mem_cons_of_mem _ hb'))
      (hpath.tail (fun hinside => absurd hbetween hinside) hfirst) hrest
    rwa [List.append_assoc] at hnext

/-- What a run amounts to: transactions without interruption, and late actions while one is open. -/
structure Gathered (step : σ → α → Option σ) (mover : α → Mover) (extent : σ → Extent) (s₀ : σ)
    (as : List α) (s : σ) (serial : List α) (m : σ) (late : List α) : Prop where
  path : Path step (Uninterrupted mover extent) s₀ serial m
  run : Transition.run step m late = some s
  not_own : ∀ b ∈ late, mover b ≠ .own
  other : extent m = .growing → ∀ b ∈ late, mover b = .other
  between : extent m = .between → late = []
  orders : SameOrders mover (serial ++ late) as

theorem Gathered.next (h : Movers step inv mover extent) (hs₀ : inv s₀)
    (hbetween : extent s₀ = .between) {serial : List α}
    (hgathered : Gathered step mover extent s₀ as s serial m late) (hstep : step s a = some s') :
    ∃ serial m late, Gathered step mover extent s₀ (as ++ [a]) s' serial m late := by
  obtain ⟨hpath, hrun, hnot, hother, hclosed, horders⟩ := hgathered
  have hm : inv m := h.path_inv hs₀ hpath
  have hafter : SameOrders mover (serial ++ (late ++ [a])) (as ++ [a]) := by
    rw [← List.append_assoc]
    exact horders.append [a]
  by_cases hopen : extent m = .between
  · cases hclosed hopen
    cases hrun
    refine ⟨serial ++ [a], s', [], hpath.tail (fun hinside => absurd hopen hinside) hstep, rfl,
      List.forall_mem_nil _, fun _ => List.forall_mem_nil _, fun _ => rfl, ?_⟩
    rw [List.append_nil]
    exact hafter
  by_cases hown : mover a = .own
  · obtain ⟨m', hstep', hrun'⟩ := h.left_run hm hopen hown hnot hother hrun hstep
    have hpath' : Path step (Uninterrupted mover extent) s₀ (serial ++ [a]) m' :=
      hpath.tail (fun _ => hown) hstep'
    have horders' : SameOrders mover (serial ++ [a] ++ late) (as ++ [a]) := by
      refine SameOrders.trans ?_ hafter
      rw [List.append_assoc]
      apply SameOrders.append_left serial
      apply SameOrders.move
      rw [hown]
      exact hnot
    by_cases hover : extent m' = .between
    · have hserial := h.between_path (h.preserved hm hstep') hover hnot hpath' hrun'
      refine ⟨serial ++ [a] ++ late, s', [], hserial, rfl, List.forall_mem_nil _,
        fun _ => List.forall_mem_nil _, fun _ => rfl, ?_⟩
      rw [List.append_nil]
      exact horders'
    · refine ⟨serial ++ [a], m', late, hpath', hrun', hnot, fun hgrowing => ?_,
        fun hclosed' => absurd hclosed' hover, horders'⟩
      cases hextent : extent m with
      | between => exact absurd hextent hopen
      | growing => exact hother hextent
      | shrinking => exact absurd hgrowing (h.shrinks hm hextent hstep')
  by_cases hwaits : extent m = .growing ∧ mover a = .early
  · obtain ⟨hgrowing, hearly⟩ := hwaits
    obtain ⟨m', hstep', hrun'⟩ := h.early_run hm hearly (hother hgrowing) hrun hstep
    obtain ⟨serial', hserial, hsame⟩ := h.early_path hs₀ hbetween hearly hpath hgrowing hstep'
    have hextent : extent m' = extent m := h.extent_eq hm hown hstep'
    refine ⟨serial', m', late, hserial, hrun', hnot, fun _ => hother hgrowing,
      fun hclosed' => absurd (hextent.symm.trans hclosed') hopen, ?_⟩
    refine (hsame.append late).trans (SameOrders.trans ?_ hafter)
    rw [List.append_assoc]
    apply SameOrders.append_left serial
    apply SameOrders.move
    intro b hb
    rw [hother hgrowing b hb, hearly]
    decide
  · refine ⟨serial, m, late ++ [a], hpath, run_concat hrun hstep, ?_, fun hgrowing => ?_,
      fun hclosed' => absurd hclosed' hopen, hafter⟩
    · intro b hb
      rcases List.mem_append.mp hb with hb | hb
      · exact hnot b hb
      · rwa [List.mem_singleton.mp hb]
    · intro b hb
      rcases List.mem_append.mp hb with hb | hb
      · exact hother hgrowing b hb
      · rw [List.mem_singleton.mp hb]
        cases hkind : mover a with
        | own => exact absurd hkind hown
        | early => exact absurd ⟨hgrowing, hkind⟩ hwaits
        | other => rfl

/-- Every run between transactions has the outcome of one in which no transaction is interrupted,
with each kind of action in the same order. -/
theorem serialize (h : Movers step inv mover extent) (hs₀ : inv s₀)
    (hbetween : extent s₀ = .between) (hrun : run step s₀ as = some s)
    (hover : extent s = .between) :
    ∃ serial, Path step (Uninterrupted mover extent) s₀ serial s ∧
      SameOrders mover serial as := by
  have hpath : Path step (fun _ _ => True) s₀ as s := .of_run (fun _ _ => trivial) hrun
  have hgathered : ∃ serial m late, Gathered step mover extent s₀ as s serial m late := by
    clear hrun hover
    induction hpath with
    | refl =>
      exact ⟨[], s₀, [], .refl, rfl, List.forall_mem_nil _, fun _ => List.forall_mem_nil _,
        fun _ => rfl, .refl []⟩
    | tail _ _ hstep ih =>
      obtain ⟨serial, m, late, hgathered⟩ := ih
      exact hgathered.next h hs₀ hbetween hstep
  obtain ⟨serial, m, late, hpath, hlate, hnot, hother, hclosed, horders⟩ := hgathered
  have hm : inv m := h.path_inv hs₀ hpath
  have hextent : extent m = .between := (h.run_extent hm hnot hlate).symm.trans hover
  cases hclosed hextent
  cases hlate
  rw [List.append_nil] at horders
  exact ⟨serial, hpath, horders⟩

end Movers

end Transition
