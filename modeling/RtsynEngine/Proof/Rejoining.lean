import RtsynEngine.Proof.Joining

/-! What `rtsyn_engine_join` reports of the last start.  A history variable names the threads that
the last successful `start` launched and remembers whether they were over when `join` was called;
`join` tells a last start that is over from one that is not exactly when they were not. -/

namespace RtsynEngine

open Handle Transition

variable {D : Deps}

/-- What has happened in a run: how many threads had been launched on the RT handle and on the wait
handle before those of the last successful `start`, and whether these were over when `join` was
last called. -/
structure JoinHistory where
  last : Option (Nat × Nat)
  overBefore : Bool

/-- What the flags have told `join` at a place, where `wasOver` says that the last successful start
was over at the call and `joined` that its wait thread is joined. -/
def JoinState.told (wasOver : Bool) (joined : Prop) : JoinState → Prop
  | .loadStarted | .loadWaitJoined | .joinWait => wasOver = true ↔ joined
  | .storeWaitJoined | .storeStarted => wasOver = false ∧ joined

theorem JoinState.told_congr {wasOver : Bool} {joined joined' : Prop} (h : joined' ↔ joined)
    (j : JoinState) : j.told wasOver joined' ↔ j.told wasOver joined := by
  rw [propext h]

namespace System

/-- Some start has succeeded, and the threads of the most recent one have returned and been
joined. -/
def lastStartOver (s : System D) (last : Option (Nat × Nat)) : Bool :=
  match last with
  | none => false
  | some (rt, wait) =>
    threadOver .returned s.rtThreads rt && threadOver .returned s.waitThreads wait

/-- The history after a step from `s`. -/
def recordJoins (s : System D) (a : Step D.limits) (h : JoinHistory) : JoinHistory :=
  match a with
  | .call .join => { h with overBefore := s.lastStartOver h.last }
  | .controller true =>
    if s.controller = .start .runWait then
      { h with last := some (s.rtThreads.length - 1, s.waitThreads.length) }
    else h
  | _ => h

/-- The runs of a created engine. -/
def ReachableJoins : System D × JoinHistory → Prop :=
  Transition.Reachable (fun s => s.1.Initial ∧ s.2 = ⟨none, false⟩) (recording step recordJoins)

/-- A call of `join` returns `r` by the step from `s` to `s'`. -/
def JoinReturns (s s' : System D) (r : Bool) : Prop :=
  (∃ pc, s.controller = .join pc) ∧ s'.log = .join r :: s.log

/-- The last successful start launched the newest wait thread, and no later RT thread than the
newest. -/
def Numbered (s : System D) : Option (Nat × Nat) → Prop
  | none => s.waitThreads = []
  | some (rt, wait) => rt < s.rtThreads.length ∧ s.waitThreads.length = wait + 1

/-- The invariant of the runs with their history. -/
structure Rejoining (s : System D) (h : JoinHistory) : Prop where
  covered : s.Covered
  owing : s.Owing
  numbered : s.Numbered h.last
  told : ∀ pc, s.controller = .join pc → pc.told h.overBefore (NewestJoined s.waitThreads)

variable {s s' : System D} {a : Step D.limits} {h : JoinHistory}

/-- Away from a launch, the newest wait thread is joined only after its RT thread. -/
theorem lastStartOver_iff (hcovered : s.Covered) (howing : s.Owing)
    {last : Option (Nat × Nat)} (hnumbered : s.Numbered last)
    (hphase : s.controller.phase ≠ .launched) :
    s.lastStartOver last = true ↔ NewestJoined s.waitThreads := by
  match last, hnumbered with
  | none, hnone =>
    refine iff_of_false Bool.false_ne_true ?_
    rintro ⟨t, rest, hthreads, -⟩
    cases (show s.waitThreads = [] from hnone).symm.trans hthreads
  | some (rt, wait), ⟨hrt, hwait⟩ =>
    dsimp only [lastStartOver]
    rw [Bool.and_eq_true, threadOver_newest hwait hcovered.wait.joined]
    refine and_iff_right_of_imp ?_
    rintro ⟨t, rest, hthreads, hjoins⟩
    have hreturned : headState .returned s.waitThreads = .returned := by
      rw [hthreads]
      exact hcovered.wait.joined t (hthreads ▸ List.mem_cons_self ..) hjoins
    have hnot : ¬s.OwesRt := not_owesRt hphase (.inr hreturned)
    refine threadOver_of_forall hrt fun u hu => ?_
    have hjoined : u.joins ≠ 0 := by
      rw [howing.rt.settled hnot u hu]
      exact Nat.one_ne_zero
    exact ⟨hcovered.rt.joined u hu hjoined, hjoined⟩

/-- What a step of `join` leads to: a place further on, or its return. -/
inductive JoinGoes (s s' : System D) (wasOver : Bool) : Prop
  | on (pc : JoinState) (hcontroller : s'.controller = .join pc) (hlog : s'.log = s.log)
    (htold : pc.told wasOver (NewestJoined s'.waitThreads))
  | returns (r : Bool) (hcontroller : s'.controller = .idle) (hlog : s'.log = .join r :: s.log)
    (hresult : (r = true ↔ NewestJoined s'.waitThreads) ↔ wasOver = false)

theorem joinStep_goes (howing : s.Owing) {pc : JoinState} (hc : s.controller = .join pc)
    {wasOver : Bool} (htold : pc.told wasOver (NewestJoined s.waitThreads))
    (hmove : JoinMove s .join (fun s result => s.ret (.join result)) pc s') :
    s.JoinGoes s' wasOver := by
  have howes : (Controller.join pc).phase = .resting → (Controller.join pc).expects = some true →
      s.OwesWait := fun hresting hexpected =>
    ⟨hc.symm ▸ hresting, howing.expects true (by rw [hc]; exact hexpected)⟩
  cases hmove with
  | started => exact .on .loadWaitJoined rfl rfl htold
  | unstarted =>
    refine .returns false rfl rfl ?_
    rw [show NewestJoined (s.ret (.join false)).waitThreads ↔ wasOver = true from htold.symm]
    cases wasOver <;> simp
  | alreadyJoined hwaitJoined =>
    have hunjoined := howing.unjoined (howes rfl rfl)
    exact absurd (hunjoined.symm.trans hwaitJoined) Bool.false_ne_true
  | unjoined => exact .on .joinWait rfl rfl htold
  | joins hjoin =>
    obtain ⟨-, hnewest, -⟩ := howing.wait.join (howes rfl rfl) hjoin not_false
    have hover : wasOver = false :=
      Bool.eq_false_iff.mpr fun hover => howing.wait.unjoined (howes rfl rfl) (htold.mp hover)
    exact .on .storeWaitJoined rfl rfl ⟨hover, hnewest⟩
  | fails hjoin => cases (howing.wait.join (howes rfl rfl) hjoin not_false).1
  | storeWaitJoined => exact .on .storeStarted rfl rfl htold
  | storeStarted => exact .returns true rfl rfl (iff_of_true (iff_of_true rfl htold.2) htold.1)

/-- A step at which `start` launches its wait thread. -/
theorem launchWait_step (hlaunch : s.LaunchesWait a) (hstep : s.step a = some s') :
    s' = ret { s with waitThreads := ⟨.join, 0⟩ :: s.waitThreads } (.start false true) := by
  obtain ⟨hc, rfl⟩ := hlaunch
  dsimp only [System.step] at hstep
  rw [controllerStep, hc] at hstep
  cases hstep
  rfl

theorem recordJoins_last (hlaunch : ¬s.LaunchesWait a) :
    (s.recordJoins a h).last = h.last := by
  unfold recordJoins
  split
  · rfl
  · split
    · next hc => exact absurd ⟨hc, rfl⟩ hlaunch
    · rfl
  · rfl

theorem recordJoins_overBefore (ha : a ≠ .call .join) :
    (s.recordJoins a h).overBefore = h.overBefore := by
  unfold recordJoins
  split
  · exact absurd rfl ha
  · split <;> rfl
  · rfl

/-- A step of the controller comes to a place in `join` only from one. -/
theorem ne_join_of_controllerStep (hjoin : ∀ pc, s.controller ≠ .join pc) {outcome : Bool}
    (hmove : ControllerMove s outcome s') (j : JoinState) : s'.controller ≠ .join j := by
  cases hmove with
  | start pc hc hmove => cases hmove <;> nofun
  | join pc hc hmove => exact absurd hc (hjoin pc)
  | destroyJoin pc hc hmove => cases hmove <;> nofun
  | _ => nofun

/-- A step is one of the controller, or leaves the controller and the joins of the wait threads. -/
theorem step_cases (hstep : s.step a = some s') :
    (∃ call, a = .call call) ∨ (∃ outcome, a = .controller outcome) ∨
      a ≠ .call .join ∧ s'.controller = s.controller ∧ s'.log = s.log ∧
        s'.waitThreads.map Thread.joins = s.waitThreads.map Thread.joins := by
  cases a with
  | call call => exact .inl ⟨call, rfl⟩
  | controller outcome => exact .inr (.inl ⟨outcome, rfl⟩)
  | rt i =>
    obtain ⟨t, state, world, hi, hthread, rfl⟩ := rt_step hstep
    exact .inr (.inr ⟨nofun, rfl, rfl, rfl⟩)
  | wait i outcome =>
    obtain ⟨⟨wait, joins⟩, state, s₁, hi, hmove, rfl⟩ := wait_step hstep
    refine .inr (.inr ⟨nofun, ?_⟩)
    cases hmove <;> exact ⟨rfl, rfl, joins_set hi _⟩
  | pushCommand message =>
    cases hstep
    exact .inr (.inr ⟨nofun, rfl, rfl, rfl⟩)

namespace Rejoining

theorem numbered_step (hs : s.Rejoining h) (hstep : s.step a = some s') (hmoved : s.Moved a s') :
    s'.Numbered (s.recordJoins a h).last := by
  by_cases hlaunch : s.LaunchesWait a
  · rw [launchWait_step hlaunch hstep]
    obtain ⟨hc, rfl⟩ := hlaunch
    obtain ⟨t, rest, hthreads, -⟩ := hs.owing.rt.owed (.inl (by rw [hc]; rfl))
    dsimp only [recordJoins]
    rw [if_pos hc]
    refine ⟨?_, rfl⟩
    change s.rtThreads.length - 1 < s.rtThreads.length
    rw [hthreads]
    exact Nat.lt_succ_self _
  · rw [recordJoins_last hlaunch]
    have hwait : s'.waitThreads.length = s.waitThreads.length :=
      hmoved.wait.length.resolve_right fun hmore => hlaunch hmore.1
    have hrt := hmoved.rt.length
    have hnumbered := hs.numbered
    match h.last, hnumbered with
    | none, hnone =>
      rw [show s.waitThreads = [] from hnone] at hwait
      exact List.eq_nil_of_length_eq_zero hwait
    | some (rt, wait), ⟨hrt', hwait'⟩ => exact ⟨by omega, hwait.trans hwait'⟩

theorem told_step (hs : s.Rejoining h) (hstep : s.step a = some s') :
    ∀ pc, s'.controller = .join pc →
      pc.told (s.recordJoins a h).overBefore (NewestJoined s'.waitThreads) := by
  intro pc hpc
  rcases step_cases hstep with ⟨call, rfl⟩ | ⟨outcome, rfl⟩ | ⟨ha, hc, -, hjoins⟩
  · obtain ⟨hc, rfl⟩ := call_step hstep
    cases call <;> cases hpc
    exact lastStartOver_iff hs.covered hs.owing hs.numbered (by rw [hc]; nofun)
  · rw [recordJoins_overBefore (by nofun)]
    have hmove := controllerStep_cases hstep
    by_cases hjoin : ∃ pc, s.controller = .join pc
    · obtain ⟨pc₀, hc⟩ := hjoin
      cases joinStep_goes hs.owing hc (hs.told pc₀ hc) (hmove.of_join hc) with
      | on pc' hcontroller _ htold =>
        cases hpc.symm.trans hcontroller
        exact htold
      | returns r hcontroller => cases hpc.symm.trans hcontroller
    · exact absurd hpc (ne_join_of_controllerStep (fun pc hc => hjoin ⟨pc, hc⟩) hmove pc)
  · rw [recordJoins_overBefore ha]
    refine (pc.told_congr ⟨fun h => h.congr hjoins.symm, fun h => h.congr hjoins⟩).mpr ?_
    exact hs.told pc (hc ▸ hpc)

theorem step (hs : s.Rejoining h) (hstep : s.step a = some s') :
    s'.Rejoining (s.recordJoins a h) := by
  have hmoved := hs.owing.moved hs.covered hstep
  exact ⟨hs.covered.step hstep, hmoved.owing hs.owing, hs.numbered_step hstep hmoved,
    hs.told_step hstep⟩

end Rejoining

theorem rejoining_of_reachable {s : System D × JoinHistory} (h : ReachableJoins s) :
    s.1.Rejoining s.2 := by
  refine Transition.Reachable.invariant (P := fun s : System D × JoinHistory => s.1.Rejoining s.2)
    ?_ ?_ h
  · rintro ⟨s, history⟩ ⟨hinitial, rfl⟩
    have howing := (joining_of_initial hinitial).owing
    obtain ⟨-, hcontroller, -, hwait, -⟩ := id hinitial
    refine ⟨covered_of_initial hinitial, howing, hwait, fun pc hc => ?_⟩
    cases hcontroller.symm.trans hc
  · rintro ⟨s, history⟩ a s' hs hstep
    obtain ⟨t, ht, rfl⟩ := Option.map_eq_some_iff.mp hstep
    exact hs.step ht

end System

/-- In every run no thread is joined twice, and a call of `join` returns the right result (true
exactly if some start has succeeded and the threads of the most recent one have returned and been
joined) exactly if they were not over yet when it was called.  A `join` that succeeds leaves
`started` false, and a further one tests it before `wait_joined`. -/
theorem join_reports_last_start_iff {s : System D × JoinHistory} (h : System.ReachableJoins s) :
    (∀ t ∈ s.1.rtThreads, t.joins ≤ 1) ∧ (∀ t ∈ s.1.waitThreads, t.joins ≤ 1) ∧
      ∀ a s' r, recording System.step System.recordJoins s a = some s' →
        s.1.JoinReturns s'.1 r →
        ((r = true ↔ s'.1.lastStartOver s'.2.last = true) ↔ s.2.overBefore = false) := by
  have hs := System.rejoining_of_reachable h
  refine ⟨hs.owing.rt.newest.atMostOnce, hs.owing.wait.atMostOnce, ?_⟩
  rintro a s' r hstep ⟨⟨pc, hc⟩, hlog⟩
  obtain ⟨t, ht, rfl⟩ := Option.map_eq_some_iff.mp hstep
  have hs' := hs.step ht
  have hlonger : t.log ≠ s.1.log := by
    rw [hlog]
    exact List.cons_ne_self _ _
  rcases System.step_cases ht with ⟨call, rfl⟩ | ⟨outcome, rfl⟩ | ⟨-, -, hsame, -⟩
  · cases hc.symm.trans (System.call_step ht).1
  · have hmove := (System.controllerStep_cases ht).of_join hc
    cases System.joinStep_goes hs.owing hc (hs.told pc hc) hmove with
    | on pc' _ hsame => exact absurd hsame hlonger
    | returns r' hcontroller hlog' hresult =>
      cases hlog'.symm.trans hlog
      have hidle : t.controller.phase ≠ .launched := by rw [hcontroller]; nofun
      dsimp only
      rw [System.lastStartOver_iff hs'.covered hs'.owing hs'.numbered hidle]
      exact hresult
  · exact absurd hsame hlonger

namespace Reference

/-- The engine after a launch and its end, with a call of `join` about to return. -/
def joining : System deps × JoinHistory :=
  (Transition.run (recording System.step System.recordJoins) (created, ⟨none, false⟩)
    (launchAndStop ++ .call .join :: List.replicate 4 (.controller true))).get (by decide)

/-- The engine after that call has returned, with another one about to return. -/
def rejoining : System deps × JoinHistory :=
  (Transition.run (recording System.step System.recordJoins) joining
    [.controller true, .call .join]).get (by decide)

theorem reachable_joining : System.ReachableJoins joining := by
  have hcreated : System.ReachableJoins (created, ⟨none, false⟩) :=
    .start ⟨⟨rfl, rfl, rfl, rfl, rfl⟩, rfl⟩
  exact hcreated.run (Option.some_get _).symm

end Reference

/-- The first call of `join` after a launch finds its threads not yet joined, and returns true. -/
theorem join_reports_last_start_reference :
    Reference.joining.2.overBefore = false ∧
      ∃ s', recording System.step System.recordJoins Reference.joining (.controller true) =
        some s' ∧ Reference.joining.1.JoinReturns s'.1 true ∧
        s'.1.lastStartOver s'.2.last = true := by
  let s' := (recording System.step System.recordJoins Reference.joining
    (.controller true)).get (by decide)
  have hstep : recording System.step System.recordJoins Reference.joining (.controller true) =
      some s' := (Option.some_get _).symm
  have hreturns : Reference.joining.1.JoinReturns s'.1 true := ⟨⟨.storeStarted, rfl⟩, rfl⟩
  have hiff := (join_reports_last_start_iff Reference.reachable_joining).2.2 _ s' true hstep
    hreturns
  exact ⟨rfl, s', hstep, hreturns, (hiff.mpr rfl).mp rfl⟩

/-- A second call of `join` returns false, although the threads of the last start have returned
and been joined. -/
theorem rejoin_returns_false :
    ¬∀ s : System Reference.deps × JoinHistory, System.ReachableJoins s → ∀ a s' r,
      recording System.step System.recordJoins s a = some s' → s.1.JoinReturns s'.1 r →
        (r = true ↔ s'.1.lastStartOver s'.2.last = true) := by
  intro h
  let s' := (recording System.step System.recordJoins Reference.rejoining
    (.controller true)).get (by decide)
  have hreachable : System.ReachableJoins Reference.rejoining :=
    Transition.Reachable.run Reference.reachable_joining (Option.some_get _).symm
  have hreturns : Reference.rejoining.1.JoinReturns s'.1 false := ⟨⟨.loadStarted, rfl⟩, rfl⟩
  have hiff := h _ hreachable _ s' false (Option.some_get _).symm hreturns
  exact Bool.false_ne_true (hiff.mpr rfl)

end RtsynEngine
