import RtsynEngine.Lib.Potential
import RtsynEngine.Proof.Stopping

/-! The end of an engine whose stop is requested: every step of its threads and of the controller's
call uses up a potential, and while anything is left to do a step can be taken.  So the threads
return and the calls of `join` and `destroy` end, whatever the interleaving. -/

namespace RtsynEngine

open Handle Transition

variable {D : Deps} {L : Limits}

/-- A step of the engine's threads or of the controller's call. -/
def Act.works : Act L → Bool
  | .step (.controller _) | .step (.rt _) | .step (.wait _ _) => true
  | _ => false

/-- The controller takes up a call. -/
def Act.calls : Act L → Bool
  | .step (.call _) => true
  | _ => false

/-! ### The potential -/

/-- The steps left to a loop whose stop is requested, with its budget of commands. -/
def RtState.rank (budget : Nat) : RtState L → Nat
  | .returned => 0
  | .test _ => 1
  | .enter | .measure _ _ _ _ => 2
  | .sleep _ _ _ _ => 3
  | .finish _ _ => 4
  | .step _ _ => 5
  | .pauseTest _ _ => 6
  | .drain _ _ i => 7 + 2 * (budget - i)
  | .dispatch _ _ i _ => 8 + 2 * (budget - (i + 1))
  | .cycleBegin _ => 8 + 2 * budget

def WaitState.rank : WaitState → Nat
  | .join => 4
  | .storeRtJoined => 3
  | .storeRunning => 2
  | .returning => 1
  | .returned => 0

/-- The steps left to `start` once it has taken the request to stop back, with those of the threads
that it may still launch. -/
def StartState.rank : StartState → Nat
  | .loadRunning => 1
  | .storeStopRequested => 0
  | .storePaused => 14
  | .storeRtJoined => 13
  | .storeWaitJoined => 12
  | .storeRunning => 11
  | .storeStarted => 10
  | .runRt => 9
  | .rtFailedStarted => 2
  | .rtFailedRunning => 1
  | .runWait => 6
  | .waitFailedStop => 5
  | .waitFailedJoin => 4
  | .waitFailedRtJoined => 3
  | .waitFailedStarted => 2
  | .waitFailedRunning => 1

def JoinState.rank : JoinState → Nat
  | .loadStarted => 5
  | .loadWaitJoined => 4
  | .joinWait => 3
  | .storeWaitJoined => 2
  | .storeStarted => 1

def Controller.rank : Controller → Nat
  | .idle | .destroyed => 0
  | .start pc => pc.rank
  | .requestStop | .destroyFree => 1
  | .join pc => pc.rank
  | .destroyStop => 9
  | .destroyLoadStarted => 8
  | .destroyLoadWaitJoined => 7
  | .destroyJoin pc => pc.rank + 1

namespace System

/-- The steps left to an engine whose stop is requested. -/
def potential (s : System D) : Nat :=
  weight (RtState.rank s.budget) s.rtThreads + weight WaitState.rank s.waitThreads +
    s.controller.rank

/-- What a call of the controller adds to the potential. -/
def grant (a : Act D.limits) : Nat := if a.calls then 9 else 0

variable {s s' : System D}

/-- A step of the loop that does not begin a cycle uses up one of the steps left to it. -/
theorem rtThreadStep_rank {w w' : World D} {state state' : RtState D.limits}
    (h : w.rtThreadStep state = some (state', w'))
    (hstop : ∀ deadline, state = .test deadline → w.engine.flags.stopRequested = true) :
    state'.rank w.engine.config.maxCommandsPerCycle.toNat + 1 ≤
      state.rank w.engine.config.maxCommandsPerCycle.toNat := by
  cases World.rtThreadStep_cases h with
  | again nextDeadlineNs hrunning =>
    rw [hstop _ rfl] at hrunning
    cases hrunning
  | pop nextDeadlineNs startedAtNs i message commands hi hcommands =>
    simp only [RtState.rank]
    omega
  | _ => simp only [RtState.rank]; omega

theorem startMove_potential {outcome : Bool} {pc : StartState} (hc : s.controller = .start pc)
    (hholds : pc ≠ .storeStopRequested) (hmove : StartMove s outcome pc s')
    (hbudget : s'.budget = s.budget) : s'.potential + 1 ≤ s.potential := by
  unfold potential
  rw [hc, hbudget]
  cases hmove with
  | storeStopRequested => exact absurd rfl hholds
  | launchRt =>
    simp only [goto, weight_cons, RtState.rank, Controller.rank, StartState.rank]
    omega
  | launchWait =>
    simp only [ret, weight_cons, WaitState.rank, Controller.rank, StartState.rank]
    omega
  | waitFailedJoin hjoin =>
    simp only [goto, weight_threadJoin _ hjoin, Controller.rank, StartState.rank]
    omega
  | _ => simp only [goto, ret, setFlags, Controller.rank, StartState.rank]; omega

theorem joinMove_potential {pc : JoinState → Controller} {ret : System D → Bool → System D}
    {j : JoinState} (last : Nat) (hc : s.controller = pc j) (hpc : ∀ j, (pc j).rank = j.rank + last)
    (hret : ∀ (s : System D) result, ∃ c log, c.rank = last ∧
      ret s result = { s with controller := c, log })
    (hmove : JoinMove s pc ret j s') (hbudget : s'.budget = s.budget) :
    s'.potential + 1 ≤ s.potential := by
  have hreturns : ∀ (t : System D) result, weight (RtState.rank s.budget) (ret t result).rtThreads =
      weight (RtState.rank s.budget) t.rtThreads ∧
      weight WaitState.rank (ret t result).waitThreads = weight WaitState.rank t.waitThreads ∧
      (ret t result).controller.rank = last := by
    intro t result
    obtain ⟨c, log, hrank, heq⟩ := hret t result
    rw [heq]
    exact ⟨rfl, rfl, hrank⟩
  unfold potential
  rw [hc, hbudget, hpc]
  cases hmove with
  | started | unjoined => simp only [goto, hpc, JoinState.rank]; omega
  | unstarted =>
    obtain ⟨hrt, hwait, hrank⟩ := hreturns s false
    rw [hrt, hwait, hrank]
    simp only [JoinState.rank]
    omega
  | alreadyJoined =>
    obtain ⟨hrt, hwait, hrank⟩ := hreturns s true
    rw [hrt, hwait, hrank]
    simp only [JoinState.rank]
    omega
  | joins hjoin => simp only [goto, weight_threadJoin _ hjoin, hpc, JoinState.rank]; omega
  | @fails outcome waitThreads hjoin =>
    obtain ⟨hrt, hwait, hrank⟩ := hreturns { s with waitThreads } false
    rw [hrt, hwait, hrank]
    simp only [weight_threadJoin _ hjoin, JoinState.rank]
    omega
  | storeWaitJoined => simp only [goto, setFlags, hpc, JoinState.rank]; omega
  | storeStarted =>
    obtain ⟨hrt, hwait, hrank⟩ := hreturns (s.setFlags { s.flags with started := false }) true
    rw [hrt, hwait, hrank]
    simp only [setFlags, JoinState.rank]
    omega

theorem controllerMove_potential {outcome : Bool}
    (hholds : s.Holds (.step (.controller outcome))) (hmove : ControllerMove s outcome s')
    (hbudget : s'.budget = s.budget) : s'.potential + 1 ≤ s.potential := by
  cases hmove with
  | start pc hc hmove =>
    have hpc : pc ≠ .storeStopRequested := by
      rintro rfl
      exact hholds ⟨hc, outcome, rfl⟩
    exact startMove_potential hc hpc hmove hbudget
  | join pc hc hmove =>
    exact joinMove_potential 0 hc (fun _ => rfl) (fun _ _ => ⟨.idle, _, rfl, rfl⟩) hmove
      hbudget
  | destroyJoin pc hc hmove =>
    exact joinMove_potential 1 hc (fun _ => rfl) (fun s _ => ⟨.destroyFree, s.log, rfl, rfl⟩)
      hmove hbudget
  | requestStop hc | destroyStop hc | destroyStarted hc | destroyUnstarted hc | destroyJoined hc
  | destroyUnjoined hc | destroyFree hc =>
    unfold potential
    rw [hc, hbudget]
    simp only [goto, ret, setFlags, Controller.rank, JoinState.rank]
    omega

theorem waitStep_potential {i : Nat} {outcome : Bool}
    (hstep : s.step (.wait i outcome) = some s') (hbudget : s'.budget = s.budget) :
    s'.potential + 1 ≤ s.potential := by
  obtain ⟨⟨wait, joins⟩, state, s₁, hi, hmove, rfl⟩ := wait_step hstep
  unfold potential
  rw [hbudget]
  have hset := weight_set WaitState.rank hi state
  cases hmove with
  | join hjoin =>
    simp only [weight_threadJoin _ hjoin, WaitState.rank] at hset ⊢
    omega
  | _ => simp only [setFlags, WaitState.rank] at hset ⊢; omega

/-- The states of an engine whose stop is requested. -/
def Stopping (s : System D) : Prop := s.Covered ∧ s.flags.stopRequested = true

/-- Every step of the engine's threads and of the controller's call uses up potential until the next
`start` takes the request back. -/
theorem amortised : Amortised (act (D := D)) Holds Stopping potential Act.works grant where
  inv hs hok hstep := ⟨hs.1.act hstep, WindsDown.stays_of_act hs.1 hs.2 hok hstep⟩
  pays {s s' a} hs hok hstep := by
    have hbudget : s'.budget = s.budget := (act_effect hs.1 hstep).share.budget
    cases a with
    | requestStop =>
      cases hstep
      simp [Act.works, grant, Act.calls, potential, budget, setFlags, World.setFlags]
    | step a =>
      cases a with
      | call call =>
        obtain ⟨hidle, rfl⟩ := call_step hstep
        unfold potential
        rw [hidle, hbudget]
        cases call <;> simp [Act.works, grant, Act.calls, callState, goto, Controller.rank,
          StartState.rank, JoinState.rank]
      | controller outcome =>
        have hrank := controllerMove_potential hok (controllerStep_cases hstep) hbudget
        simp only [Act.works, grant, Act.calls, Bool.toNat_true]
        omega
      | rt i =>
        obtain ⟨t, state, world, hi, hthread, rfl⟩ := rt_step hstep
        have hrank := rtThreadStep_rank hthread fun _ _ => hs.2
        have hset := weight_set (RtState.rank s.budget) hi state
        unfold potential
        rw [hbudget]
        simp only [budget, Act.works, grant, Act.calls, Bool.toNat_true] at hrank hset ⊢
        omega
      | wait i outcome =>
        have hrank := waitStep_potential hstep hbudget
        simp only [Act.works, grant, Act.calls, Bool.toNat_true]
        omega
      | pushCommand m =>
        cases hstep
        simp [Act.works, grant, Act.calls, potential, budget]

theorem potential_le (h : s.Covered) :
    s.potential ≤ 2 * s.budget + s.waitThreads.length + 26 := by
  have hrt : weight (RtState.rank s.budget) s.rtThreads ≤ 2 * s.budget + 8 := by
    have hle := h.rt.weight_le (RtState.rank s.budget) 0 (2 * s.budget + 8)
      (by rintro _ rfl; simp [RtState.rank])
      (by intro state; cases state <;> simp only [RtState.rank] <;> omega)
    omega
  have hwait : weight WaitState.rank s.waitThreads ≤ s.waitThreads.length + 4 := by
    have hle := h.wait.weight_le WaitState.rank 1 4
      (by rintro _ (rfl | rfl) <;> simp [WaitState.rank])
      (by intro state; cases state <;> simp [WaitState.rank])
    omega
  have hcontroller : s.controller.rank ≤ 14 := by
    cases s.controller with
    | start pc => cases pc <;> simp [Controller.rank, StartState.rank]
    | join pc => cases pc <;> simp [Controller.rank, JoinState.rank]
    | destroyJoin pc => cases pc <;> simp [Controller.rank, JoinState.rank]
    | _ => simp [Controller.rank]
  unfold potential
  omega

/-! ### Progress -/

/-- All threads have returned, and the controller is in no call but a `start` that is about to take
the request to stop back. -/
structure AtRest (s : System D) : Prop where
  rt : ∀ t ∈ s.rtThreads, t.state = .returned
  wait : ∀ t ∈ s.waitThreads, t.state = .returned
  controller : s.controller = .idle ∨ s.controller = .destroyed ∨
    s.controller = .start .storeStopRequested

/-- An RT thread that has not returned can take a step. -/
theorem rt_enabled {t : Thread (RtState D.limits)} (ht : t ∈ s.rtThreads)
    (hlive : t.state ≠ .returned) : ∃ i s', s.step (.rt i) = some s' := by
  obtain ⟨i, hi, rfl⟩ := List.getElem_of_mem ht
  have hthread := s.world.rtThreadStep_isSome hlive
  refine ⟨i, Option.isSome_iff_exists.mp ?_⟩
  simpa [step, List.getElem?_eq_getElem hi] using hthread

/-- A wait thread that has not returned can take a step once the RT threads have. -/
theorem wait_enabled (hrt : ∀ t ∈ s.rtThreads, t.state = .returned) {t : Thread WaitState}
    (ht : t ∈ s.waitThreads) (hlive : t.state ≠ .returned) :
    ∃ i s', s.step (.wait i true) = some s' := by
  obtain ⟨i, hi, rfl⟩ := List.getElem_of_mem ht
  have hstep : (s.waitStep true s.waitThreads[i].state).isSome = true := by
    cases hstate : s.waitThreads[i].state with
    | join => simpa [waitStep] using threadJoin_isSome hrt true
    | returned => exact absurd hstate hlive
    | _ => rfl
  refine ⟨i, Option.isSome_iff_exists.mp ?_⟩
  simpa [step, List.getElem?_eq_getElem hi] using hstep

theorem joinStep_isSome {pc : JoinState → Controller} {ret : System D → Bool → System D}
    (hwait : ∀ t ∈ s.waitThreads, t.state = .returned) (j : JoinState) :
    (s.joinStep true pc ret j).isSome = true := by
  cases j with
  | loadStarted | loadWaitJoined =>
    dsimp only [joinStep]
    split <;> rfl
  | joinWait => simpa [joinStep] using threadJoin_isSome hwait true
  | _ => rfl

/-- A call goes on once the threads have returned. -/
theorem controller_enabled (hrt : ∀ t ∈ s.rtThreads, t.state = .returned)
    (hwait : ∀ t ∈ s.waitThreads, t.state = .returned) (hidle : s.controller ≠ .idle)
    (hdestroyed : s.controller ≠ .destroyed) :
    ∃ s', s.step (.controller true) = some s' := by
  refine Option.isSome_iff_exists.mp ?_
  show (s.controllerStep true).isSome = true
  unfold controllerStep
  split
  · next hc => exact absurd hc hidle
  · next pc _ =>
    cases pc with
    | loadRunning =>
      dsimp only [startStep]
      split <;> rfl
    | waitFailedJoin => simpa [startStep] using threadJoin_isSome hrt true
    | _ => rfl
  · rfl
  · exact joinStep_isSome hwait _
  · rfl
  · split <;> rfl
  · split <;> rfl
  · exact joinStep_isSome hwait _
  · rfl
  · next hc => exact absurd hc hdestroyed

/-- Where something is left to do, a thread or the controller's call can take a step. -/
theorem working (h : ¬s.AtRest) :
    ∃ (a : Act D.limits) (s' : System D), a.works = true ∧ s.Holds a ∧ s.act a = some s' := by
  by_cases hrt : ∀ t ∈ s.rtThreads, t.state = .returned
  · by_cases hwait : ∀ t ∈ s.waitThreads, t.state = .returned
    · have hcontroller : ¬(s.controller = .idle ∨ s.controller = .destroyed ∨
          s.controller = .start .storeStopRequested) := fun hc => h ⟨hrt, hwait, hc⟩
      simp only [not_or] at hcontroller
      obtain ⟨hidle, hdestroyed, hreset⟩ := hcontroller
      obtain ⟨s', hstep⟩ := controller_enabled hrt hwait hidle hdestroyed
      exact ⟨.step (.controller true), s', rfl, fun hrestarts => hreset hrestarts.1, hstep⟩
    · push Not at hwait
      obtain ⟨t, ht, hlive⟩ := hwait
      obtain ⟨i, s', hstep⟩ := wait_enabled hrt ht hlive
      refine ⟨.step (.wait i true), s', rfl, ?_, hstep⟩
      rintro ⟨-, outcome, heq⟩
      cases heq
  · push Not at hrt
    obtain ⟨t, ht, hlive⟩ := hrt
    obtain ⟨i, s', hstep⟩ := rt_enabled ht hlive
    refine ⟨.step (.rt i), s', rfl, ?_, hstep⟩
    rintro ⟨-, outcome, heq⟩
    cases heq

end System

/-- Once the stop is requested, and until the next `start` takes the request back, the engine's
threads and the controller's calls take a bounded number of steps in any interleaving; they are
never stuck before all threads have returned and all calls have ended, and some further steps of
theirs lead there. -/
theorem stop_winds_down {s s' : System D} (h : s.SharedReachable)
    (hstop : s.flags.stopRequested = true) {as : List (Act D.limits)}
    (hpath : Path System.act System.Holds s as s') :
    as.countP Act.works ≤
        2 * s.budget + s.waitThreads.length + 26 + 9 * as.countP Act.calls ∧
      (s'.AtRest ∨ ∃ a s'', a.works = true ∧ s'.Holds a ∧ s'.act a = some s'') ∧
      ∃ bs s'', Path System.act System.Holds s' bs s'' ∧ s''.AtRest ∧
        ∀ b ∈ bs, b.works = true := by
  obtain ⟨hstopping, hbound⟩ := System.amortised.path ⟨h.covered, hstop⟩ hpath
  have hpotential := System.potential_le h.covered
  have hgrants : (as.map System.grant).sum = 9 * as.countP Act.calls := by
    clear hpath hbound
    induction as with
    | nil => rfl
    | cons a as ih =>
      rw [List.map_cons, List.sum_cons, ih]
      cases hcalls : a.calls with
      | false => simp [System.grant, hcalls]
      | true =>
        simp only [System.grant, hcalls, if_true, List.countP_cons_of_pos]
        omega
  refine ⟨by omega, ?_, ?_⟩
  · by_cases hrest : s'.AtRest
    · exact .inl hrest
    · exact .inr (System.working hrest)
  · refine System.amortised.exhausts (fun t _ hrest => ?_) hstopping
    obtain ⟨a, t', ha, hholds, hstep⟩ := System.working hrest
    refine ⟨a, t', ha, ?_, hholds, hstep⟩
    cases a with
    | requestStop => cases ha
    | step a => cases a <;> first | rfl | cases ha

namespace Reference

/-- The started engine, with its stop requested, in a call of `join`. -/
def stoppedJoining : System deps :=
  (Transition.run System.act started
    [.requestStop, .step (.call .join), .step (.controller true)]).get (by decide)

end Reference

theorem stop_winds_down_reference :
    (∃ bs s'', Path System.act System.Holds Reference.stoppedJoining bs s'' ∧ s''.AtRest) ∧
      ¬Reference.stoppedJoining.AtRest := by
  have hcreated : Reference.created.SharedReachable := .start ⟨rfl, rfl, rfl, rfl, rfl⟩
  have hstarted : Transition.run System.act Reference.created
      (.step (.call .start) :: List.replicate 9 (.step (.controller true)) ++
        [.step (.rt 0)]) = some Reference.started := rfl
  have hjoining : Reference.stoppedJoining.SharedReachable :=
    (hcreated.run hstarted).run (Option.some_get _).symm
  obtain ⟨-, -, bs, s'', hpath, hrest, -⟩ := stop_winds_down hjoining rfl .refl
  refine ⟨⟨bs, s'', hpath, hrest⟩, fun h => ?_⟩
  exact absurd h.controller (by decide)

end RtsynEngine
