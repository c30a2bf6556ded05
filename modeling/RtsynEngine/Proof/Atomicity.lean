import RtsynEngine.Lib.Reduction
import RtsynEngine.Proof.Sharing
import RtsynEngine.Proof.Termination
import RtsynEngine.Sequential

/-! The cycles of the RT loop are atomic: whatever the controller, the wait thread, the clients and
other threads do while a cycle goes on, the outcome is that of a run in which each cycle is the body
of `rtsyn_engine_rt_thread_main` without interruption.  What the clients push before the drain is
over counts as pushed before the cycle, and all else that others do as done after it. -/

namespace RtsynEngine

open Handle Transition

variable {D : Deps}

/-! ### A cycle from its middle to its end -/

namespace World

def afterWork (w : World D) (nextDeadlineNs startedAtNs finishedAtNs periodNs : UInt64) :
    UInt64 × World D :=
  if periodNs > 0 then
    let nextDeadlineNs := nextDeadlineNs + periodNs
    let (cycleCompletedAtNs, w) := (w.sleepUntil nextDeadlineNs).getTime
    (nextDeadlineNs,
      (w.measureCycle nextDeadlineNs startedAtNs cycleCompletedAtNs periodNs).nextCycle)
  else
    (nextDeadlineNs, (w.measureCycle nextDeadlineNs startedAtNs finishedAtNs periodNs).nextCycle)

def afterStep (w : World D) (nextDeadlineNs startedAtNs : UInt64) : UInt64 × World D :=
  let (finishedAtNs, w) := w.getTime
  (w.publishCycle startedAtNs finishedAtNs).afterWork nextDeadlineNs startedAtNs finishedAtNs
    (D.periodNs w.runtime)

def afterDrain (w : World D) (nextDeadlineNs startedAtNs : UInt64) : UInt64 × World D :=
  (if w.engine.flags.paused then w else w.runtimeStep).afterStep nextDeadlineNs startedAtNs

/-- The deadline and the world at the end of the cycle that the loop is in. -/
def complete (w : World D) : RtState D.limits → UInt64 × World D
  | .cycleBegin nextDeadlineNs => w.cycle nextDeadlineNs
  | .drain nextDeadlineNs startedAtNs i =>
    (w.drainCommands (w.engine.config.maxCommandsPerCycle.toNat - i)).afterDrain nextDeadlineNs
      startedAtNs
  | .dispatch nextDeadlineNs startedAtNs i message =>
    (((w.emit (.dispatched message)).dispatchCommand message).2.drainCommands
      (w.engine.config.maxCommandsPerCycle.toNat - (i + 1))).afterDrain nextDeadlineNs startedAtNs
  | .pauseTest nextDeadlineNs startedAtNs => w.afterDrain nextDeadlineNs startedAtNs
  | .step nextDeadlineNs startedAtNs => w.runtimeStep.afterStep nextDeadlineNs startedAtNs
  | .finish nextDeadlineNs startedAtNs => w.afterStep nextDeadlineNs startedAtNs
  | .sleep nextDeadlineNs startedAtNs finishedAtNs periodNs =>
    w.afterWork nextDeadlineNs startedAtNs finishedAtNs periodNs
  | .measure nextDeadlineNs startedAtNs cycleCompletedAtNs periodNs =>
    (nextDeadlineNs,
      (w.measureCycle nextDeadlineNs startedAtNs cycleCompletedAtNs periodNs).nextCycle)
  | .test nextDeadlineNs => (nextDeadlineNs, w)
  | .enter | .returned => (0, w)

variable {w w' : World D} {state state' : RtState D.limits}

theorem drainCommands_none (hcommands : w.commands = []) (left : Nat) :
    w.drainCommands left = w := by
  cases left with
  | zero => rfl
  | succ left =>
    unfold drainCommands commandTryPop
    rw [hcommands]

theorem drainCommands_some {m : CommandMessage D.limits} {commands : List (CommandMessage D.limits)}
    (hcommands : w.commands = m :: commands) (left : Nat) :
    w.drainCommands (left + 1) =
      (({ w with commands }.emit (.dispatched m)).dispatchCommand m).2.drainCommands left := by
  rw [drainCommands, commandTryPop, hcommands]

/-- A step in a cycle leads to the same end. -/
theorem rtThreadStep_complete (hin : state.inCycle = true)
    (h : w.rtThreadStep state = some (state', w')) : w'.complete state' = w.complete state := by
  cases rtThreadStep_cases h with
  | enter | leave | again => cases hin
  | pop deadline started i m commands hi hcommands =>
    have hleft : w.engine.config.maxCommandsPerCycle.toNat - i =
        w.engine.config.maxCommandsPerCycle.toNat - (i + 1) + 1 := by omega
    dsimp only [complete]
    rw [hleft, drainCommands_some hcommands]
  | empty deadline started i hi hcommands =>
    dsimp only [complete]
    rw [drainCommands_none hcommands]
  | spent deadline started i hi =>
    dsimp only [complete]
    rw [Nat.sub_eq_zero_of_le hi]
    rfl
  | dispatch deadline started i m =>
    obtain ⟨rtThread, tolerance, hconfig⟩ := ((w.emit (.dispatched m)).dispatch_kept m).config
    dsimp only [complete]
    rw [hconfig]
    rfl
  | paused deadline started hpaused =>
    dsimp only [complete]
    rw [afterDrain, if_pos hpaused]
  | unpaused deadline started hpaused =>
    dsimp only [complete]
    rw [afterDrain, hpaused]
    rfl
  | sleep deadline started finished period hperiod =>
    dsimp only [complete]
    rw [afterWork, if_pos hperiod]
  | free deadline started finished period hperiod =>
    dsimp only [complete]
    rw [afterWork, if_neg hperiod]
  | cycleBegin | step | finish | measure => rfl

end World

/-! ### What the others do while the loop runs -/

/-- What another thread does to an engine whose loop runs: it may ask for the stop, and only it sees
the rest. -/
structure Stir where
  stop : Bool
  controller : Controller
  waitThreads : List (Thread WaitState)
  log : List Returned

/-- The systems show the controller and the wait threads the same. -/
structure SameOthers (s t : System D) : Prop where
  controller : t.controller = s.controller
  waitThreads : t.waitThreads = s.waitThreads
  log : t.log = s.log
  cover : SameCover s.flags t.flags

namespace System

variable {s s' t : System D}

def stirred (s : System D) (e : Stir) : System D :=
  { s with
    world := s.world.asked e.stop
    controller := e.controller
    waitThreads := e.waitThreads
    log := e.log }

/-- A step of the controller or of a wait thread that stirs every system like `s` in the same
way. -/
def Stirs (s s' : System D) (step : System D → Option (System D)) : Prop :=
  ∃ e : Stir, s' = s.stirred e ∧ ∀ t, SameOthers s t → step t = some (t.stirred e)

theorem stirred_goto (h : SameOthers s t) (c : Controller) :
    t.goto c = t.stirred ⟨false, c, s.waitThreads, s.log⟩ := by
  rw [← h.waitThreads, ← h.log]
  rfl

theorem Stirs.goto {step : System D → Option (System D)} (c : Controller)
    (hstep : ∀ t, SameOthers s t → step t = some (t.goto c)) : Stirs s (s.goto c) step :=
  ⟨⟨false, c, s.waitThreads, s.log⟩, rfl, fun t h => by rw [hstep t h, stirred_goto h]⟩

theorem Stirs.ret {step : System D → Option (System D)} (r : Returned)
    (hstep : ∀ t, SameOthers s t → step t = some (t.ret r)) : Stirs s (s.ret r) step := by
  refine ⟨⟨false, .idle, s.waitThreads, r :: s.log⟩, rfl, fun t h => ?_⟩
  rw [hstep t h, ← h.waitThreads, ← h.log]
  rfl

/-- The loop runs, so a start that stores what covers the loop is out of the question, and a join of
its thread blocks. -/
theorem startStep_stirs (h : s.Covered) (hlive : s.loop ≠ .returned) {outcome : Bool}
    {pc : StartState} (hc : s.controller = .start pc) (hstep : s.startStep outcome pc = some s') :
    Stirs s s' (·.startStep outcome pc) := by
  have hquiet : s.controller.phase ≠ .quiet := fun hphase => hlive (h.coverage.quiet hphase).1
  rw [hc] at hquiet
  cases startStep_cases hstep with
  | found hrunning =>
    apply Stirs.ret
    intro t hsame
    exact if_pos (hsame.cover.running.trans hrunning)
  | begins hrunning =>
    have hrunning' := (h.coverage.live hlive).1
    have hflags : s.flags.running = true := hrunning'
    rw [hrunning] at hflags
    cases hflags
  | launchWait houtcome =>
    refine ⟨⟨false, .idle, ⟨.join, 0⟩ :: s.waitThreads, .start false true :: s.log⟩, rfl, ?_⟩
    intro t hsame
    rw [houtcome, ← hsame.waitThreads, ← hsame.log]
    rfl
  | waitFailed houtcome =>
    apply Stirs.goto
    intro t hsame
    rw [houtcome]
    rfl
  | waitFailedStop =>
    refine ⟨⟨true, .start .waitFailedJoin, s.waitThreads, s.log⟩, rfl, fun t hsame => ?_⟩
    rw [← hsame.waitThreads, ← hsame.log]
    rfl
  | waitFailedJoin hjoin => exact absurd (h.rt.threadJoin hjoin).2.1 hlive
  | _ => exact absurd rfl hquiet

theorem joinStep_stirs {outcome : Bool} {pc : JoinState → Controller}
    {ret : System D → Bool → System D} (hquiet : ∀ state, state = .storeWaitJoined ∨
      state = .storeStarted → (pc state).phase = .quiet)
    (c : Controller) (log : Bool → List Returned → List Returned)
    (hret : ∀ (s : System D) result,
      ret s result = { s with controller := c, log := log result s.log })
    {state : JoinState} (hphase : (pc state).phase ≠ .quiet)
    (hstep : s.joinStep outcome pc ret state = some s') :
    Stirs s s' (·.joinStep outcome pc ret state) := by
  have hreturns : ∀ (result : Bool) (step : System D → Option (System D)),
      (∀ t, SameOthers s t → step t = some (ret t result)) → Stirs s (ret s result) step := by
    intro result step hstep
    refine ⟨⟨false, c, s.waitThreads, log result s.log⟩, hret s result, fun t hsame => ?_⟩
    rw [hstep t hsame, hret, ← hsame.waitThreads, ← hsame.log]
    rfl
  cases state with
  | loadStarted =>
    cases hstarted : s.flags.started with
    | true =>
      cases (if_pos hstarted).symm.trans hstep
      exact Stirs.goto _ fun t hsame => if_pos (hsame.cover.started.trans hstarted)
    | false =>
      cases (if_neg (Bool.eq_false_iff.mp hstarted)).symm.trans hstep
      apply hreturns false
      intro t hsame
      exact if_neg (Bool.eq_false_iff.mp (hsame.cover.started.trans hstarted))
  | loadWaitJoined =>
    cases hjoined : s.flags.waitJoined with
    | true =>
      cases (if_pos hjoined).symm.trans hstep
      exact hreturns true _ fun t hsame => if_pos (hsame.cover.waitJoined.trans hjoined)
    | false =>
      cases (if_neg (Bool.eq_false_iff.mp hjoined)).symm.trans hstep
      apply Stirs.goto
      intro t hsame
      exact if_neg (Bool.eq_false_iff.mp (hsame.cover.waitJoined.trans hjoined))
  | joinWait =>
    obtain ⟨⟨joined, waitThreads⟩, hjoin, rfl⟩ := Option.map_eq_some_iff.mp hstep
    have hjoin' : ∀ t, SameOthers s t →
        threadJoin .returned t.waitThreads outcome = some (joined, waitThreads) := by
      intro t hsame
      rw [hsame.waitThreads, hjoin]
    cases joined with
    | true =>
      refine ⟨⟨false, pc .storeWaitJoined, waitThreads, s.log⟩, rfl, fun t hsame => ?_⟩
      dsimp only [joinStep]
      rw [hjoin' t hsame, ← hsame.log]
      rfl
    | false =>
      refine ⟨⟨false, c, waitThreads, log false s.log⟩, hret _ _, fun t hsame => ?_⟩
      dsimp only [joinStep]
      rw [hjoin' t hsame, ← hsame.log]
      exact congrArg some (hret { t with waitThreads } false)
  | storeWaitJoined => exact absurd (hquiet _ (.inl rfl)) hphase
  | storeStarted => exact absurd (hquiet _ (.inr rfl)) hphase

theorem controllerStep_stirs (h : s.Covered) (hlive : s.loop ≠ .returned) {outcome : Bool}
    (hstep : s.controllerStep outcome = some s') : Stirs s s' (·.controllerStep outcome) := by
  have hquiet : s.controller.phase ≠ .quiet := fun hphase => hlive (h.coverage.quiet hphase).1
  have hat : ∀ {step : System D → Option (System D)}, Stirs s s' step →
      (∀ t : System D, t.controller = s.controller → t.controllerStep outcome = step t) →
      Stirs s s' (·.controllerStep outcome) := by
    rintro step ⟨e, he, hstirs⟩ heq
    exact ⟨e, he, fun t hsame => (heq t hsame.controller).trans (hstirs t hsame)⟩
  cases hc : s.controller with
  | idle | destroyed =>
    unfold controllerStep at hstep
    rw [hc] at hstep
    cases hstep
  | start pc =>
    have hcalls : ∀ t : System D, t.controller = s.controller →
        t.controllerStep outcome = t.startStep outcome pc := fun t ht => by
      simp only [controllerStep, ht, hc]
    rw [hcalls s rfl] at hstep
    exact hat (startStep_stirs h hlive hc hstep) hcalls
  | join pc =>
    have hcalls : ∀ t : System D, t.controller = s.controller →
        t.controllerStep outcome =
          t.joinStep outcome .join (fun s result => s.ret (.join result)) pc := fun t ht => by
      simp only [controllerStep, ht, hc]
    rw [hcalls s rfl] at hstep
    rw [hc] at hquiet
    refine hat (joinStep_stirs ?_ .idle (fun result log => .join result :: log) (fun _ _ => rfl)
      hquiet hstep) hcalls
    rintro state (rfl | rfl) <;> rfl
  | destroyJoin pc =>
    have hcalls : ∀ t : System D, t.controller = s.controller →
        t.controllerStep outcome =
          t.joinStep outcome .destroyJoin (fun s _ => s.goto .destroyFree) pc := fun t ht => by
      simp only [controllerStep, ht, hc]
    rw [hcalls s rfl] at hstep
    rw [hc] at hquiet
    refine hat (joinStep_stirs ?_ .destroyFree (fun _ log => log) (fun _ _ => rfl) hquiet hstep)
      hcalls
    rintro state (rfl | rfl) <;> rfl
  | destroyFree => exact absurd (by rw [hc]; rfl) hquiet
  | destroyLoadStarted =>
    have hcalls : ∀ t : System D, t.controller = s.controller → t.controllerStep outcome =
        some (t.goto (if t.flags.started then .destroyLoadWaitJoined else .destroyFree)) :=
      fun t ht => by
        simp only [controllerStep, ht, hc]
        split <;> rfl
    cases (hcalls s rfl).symm.trans hstep
    refine hat (Stirs.goto _ fun t hsame => ?_) hcalls
    rw [hsame.cover.started]
  | destroyLoadWaitJoined =>
    have hcalls : ∀ t : System D, t.controller = s.controller → t.controllerStep outcome =
        some (t.goto (if t.flags.waitJoined then .destroyFree else .destroyJoin .loadStarted)) :=
      fun t ht => by
        simp only [controllerStep, ht, hc]
        split <;> rfl
    cases (hcalls s rfl).symm.trans hstep
    refine hat (Stirs.goto _ fun t hsame => ?_) hcalls
    rw [hsame.cover.waitJoined]
  | requestStop =>
    have hcalls : ∀ t : System D, t.controller = s.controller → t.controllerStep outcome =
        some ((t.setFlags { t.flags with stopRequested := true }).ret .requestStop) :=
      fun t ht => by simp only [controllerStep, ht, hc]
    cases (hcalls s rfl).symm.trans hstep
    refine hat ⟨⟨true, .idle, s.waitThreads, .requestStop :: s.log⟩, rfl, fun t hsame => ?_⟩ hcalls
    rw [← hsame.waitThreads, ← hsame.log]
    rfl
  | destroyStop =>
    have hcalls : ∀ t : System D, t.controller = s.controller → t.controllerStep outcome =
        some ((t.setFlags { t.flags with stopRequested := true }).goto .destroyLoadStarted) :=
      fun t ht => by simp only [controllerStep, ht, hc]
    cases (hcalls s rfl).symm.trans hstep
    refine hat ⟨⟨true, .destroyLoadStarted, s.waitThreads, s.log⟩, rfl, fun t hsame => ?_⟩ hcalls
    rw [← hsame.waitThreads, ← hsame.log]
    rfl

/-- While the loop runs, what the others do they would do as well after a step of it. -/
theorem act_stirs (h : s.Covered) (hlive : s.loop ≠ .returned) {a : Act D.limits} (ha : a.other)
    (hact : s.act a = some s') : Stirs s s' (·.act a) := by
  cases a with
  | requestStop =>
    cases hact
    refine ⟨⟨true, s.controller, s.waitThreads, s.log⟩, rfl, fun t hsame => ?_⟩
    rw [← hsame.controller, ← hsame.waitThreads, ← hsame.log]
    rfl
  | step a =>
    have hstep : s.step a = some s' := hact
    cases a with
    | rt i => exact ha.elim
    | pushCommand m => exact ha.elim
    | controller outcome => exact controllerStep_stirs h hlive hstep
    | call call =>
      obtain ⟨hidle, rfl⟩ := call_step hstep
      exact Stirs.goto _ fun t hsame => if_pos (hsame.controller.trans hidle)
    | wait i outcome =>
      have hactive : ∀ wait joins, s.waitThreads[i]? = some ⟨wait, joins⟩ → ¬wait.passive →
          wait = .join := by
        intro wait joins hi hactive
        obtain ⟨rfl, hhead⟩ := h.wait.newest hi hactive
        rcases (h.coverage.live hlive).2.2 with hlaunched | hjoin
        · have hpassive := h.coverage.launched hlaunched
          rw [hhead] at hpassive
          exact absurd hpassive hactive
        · exact hhead.symm.trans hjoin
      obtain ⟨⟨wait, joins⟩, state, s₁, hi, hmove, rfl⟩ := wait_step hstep
      cases hmove with
      | join hjoin => exact absurd (h.rt.threadJoin hjoin).2.1 hlive
      | storeRtJoined =>
        cases hactive _ _ hi (by simp [WaitState.passive])
      | storeRunning =>
        cases hactive _ _ hi (by simp [WaitState.passive])
      | returning =>
        refine ⟨⟨false, s.controller, s.waitThreads.set i ⟨.returned, joins⟩, s.log⟩, rfl,
          fun t hsame => ?_⟩
        have hi' : t.waitThreads[i]? = some ⟨.returning, joins⟩ := by rw [hsame.waitThreads, hi]
        rw [← hsame.controller, ← hsame.waitThreads, ← hsame.log]
        dsimp only [act, step]
        rw [hi']
        rfl

/-- A push commutes with what neither the loop nor another push does. -/
theorem act_pushed {a : Act D.limits} (ha : a.other) (hact : s.act a = some s')
    (m : CommandMessage D.limits) :
    (s.onWorld (·.pushed m)).act a = some (s'.onWorld (·.pushed m)) := by
  have hkeeps : KeepsFlags fun w : World D => w.pushed m := ⟨fun _ => rfl, fun _ _ => rfl⟩
  cases a with
  | requestStop =>
    cases hact
    rfl
  | step a =>
    have hstep : s.step a = some s' := hact
    cases a with
    | rt i => exact ha.elim
    | pushCommand m => exact ha.elim
    | call call =>
      obtain ⟨hidle, rfl⟩ := call_step hstep
      exact if_pos hidle
    | wait i outcome =>
      obtain ⟨thread, hi, hrest⟩ := Option.bind_eq_some_iff.mp hstep
      obtain ⟨⟨state, s₁⟩, hthread, rfl⟩ := Option.map_eq_some_iff.mp hrest
      have hi' : (s.onWorld (·.pushed m)).waitThreads[i]? = some thread := hi
      have hthread' := hkeeps.waitStep s outcome thread.state
      rw [hthread] at hthread'
      dsimp only [act, step]
      rw [hi', Option.bind_some, hthread']
      rfl
    | controller outcome =>
      by_cases hfree : s.controller = .destroyFree
      · have hfree' : (s.onWorld (·.pushed m)).controller = .destroyFree := hfree
        have hdestroy :
            (s.world.pushed m).collectionDestroy = s.world.collectionDestroy.pushed m := by
          unfold World.collectionDestroy
          rw [World.destroyElements_eq, World.destroyElements_eq]
          rfl
        dsimp only [act, step, System.controllerStep] at hact ⊢
        rw [hfree] at hact
        cases hact
        rw [hfree']
        exact congrArg (fun world => some { s with world, controller := .destroyed }) hdestroy
      · have hsame := hkeeps.controllerStep s outcome hfree
        rw [show s.controllerStep outcome = some s' from hstep] at hsame
        exact hsame

theorem loop_eq {t : Thread (RtState D.limits)} {ts : List (Thread (RtState D.limits))}
    (hthreads : s.rtThreads = t :: ts) : s.loop = t.state := by
  rw [loop, hthreads]
  rfl

/-- A step of the loop. -/
theorem own_cases (h : s.Covered) {i : Nat} (hstep : s.act (.step (.rt i)) = some s') :
    ∃ t ts state world, i = 0 ∧ s.rtThreads = t :: ts ∧
      s.world.rtThreadStep t.state = some (state, world) ∧
      s' = { s with world, rtThreads := { t with state } :: ts } := by
  obtain ⟨t, state, world, hi, hthread, rfl⟩ := rt_step hstep
  have hlive : t.state ≠ .returned := by
    intro hreturned
    rw [hreturned] at hthread
    cases hthread
  obtain ⟨rfl, -⟩ := h.rt.newest hi hlive
  cases hthreads : s.rtThreads with
  | nil =>
    rw [hthreads] at hi
    cases hi
  | cons head ts =>
    rw [hthreads] at hi
    cases hi
    exact ⟨t, ts, state, world, rfl, rfl, hthread, rfl⟩

theorem own_step {t : Thread (RtState D.limits)} {ts : List (Thread (RtState D.limits))}
    {state : RtState D.limits} {world : World D} (hthreads : s.rtThreads = t :: ts)
    (hthread : s.world.rtThreadStep t.state = some (state, world)) :
    s.act (.step (.rt 0)) = some { s with world, rtThreads := { t with state } :: ts } := by
  dsimp only [act, step]
  rw [hthreads, List.getElem?_cons_zero, Option.bind_some, hthread]
  rfl

end System

/-! ### Which acts commute -/

/-- Whose act it is, for the cycles of the loop. -/
def Act.mover {L : Limits} : Act L → Mover
  | .step (.rt _) => .own
  | .step (.pushCommand _) => .early
  | _ => .other

theorem Act.mover_other {L : Limits} {a : Act L} : a.mover = .other ↔ a.other := by
  cases a with
  | requestStop => exact ⟨fun _ => trivial, fun _ => rfl⟩
  | step a => cases a <;> simp [mover, other]

/-- A cycle waits for the clients' pushes until its drain is over, and then for nobody. -/
def RtState.extent {L : Limits} : RtState L → Extent
  | .enter | .test _ | .returned => .between
  | .cycleBegin _ | .drain _ _ _ | .dispatch _ _ _ _ => .growing
  | .pauseTest _ _ | .step _ _ | .finish _ _ | .sleep _ _ _ _ | .measure _ _ _ _ => .shrinking

theorem RtState.inCycle_iff {L : Limits} (state : RtState L) :
    state.inCycle = true ↔ state.extent ≠ .between := by
  cases state <;> simp [inCycle, extent]

namespace World

variable {w w' : World D} {state state' : RtState D.limits}

theorem rtThreadStep_shrinks (hextent : state.extent = .shrinking)
    (h : w.rtThreadStep state = some (state', w')) : state'.extent ≠ .growing := by
  cases rtThreadStep_cases h <;> cases hextent <;> simp [RtState.extent]

theorem findsEmpty_shrinks (hextent : state.extent = .shrinking) : state.findsEmpty w = false := by
  cases state <;> first | rfl | cases hextent

theorem findsEmpty_grows (hextent : state'.extent = .growing)
    (h : w.rtThreadStep state = some (state', w')) : state.findsEmpty w = false := by
  cases rtThreadStep_cases h with
  | pop deadline started i m commands hi hcommands => simp [RtState.findsEmpty, hcommands]
  | again | cycleBegin | dispatch => rfl
  | _ => cases hextent

end World

namespace System

variable {s s' : System D}

theorem loop_extent {a : Act D.limits} (h : s.Covered) (ha : a.mover ≠ .own)
    (hact : s.act a = some s') : s'.loop.extent = s.loop.extent := by
  cases act_effect h hact with
  | loop hstep => exact absurd rfl ha
  | launch _ hbefore hafter => rw [hbefore, hafter]; rfl
  | store _ hloop => rw [hloop]
  | push m hloop => rw [hloop]
  | free _ hbefore hloop => rw [hloop]

theorem own_of_mover {a : Act D.limits} (ha : a.mover = .own) : ∃ i, a = .step (.rt i) := by
  cases a with
  | requestStop => cases ha
  | step a =>
    cases a with
    | rt i => exact ⟨i, rfl⟩
    | _ => cases ha

theorem push_of_mover {a : Act D.limits} (ha : a.mover = .early) :
    ∃ m, a = .step (.pushCommand m) := by
  cases a with
  | requestStop => cases ha
  | step a =>
    cases a with
    | pushCommand m => exact ⟨m, rfl⟩
    | _ => cases ha

/-- A step of the loop can be taken before what another thread does in a cycle. -/
theorem left_other {s₁ s₂ : System D} {b : Act D.limits} (h : s.Covered)
    (hin : s.loop.extent ≠ .between) (hb : b.other) (hact : s.act b = some s₁)
    (hown : s₁.act (.step (.rt 0)) = some s₂) :
    ∃ t, s.act (.step (.rt 0)) = some t ∧ t.act b = some s₂ := by
  have hlive : s.loop ≠ .returned := by
    intro hreturned
    rw [hreturned] at hin
    exact hin rfl
  obtain ⟨e, rfl, hstirs⟩ := act_stirs h hlive hb hact
  obtain ⟨t, ts, state, world, -, hthreads, hthread, rfl⟩ := own_cases (h.act hact) hown
  have hloop : s.loop = t.state := loop_eq hthreads
  obtain ⟨⟨state', world'⟩, hthread'⟩ :=
    Option.isSome_iff_exists.mp (s.world.rtThreadStep_isSome (hloop ▸ hlive))
  have hhead : ∀ deadline, t.state ≠ .test deadline := by
    intro deadline htest
    rw [hloop, htest] at hin
    exact hin rfl
  have hasked := World.rtThreadStep_asked hhead hthread' e.stop
  cases hasked.symm.trans hthread
  have hflags : world'.engine.flags = t.state.flags s.flags := World.rtThreadStep_flags hthread'
  have hcover : SameCover s.flags world'.engine.flags := by
    obtain ⟨hrunning, hstarted, hrtJoined, hwaitJoined⟩ := t.state.flags_frame s.flags
    rw [hflags]
    exact ⟨hrunning, hstarted, hrtJoined, hwaitJoined⟩
  exact ⟨_, own_step hthreads hthread', hstirs _ ⟨rfl, rfl, rfl, hcover⟩⟩

/-- A step of the loop and a push commute, but where the loop finds the queue empty. -/
theorem push_own {t : Thread (RtState D.limits)}
    {ts : List (Thread (RtState D.limits))} {state : RtState D.limits} {world : World D}
    (hthreads : s.rtThreads = t :: ts)
    (hthread : s.world.rtThreadStep t.state = some (state, world))
    (hempty : t.state.findsEmpty s.world = false) (m : CommandMessage D.limits) :
    (s.onWorld (·.pushed m)).act (.step (.rt 0)) =
      some { s with world := world.pushed m, rtThreads := { t with state } :: ts } :=
  own_step hthreads (World.rtThreadStep_pushed hempty hthread m)

theorem loop_movers :
    Movers (act (D := D)) Covered Act.mover (fun s => s.loop.extent) := by
  constructor
  case preserved => exact fun h hact => h.act hact
  case extent_eq => exact fun h ha hact => loop_extent h ha hact
  case shrinks =>
    intro s s' a h hextent hact
    by_cases ha : a.mover = .own
    · obtain ⟨i, rfl⟩ := own_of_mover ha
      obtain ⟨t, ts, state, world, -, hthreads, hthread, rfl⟩ := own_cases h hact
      rw [loop_eq hthreads] at hextent
      exact World.rtThreadStep_shrinks hextent hthread
    · rw [loop_extent h ha hact, hextent]
      decide
  case left =>
    intro s s₁ s₂ a b h hin ha hb hgrowing hact hown
    obtain ⟨i, rfl⟩ := own_of_mover ha
    obtain ⟨t, ts, state, world, rfl, hthreads, hthread, hs₂⟩ := own_cases (h.act hact) hown
    cases hmover : b.mover with
    | own => exact absurd hmover hb
    | other => exact left_other h hin (Act.mover_other.mp hmover) hact hown
    | early =>
      obtain ⟨m, rfl⟩ := push_of_mover hmover
      cases hact
      have hthreads' : s.rtThreads = t :: ts := hthreads
      have hloop : s.loop = t.state := loop_eq hthreads'
      have hshrinking : t.state.extent = .shrinking := by
        rw [← hloop]
        cases hextent : s.loop.extent with
        | between => exact absurd hextent hin
        | growing => cases hgrowing hextent
        | shrinking => rfl
      have hlive : t.state ≠ .returned := by
        intro hreturned
        rw [hreturned] at hshrinking
        cases hshrinking
      obtain ⟨⟨state', world'⟩, hthread'⟩ :=
        Option.isSome_iff_exists.mp (s.world.rtThreadStep_isSome hlive)
      have hpushed := push_own hthreads' hthread' (World.findsEmpty_shrinks hshrinking) m
      cases hpushed.symm.trans hown
      exact ⟨_, own_step hthreads' hthread', rfl⟩
  case early_own =>
    intro s s₁ s₂ a b h ha hb hact hextent hpush
    obtain ⟨i, rfl⟩ := own_of_mover ha
    obtain ⟨m, rfl⟩ := push_of_mover hb
    obtain ⟨t, ts, state, world, rfl, hthreads, hthread, rfl⟩ := own_cases h hact
    cases hpush
    exact ⟨_, rfl, push_own hthreads hthread (World.findsEmpty_grows hextent hthread) m⟩
  case early_other =>
    intro s s₁ s₂ a b h ha hb hact hpush
    obtain ⟨m, rfl⟩ := push_of_mover hb
    cases hpush
    exact ⟨_, rfl, act_pushed (Act.mover_other.mp ha) hact m⟩

end System

/-! ### From uninterrupted cycles to atomic ones -/

/-- What is done by others than the loop is the same, and in the same order for each of them. -/
def SameActs {L : Limits} (atomic : List (AtomicAct L)) (acts : List (Act L)) : Prop :=
  ∀ k, k ≠ .own → (atomic.filterMap AtomicAct.act?).filter (·.mover = k) =
    acts.filter (·.mover = k)

theorem SameActs.act {L : Limits} {atomic : List (AtomicAct L)} {acts : List (Act L)}
    (h : SameActs atomic acts) (a : Act L) : SameActs (atomic ++ [.act a]) (acts ++ [a]) := by
  intro k hk
  rw [List.filterMap_append, List.filter_append, List.filter_append, h k hk]
  rfl

theorem SameActs.own {L : Limits} {atomic : List (AtomicAct L)} {acts : List (Act L)}
    (h : SameActs atomic acts) {a : Act L} (ha : a.mover = .own) :
    SameActs atomic (acts ++ [a]) := by
  intro k hk
  have hnone : [a].filter (·.mover = k) = [] := by simpa [ha] using hk.symm
  rw [List.filter_append, hnone, List.append_nil, h k hk]

theorem SameActs.cycle {L : Limits} {atomic : List (AtomicAct L)} {acts : List (Act L)}
    (h : SameActs atomic acts) : SameActs (atomic ++ [.cycle]) acts := by
  intro k hk
  rw [List.filterMap_append, ← h k hk]
  simp [AtomicAct.act?]

namespace System

variable {s₀ s s' c : System D}

/-- `s` is in the middle of a cycle that begins at `c`. -/
structure Within (c s : System D) : Prop where
  starts : ∃ deadline joins ts state world, c.rtThreads = ⟨.test deadline, joins⟩ :: ts ∧
    c.flags.stopRequested = false ∧ state.inCycle = true ∧
    s = { c with world, rtThreads := ⟨state, joins⟩ :: ts } ∧
    world.complete state = c.world.cycle deadline

/-- A run of the atomic engine that leads to `s`, or to the begin of the cycle that `s` is in. -/
inductive Gathers (s₀ s : System D) (acts : List (Act D.limits)) : Prop
  | between (atomic : List (AtomicAct D.limits)) (hrun : run atomicAct s₀ atomic = some s)
    (hsame : SameActs atomic acts) (hbetween : s.loop.inCycle = false) : Gathers s₀ s acts
  | within (atomic : List (AtomicAct D.limits)) (c : System D)
    (hrun : run atomicAct s₀ atomic = some c) (hsame : SameActs atomic acts)
    (hwithin : Within c s) : Gathers s₀ s acts

theorem Gathers.next (hs : s.Covered) {acts : List (Act D.limits)} (h : Gathers s₀ s acts)
    {a : Act D.limits} (hok : Uninterrupted Act.mover (fun s : System D => s.loop.extent) s a)
    (hact : s.act a = some s') : Gathers s₀ s' (acts ++ [a]) := by
  cases h with
  | between atomic hrun hsame hbetween =>
    cases hafter : s'.loop.inCycle with
    | false =>
      have hatomic : s.atomicAct (.act a) = some s' := by
        dsimp only [atomicAct]
        rw [hact, Option.filter_some, hafter]
        rfl
      exact .between (atomic ++ [.act a]) (run_concat hrun hatomic) (hsame.act a) hafter
    | true =>
      have hown : a.mover = .own := by
        by_contra hother
        have hextent := loop_extent hs hother hact
        rw [RtState.inCycle_iff, hextent, ← RtState.inCycle_iff, hbetween] at hafter
        cases hafter
      obtain ⟨i, rfl⟩ := own_of_mover hown
      obtain ⟨⟨state, joins⟩, ts, state', world, rfl, hthreads, hthread, rfl⟩ := own_cases hs hact
      have hstart : state.inCycle = false := by
        rw [← hbetween, loop_eq hthreads]
      have hlater : state'.inCycle = true := hafter
      cases World.rtThreadStep_cases hthread with
      | again deadline hstop =>
        exact .within atomic s hrun (hsame.own hown)
          ⟨deadline, joins, ts, .cycleBegin deadline, s.world, hthreads, hstop, rfl, rfl, rfl⟩
      | enter | leave => cases hlater
      | _ => cases hstart
  | within atomic c hrun hsame hwithin =>
    obtain ⟨deadline, joins, ts, state, world, hthreads, hstop, hin, rfl, hcomplete⟩ := hwithin
    have hown : a.mover = .own := by
      apply hok
      exact (RtState.inCycle_iff state).mp hin
    obtain ⟨i, rfl⟩ := own_of_mover hown
    obtain ⟨t, ts', state', world', rfl, hthreads', hthread, rfl⟩ := own_cases hs hact
    cases hthreads'
    have hsteps := World.rtThreadStep_complete hin hthread
    cases hlater : state'.inCycle with
    | true =>
      exact .within atomic c hrun (hsame.own hown)
        ⟨deadline, joins, ts, state', world', hthreads, hstop, hlater, rfl, hsteps.trans hcomplete⟩
    | false =>
      have hcycle : c.atomicAct .cycle =
          some { c with world := world', rtThreads := ⟨state', joins⟩ :: ts } := by
        cases World.rtThreadStep_cases hthread with
        | measure deadline' started completed period =>
          have hend : c.world.cycle deadline = (deadline', _) := (hsteps.trans hcomplete).symm
          dsimp only [atomicAct, cycle]
          rw [hthreads]
          dsimp only
          rw [hstop, hend]
          rfl
        | enter | leave | again => cases hin
        | _ => cases hlater
      exact .between (atomic ++ [.cycle]) (run_concat hrun hcycle) (hsame.own hown).cycle hlater

/-- A run between two cycles has the outcome of one with atomic cycles. -/
theorem gathered (hs₀ : s₀.Covered) (hbetween : s₀.loop.inCycle = false)
    {acts : List (Act D.limits)} (hrun : run act s₀ acts = some s)
    (hover : s.loop.inCycle = false) :
    ∃ atomic : List (AtomicAct D.limits), run atomicAct s₀ atomic = some s ∧
      SameActs atomic acts := by
  have hextent : ∀ s : System D, s.loop.inCycle = false → s.loop.extent = .between := by
    intro s hs
    by_contra hinside
    rw [(RtState.inCycle_iff s.loop).mpr hinside] at hs
    cases hs
  obtain ⟨serial, hpath, horders⟩ := loop_movers.serialize hs₀ (hextent s₀ hbetween) hrun
    (hextent s hover)
  have hgathers : s.Covered ∧ Gathers s₀ s serial := by
    clear hrun hover horders
    induction hpath with
    | refl => exact ⟨hs₀, .between [] rfl (fun _ _ => rfl) hbetween⟩
    | tail _ hok hact ih => exact ⟨ih.1.act hact, ih.2.next ih.1 hok hact⟩
  cases hgathers.2 with
  | between atomic hatomic hsame _ =>
    exact ⟨atomic, hatomic, fun k hk => (hsame k hk).trans (horders k)⟩
  | within atomic c hatomic hsame hwithin =>
    obtain ⟨deadline, joins, ts, state, world, -, -, hin, rfl, -⟩ := hwithin
    have hstate : state.inCycle = false := hover
    rw [hin] at hstate
    cases hstate

/-- From the middle of a cycle the loop comes to its end by steps of its own. -/
theorem completes {joins : Nat} {ts : List (Thread (RtState D.limits))} {state : RtState D.limits}
    (hin : state.inCycle = true) (hthreads : s.rtThreads = ⟨state, joins⟩ :: ts) :
    ∃ n, run act s (List.replicate n (.step (.rt 0))) =
      some { s with
        world := (s.world.complete state).2
        rtThreads := ⟨.test (s.world.complete state).1, joins⟩ :: ts } := by
  induction hrank : state.rank s.budget using Nat.strongRecOn generalizing s state with
  | ind rank ih =>
    have hlive : state ≠ .returned := by
      rintro rfl
      cases hin
    obtain ⟨⟨state', world⟩, hthread⟩ :=
      Option.isSome_iff_exists.mp (s.world.rtThreadStep_isSome hlive)
    have hstep := own_step hthreads hthread
    have hless := rtThreadStep_rank hthread (by rintro deadline rfl; cases hin)
    have hsame := World.rtThreadStep_complete hin hthread
    cases hlater : state'.inCycle with
    | true =>
      obtain ⟨rtThread, tolerance, hconfig⟩ := (World.rtThreadStep_loopStep hthread).config
      have hbudget : world.engine.config.maxCommandsPerCycle.toNat = s.budget := by
        rw [hconfig, budget]
      have hbefore : state'.rank world.engine.config.maxCommandsPerCycle.toNat < rank := by
        have hless' : state'.rank s.budget + 1 ≤ state.rank s.budget := hless
        rw [hbudget]
        omega
      obtain ⟨n, hrest⟩ := ih _ hbefore hlater
        (s := { s with world, rtThreads := ⟨state', joins⟩ :: ts }) rfl rfl
      refine ⟨n + 1, ?_⟩
      rw [← hsame]
      exact Option.bind_eq_some_iff.mpr ⟨_, hstep, hrest⟩
    | false =>
      refine ⟨1, Option.bind_eq_some_iff.mpr ⟨_, hstep, ?_⟩⟩
      rw [← hsame]
      cases World.rtThreadStep_cases hthread with
      | measure => rfl
      | enter | leave | again => cases hin
      | _ => cases hlater

/-- An atomic cycle is a cycle of the loop that nobody interrupts. -/
theorem cycle_runs (hcycle : s.cycle = some s') :
    s'.loop.inCycle = false ∧ ∃ n, run act s (List.replicate n (.step (.rt 0))) = some s' := by
  unfold cycle at hcycle
  split at hcycle
  · next deadline joins ts hthreads =>
    cases hstop : s.flags.stopRequested with
    | true =>
      rw [hstop] at hcycle
      cases hcycle
    | false =>
      rw [hstop] at hcycle
      cases hcycle
      refine ⟨rfl, ?_⟩
      have hbegin : s.world.rtThreadStep (.test deadline) =
          some (.cycleBegin deadline, s.world) := by
        have hgo : s.world.engine.flags.stopRequested = false := hstop
        dsimp only [World.rtThreadStep]
        rw [hgo]
        rfl
      have hfirst := own_step hthreads hbegin
      have hin : (RtState.cycleBegin deadline : RtState D.limits).inCycle = true := rfl
      obtain ⟨n, hrest⟩ := completes hin
        (s := { s with rtThreads := ⟨.cycleBegin deadline, joins⟩ :: ts }) rfl
      exact ⟨n + 1, Option.bind_eq_some_iff.mpr ⟨_, hfirst, hrest⟩⟩
  · cases hcycle

theorem sameActs_replicate {L : Limits} {atomic : List (AtomicAct L)} {acts : List (Act L)}
    (h : SameActs atomic acts) (n : Nat) :
    SameActs atomic (acts ++ List.replicate n (.step (.rt 0))) := by
  induction n with
  | zero => rwa [List.replicate_zero, List.append_nil]
  | succ n ih =>
    rw [List.replicate_succ', ← List.append_assoc]
    exact ih.own rfl

/-- A run with atomic cycles is a run. -/
theorem ungathered (hbetween : s₀.loop.inCycle = false) {atomic : List (AtomicAct D.limits)}
    (hrun : run atomicAct s₀ atomic = some s) :
    s.loop.inCycle = false ∧ ∃ acts, run act s₀ acts = some s ∧ SameActs atomic acts := by
  have hpath : Path atomicAct (fun _ _ => True) s₀ atomic s := .of_run (fun _ _ => trivial) hrun
  clear hrun
  induction hpath with
  | refl => exact ⟨hbetween, [], rfl, fun _ _ => rfl⟩
  | @tail atomic s s' b _ _ hstep ih =>
    obtain ⟨-, acts, hacts, hsame⟩ := ih
    cases b with
    | act a =>
      obtain ⟨hact, hafter⟩ := Option.filter_eq_some_iff.mp hstep
      exact ⟨by simpa using hafter, acts ++ [a], run_concat hacts hact, hsame.act a⟩
    | cycle =>
      obtain ⟨hover, n, hcycle⟩ := cycle_runs hstep
      refine ⟨hover, acts ++ List.replicate n (.step (.rt 0)), ?_,
        sameActs_replicate hsame.cycle n⟩
      rw [run, List.foldlM_append]
      exact Option.bind_eq_some_iff.mpr ⟨s, hacts, hcycle⟩

/-- The cycles of the RT loop are atomic.  Whatever the threads, the clients and other threads of
the host do, between two cycles the engine is where it would be had each cycle been one
uninterrupted execution of the loop's body; and every run of that kind can happen.  The clients'
pushes keep their order and so do the acts of all others, only that the pushes that fall in a drain
come before the cycle and the rest after it. -/
theorem cycles_atomic (hreach : s₀.SharedReachable) (hbetween : s₀.loop.inCycle = false) :
    (∀ acts s, run act s₀ acts = some s → s.loop.inCycle = false →
      ∃ atomic, run atomicAct s₀ atomic = some s ∧ SameActs atomic acts) ∧
    ∀ atomic s, run atomicAct s₀ atomic = some s →
      s.loop.inCycle = false ∧ ∃ acts, run act s₀ acts = some s ∧ SameActs atomic acts :=
  ⟨fun _ _ hrun hover => gathered hreach.covered hbetween hrun hover,
    fun _ _ hrun => ungathered hbetween hrun⟩

end System

namespace Reference

/-- A start, and a cycle in whose drain a client pushes a command and another thread requests the
stop. -/
def interruptedActs : List (Act limits) :=
  .step (.call .start) :: List.replicate 9 (.step (.controller true)) ++
    List.replicate 3 (.step (.rt 0)) ++
    [.requestStop, .step (.pushCommand ⟨1, .globalCommand 0⟩)] ++ List.replicate 8 (.step (.rt 0))

def interrupted : System deps :=
  (Transition.run System.act created interruptedActs).get (by decide)

end Reference

theorem cycles_atomic_reference :
    Reference.interrupted.world.engine.cycleId = 1 ∧ Reference.interrupted.world.commands = [] ∧
      ∃ atomic, run System.atomicAct Reference.created atomic = some Reference.interrupted ∧
        SameActs atomic Reference.interruptedActs := by
  have hcreated : Reference.created.SharedReachable := .start ⟨rfl, rfl, rfl, rfl, rfl⟩
  exact ⟨rfl, rfl, (System.cycles_atomic hcreated rfl).1 _ _ (Option.some_get _).symm rfl⟩

end RtsynEngine
