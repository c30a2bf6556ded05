import RtsynEngine.Proof.Host
import RtsynEngine.Proof.Rejoining
import RtsynEngine.Proof.Termination

/-! The end of the host process: what each place of main says of its calls of the engine, and that
main, once it has requested the stop, joins the engine's threads, destroys the engine and
returns. -/

namespace RtsynEngine

open Handle Transition

variable {D : Deps}

/-- In `rtsyn_engine_destroy`, or past it. -/
def Controller.destroying : Controller → Bool
  | .destroyStop | .destroyLoadStarted | .destroyLoadWaitJoined | .destroyJoin _ => true
  | .destroyFree | .destroyed => true
  | _ => false

namespace System

variable {s s' : System D}

/-- A `start` has returned true. -/
def HasStarted (s : System D) : Prop := ∃ foundRunning, .start foundRunning true ∈ s.log

/-- No call of the engine has been made. -/
structure Untouched (s : System D) : Prop where
  controller : s.controller = .idle
  log : s.log = []
  started : s.flags.started = false
  rt : s.rtThreads = []
  wait : s.waitThreads = []

/-- A `start` has returned true, and what it started has not been joined. -/
structure Launched (s : System D) : Prop where
  log : s.HasStarted
  started : s.flags.started = true

theorem HasStarted.of_log (h : s.HasStarted) (hlog : s.log <:+ s'.log) : s'.HasStarted := by
  obtain ⟨foundRunning, hmem⟩ := h
  exact ⟨foundRunning, hlog.subset hmem⟩

/-- Only the controller stores `started` and launches threads. -/
theorem threadStep_started {a : Step D.limits} (ha : ∀ outcome, a ≠ .controller outcome)
    (hcall : a.isCall = false) (hstep : s.step a = some s') :
    s'.flags.started = s.flags.started ∧ (s.rtThreads = [] → s'.rtThreads = []) ∧
      (s.waitThreads = [] → s'.waitThreads = []) := by
  cases a with
  | call call => cases hcall
  | controller outcome => exact absurd rfl (ha outcome)
  | rt i =>
    obtain ⟨t, state, world, hi, hthread, rfl⟩ := rt_step hstep
    have hflags : world.engine.flags = t.state.flags s.flags := World.rtThreadStep_flags hthread
    refine ⟨?_, fun hnil => ?_, id⟩
    · rw [flags, hflags]
      exact (t.state.flags_frame s.flags).2.1
    · simp [hnil]
  | wait i outcome =>
    obtain ⟨⟨wait, joins⟩, state, s₁, hi, hmove, rfl⟩ := wait_step hstep
    have hnot : s.waitThreads ≠ [] := by
      intro hnil
      simp [hnil] at hi
    refine ⟨?_, ?_, fun hnil => absurd hnil hnot⟩
    · cases hmove <;> rfl
    · intro hnil
      cases hmove with
      | join hjoin =>
        rw [hnil] at hjoin
        cases hjoin
        rfl
      | _ => exact hnil
  | pushCommand m =>
    cases hstep
    exact ⟨rfl, id, id⟩

/-- A step of `start` goes on, or returns, having left `started` true exactly if it succeeds. -/
theorem startMove_placed (hcovered : s.Covered) {outcome : Bool} {pc : StartState}
    (hc : s.controller = .start pc) (hlog : s.log = []) (hmove : StartMove s outcome pc s') :
    (∃ pc', s'.controller = .start pc' ∧ (pc' = .loadRunning → s'.flags.started = false)) ∧
        s'.log = [] ∨
      s'.controller = .idle ∧ ∃ foundRunning result, s'.log = [.start foundRunning result] ∧
        (result = true → s'.flags.started = true) := by
  have hstored := hcovered.coverage.stored pc hc
  cases hmove with
  | found | rtFailedRunning | waitFailedRunning =>
    exact .inr ⟨rfl, _, false, congrArg (List.cons _) hlog, by simp⟩
  | launchWait =>
    exact .inr ⟨rfl, _, true, congrArg (List.cons _) hlog, fun _ => hstored.2.2.2⟩
  | _ => exact .inl ⟨⟨_, rfl, nofun⟩, hlog⟩

/-- `join` does not fail where the wait thread is still to be joined. -/
theorem joinMove_placed (howing : s.Owing) {pc : JoinState} (hc : s.controller = .join pc)
    (hstarted : (Controller.join pc).phase = .resting → s.flags.started = true)
    (hmove : JoinMove s .join (fun s result => s.ret (.join result)) pc s') :
    (∃ pc', s'.controller = .join pc' ∧
        ((Controller.join pc').phase = .resting → s'.flags.started = true)) ∧ s'.log = s.log ∨
      s'.controller = .idle ∧ s'.log = .join true :: s.log := by
  cases hmove with
  | started hflag => exact .inl ⟨⟨_, rfl, fun _ => hflag⟩, rfl⟩
  | unstarted hflag =>
    have hflag' := hstarted rfl
    rw [hflag] at hflag'
    cases hflag'
  | alreadyJoined => exact .inr ⟨rfl, rfl⟩
  | unjoined => exact .inl ⟨⟨_, rfl, fun _ => hstarted rfl⟩, rfl⟩
  | joins => exact .inl ⟨⟨_, rfl, by simp [Controller.phase]⟩, rfl⟩
  | fails hjoin =>
    have howed : s.OwesWait := ⟨by rw [hc]; rfl, hstarted rfl⟩
    cases (howing.wait.join howed hjoin not_false).1
  | storeWaitJoined => exact .inl ⟨⟨_, rfl, by simp [Controller.phase]⟩, rfl⟩
  | storeStarted => exact .inr ⟨rfl, rfl⟩

theorem destroyMove_placed {outcome : Bool} (hdestroying : s.controller.destroying = true)
    (hmove : ControllerMove s outcome s') :
    s'.controller.destroying = true ∧ s'.log = s.log := by
  cases hmove with
  | start pc hc | requestStop hc | join pc hc =>
    rw [hc] at hdestroying
    cases hdestroying
  | destroyJoin pc hc hmove => cases hmove <;> exact ⟨rfl, rfl⟩
  | destroyFree hc => exact ⟨rfl, rfl⟩
  | _ => exact ⟨rfl, rfl⟩

end System

namespace Host

variable {h h' : Host D}

/-- What a place of main says of its calls of the engine. -/
def Placed (h : Host D) : Prop :=
  match h.main with
  | .blockProcessSignals | .installSignalHandlers | .create => h.system.Untouched
  | .start =>
    (∃ pc, h.system.controller = .start pc ∧
        (pc = .loadRunning → h.system.flags.started = false)) ∧ h.system.log = [] ∨
      h.system.controller = .idle ∧ ∃ foundRunning result,
        h.system.log = [.start foundRunning result] ∧
          (result = true → h.system.flags.started = true)
  | .unblockStopSignals | .test | .pause | .suspended =>
    h.system.controller = .idle ∧ h.system.Launched
  | .unblockFailed =>
    (h.system.controller = .requestStop ∨ h.system.controller = .idle) ∧ h.system.Launched
  | .requestStop =>
    (h.system.controller = .requestStop ∨
      h.system.controller = .idle ∧ h.system.flags.stopRequested = true) ∧ h.system.Launched
  | .join =>
    ((∃ pc, h.system.controller = .join pc ∧
        ((Controller.join pc).phase = .resting → h.system.flags.started = true)) ∨
      h.system.controller = .idle ∧ ∃ log, h.system.log = .join true :: log) ∧
      h.system.flags.stopRequested = true ∧ h.system.HasStarted
  | .restoreMask joined =>
    h.system.controller = .idle ∧ joined = true ∧ h.system.flags.stopRequested = true ∧
      h.system.HasStarted
  | .destroy joined =>
    h.system.controller.destroying = true ∧ (joined = true ↔ h.system.HasStarted) ∧
      (joined = true → h.system.flags.stopRequested = true)
  | .exited success =>
    (h.system.controller = .destroyed ∨ h.system.Untouched) ∧
      (success = true ↔ h.system.HasStarted)

theorem not_hasStarted_of_nil {s : System D} (h : s.log = []) : ¬s.HasStarted := by
  rintro ⟨foundRunning, hmem⟩
  simp [h] at hmem

/-- Main exits before it has called the engine. -/
theorem Placed.exitEarly (huntouched : h.system.Untouched) : (h.goto (.exited false)).Placed :=
  ⟨.inr huntouched, iff_of_false (by simp) (not_hasStarted_of_nil huntouched.log)⟩

theorem call_eq {call : Call} {main : MainState} (hstep : h.call call main = some h') :
    h.system.controller = .idle ∧
      h' = { h with system := h.system.goto (System.callState call), main } := by
  obtain ⟨system, hcall, rfl⟩ := Option.map_eq_some_iff.mp hstep
  obtain ⟨hidle, rfl⟩ := System.call_step hcall
  exact ⟨hidle, rfl⟩

theorem Placed.mainStep (hplaced : h.Placed) {outcome : Bool}
    (hstep : h.mainStep outcome = some h') : h'.Placed := by
  unfold Placed at hplaced
  unfold Host.mainStep at hstep
  cases hmain : h.main with
  | blockProcessSignals | installSignalHandlers =>
    rw [hmain] at hplaced hstep
    dsimp only at hstep
    split at hstep <;> cases hstep
    · exact hplaced
    · exact exitEarly hplaced
  | create =>
    rw [hmain] at hplaced hstep
    dsimp only at hstep
    split at hstep
    · obtain ⟨-, rfl⟩ := call_eq hstep
      exact .inl ⟨⟨_, rfl, fun _ => hplaced.started⟩, hplaced.log⟩
    · cases hstep
      exact exitEarly hplaced
  | start =>
    rw [hmain] at hplaced hstep
    dsimp only at hstep
    split at hstep
    · next foundRunning log hc hlog =>
      cases hstep
      rcases hplaced with ⟨⟨pc, hstart, -⟩, -⟩ | ⟨-, _, result, hlog', hstarted⟩
      · rw [hc] at hstart
        cases hstart
      · obtain rfl : true = result := by
          rw [hlog] at hlog'
          exact (Returned.start.inj (List.cons.inj hlog').1).2
        exact ⟨hc, ⟨foundRunning, by rw [goto, hlog]; simp⟩, hstarted rfl⟩
    · next foundRunning log hc hlog =>
      obtain ⟨-, rfl⟩ := call_eq hstep
      rcases hplaced with ⟨⟨pc, hstart, -⟩, -⟩ | ⟨-, _, result, hlog', -⟩
      · rw [hc] at hstart
        cases hstart
      · refine ⟨rfl, iff_of_false (by simp) ?_, by simp⟩
        rintro ⟨found, hmem⟩
        have hmem' : Returned.start found true ∈ h.system.log := hmem
        rw [hlog] at hlog'
        cases hlog'
        rw [hlog] at hmem'
        simp at hmem'
    · cases hstep
  | unblockStopSignals =>
    rw [hmain] at hplaced hstep
    dsimp only at hstep
    split at hstep
    · cases hstep
      exact hplaced
    · obtain ⟨-, rfl⟩ := call_eq hstep
      exact ⟨.inl rfl, hplaced.2.log, hplaced.2.started⟩
  | unblockFailed =>
    rw [hmain] at hplaced hstep
    dsimp only at hstep
    split at hstep <;> cases hstep
    next hc => exact ⟨hc, hplaced.2⟩
  | test =>
    rw [hmain] at hplaced hstep
    dsimp only at hstep
    split at hstep
    · obtain ⟨-, rfl⟩ := call_eq hstep
      exact ⟨.inl rfl, hplaced.2.log, hplaced.2.started⟩
    · cases hstep
      exact hplaced
  | pause =>
    rw [hmain] at hplaced hstep
    cases hstep
    exact hplaced
  | suspended =>
    rw [hmain] at hstep
    cases hstep
  | requestStop =>
    rw [hmain] at hplaced hstep
    obtain ⟨hidle, rfl⟩ := call_eq hstep
    rcases hplaced.1 with hc | ⟨-, hstop⟩
    · rw [hidle] at hc
      cases hc
    · exact ⟨.inl ⟨_, rfl, fun _ => hplaced.2.started⟩, hstop, hplaced.2.log⟩
  | join =>
    rw [hmain] at hplaced hstep
    dsimp only at hstep
    split at hstep
    · next joined log hc hlog =>
      cases hstep
      rcases hplaced.1 with ⟨pc, hjoin, -⟩ | ⟨-, _, hlog'⟩
      · rw [hc] at hjoin
        cases hjoin
      · rw [hlog] at hlog'
        cases hlog'
        exact ⟨hc, rfl, hplaced.2⟩
    · cases hstep
  | restoreMask joined =>
    rw [hmain] at hplaced hstep
    obtain ⟨-, rfl⟩ := call_eq hstep
    obtain ⟨-, rfl, hstop, hstarted⟩ := hplaced
    exact ⟨rfl, iff_of_true rfl hstarted, fun _ => hstop⟩
  | destroy joined =>
    rw [hmain] at hplaced hstep
    dsimp only at hstep
    split at hstep <;> cases hstep
    next hc => exact ⟨.inl hc, hplaced.2.1⟩
  | exited success =>
    rw [hmain] at hstep
    cases hstep

/-- Steps that leave the controller, its log and its flags leave what main says of them. -/
theorem Placed.frame (hplaced : h.Placed) {system : System D}
    (hcontroller : system.controller = h.system.controller) (hlog : system.log = h.system.log)
    (hstarted : system.flags.started = h.system.flags.started)
    (hrt : h.system.rtThreads = [] → system.rtThreads = [])
    (hwait : h.system.waitThreads = [] → system.waitThreads = [])
    (hstop : h.system.flags.stopRequested = true → system.flags.stopRequested = true) :
    ({ h with system } : Host D).Placed := by
  have hhas : system.HasStarted ↔ h.system.HasStarted := by
    rw [System.HasStarted, System.HasStarted, hlog]
  have hlaunched : h.system.Launched → system.Launched := fun hlaunched =>
    ⟨hhas.mpr hlaunched.log, hstarted.trans hlaunched.started⟩
  have huntouched : h.system.Untouched → system.Untouched := fun hs =>
    ⟨hcontroller.trans hs.controller, hlog.trans hs.log, hstarted.trans hs.started, hrt hs.rt,
      hwait hs.wait⟩
  unfold Placed at hplaced ⊢
  dsimp only
  rw [hcontroller, hlog, hstarted, hhas]
  split at hplaced
  · exact huntouched hplaced
  · exact huntouched hplaced
  · exact huntouched hplaced
  · exact hplaced
  · exact ⟨hplaced.1, hlaunched hplaced.2⟩
  · exact ⟨hplaced.1, hlaunched hplaced.2⟩
  · exact ⟨hplaced.1, hlaunched hplaced.2⟩
  · exact ⟨hplaced.1, hlaunched hplaced.2⟩
  · exact ⟨hplaced.1, hlaunched hplaced.2⟩
  · exact ⟨hplaced.1.imp_right fun hidle => ⟨hidle.1, hstop hidle.2⟩, hlaunched hplaced.2⟩
  · exact ⟨hplaced.1, hstop hplaced.2.1, hplaced.2.2⟩
  · exact ⟨hplaced.1, hplaced.2.1, hstop hplaced.2.2.1, hplaced.2.2.2⟩
  · exact ⟨hplaced.1, hplaced.2.1, fun hjoined => hstop (hplaced.2.2 hjoined)⟩
  · exact ⟨hplaced.1.imp_right huntouched, hplaced.2⟩

/-- A step of the call that main is in. -/
theorem Placed.controllerStep (hplaced : h.Placed) (hcovered : h.system.Covered)
    (howing : h.system.Owing) {outcome : Bool} {system : System D}
    (hstep : h.system.step (.controller outcome) = some system) :
    ({ h with system } : Host D).Placed := by
  have hmove := System.controllerStep_cases hstep
  have hbusy : h.system.controller ≠ .idle := by
    intro hidle
    rw [System.step, System.controllerStep, hidle] at hstep
    cases hstep
  have hstays : (∀ pc, h.system.controller ≠ .start pc) → h.system.flags.stopRequested = true →
      system.flags.stopRequested = true := fun hc hstop =>
    WindsDown.stays_of_act (a := .step (.controller outcome)) hcovered hstop
      (fun hrestarts => hc _ hrestarts.1) hstep
  unfold Placed at hplaced ⊢
  dsimp only
  cases hmain : h.main with
  | blockProcessSignals | installSignalHandlers | create =>
    rw [hmain] at hplaced
    exact absurd hplaced.controller hbusy
  | unblockStopSignals | test | pause | suspended | restoreMask =>
    rw [hmain] at hplaced
    exact absurd hplaced.1 hbusy
  | start =>
    rw [hmain] at hplaced
    rcases hplaced with ⟨⟨pc, hc, -⟩, hlog⟩ | ⟨hidle, -⟩
    · cases hmove with
      | start pc' hc' hmove => exact System.startMove_placed hcovered hc' hlog hmove
      | requestStop hc' | join _ hc' | destroyStop hc' | destroyStarted hc' | destroyUnstarted hc'
      | destroyJoined hc' | destroyUnjoined hc' | destroyJoin _ hc' | destroyFree hc' =>
        rw [hc] at hc'
        cases hc'
    · exact absurd hidle hbusy
  | unblockFailed =>
    rw [hmain] at hplaced
    have hc := hplaced.1.resolve_right hbusy
    rw [System.step, System.controllerStep, hc] at hstep
    cases hstep
    obtain ⟨foundRunning, hmem⟩ := hplaced.2.log
    exact ⟨.inr rfl, ⟨foundRunning, List.mem_cons_of_mem _ hmem⟩, hplaced.2.started⟩
  | requestStop =>
    rw [hmain] at hplaced
    have hc := hplaced.1.resolve_right fun hidle => hbusy hidle.1
    rw [System.step, System.controllerStep, hc] at hstep
    cases hstep
    obtain ⟨foundRunning, hmem⟩ := hplaced.2.log
    exact ⟨.inr ⟨rfl, rfl⟩, ⟨foundRunning, List.mem_cons_of_mem _ hmem⟩, hplaced.2.started⟩
  | join =>
    rw [hmain] at hplaced
    obtain ⟨hjoin, hstop, hhas⟩ := hplaced
    obtain ⟨pc, hc, hstarted⟩ := hjoin.resolve_right fun hidle => hbusy hidle.1
    have hstop' := hstays (by rw [hc]; simp) hstop
    rcases System.joinMove_placed howing hc hstarted (hmove.of_join hc) with
      ⟨hon, hlog⟩ | ⟨hidle, hlog⟩
    · exact ⟨.inl hon, hstop', hhas.of_log (hlog ▸ List.suffix_rfl)⟩
    · exact ⟨.inr ⟨hidle, _, hlog⟩, hstop', hhas.of_log (hlog ▸ List.suffix_cons _ _)⟩
  | destroy joined =>
    rw [hmain] at hplaced
    obtain ⟨hdestroying, hjoined, hstop⟩ := hplaced
    obtain ⟨hdestroying', hlog⟩ := System.destroyMove_placed hdestroying hmove
    have hnot : ∀ pc, h.system.controller ≠ .start pc := by
      rintro pc hc
      rw [hc] at hdestroying
      cases hdestroying
    refine ⟨hdestroying', ?_, fun htrue => hstays hnot (hstop htrue)⟩
    rw [System.HasStarted, hlog]
    exact hjoined
  | exited success =>
    rw [hmain] at hplaced
    rcases hplaced.1 with hc | huntouched
    · rw [System.step, System.controllerStep, hc] at hstep
      cases hstep
    · exact absurd huntouched.controller hbusy

/-- The handler of a stop signal leaves main where it is, ends its `pause`, or ends the process
before it has called the engine. -/
theorem Placed.signalHandler (hplaced : h.Placed) :
    h.signalHandler.system = h.system ∧ h.signalHandler.Placed := by
  obtain ⟨main, stopRequested, blocked, previousMask, pending, system⟩ := h
  cases main with
  | blockProcessSignals | installSignalHandlers => exact ⟨rfl, exitEarly hplaced⟩
  | _ => exact ⟨rfl, hplaced⟩

/-- Main starts the engine once. -/
theorem Placed.startsJoined (hplaced : h.Placed) (a : Step D.limits) :
    h.system.StartsJoined a := by
  intro hc _
  unfold Placed at hplaced
  split at hplaced
  · exact hplaced.started
  · exact hplaced.started
  · exact hplaced.started
  · rcases hplaced with ⟨⟨pc, hpc, hstarted⟩, -⟩ | ⟨hidle, -⟩
    · rw [hc] at hpc
      exact hstarted (Controller.start.inj hpc).symm
    · simp [hc] at hidle
  · simp [hc] at hplaced
  · simp [hc] at hplaced
  · simp [hc] at hplaced
  · simp [hc] at hplaced
  · simp [hc] at hplaced
  · simp [hc] at hplaced
  · simp [hc] at hplaced
  · simp [hc] at hplaced
  · simp [hc, Controller.destroying] at hplaced
  · rcases hplaced.1 with hdestroyed | huntouched
    · simp [hc] at hdestroyed
    · exact huntouched.started

/-- What holds of the engine and of main in every reachable state of the host. -/
structure Orderly (h : Host D) : Prop where
  covered : h.system.Covered
  joining : h.system.Joining
  placed : h.Placed

theorem Orderly.joining_step (hs : h.Orderly) {a : Step D.limits} {system : System D}
    (hstep : h.system.step a = some system) : system.Joining :=
  (hs.joining.owing.moved hs.covered hstep).joining hs.joining (hs.placed.startsJoined a)

/-- A step of the host is one of main, one of the engine, or leaves both. -/
theorem Orderly.step (hs : h.Orderly) {a : HostStep D.limits} (hstep : h.step a = some h') :
    h'.Orderly := by
  have ⟨hcovered, hjoining, hplaced⟩ := hs
  cases a with
  | main outcome =>
    have hplaced' := hplaced.mainStep hstep
    rcases h.mainStep_system hstep with hsame | ⟨call, hcall⟩
    · exact ⟨hsame ▸ hcovered, hsame ▸ hjoining, hplaced'⟩
    · exact ⟨hcovered.step hcall, hs.joining_step hcall, hplaced'⟩
  | engine a =>
    dsimp only [Host.step] at hstep
    split at hstep
    · cases hstep
    · next hcall =>
      have hcall' := Bool.eq_false_iff.mpr hcall
      obtain ⟨system, hthread, rfl⟩ := Option.map_eq_some_iff.mp hstep
      refine ⟨hcovered.step hthread, hs.joining_step hthread, ?_⟩
      by_cases hcontroller : ∃ outcome, a = .controller outcome
      · obtain ⟨outcome, rfl⟩ := hcontroller
        exact hplaced.controllerStep hcovered hjoining.owing hthread
      · have ha : ∀ outcome, a ≠ .controller outcome := not_exists.mp hcontroller
        obtain ⟨hc, hlog, -⟩ := System.threadStep_stop hcovered ha hcall' hthread
        obtain ⟨hstarted, hrt, hwait⟩ := System.threadStep_started ha hcall' hthread
        refine hplaced.frame hc hlog hstarted hrt hwait fun hstop => ?_
        refine WindsDown.stays_of_act (a := .step a) hcovered hstop ?_ hthread
        rintro ⟨-, outcome, heq⟩
        cases heq
        exact ha outcome rfl
  | raise signal =>
    cases hstep
    exact ⟨hcovered, hjoining, hplaced⟩
  | deliver signal =>
    dsimp only [Host.step] at hstep
    split at hstep <;> cases hstep
    have hpending : (h.setPending signal false).Placed := hplaced
    obtain ⟨hsystem, hplaced'⟩ := hpending.signalHandler
    exact ⟨hsystem ▸ hcovered, hsystem ▸ hjoining, hplaced'⟩

theorem orderly_of_reachable (hreach : h.Reachable) : h.Orderly := by
  refine Reachable.invariant (P := Orderly) ?_ (fun _ _ _ hs => hs.step) hreach
  rintro h ⟨hmain, -, hinitial⟩
  refine ⟨System.covered_of_initial hinitial, System.joining_of_initial hinitial, ?_⟩
  unfold Placed
  rw [hmain]
  obtain ⟨hflags, hcontroller, hrt, hwait, hlog⟩ := hinitial
  exact ⟨hcontroller, hlog, by rw [System.flags, hflags]; rfl, hrt, hwait⟩

/-! ### Main's way out -/

/-- Main has left its waiting loop, or its failed `start`, and the engine's stop is requested. -/
def Leaving (h : Host D) : Prop :=
  (h.main = .requestStop ∨ h.main = .join ∨ (∃ joined, h.main = .restoreMask joined) ∨
    (∃ joined, h.main = .destroy joined) ∨ ∃ success, h.main = .exited success) ∧
    h.system.flags.stopRequested = true

/-- A step of main, or of the engine's threads and calls. -/
def works {L : Limits} : HostStep L → Bool
  | .main _ => true
  | .engine a => (Act.step a).works
  | _ => false

end Host

/-- The steps left to main on its way out, with those of the calls that it still makes. -/
def MainState.rank : MainState → Nat
  | .requestStop => 18
  | .join => 12
  | .restoreMask _ => 11
  | .destroy _ => 1
  | _ => 0

namespace Host

variable {h h' : Host D}

def potential (h : Host D) : Nat := h.system.potential + h.main.rank

/-- The states on main's way out. -/
def WayOut (h : Host D) : Prop := h.Orderly ∧ h.Leaving

theorem goto_potential (s : System D) (c : Controller) :
    (s.goto c).potential + s.controller.rank = s.potential + c.rank := by
  simp only [System.potential, System.goto, System.budget]
  omega

theorem WayOut.mainStep (hs : h.WayOut) {outcome : Bool} (hstep : h.mainStep outcome = some h') :
    h'.Leaving ∧ 1 + h'.potential ≤ h.potential := by
  obtain ⟨horderly, hmain, hstop⟩ := hs
  unfold Host.mainStep at hstep
  rcases hmain with hmain | hmain | ⟨joined, hmain⟩ | ⟨joined, hmain⟩ | ⟨success, hmain⟩
  · rw [hmain] at hstep
    obtain ⟨hidle, rfl⟩ := call_eq hstep
    refine ⟨⟨.inr (.inl rfl), hstop⟩, ?_⟩
    have hpotential := goto_potential h.system (.join .loadStarted)
    simp only [hidle, Controller.rank, JoinState.rank] at hpotential
    simp only [potential, hmain, MainState.rank, System.callState]
    omega
  · rw [hmain] at hstep
    dsimp only at hstep
    split at hstep <;> cases hstep
    refine ⟨⟨.inr (.inr (.inl ⟨_, rfl⟩)), hstop⟩, ?_⟩
    simp only [potential, goto, hmain, MainState.rank]
    omega
  · rw [hmain] at hstep
    obtain ⟨hidle, rfl⟩ := call_eq hstep
    refine ⟨⟨.inr (.inr (.inr (.inl ⟨_, rfl⟩))), hstop⟩, ?_⟩
    have hpotential := goto_potential h.system .destroyStop
    rw [hidle] at hpotential
    simp only [Controller.rank] at hpotential
    simp only [potential, hmain, MainState.rank, System.callState]
    omega
  · rw [hmain] at hstep
    dsimp only at hstep
    split at hstep <;> cases hstep
    refine ⟨⟨.inr (.inr (.inr (.inr ⟨_, rfl⟩))), hstop⟩, ?_⟩
    simp only [potential, goto, hmain, MainState.rank]
    omega
  · rw [hmain] at hstep
    cases hstep

/-- On its way out main is in no `start`. -/
theorem WayOut.not_start (hs : h.WayOut) (pc : StartState) : h.system.controller ≠ .start pc := by
  obtain ⟨⟨-, -, hplaced⟩, hmain, -⟩ := hs
  intro hc
  unfold Placed at hplaced
  rcases hmain with hmain | hmain | ⟨joined, hmain⟩ | ⟨joined, hmain⟩ | ⟨success, hmain⟩
  · simp [hmain, hc] at hplaced
  · simp [hmain, hc] at hplaced
  · simp [hmain, hc] at hplaced
  · simp [hmain, hc, Controller.destroying] at hplaced
  · rw [hmain] at hplaced
    rcases hplaced.1 with hdestroyed | huntouched
    · simp [hc] at hdestroyed
    · exact absurd (hc.symm.trans huntouched.controller) (by simp)

theorem amortised : Amortised (step (D := D)) (fun _ _ => True) WayOut potential works
    fun _ => 0 where
  inv {h h' a} hs hok hstep := by
    refine ⟨hs.1.step hstep, ?_⟩
    cases a with
    | main outcome => exact (hs.mainStep hstep).1
    | engine a =>
      dsimp only [step] at hstep
      split at hstep
      · cases hstep
      · obtain ⟨system, hthread, rfl⟩ := Option.map_eq_some_iff.mp hstep
        exact ⟨hs.2.1, WindsDown.stays_of_act (a := .step a) hs.1.covered hs.2.2
          (fun hrestarts => hs.not_start _ hrestarts.1) hthread⟩
    | raise signal =>
      cases hstep
      exact hs.2
    | deliver signal =>
      dsimp only [step] at hstep
      split at hstep <;> cases hstep
      obtain ⟨hmain, hstop⟩ := hs.2
      rcases hmain with hmain | hmain | ⟨joined, hmain⟩ | ⟨joined, hmain⟩ | ⟨success, hmain⟩ <;>
        simp [signalHandler, setPending, Leaving, hmain, hstop]
  pays {h h' a} hs hok hstep := by
    cases a with
    | main outcome =>
      have hpays := (hs.mainStep hstep).2
      simpa [works] using hpays
    | engine a =>
      dsimp only [step] at hstep
      split at hstep
      · cases hstep
      · next hcall =>
        obtain ⟨system, hthread, rfl⟩ := Option.map_eq_some_iff.mp hstep
        have hpays := System.amortised.pays (a := .step a) ⟨hs.1.covered, hs.2.2⟩
          (fun hrestarts => hs.not_start _ hrestarts.1) hthread
        have hgrant : System.grant (.step a) = 0 := by
          cases a <;> first | rfl | exact absurd rfl hcall
        simp only [works, potential]
        omega
    | raise signal =>
      cases hstep
      simp [works, potential, setPending]
    | deliver signal =>
      dsimp only [step] at hstep
      split at hstep <;> cases hstep
      have hmain := hs.2.1
      rcases hmain with hmain | hmain | ⟨joined, hmain⟩ | ⟨joined, hmain⟩ | ⟨success, hmain⟩ <;>
        simp [signalHandler, setPending, works, potential, hmain]

/-- Once the engine is at rest main can take its next step. -/
theorem WayOut.main_enabled (hs : h.WayOut) (hrest : h.system.AtRest)
    (hmain : ∀ success, h.main ≠ .exited success) : ∃ h', h.mainStep true = some h' := by
  have hstart := hs.not_start .storeStopRequested
  obtain ⟨⟨-, -, hplaced⟩, hleaving, -⟩ := hs
  have hcontroller : h.system.controller = .idle ∨ h.system.controller = .destroyed := by
    rcases hrest.controller with hc | hc | hc
    · exact .inl hc
    · exact .inr hc
    · exact absurd hc hstart
  have hcall : ∀ (call : Call) (main : MainState), h.system.controller = .idle →
      ∃ h', h.call call main = some h' := by
    intro call main hidle
    exact ⟨_, by rw [Host.call, System.step, if_pos hidle]; rfl⟩
  unfold Placed at hplaced
  unfold Host.mainStep
  rcases hleaving with hplace | hplace | ⟨joined, hplace⟩ | ⟨joined, hplace⟩ | ⟨success, hplace⟩
  · rw [hplace] at hplaced ⊢
    refine hcall _ _ ?_
    rcases hplaced.1 with hc | ⟨hidle, -⟩
    · simp [hc] at hcontroller
    · exact hidle
  · rw [hplace] at hplaced ⊢
    rcases hplaced.1 with ⟨pc, hc, -⟩ | ⟨hidle, log, hlog⟩
    · simp [hc] at hcontroller
    · exact ⟨h.goto (.restoreMask true), by rw [hidle, hlog]⟩
  · rw [hplace] at hplaced ⊢
    have hidle := hplaced.1
    refine Option.isSome_iff_exists.mp ?_
    simp [Host.call, System.step, hidle]
  · rw [hplace] at hplaced ⊢
    rcases hcontroller with hc | hc
    · simp [hc, Controller.destroying] at hplaced
    · exact ⟨_, if_pos hc⟩
  · exact absurd hplace (hmain success)

/-- On its way out main, or something that it waits for, can take a step until main has returned. -/
theorem WayOut.working (hs : h.WayOut) (hmain : ∀ success, h.main ≠ .exited success) :
    ∃ (a : HostStep D.limits) (h' : Host D), works a = true ∧ h.step a = some h' := by
  by_cases hrest : h.system.AtRest
  · obtain ⟨h', hstep⟩ := hs.main_enabled hrest hmain
    exact ⟨.main true, h', rfl, hstep⟩
  · obtain ⟨a, system, ha, -, hact⟩ := System.working hrest
    cases a with
    | requestStop => cases ha
    | step a =>
      have hcall : a.isCall = false := by cases a <;> first | rfl | cases ha
      refine ⟨.engine a, { h with system }, ha, ?_⟩
      have hact' : h.system.step a = some system := hact
      simp [step, hcall, hact']

/-- Where main has returned, the engine is destroyed or was never called, and no thread of it is
left: each has returned and been joined once. -/
theorem Orderly.exited (hs : h.Orderly) {success : Bool} (hmain : h.main = .exited success) :
    (success = true ↔ h.system.HasStarted) ∧
      (h.system.controller = .destroyed ∨ h.system.Untouched) ∧
      (∀ t ∈ h.system.rtThreads, t.state = .returned ∧ t.joins = 1) ∧
      ∀ t ∈ h.system.waitThreads, t.state = .returned ∧ t.joins = 1 := by
  obtain ⟨hcovered, hjoining, hplaced⟩ := hs
  unfold Placed at hplaced
  rw [hmain] at hplaced
  obtain ⟨hengine, hsuccess⟩ := hplaced
  refine ⟨hsuccess, hengine, ?_⟩
  rcases hengine with hdestroyed | huntouched
  · obtain ⟨hrt, hwait⟩ := (hjoining.joinedOnce hcovered).destroyed (.inr hdestroyed)
    refine ⟨fun t ht => ⟨?_, hrt t ht⟩, fun t ht => ⟨?_, hwait t ht⟩⟩
    · exact hcovered.rt.joined t ht (by rw [hrt t ht]; exact Nat.one_ne_zero)
    · exact hcovered.wait.joined t ht (by rw [hwait t ht]; exact Nat.one_ne_zero)
  · rw [huntouched.rt, huntouched.wait]
    simp

end Host

/-- When main has returned, its result tells whether `start` had succeeded, and no thread of the
engine is left.  From the moment main has left its loop with the stop requested, main, the engine's
threads and its calls take a bounded number of steps in any interleaving; they are never stuck
before main has returned, and some further steps of theirs lead there. -/
theorem main_exits {h : Host D} (hreach : h.Reachable) :
    (∀ success, h.main = .exited success → (success = true ↔ h.system.HasStarted) ∧
      (h.system.controller = .destroyed ∨ h.system.Untouched) ∧
      (∀ t ∈ h.system.rtThreads, t.state = .returned ∧ t.joins = 1) ∧
      ∀ t ∈ h.system.waitThreads, t.state = .returned ∧ t.joins = 1) ∧
    (h.Leaving → ∀ as h', Path Host.step (fun _ _ => True) h as h' →
      as.countP Host.works ≤ 2 * h.system.budget + h.system.waitThreads.length + 44 ∧
      ((∃ success, h'.main = .exited success) ∨
        ∃ a h'', Host.works a = true ∧ h'.step a = some h'') ∧
      ∃ bs h'', Path Host.step (fun _ _ => True) h' bs h'' ∧
        (∃ success, h''.main = .exited success) ∧ ∀ b ∈ bs, Host.works b = true) := by
  have horderly := Host.orderly_of_reachable hreach
  refine ⟨fun success hmain => horderly.exited hmain, fun hleaving as h' hpath => ?_⟩
  obtain ⟨hwayOut, hbound⟩ := Host.amortised.path ⟨horderly, hleaving⟩ hpath
  have hpotential := System.potential_le horderly.covered
  have hmain : h.main.rank ≤ 18 := by
    cases h.main <;> simp [MainState.rank]
  have hgrants : (as.map fun _ => 0).sum = 0 := by simp
  refine ⟨?_, ?_, ?_⟩
  · simp only [Host.potential] at hbound
    omega
  · by_cases hexited : ∃ success, h'.main = .exited success
    · exact .inl hexited
    · exact .inr (hwayOut.working (not_exists.mp hexited))
  · refine Host.amortised.exhausts (fun k hk hexited => ?_) hwayOut
    obtain ⟨a, k', ha, hstep⟩ := hk.working (not_exists.mp hexited)
    exact ⟨a, k', ha, rfl, trivial, hstep⟩

namespace Reference

/-- The process whose main has seen the request of a `SIGINT` and has requested the engine's
stop. -/
def leaving : Host deps :=
  (Transition.run Host.step host
    (untilPause.dropLast ++
      [.raise .int, .deliver .int, .main true, .engine (.controller true)])).get
    (by decide)

end Reference

theorem main_exits_reference :
    Reference.leaving.main = .requestStop ∧
      ∃ bs h'', Path Host.step (fun _ _ => True) Reference.leaving bs h'' ∧
        ∃ success, h''.main = .exited success := by
  have hhost : Reference.host.Reachable := .start ⟨rfl, rfl, rfl, rfl, rfl, rfl, rfl⟩
  have hreach : Reference.leaving.Reachable := hhost.run (Option.some_get _).symm
  have hleaving : Reference.leaving.Leaving := ⟨.inl rfl, rfl⟩
  obtain ⟨-, -, bs, h'', hpath, hexited, -⟩ := (main_exits hreach).2 hleaving _ _ .refl
  exact ⟨rfl, bs, h'', hpath, hexited⟩

end RtsynEngine
