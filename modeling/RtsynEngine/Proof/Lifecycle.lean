import RtsynEngine.Proof.Loop
import RtsynEngine.Proof.Steps
import RtsynEngine.Reference

/-! The invariant of the engine's threads: at most the newest RT thread runs its loop, and the flags
and the newest wait thread, or the controller's `start`, cover it. -/

namespace RtsynEngine

open Handle

variable {D : Deps}

/-! ### The invariant -/

/-- What the controller's place says of the threads. -/
inductive Phase
  /-- No thread touches the engine. -/
  | quiet
  /-- `start` has launched an RT thread and no wait thread yet. -/
  | launched
  /-- The threads run on their own. -/
  | resting
deriving DecidableEq

def Controller.phase : Controller → Phase
  | .idle | .requestStop | .start .loadRunning => .resting
  | .join .loadStarted | .join .loadWaitJoined | .join .joinWait => .resting
  | .destroyStop | .destroyLoadStarted | .destroyLoadWaitJoined => .resting
  | .destroyJoin .loadStarted | .destroyJoin .loadWaitJoined | .destroyJoin .joinWait => .resting
  | .start .runWait | .start .waitFailedStop | .start .waitFailedJoin => .launched
  | _ => .quiet

theorem Controller.start_of_launched {c : Controller} (h : c.phase = .launched) :
    ∃ pc, c = .start pc := by
  cases c with
  | start pc => exact ⟨pc, rfl⟩
  | join pc => cases pc <;> cases h
  | destroyJoin pc => cases pc <;> cases h
  | _ => cases h

/-- A wait thread that does not touch the engine any more. -/
def WaitState.passive (state : WaitState) : Prop := state = .returning ∨ state = .returned

/-- What `start` has stored. -/
def StartState.stored (f : Flags) : StartState → Prop
  | .storeWaitJoined => f.rtJoined = false
  | .storeRunning => f.rtJoined = false ∧ f.waitJoined = false
  | .storeStarted => f.rtJoined = false ∧ f.waitJoined = false ∧ f.running = true
  | .runRt | .runWait | .waitFailedStop | .waitFailedJoin =>
    f.rtJoined = false ∧ f.waitJoined = false ∧ f.running = true ∧ f.started = true
  | _ => True

/-- The flags that cover the threads are the same. -/
structure SameCover (f f' : Flags) : Prop where
  running : f'.running = f.running
  started : f'.started = f.started
  rtJoined : f'.rtJoined = f.rtJoined
  waitJoined : f'.waitJoined = f.waitJoined

theorem SameCover.refl (f : Flags) : SameCover f f := ⟨rfl, rfl, rfl, rfl⟩

theorem SameCover.stored {f f' : Flags} (h : SameCover f f') {pc : StartState}
    (hstored : pc.stored f) : pc.stored f' := by
  have hsame : pc.stored f' = pc.stored f := by
    unfold StartState.stored
    rw [h.running, h.started, h.rtJoined, h.waitJoined]
  rwa [hsame]

/-- The log shows that the last launch is over: since the last successful `start`, a `start` has
failed or a `join` has returned true. -/
def launchOver : List Returned → Bool
  | [] => true
  | .start _ true :: _ => false
  | .start false false :: _ => true
  | .join true :: _ => true
  | .start true false :: log | .requestStop :: log | .join false :: log => launchOver log

/-- How the newest RT thread, at `rt`, and the newest wait thread, at `wait`, are covered. -/
structure Coverage {L : Limits} (c : Controller) (f : Flags) (rt : RtState L) (wait : WaitState)
    (log : List Returned) : Prop where
  quiet : c.phase = .quiet → rt = .returned ∧ wait.passive
  launched : c.phase = .launched → wait.passive
  live : rt ≠ .returned → f.running = true ∧ f.rtJoined = false ∧
    (c.phase = .launched ∨ wait = .join)
  active : ¬wait.passive → f.running = true ∧ f.started = true ∧ f.waitJoined = false
  stored : ∀ pc, c = .start pc → pc.stored f
  resting : c.phase = .resting → launchOver log = true → rt = .returned ∧ wait.passive

/-- The invariant of the threads. -/
structure System.Covered (s : System D) : Prop where
  rt : Settled (· = .returned) .returned s.rtThreads
  wait : Settled WaitState.passive .returned s.waitThreads
  coverage : Coverage s.controller s.flags (headState .returned s.rtThreads)
    (headState .returned s.waitThreads) s.log

namespace Coverage

variable {L : Limits} {c : Controller} {f : Flags} {rt : RtState L} {wait : WaitState}
  {log : List Returned}

theorem idle_of_not_running (h : Coverage c f rt wait log) (hrunning : f.running = false) :
    rt = .returned ∧ wait.passive := by
  constructor
  · by_contra hlive
    rw [(h.live hlive).1] at hrunning
    cases hrunning
  · by_contra hactive
    rw [(h.active hactive).1] at hrunning
    cases hrunning

theorem returned_of_passive (h : Coverage c f rt wait log) (hphase : c.phase ≠ .launched)
    (hpassive : wait.passive) : rt = .returned := by
  by_contra hlive
  rcases (h.live hlive).2.2 with hlaunched | rfl
  · exact hphase hlaunched
  · rcases hpassive with hpassive | hpassive <;> cases hpassive

theorem passive_of_not_started (h : Coverage c f rt wait log) (hstarted : ¬f.started = true) :
    wait.passive := by
  by_contra hactive
  exact hstarted (h.active hactive).2.1

theorem passive_of_joined (h : Coverage c f rt wait log) (hjoined : f.waitJoined = true) :
    wait.passive := by
  by_contra hactive
  rw [(h.active hactive).2.2] at hjoined
  cases hjoined

theorem of_idle {c' : Controller} {f' : Flags} {log' : List Returned} (hrt : rt = .returned)
    (hwait : wait.passive) (hstored : ∀ pc, c' = .start pc → pc.stored f') :
    Coverage c' f' rt wait log' where
  quiet _ := ⟨hrt, hwait⟩
  launched _ := hwait
  live hlive := absurd hrt hlive
  active hactive := absurd hwait hactive
  stored := hstored
  resting _ _ := ⟨hrt, hwait⟩

theorem keep (h : Coverage c f rt wait log) {c' : Controller} {f' : Flags} {log' : List Returned}
    (hphase : c'.phase = c.phase) (hflags : SameCover f f')
    (hstored : ∀ pc, c' = .start pc → pc.stored f)
    (hlog : launchOver log' = true → launchOver log = true) : Coverage c' f' rt wait log' where
  quiet hquiet := h.quiet (hphase ▸ hquiet)
  launched hlaunched := h.launched (hphase ▸ hlaunched)
  live hlive := by
    rw [hflags.running, hflags.rtJoined, hphase]
    exact h.live hlive
  active hactive := by
    rw [hflags.running, hflags.started, hflags.waitJoined]
    exact h.active hactive
  stored pc hpc := hflags.stored (hstored pc hpc)
  resting hresting hover := h.resting (hphase ▸ hresting) (hlog hover)

theorem rtStep (h : Coverage c f rt wait log) (hlive : rt ≠ .returned) {f' : Flags}
    (hflags : SameCover f f') (rt' : RtState L) : Coverage c f' rt' wait log where
  quiet hquiet := absurd (h.quiet hquiet).1 hlive
  launched := h.launched
  live _ := by
    rw [hflags.running, hflags.rtJoined]
    exact h.live hlive
  active hactive := by
    rw [hflags.running, hflags.started, hflags.waitJoined]
    exact h.active hactive
  stored pc hpc := hflags.stored (h.stored pc hpc)
  resting hresting hover := absurd (h.resting hresting hover).1 hlive

theorem resting_of_active (h : Coverage c f rt wait log) (hactive : ¬wait.passive) :
    c.phase = .resting := by
  cases hphase : c.phase with
  | quiet => exact absurd (h.quiet hphase).2 hactive
  | launched => exact absurd (h.launched hphase) hactive
  | resting => rfl

theorem stored_of_resting (hresting : c.phase = .resting) (f' : Flags) :
    ∀ pc, c = .start pc → pc.stored f' := by
  rintro pc rfl
  cases pc <;> first | exact trivial | exact nomatch hresting

/-- The wait thread goes on after the RT thread has returned: it may clear `running` when it is
done itself. -/
theorem waitStep (h : Coverage c f rt wait log) (hactive : ¬wait.passive) (hrt : rt = .returned)
    {wait' : WaitState} {f' : Flags} (hstarted : f'.started = f.started)
    (hwaitJoined : f'.waitJoined = f.waitJoined)
    (hrunning : ¬wait'.passive → f'.running = f.running) : Coverage c f' rt wait' log where
  quiet hquiet := absurd (h.quiet hquiet).2 hactive
  launched hlaunched := absurd (h.launched hlaunched) hactive
  live hlive := absurd hrt hlive
  active hactive' := by
    rw [hrunning hactive', hstarted, hwaitJoined]
    exact h.active hactive
  stored := stored_of_resting (h.resting_of_active hactive) f'
  resting hresting hover := absurd (h.resting hresting hover).2 hactive

theorem returned_of_not_join (h : Coverage c f rt wait log) (hactive : ¬wait.passive)
    (hjoin : wait ≠ .join) : rt = .returned := by
  by_contra hlive
  rcases (h.live hlive).2.2 with hlaunched | hjoins
  · exact hactive (h.launched hlaunched)
  · exact hjoin hjoins

theorem waitReturn (h : Coverage c f rt wait log) (hpassive : wait.passive) :
    Coverage c f rt .returned log where
  quiet hquiet := ⟨(h.quiet hquiet).1, .inr rfl⟩
  launched _ := .inr rfl
  live hlive := by
    obtain ⟨hrunning, hrtJoined, hlaunched | rfl⟩ := h.live hlive
    · exact ⟨hrunning, hrtJoined, .inl hlaunched⟩
    · rcases hpassive with hpassive | hpassive <;> cases hpassive
  active hactive := absurd (.inr rfl) hactive
  stored := h.stored
  resting hresting hover := ⟨(h.resting hresting hover).1, .inr rfl⟩

end Coverage

namespace System

namespace Covered

variable {s s' : System D}

theorem of_idle (h : s.Covered) (hidle : headState .returned s.rtThreads = .returned ∧
      (headState .returned s.waitThreads).passive) {c : Controller} {w : World D}
    {log : List Returned} (hstored : ∀ pc, c = .start pc → pc.stored w.engine.flags) :
    ({ s with controller := c, world := w, log } : System D).Covered :=
  ⟨h.rt, h.wait, .of_idle hidle.1 hidle.2 hstored⟩

theorem goto (h : s.Covered) {c : Controller} (hphase : c.phase = s.controller.phase)
    (hstored : ∀ pc, c = .start pc → pc.stored s.flags) : (s.goto c).Covered :=
  ⟨h.rt, h.wait, h.coverage.keep hphase (.refl _) hstored fun hover => hover⟩

/-- The RT thread is launched once the flags are stored and no other runs. -/
theorem launchRt (h : s.Covered) (hc : s.controller = .start .runRt) :
    (System.goto { s with rtThreads := ⟨.enter, 0⟩ :: s.rtThreads } (.start .runWait)).Covered := by
  have hcoverage := h.coverage
  rw [hc] at hcoverage
  obtain ⟨hrt, hwait⟩ := hcoverage.quiet rfl
  have hstored := hcoverage.stored .runRt rfl
  refine ⟨h.rt.launch hrt .enter, h.wait, ?_⟩
  exact {
    quiet := fun hquiet => nomatch hquiet
    launched := fun _ => hwait
    live := fun _ => ⟨hstored.2.2.1, hstored.1, .inl rfl⟩
    active := fun hactive => absurd hwait hactive
    stored := fun pc hpc => by cases hpc; exact hstored
    resting := fun hresting => nomatch hresting }

/-- The wait thread is launched beside the RT thread that it waits for. -/
theorem launchWait (h : s.Covered) (hc : s.controller = .start .runWait) :
    (System.ret { s with waitThreads := ⟨.join, 0⟩ :: s.waitThreads }
      (.start false true)).Covered := by
  have hcoverage := h.coverage
  rw [hc] at hcoverage
  have hstored := hcoverage.stored .runWait rfl
  refine ⟨h.rt, h.wait.launch (hcoverage.launched rfl) .join, ?_⟩
  exact {
    quiet := fun hquiet => nomatch hquiet
    launched := fun hlaunched => nomatch hlaunched
    live := fun _ => ⟨hstored.2.2.1, hstored.1, .inr rfl⟩
    active := fun _ => ⟨hstored.2.2.1, hstored.2.2.2, hstored.2.1⟩
    stored := fun pc hpc => nomatch hpc
    resting := fun _ hover => nomatch hover }

theorem startStep (h : s.Covered) {pc : StartState} (hc : s.controller = .start pc)
    {outcome : Bool} (hmove : StartMove s outcome pc s') : s'.Covered := by
  have hcoverage := h.coverage
  rw [hc] at hcoverage
  have hstored := hcoverage.stored pc rfl
  have hidle := hcoverage.quiet
  cases hmove with
  | found hrunning =>
    exact ⟨h.rt, h.wait, hcoverage.keep rfl (.refl _) (fun _ hpc => nomatch hpc) fun h => h⟩
  | begins hrunning =>
    exact h.of_idle (hcoverage.idle_of_not_running hrunning) fun pc hpc => by cases hpc; trivial
  | storeStopRequested => exact h.of_idle (hidle rfl) fun pc hpc => by cases hpc; trivial
  | storePaused => exact h.of_idle (hidle rfl) fun pc hpc => by cases hpc; trivial
  | storeRtJoined => exact h.of_idle (hidle rfl) fun pc hpc => by cases hpc; rfl
  | storeWaitJoined =>
    exact h.of_idle (hidle rfl) fun pc hpc => by cases hpc; exact ⟨hstored, rfl⟩
  | storeRunning =>
    refine h.of_idle (hidle rfl) fun pc hpc => ?_
    cases hpc
    exact ⟨hstored.1, hstored.2, rfl⟩
  | storeStarted =>
    refine h.of_idle (hidle rfl) fun pc hpc => ?_
    cases hpc
    exact ⟨hstored.1, hstored.2.1, hstored.2.2, rfl⟩
  | launchRt => exact h.launchRt hc
  | rtFailed => exact h.of_idle (hidle rfl) fun pc hpc => by cases hpc; trivial
  | rtFailedStarted => exact h.of_idle (hidle rfl) fun pc hpc => by cases hpc; trivial
  | rtFailedRunning => exact h.of_idle (hidle rfl) fun pc hpc => nomatch hpc
  | launchWait => exact h.launchWait hc
  | waitFailed =>
    refine h.goto (by rw [hc]; rfl) fun pc hpc => ?_
    cases hpc
    exact hstored
  | waitFailedStop =>
    refine ⟨h.rt, h.wait, hcoverage.keep rfl ⟨rfl, rfl, rfl, rfl⟩ (fun pc hpc => ?_) fun h => h⟩
    cases hpc
    exact hstored
  | waitFailedJoin hjoin =>
    obtain ⟨hrt, -, hreturned⟩ := h.rt.threadJoin hjoin
    refine ⟨hrt, h.wait, .of_idle hreturned (hcoverage.launched rfl) fun pc hpc => ?_⟩
    cases hpc
    trivial
  | waitFailedRtJoined => exact h.of_idle (hidle rfl) fun pc hpc => by cases hpc; trivial
  | waitFailedStarted => exact h.of_idle (hidle rfl) fun pc hpc => by cases hpc; trivial
  | waitFailedRunning => exact h.of_idle (hidle rfl) fun pc hpc => nomatch hpc

/-- `rtsyn_engine_join` returns to either of its callers, and stores its flags, only when nothing
runs. -/
theorem joinStep (h : s.Covered) {pc : JoinState → Controller} {ret : System D → Bool → System D}
    (hphase : ∀ j, (pc j).phase = (Controller.join j).phase) (hpc : ∀ j pc', pc j ≠ .start pc')
    (hret : ∀ (s : System D) result, ∃ c log, (∀ pc', c ≠ .start pc') ∧
      ret s result = { s with controller := c, log })
    {j : JoinState} (hc : s.controller = pc j) (hmove : JoinMove s pc ret j s') : s'.Covered := by
  have hcoverage := h.coverage
  rw [hc] at hcoverage
  have hreturned : ∀ t : System D, Settled (· = .returned) .returned t.rtThreads →
      Settled WaitState.passive .returned t.waitThreads →
      headState .returned t.rtThreads = .returned →
      (headState .returned t.waitThreads).passive → ∀ result, (ret t result).Covered := by
    intro t hrt hwait hrtHead hwaitHead result
    obtain ⟨c, log, hstart, heq⟩ := hret t result
    rw [heq]
    exact ⟨hrt, hwait, .of_idle hrtHead hwaitHead fun pc' hc' => absurd hc' (hstart pc')⟩
  cases hmove with
  | started hstarted =>
    exact h.goto (by rw [hc, hphase, hphase]; rfl) fun pc' hc' => absurd hc' (hpc _ _)
  | unstarted hstarted =>
    have hwait := hcoverage.passive_of_not_started (Bool.eq_false_iff.mp hstarted)
    have hrt := hcoverage.returned_of_passive (by rw [hphase]; decide) hwait
    exact hreturned s h.rt h.wait hrt hwait false
  | alreadyJoined hjoined =>
    have hwait := hcoverage.passive_of_joined hjoined
    have hrt := hcoverage.returned_of_passive (by rw [hphase]; decide) hwait
    exact hreturned s h.rt h.wait hrt hwait true
  | unjoined =>
    exact h.goto (by rw [hc, hphase, hphase]; rfl) fun pc' hc' => absurd hc' (hpc _ _)
  | joins hjoin =>
    obtain ⟨hwait, hbefore, hafter⟩ := h.wait.threadJoin hjoin
    have hrt := hcoverage.returned_of_passive (by rw [hphase]; decide) (.inr hbefore)
    exact ⟨h.rt, hwait, .of_idle hrt (.inr hafter) fun pc' hc' => absurd hc' (hpc _ _)⟩
  | @fails _ waitThreads hjoin =>
    obtain ⟨hwait, hbefore, hafter⟩ := h.wait.threadJoin hjoin
    have hrt := hcoverage.returned_of_passive (by rw [hphase]; decide) (.inr hbefore)
    exact hreturned { s with waitThreads } h.rt hwait hrt (.inr hafter) false
  | storeWaitJoined =>
    exact h.of_idle (hcoverage.quiet (hphase _)) fun pc' hc' => absurd hc' (hpc _ _)
  | storeStarted =>
    obtain ⟨hrt, hwait⟩ := hcoverage.quiet (hphase _)
    exact hreturned (s.setFlags { s.flags with started := false }) h.rt h.wait hrt hwait true

theorem controllerStep (h : s.Covered) {outcome : Bool} (hmove : ControllerMove s outcome s') :
    s'.Covered := by
  have hcoverage := h.coverage
  cases hmove with
  | start pc hc hmove => exact h.startStep hc hmove
  | requestStop hc =>
    rw [hc] at hcoverage
    exact ⟨h.rt, h.wait, hcoverage.keep rfl ⟨rfl, rfl, rfl, rfl⟩ (fun _ hpc => nomatch hpc)
      fun h => h⟩
  | join pc hc hmove =>
    refine h.joinStep (fun _ => rfl) (fun _ _ => Controller.noConfusion) (fun s result => ?_) hc
      hmove
    exact ⟨.idle, _, fun _ => Controller.noConfusion, rfl⟩
  | destroyStop hc =>
    rw [hc] at hcoverage
    exact ⟨h.rt, h.wait, hcoverage.keep rfl ⟨rfl, rfl, rfl, rfl⟩ (fun _ hpc => nomatch hpc)
      fun h => h⟩
  | destroyStarted hc hstarted =>
    exact h.goto (by rw [hc]; rfl) fun _ => Controller.noConfusion
  | destroyUnstarted hc hstarted =>
    rw [hc] at hcoverage
    have hwait := hcoverage.passive_of_not_started (Bool.eq_false_iff.mp hstarted)
    have hrt := hcoverage.returned_of_passive (by decide) hwait
    exact h.of_idle ⟨hrt, hwait⟩ fun _ => Controller.noConfusion
  | destroyJoined hc hjoined =>
    rw [hc] at hcoverage
    have hwait := hcoverage.passive_of_joined hjoined
    have hrt := hcoverage.returned_of_passive (by decide) hwait
    exact h.of_idle ⟨hrt, hwait⟩ fun _ => Controller.noConfusion
  | destroyUnjoined hc hjoined =>
    exact h.goto (by rw [hc]; rfl) fun _ => Controller.noConfusion
  | destroyJoin pc hc hmove =>
    refine h.joinStep (fun j => ?_) (fun _ _ => Controller.noConfusion) (fun s _ => ?_) hc hmove
    · cases j <;> rfl
    · exact ⟨.destroyFree, s.log, fun _ => Controller.noConfusion, rfl⟩
  | destroyFree hc =>
    rw [hc] at hcoverage
    exact h.of_idle (hcoverage.quiet rfl) fun _ => Controller.noConfusion

theorem call (h : s.Covered) {call : Call} (hstep : s.step (.call call) = some s') :
    s'.Covered := by
  obtain ⟨hc, rfl⟩ := call_step hstep
  refine h.goto (by rw [hc]; cases call <;> rfl) fun pc hpc => ?_
  cases call <;> cases hpc
  trivial

theorem rtStep (h : s.Covered) {i : Nat} (hstep : s.step (.rt i) = some s') : s'.Covered := by
  obtain ⟨t, state, world, hi, hthread, rfl⟩ := rt_step hstep
  have hlive : t.state ≠ .returned := by
    intro hreturned
    rw [hreturned] at hthread
    cases hthread
  obtain ⟨rfl, hhead⟩ := h.rt.newest hi hlive
  have hsame : SameCover s.flags world.engine.flags := by
    rw [World.rtThreadStep_flags hthread]
    obtain ⟨hrunning, hstarted, hrtJoined, hwaitJoined⟩ := t.state.flags_frame s.flags
    exact ⟨hrunning, hstarted, hrtJoined, hwaitJoined⟩
  refine ⟨h.rt.set hi hlive fun hreturned => absurd hreturned hlive, h.wait, ?_⟩
  exact h.coverage.rtStep (hhead ▸ hlive) hsame _

/-- A wait thread that is not done is the handle's own, and once past its `join` its RT thread has
returned. -/
theorem waitThreadStep (h : s.Covered) {state state' : WaitState}
    (hhead : headState .returned s.waitThreads = state) (hactive : ¬state.passive)
    (hmove : WaitMove s state state' s') :
    s'.waitThreads = s.waitThreads ∧ Settled (· = .returned) .returned s'.rtThreads ∧
      Coverage s'.controller s'.flags (headState .returned s'.rtThreads) state' s'.log := by
  have hcoverage := h.coverage
  rw [hhead] at hcoverage
  cases hmove with
  | join hjoin =>
    obtain ⟨hrt, hbefore, hafter⟩ := h.rt.threadJoin hjoin
    refine ⟨rfl, hrt, ?_⟩
    dsimp only
    rw [hafter, ← hbefore]
    exact hcoverage.waitStep hactive hbefore rfl rfl fun _ => rfl
  | storeRtJoined =>
    have hrt := hcoverage.returned_of_not_join hactive (by decide)
    exact ⟨rfl, h.rt, hcoverage.waitStep hactive hrt rfl rfl fun _ => rfl⟩
  | storeRunning =>
    have hrt := hcoverage.returned_of_not_join hactive (by decide)
    refine ⟨rfl, h.rt, hcoverage.waitStep hactive hrt rfl rfl fun hactive' => ?_⟩
    exact absurd (.inl rfl) hactive'
  | returning => exact absurd (.inl rfl) hactive

theorem waitStep (h : s.Covered) {i : Nat} {outcome : Bool}
    (hstep : s.step (.wait i outcome) = some s') : s'.Covered := by
  obtain ⟨⟨wait, joins⟩, state, s₁, hi, hmove, rfl⟩ := wait_step hstep
  have hrunning : wait ≠ .returned := by
    rintro rfl
    cases hmove
  by_cases hpassive : wait.passive
  · obtain rfl := hpassive.resolve_right hrunning
    cases hmove
    refine ⟨h.rt, h.wait.set hi hrunning fun _ => .inr rfl, ?_⟩
    dsimp only
    rw [headState_set hi]
    split
    · next hnewest =>
      subst hnewest
      exact h.coverage.waitReturn (headState_newest hi ▸ hpassive)
    · exact h.coverage
  · obtain ⟨rfl, hhead⟩ := h.wait.newest hi hpassive
    obtain ⟨hthreads, hrt, hcoverage⟩ := h.waitThreadStep hhead hpassive hmove
    dsimp only
    rw [hthreads]
    refine ⟨hrt, h.wait.set hi hrunning fun hdone => absurd hdone hpassive, ?_⟩
    dsimp only
    rw [headState_set hi]
    exact hcoverage

theorem step (h : s.Covered) {a : Step D.limits} (hstep : s.step a = some s') : s'.Covered := by
  cases a with
  | call call => exact h.call hstep
  | controller outcome => exact h.controllerStep (controllerStep_cases hstep)
  | rt i => exact h.rtStep hstep
  | wait i outcome => exact h.waitStep hstep
  | pushCommand message =>
    cases hstep
    exact ⟨h.rt, h.wait, h.coverage⟩

end Covered

theorem covered_of_initial {s : System D} (h : s.Initial) : s.Covered := by
  obtain ⟨-, hcontroller, hrt, hwait, -⟩ := h
  refine ⟨?_, ?_, .of_idle ?_ ?_ fun pc hpc => ?_⟩
  · rw [hrt]
    exact .nil
  · rw [hwait]
    exact .nil
  · rw [hrt]
    rfl
  · rw [hwait]
    exact .inr rfl
  · rw [hcontroller] at hpc
    cases hpc

theorem covered_of_reachable {s : System D} (h : s.Reachable) : s.Covered :=
  Transition.Reachable.invariant (fun _ => covered_of_initial) (fun _ _ _ hs => hs.step) h

/-! ### What the invariant says of the RT loops -/

/-- An RT loop is executing. -/
def Executing (s : System D) : Prop := ∃ t ∈ s.rtThreads, t.state ≠ .returned

/-- A call has returned `r`, and `start` has not been called since. -/
def Since (s : System D) (r : Returned) : Prop :=
  (∀ pc, s.controller ≠ .start pc) ∧
    ∃ recent earlier, s.log = recent ++ r :: earlier ∧
      ∀ foundRunning result, .start foundRunning result ∉ recent

/-- No RT thread and no wait thread has a step left that reads or writes the engine: the RT threads
have returned, and a wait thread has at most its `return` left. -/
structure Detached (s : System D) : Prop where
  rt : ∀ t ∈ s.rtThreads, t.state = .returned
  wait : ∀ t ∈ s.waitThreads, t.state.passive

variable {s : System D}

theorem Detached.rt_step (h : s.Detached) (i : Nat) : s.step (.rt i) = none := by
  refine Option.bind_eq_none_iff.mpr fun t hi => ?_
  rw [h.rt t (List.mem_of_getElem? hi)]
  rfl

theorem Detached.wait_step (h : s.Detached) {i : Nat} {outcome : Bool} {s' : System D}
    (hstep : s.step (.wait i outcome) = some s') :
    ∃ waitThreads, s' = { s with waitThreads } := by
  obtain ⟨⟨wait, joins⟩, state, s₁, hi, hmove, rfl⟩ := System.wait_step hstep
  obtain rfl | rfl := h.wait _ (List.mem_of_getElem? hi) <;> cases hmove
  exact ⟨_, rfl⟩

theorem launchOver_of_recent {recent earlier : List Returned} {r : Returned}
    (hr : launchOver (r :: earlier) = true)
    (hrecent : ∀ foundRunning result, .start foundRunning result ∉ recent) :
    launchOver (recent ++ r :: earlier) = true := by
  induction recent with
  | nil => exact hr
  | cons head recent ih =>
    have hrest := ih fun foundRunning result hmem =>
      hrecent foundRunning result (List.mem_cons_of_mem head hmem)
    match head, hrecent with
    | .start foundRunning result, hrecent =>
      exact absurd (List.mem_cons_self ..) (hrecent foundRunning result)
    | .requestStop, _ => exact hrest
    | .join true, _ => rfl
    | .join false, _ => exact hrest

namespace Covered

theorem detached (h : s.Covered)
    (hidle : headState .returned s.rtThreads = .returned ∧
      (headState .returned s.waitThreads).passive) : s.Detached :=
  ⟨h.rt.all_done hidle.1, h.wait.all_done hidle.2⟩

theorem detached_since (h : s.Covered) {r : Returned} (hsince : s.Since r)
    (hr : ∀ earlier, launchOver (r :: earlier) = true) : s.Detached := by
  obtain ⟨hstart, recent, earlier, hlog, hrecent⟩ := hsince
  refine h.detached ?_
  cases hphase : s.controller.phase with
  | quiet => exact h.coverage.quiet hphase
  | launched =>
    obtain ⟨pc, hc⟩ := Controller.start_of_launched hphase
    exact absurd hc (hstart pc)
  | resting =>
    refine h.coverage.resting hphase ?_
    rw [hlog]
    exact launchOver_of_recent (hr earlier) hrecent

theorem live_of_executing (h : s.Covered) (hexecuting : s.Executing) :
    headState .returned s.rtThreads ≠ .returned := by
  obtain ⟨t, ht, hlive⟩ := hexecuting
  exact fun hreturned => hlive (h.rt.all_done hreturned t ht)

theorem single (h : s.Covered) : (s.rtThreads.filter (·.state ≠ .returned)).length ≤ 1 := by
  cases hthreads : s.rtThreads with
  | nil => exact Nat.zero_le 1
  | cons t ts =>
    have htail : ts.filter (·.state ≠ .returned) = [] := by
      refine List.filter_eq_nil_iff.mpr fun t' ht' => ?_
      have hdone := h.rt.tail t' (by rw [hthreads]; exact ht')
      simp [hdone]
    rw [List.filter_cons, htail]
    split <;> simp

end Covered

end System

/-- In every reachable state at most one RT loop executes, and the flags cover it; and once `start`
has failed, `join` has returned true or `destroy` frees the engine, no thread is left that uses
it. -/
theorem rt_loop_covered {s : System D} (h : s.Reachable) :
    (s.rtThreads.filter (·.state ≠ .returned)).length ≤ 1 ∧
      (s.Executing → s.isRunning = true ∧ s.flags.rtJoined = false) ∧
      (s.isRunning = false → ¬s.Executing) ∧
      (s.Since (.start false false) → ¬s.Executing) ∧
      (s.Since (.join true) ∨ s.controller = .destroyFree ∨ s.controller = .destroyed →
        s.Detached ∧ ∀ i, s.step (.rt i) = none ∧ ∀ outcome s',
          s.step (.wait i outcome) = some s' → ∃ waitThreads, s' = { s with waitThreads }) := by
  have hcovered := s.covered_of_reachable h
  have hlive : s.Executing → s.isRunning = true ∧ s.flags.rtJoined = false := fun hexecuting =>
    have hflags := hcovered.coverage.live (hcovered.live_of_executing hexecuting)
    ⟨hflags.1, hflags.2.1⟩
  refine ⟨hcovered.single, hlive, fun hstopped hexecuting => ?_, fun hfailed hexecuting => ?_,
    fun hover => ?_⟩
  · rw [(hlive hexecuting).1] at hstopped
    cases hstopped
  · obtain ⟨t, ht, hrunning⟩ := hexecuting
    exact hrunning ((hcovered.detached_since hfailed fun _ => rfl).rt t ht)
  · have hdetached : s.Detached := by
      rcases hover with hjoined | hdestroy
      · exact hcovered.detached_since hjoined fun _ => rfl
      · refine hcovered.detached (hcovered.coverage.quiet ?_)
        rcases hdestroy with hc | hc <;> rw [hc] <;> rfl
    exact ⟨hdetached, fun i => ⟨hdetached.rt_step i, fun _ _ hstep => hdetached.wait_step hstep⟩⟩

namespace Reference

def created : System deps := ⟨world, .idle, [], [], []⟩

/-- The engine after a `start` that returned true, with its RT thread at its loop's first test. -/
def started : System deps :=
  (Transition.run System.step created
    (.call .start :: List.replicate 9 (.controller true) ++ [.rt 0])).get (by decide)

/-- The engine after `request_stop`, the ends of both threads, and `join`. -/
def joined : System deps :=
  (Transition.run System.step started
    ([.call .requestStop, .controller true, .rt 0] ++ List.replicate 4 (.wait 0 true) ++
      .call .join :: List.replicate 5 (.controller true))).get (by decide)

end Reference

theorem rt_loop_covered_reference :
    (Reference.started.Executing ∧ Reference.started.isRunning = true ∧
      Reference.started.flags.rtJoined = false) ∧
      Reference.joined.Since (.join true) ∧ Reference.joined.Detached := by
  have hcreated : Reference.created.Reachable := .start ⟨rfl, rfl, rfl, rfl, rfl⟩
  have hstarted : Reference.started.Reachable := hcreated.run (Option.some_get _).symm
  have hjoined : Reference.joined.Reachable := hstarted.run (Option.some_get _).symm
  have hexecuting : Reference.started.Executing :=
    ⟨⟨.test 0, 0⟩, List.mem_singleton.mpr rfl, by decide⟩
  have hsince : Reference.joined.Since (.join true) :=
    ⟨fun _ => nofun, [], [.requestStop, .start false true], rfl, fun _ _ => nofun⟩
  exact ⟨⟨hexecuting, (rt_loop_covered hstarted).2.1 hexecuting⟩, hsince,
    ((rt_loop_covered hjoined).2.2.2.2 (.inl hsince)).1⟩

end RtsynEngine
