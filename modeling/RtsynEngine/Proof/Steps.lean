import RtsynEngine.Lifecycle

/-! The steps of the controller and of the wait thread, one for each of their branches, and the
steps of the threads in the system. -/

namespace RtsynEngine

open Handle

variable {D : Deps}

/-- The steps of `rtsyn_engine_start`, with the answer of the thread library where a step asks for
one. -/
inductive StartMove (s : System D) (outcome : Bool) : StartState → System D → Prop
  | found (hrunning : s.flags.running = true) :
    StartMove s outcome .loadRunning (s.ret (.start true false))
  | begins (hrunning : s.flags.running = false) :
    StartMove s outcome .loadRunning (s.goto (.start .storeStopRequested))
  | storeStopRequested : StartMove s outcome .storeStopRequested
      ((s.setFlags { s.flags with stopRequested := false }).goto (.start .storePaused))
  | storePaused : StartMove s outcome .storePaused
      ((s.setFlags { s.flags with paused := false }).goto (.start .storeRtJoined))
  | storeRtJoined : StartMove s outcome .storeRtJoined
      ((s.setFlags { s.flags with rtJoined := false }).goto (.start .storeWaitJoined))
  | storeWaitJoined : StartMove s outcome .storeWaitJoined
      ((s.setFlags { s.flags with waitJoined := false }).goto (.start .storeRunning))
  | storeRunning : StartMove s outcome .storeRunning
      ((s.setFlags { s.flags with running := true }).goto (.start .storeStarted))
  | storeStarted : StartMove s outcome .storeStarted
      ((s.setFlags { s.flags with started := true }).goto (.start .runRt))
  | launchRt (houtcome : outcome = true) : StartMove s outcome .runRt
      ({ s with rtThreads := ⟨.enter, 0⟩ :: s.rtThreads }.goto (.start .runWait))
  | rtFailed (houtcome : outcome = false) :
    StartMove s outcome .runRt (s.goto (.start .rtFailedStarted))
  | rtFailedStarted : StartMove s outcome .rtFailedStarted
      ((s.setFlags { s.flags with started := false }).goto (.start .rtFailedRunning))
  | rtFailedRunning : StartMove s outcome .rtFailedRunning
      ((s.setFlags { s.flags with running := false }).ret (.start false false))
  | launchWait (houtcome : outcome = true) : StartMove s outcome .runWait
      ({ s with waitThreads := ⟨.join, 0⟩ :: s.waitThreads }.ret (.start false true))
  | waitFailed (houtcome : outcome = false) :
    StartMove s outcome .runWait (s.goto (.start .waitFailedStop))
  | waitFailedStop : StartMove s outcome .waitFailedStop
      ((s.setFlags { s.flags with stopRequested := true }).goto (.start .waitFailedJoin))
  | waitFailedJoin {joined : Bool} {rtThreads : List (Thread (RtState D.limits))}
    (hjoin : threadJoin .returned s.rtThreads outcome = some (joined, rtThreads)) :
    StartMove s outcome .waitFailedJoin ({ s with rtThreads }.goto (.start .waitFailedRtJoined))
  | waitFailedRtJoined : StartMove s outcome .waitFailedRtJoined
      ((s.setFlags { s.flags with rtJoined := true }).goto (.start .waitFailedStarted))
  | waitFailedStarted : StartMove s outcome .waitFailedStarted
      ((s.setFlags { s.flags with started := false }).goto (.start .waitFailedRunning))
  | waitFailedRunning : StartMove s outcome .waitFailedRunning
      ((s.setFlags { s.flags with running := false }).ret (.start false false))

/-- The steps of `rtsyn_engine_join`, at `pc` of the caller's places. -/
inductive JoinMove (s : System D) (pc : JoinState → Controller)
    (ret : System D → Bool → System D) : JoinState → System D → Prop
  | started (hstarted : s.flags.started = true) :
    JoinMove s pc ret .loadStarted (s.goto (pc .loadWaitJoined))
  | unstarted (hstarted : s.flags.started = false) :
    JoinMove s pc ret .loadStarted (ret s false)
  | alreadyJoined (hwaitJoined : s.flags.waitJoined = true) :
    JoinMove s pc ret .loadWaitJoined (ret s true)
  | unjoined (hwaitJoined : s.flags.waitJoined = false) :
    JoinMove s pc ret .loadWaitJoined (s.goto (pc .joinWait))
  | joins {outcome : Bool} {waitThreads : List (Thread WaitState)}
    (hjoin : threadJoin .returned s.waitThreads outcome = some (true, waitThreads)) :
    JoinMove s pc ret .joinWait ({ s with waitThreads }.goto (pc .storeWaitJoined))
  | fails {outcome : Bool} {waitThreads : List (Thread WaitState)}
    (hjoin : threadJoin .returned s.waitThreads outcome = some (false, waitThreads)) :
    JoinMove s pc ret .joinWait (ret { s with waitThreads } false)
  | storeWaitJoined : JoinMove s pc ret .storeWaitJoined
      ((s.setFlags { s.flags with waitJoined := true }).goto (pc .storeStarted))
  | storeStarted : JoinMove s pc ret .storeStarted
      (ret (s.setFlags { s.flags with started := false }) true)

namespace System

variable {s s' : System D}

theorem startStep_cases {outcome : Bool} {pc : StartState}
    (h : s.startStep outcome pc = some s') : StartMove s outcome pc s' := by
  cases pc with
  | loadRunning =>
    dsimp only [startStep] at h
    split at h
    · next hrunning =>
      cases h
      exact .found hrunning
    · next hrunning =>
      cases h
      exact .begins (Bool.eq_false_iff.mpr hrunning)
  | runRt =>
    cases outcome with
    | true =>
      cases h
      exact .launchRt rfl
    | false =>
      cases h
      exact .rtFailed rfl
  | runWait =>
    cases outcome with
    | true =>
      cases h
      exact .launchWait rfl
    | false =>
      cases h
      exact .waitFailed rfl
  | waitFailedJoin =>
    obtain ⟨⟨joined, rtThreads⟩, hjoin, rfl⟩ := Option.map_eq_some_iff.mp h
    exact .waitFailedJoin hjoin
  | _ =>
    cases h
    constructor

theorem joinStep_cases {outcome : Bool} {pc : JoinState → Controller}
    {ret : System D → Bool → System D} {j : JoinState}
    (h : s.joinStep outcome pc ret j = some s') : JoinMove s pc ret j s' := by
  cases j with
  | loadStarted =>
    dsimp only [joinStep] at h
    split at h
    · next hstarted =>
      cases h
      exact .started hstarted
    · next hstarted =>
      cases h
      exact .unstarted (Bool.eq_false_iff.mpr hstarted)
  | loadWaitJoined =>
    dsimp only [joinStep] at h
    split at h
    · next hwaitJoined =>
      cases h
      exact .alreadyJoined hwaitJoined
    · next hwaitJoined =>
      cases h
      exact .unjoined (Bool.eq_false_iff.mpr hwaitJoined)
  | joinWait =>
    obtain ⟨⟨joined, waitThreads⟩, hjoin, rfl⟩ := Option.map_eq_some_iff.mp h
    cases joined with
    | true => exact .joins hjoin
    | false => exact .fails hjoin
  | storeWaitJoined =>
    cases h
    exact .storeWaitJoined
  | storeStarted =>
    cases h
    exact .storeStarted

end System

/-- The steps of the controller. -/
inductive ControllerMove (s : System D) (outcome : Bool) : System D → Prop
  | start (pc : StartState) (hc : s.controller = .start pc) {s' : System D}
    (hmove : StartMove s outcome pc s') : ControllerMove s outcome s'
  | requestStop (hc : s.controller = .requestStop) : ControllerMove s outcome
      ((s.setFlags { s.flags with stopRequested := true }).ret .requestStop)
  | join (pc : JoinState) (hc : s.controller = .join pc) {s' : System D}
    (hmove : JoinMove s .join (fun s result => s.ret (.join result)) pc s') :
    ControllerMove s outcome s'
  | destroyStop (hc : s.controller = .destroyStop) : ControllerMove s outcome
      ((s.setFlags { s.flags with stopRequested := true }).goto .destroyLoadStarted)
  | destroyStarted (hc : s.controller = .destroyLoadStarted) (hstarted : s.flags.started = true) :
    ControllerMove s outcome (s.goto .destroyLoadWaitJoined)
  | destroyUnstarted (hc : s.controller = .destroyLoadStarted)
    (hstarted : s.flags.started = false) : ControllerMove s outcome (s.goto .destroyFree)
  | destroyJoined (hc : s.controller = .destroyLoadWaitJoined)
    (hwaitJoined : s.flags.waitJoined = true) : ControllerMove s outcome (s.goto .destroyFree)
  | destroyUnjoined (hc : s.controller = .destroyLoadWaitJoined)
    (hwaitJoined : s.flags.waitJoined = false) :
    ControllerMove s outcome (s.goto (.destroyJoin .loadStarted))
  | destroyJoin (pc : JoinState) (hc : s.controller = .destroyJoin pc) {s' : System D}
    (hmove : JoinMove s .destroyJoin (fun s _ => s.goto .destroyFree) pc s') :
    ControllerMove s outcome s'
  | destroyFree (hc : s.controller = .destroyFree) : ControllerMove s outcome
      { s with world := s.world.collectionDestroy, controller := .destroyed }

/-- In `join` the controller makes a step of it. -/
theorem ControllerMove.of_join {s s' : System D} {outcome : Bool}
    (h : ControllerMove s outcome s') {pc : JoinState} (hc : s.controller = .join pc) :
    JoinMove s .join (fun s result => s.ret (.join result)) pc s' := by
  cases h with
  | join pc' hc' hmove =>
    cases hc.symm.trans hc'
    exact hmove
  | start _ hc' | requestStop hc' | destroyStop hc' | destroyStarted hc' | destroyUnstarted hc'
  | destroyJoined hc' | destroyUnjoined hc' | destroyJoin _ hc' | destroyFree hc' =>
    cases hc.symm.trans hc'

/-- The steps of `rtsyn_engine_wait_thread_main`. -/
inductive WaitMove (s : System D) : WaitState → WaitState → System D → Prop
  | join {outcome joined : Bool} {rtThreads : List (Thread (RtState D.limits))}
    (hjoin : threadJoin .returned s.rtThreads outcome = some (joined, rtThreads)) :
    WaitMove s .join .storeRtJoined { s with rtThreads }
  | storeRtJoined : WaitMove s .storeRtJoined .storeRunning
      (s.setFlags { s.flags with rtJoined := true })
  | storeRunning : WaitMove s .storeRunning .returning
      (s.setFlags { s.flags with running := false })
  | returning : WaitMove s .returning .returned s

namespace System

variable {s s' : System D}

theorem controllerStep_cases {outcome : Bool} (h : s.controllerStep outcome = some s') :
    ControllerMove s outcome s' := by
  unfold controllerStep at h
  cases hc : s.controller with
  | idle | destroyed =>
    rw [hc] at h
    cases h
  | start pc =>
    rw [hc] at h
    exact .start pc hc (startStep_cases h)
  | join pc =>
    rw [hc] at h
    exact .join pc hc (joinStep_cases h)
  | destroyJoin pc =>
    rw [hc] at h
    exact .destroyJoin pc hc (joinStep_cases h)
  | destroyLoadStarted =>
    rw [hc] at h
    dsimp only at h
    split at h
    · next hstarted =>
      cases h
      exact .destroyStarted hc hstarted
    · next hstarted =>
      cases h
      exact .destroyUnstarted hc (Bool.eq_false_iff.mpr hstarted)
  | destroyLoadWaitJoined =>
    rw [hc] at h
    dsimp only at h
    split at h
    · next hwaitJoined =>
      cases h
      exact .destroyJoined hc hwaitJoined
    · next hwaitJoined =>
      cases h
      exact .destroyUnjoined hc (Bool.eq_false_iff.mpr hwaitJoined)
  | requestStop =>
    rw [hc] at h
    cases h
    exact .requestStop hc
  | destroyStop =>
    rw [hc] at h
    cases h
    exact .destroyStop hc
  | destroyFree =>
    rw [hc] at h
    cases h
    exact .destroyFree hc

theorem waitStep_cases {outcome : Bool} {state state' : WaitState}
    (h : s.waitStep outcome state = some (state', s')) : WaitMove s state state' s' := by
  cases state with
  | join =>
    obtain ⟨⟨joined, rtThreads⟩, hjoin, heq⟩ := Option.map_eq_some_iff.mp h
    cases heq
    exact .join hjoin
  | returned => cases h
  | _ =>
    cases h
    constructor

/-- A step of an RT thread. -/
theorem rt_step {i : Nat} (h : s.step (.rt i) = some s') :
    ∃ t state world, s.rtThreads[i]? = some t ∧
      s.world.rtThreadStep t.state = some (state, world) ∧
      s' = { s with world, rtThreads := s.rtThreads.set i { t with state } } := by
  obtain ⟨t, hi, hrest⟩ := Option.bind_eq_some_iff.mp h
  obtain ⟨⟨state, world⟩, hthread, rfl⟩ := Option.map_eq_some_iff.mp hrest
  exact ⟨t, state, world, hi, hthread, rfl⟩

/-- A step of a wait thread. -/
theorem wait_step {i : Nat} {outcome : Bool} (h : s.step (.wait i outcome) = some s') :
    ∃ t state s₁, s.waitThreads[i]? = some t ∧ WaitMove s t.state state s₁ ∧
      s' = { s₁ with waitThreads := s₁.waitThreads.set i { t with state } } := by
  obtain ⟨t, hi, hrest⟩ := Option.bind_eq_some_iff.mp h
  obtain ⟨⟨state, s₁⟩, hthread, rfl⟩ := Option.map_eq_some_iff.mp hrest
  exact ⟨t, state, s₁, hi, waitStep_cases hthread, rfl⟩

/-- The controller takes up a call. -/
theorem call_step {call : Call} (h : s.step (.call call) = some s') :
    s.controller = .idle ∧ s' = s.goto (callState call) := by
  dsimp only [step] at h
  split at h
  · next hc =>
    cases h
    exact ⟨hc, rfl⟩
  · cases h

/-- Only the last step of `rtsyn_engine_destroy` leads to a destroyed engine. -/
theorem step_destroyed {a : Step D.limits} (hstep : s.step a = some s') :
    s'.controller = .destroyed ↔
      s.controller = .destroyed ∨
        s.controller = .destroyFree ∧ ∃ outcome, a = .controller outcome := by
  cases a with
  | call call =>
    obtain ⟨hidle, rfl⟩ := call_step hstep
    rw [hidle]
    cases call <;> simp [goto, callState]
  | controller outcome =>
    cases controllerStep_cases hstep with
    | start pc hc hmove =>
      rw [hc]
      cases hmove <;> simp [goto, ret]
    | join pc hc hmove =>
      rw [hc]
      cases hmove <;> simp [goto, ret]
    | destroyJoin pc hc hmove =>
      rw [hc]
      cases hmove <;> simp [goto]
    | requestStop hc | destroyStop hc | destroyStarted hc | destroyUnstarted hc | destroyJoined hc
    | destroyUnjoined hc | destroyFree hc =>
      rw [hc]
      simp [goto, ret]
  | rt i =>
    obtain ⟨t, state, world, -, -, rfl⟩ := rt_step hstep
    simp
  | wait i outcome =>
    obtain ⟨⟨wait, joins⟩, state, s₁, -, hmove, rfl⟩ := wait_step hstep
    cases hmove <;> simp [setFlags]
  | pushCommand m =>
    cases hstep
    simp

/-- The same engine and the same threads in another world. -/
def onWorld (s : System D) (f : World D → World D) : System D := { s with world := f s.world }

end System

/-- A change of the world that leaves the flags to those who load and store them. -/
structure KeepsFlags (f : World D → World D) : Prop where
  flags (w : World D) : (f w).engine.flags = w.engine.flags
  setFlags (w : World D) (flags : Flags) : f (w.setFlags flags) = (f w).setFlags flags

namespace KeepsFlags

variable {f : World D → World D}

theorem system (hf : KeepsFlags f) (s : System D) : (s.onWorld f).flags = s.flags :=
  hf.flags s.world

theorem store (hf : KeepsFlags f) (s : System D) (flags : Flags) :
    (s.onWorld f).setFlags flags = (s.setFlags flags).onWorld f := by
  have hworld : (f s.world).setFlags flags = f (s.world.setFlags flags) :=
    (hf.setFlags s.world flags).symm
  exact congrArg (fun world => { s with world }) hworld

theorem startStep (hf : KeepsFlags f) (s : System D) (outcome : Bool) (pc : StartState) :
    (s.onWorld f).startStep outcome pc = (s.startStep outcome pc).map (·.onWorld f) := by
  have hthreads : (s.onWorld f).rtThreads = s.rtThreads := rfl
  cases pc with
  | loadRunning =>
    dsimp only [System.startStep]
    rw [hf.system]
    split <;> rfl
  | runRt | runWait => cases outcome <;> rfl
  | waitFailedJoin =>
    dsimp only [System.startStep]
    rw [hthreads]
    cases threadJoin RtState.returned s.rtThreads outcome <;> rfl
  | _ =>
    dsimp only [System.startStep]
    rw [hf.system, hf.store]
    rfl

theorem joinStep (hf : KeepsFlags f) (s : System D) (outcome : Bool)
    (pc : JoinState → Controller) {ret : System D → Bool → System D}
    (hret : ∀ (s : System D) result, ret (s.onWorld f) result = (ret s result).onWorld f)
    (state : JoinState) :
    (s.onWorld f).joinStep outcome pc ret state =
      (s.joinStep outcome pc ret state).map (·.onWorld f) := by
  have hthreads : (s.onWorld f).waitThreads = s.waitThreads := rfl
  cases state with
  | loadStarted | loadWaitJoined =>
    dsimp only [System.joinStep]
    rw [hf.system, hret]
    split <;> rfl
  | joinWait =>
    dsimp only [System.joinStep]
    rw [hthreads]
    rcases threadJoin WaitState.returned s.waitThreads outcome with _ | ⟨joined, waitThreads⟩
    · rfl
    · cases joined with
      | true => rfl
      | false => exact congrArg some (hret { s with waitThreads } false)
  | storeWaitJoined =>
    dsimp only [System.joinStep]
    rw [hf.system, hf.store]
    rfl
  | storeStarted =>
    dsimp only [System.joinStep]
    rw [hf.system, hf.store, hret]
    rfl

theorem waitStep (hf : KeepsFlags f) (s : System D) (outcome : Bool) (state : WaitState) :
    (s.onWorld f).waitStep outcome state =
      (s.waitStep outcome state).map fun next => (next.1, next.2.onWorld f) := by
  have hthreads : (s.onWorld f).rtThreads = s.rtThreads := rfl
  cases state with
  | join =>
    dsimp only [System.waitStep]
    rw [hthreads]
    cases threadJoin RtState.returned s.rtThreads outcome <;> rfl
  | storeRtJoined | storeRunning =>
    dsimp only [System.waitStep]
    rw [hf.system, hf.store]
    rfl
  | _ => rfl

/-- The controller takes the same step, until it destroys the engine as well. -/
theorem controllerStep (hf : KeepsFlags f) (s : System D) (outcome : Bool)
    (hfree : s.controller ≠ .destroyFree) :
    (s.onWorld f).controllerStep outcome = (s.controllerStep outcome).map (·.onWorld f) := by
  have hcontroller : (s.onWorld f).controller = s.controller := rfl
  unfold System.controllerStep
  rw [hcontroller]
  cases hpc : s.controller with
  | start pc => exact hf.startStep s outcome pc
  | join pc => exact hf.joinStep s outcome _ (fun _ _ => rfl) pc
  | destroyJoin pc => exact hf.joinStep s outcome _ (fun _ _ => rfl) pc
  | destroyLoadStarted | destroyLoadWaitJoined =>
    dsimp only
    rw [hf.system]
    split <;> rfl
  | destroyFree => exact absurd hpc hfree
  | requestStop | destroyStop =>
    dsimp only
    rw [hf.system, hf.store]
    rfl
  | _ => rfl

end KeepsFlags

end RtsynEngine
