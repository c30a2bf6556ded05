import RtsynEngine.Proof.Lifecycle

/-! Which threads are still to be joined: as long as no `start` begins before the wait thread of the
last one has been joined, every thread is joined once, before its handle is used again. -/

namespace RtsynEngine

open Handle Transition

variable {D : Deps}

/-- The value of `started` that the controller relies on at a place. -/
def Controller.expects : Controller → Option Bool
  | .join .loadWaitJoined | .join .joinWait | .destroyLoadWaitJoined => some true
  | .destroyJoin .loadWaitJoined | .destroyJoin .joinWait => some true
  | .start .rtFailedRunning | .start .waitFailedRunning => some false
  | _ => none

namespace System

/-- The RT thread is still to be joined, by `start` or by its wait thread. -/
def OwesRt (s : System D) : Prop :=
  s.controller.phase = .launched ∨ headState .returned s.waitThreads = .join

/-- The wait thread is still to be joined, by `join` or by `destroy`. -/
def OwesWait (s : System D) : Prop := s.controller.phase = .resting ∧ s.flags.started = true

/-- A step at which `start` finds `running` false does so once the wait thread has been joined. -/
def StartsJoined (s : System D) (_ : Step D.limits) : Prop :=
  s.controller = .start .loadRunning → s.flags.running = false → s.flags.started = false

instance (s : System D) (a : Step D.limits) : Decidable (s.StartsJoined a) :=
  inferInstanceAs (Decidable (_ → _ → _))

/-- The invariant of the joins where every `start` waits for the wait thread of the last one. -/
structure Joining (s : System D) : Prop where
  rt : Owes s.OwesRt s.rtThreads
  wait : Owes s.OwesWait s.waitThreads
  unjoined : s.OwesWait → s.flags.waitJoined = false
  expects : ∀ started, s.controller.expects = some started → s.flags.started = started

/-- The invariant of the joins in every run. -/
structure Owing (s : System D) : Prop where
  rt : Owes s.OwesRt s.rtThreads
  wait : OwesNewest s.OwesWait s.waitThreads
  unjoined : s.OwesWait → s.flags.waitJoined = false
  expects : ∀ started, s.controller.expects = some started → s.flags.started = started

/-- A step at which `start` launches the wait thread. -/
def LaunchesWait (s : System D) (a : Step D.limits) : Prop :=
  s.controller = .start .runWait ∧ a = .controller true

/-- A place at which `start` begins whether or not the wait thread of the last one is joined. -/
def GivesUpJoin (s : System D) : Prop :=
  s.controller = .start .loadRunning ∧ s.flags.running = false

/-- What a step does to the two handles and to the flags that the joins go by. -/
structure Moved (s : System D) (a : Step D.limits) (s' : System D) : Prop where
  rt : Moves .returned True False s.OwesRt s'.OwesRt s.rtThreads s'.rtThreads
  wait : Moves .returned (s.LaunchesWait a) s.GivesUpJoin s.OwesWait s'.OwesWait s.waitThreads
    s'.waitThreads
  unjoined : s'.OwesWait → s'.flags.waitJoined = false
  expects : ∀ started, s'.controller.expects = some started → s'.flags.started = started

variable {s s' : System D}

@[simp] theorem goto_controller (s : System D) (c : Controller) : (s.goto c).controller = c := rfl

theorem not_owesWait {c : Controller} (hc : s.controller = c) (hphase : c.phase ≠ .resting) :
    ¬s.OwesWait := fun howed => hphase (hc ▸ howed.1)

theorem not_owesWait_of_not_started (hstarted : s.flags.started = false) : ¬s.OwesWait :=
  fun howed => Bool.false_ne_true (hstarted.symm.trans howed.2)

theorem not_owesRt (hphase : s.controller.phase ≠ .launched)
    (hpassive : (headState .returned s.waitThreads).passive) : ¬s.OwesRt := by
  rintro (hlaunched | hjoin)
  · exact hphase hlaunched
  · rcases hpassive with hpassive | hpassive <;> rw [hpassive] at hjoin <;> cases hjoin

namespace Moved

variable {a : Step D.limits}

/-- A step that launches and joins no thread. -/
theorem keep (hrtThreads : s'.rtThreads.map Thread.joins = s.rtThreads.map Thread.joins)
    (hwaitThreads : s'.waitThreads.map Thread.joins = s.waitThreads.map Thread.joins)
    (hrt : s'.OwesRt ↔ s.OwesRt) (hwait : s'.OwesWait ↔ s.OwesWait)
    (hunjoined : s'.OwesWait → s'.flags.waitJoined = false)
    (hexpects : ∀ started, s'.controller.expects = some started → s'.flags.started = started) :
    s.Moved a s' :=
  ⟨.keep hrt hrtThreads, .keep hwait hwaitThreads, hunjoined, hexpects⟩

theorem owing (hmoved : s.Moved a s') (h : s.Owing) : s'.Owing :=
  ⟨hmoved.rt.owes h.rt nofun, hmoved.wait.owesNewest h.wait, hmoved.unjoined, hmoved.expects⟩

theorem joining (hmoved : s.Moved a s') (h : s.Joining) (hok : s.StartsJoined a) :
    s'.Joining := by
  refine ⟨hmoved.rt.owes h.rt nofun, hmoved.wait.owes h.wait fun hgivesUp => ?_,
    hmoved.unjoined, hmoved.expects⟩
  exact not_owesWait_of_not_started (hok hgivesUp.1 hgivesUp.2)

end Moved

theorem Joining.owing (h : s.Joining) : s.Owing := ⟨h.rt, h.wait.newest, h.unjoined, h.expects⟩

namespace Owing

variable {a : Step D.limits}

/-- A step of the controller to a place at which the threads are covered in the same way. -/
theorem goto (h : s.Owing) (hthreads : s'.rtThreads = s.rtThreads ∧
      s'.waitThreads = s.waitThreads) (hphase : s'.controller.phase = s.controller.phase)
    (hstarted : s'.controller.phase = .resting → s'.flags.started = s.flags.started)
    (hwaitJoined : s'.controller.phase = .resting → s'.flags.waitJoined = s.flags.waitJoined)
    (hexpects : ∀ started, s'.controller.expects = some started → s'.flags.started = started) :
    s.Moved a s' := by
  have hwait : s'.OwesWait ↔ s.OwesWait := by
    unfold OwesWait
    rw [← hphase]
    exact and_congr_right fun hresting => by rw [hstarted hresting]
  refine .keep (by rw [hthreads.1]) (by rw [hthreads.2]) ?_ hwait (fun howed => ?_) hexpects
  · rw [OwesRt, OwesRt, hphase, hthreads.2]
  · rw [hwaitJoined howed.1]
    exact h.unjoined (hwait.mp howed)

/-- A step between a quiet place and a resting one where `started` is false. -/
theorem settle (hthreads : s'.rtThreads = s.rtThreads ∧ s'.waitThreads = s.waitThreads)
    (hbefore : s.controller.phase ≠ .launched) (hafter : s'.controller.phase ≠ .launched)
    (howed : ¬s.OwesWait) (howed' : ¬s'.OwesWait)
    (hexpects : ∀ started, s'.controller.expects = some started → s'.flags.started = started) :
    s.Moved a s' := by
  refine .keep (by rw [hthreads.1]) (by rw [hthreads.2]) ?_ (iff_of_false howed' howed)
    (fun h => absurd h howed') hexpects
  rw [OwesRt, OwesRt, hthreads.2]
  exact or_congr_left (iff_of_false hafter hbefore)

/-- A step of the controller between two quiet places. -/
theorem quiet (h : s.Owing) (hthreads : s'.rtThreads = s.rtThreads ∧
      s'.waitThreads = s.waitThreads) (hbefore : s.controller.phase = .quiet)
    (hafter : s'.controller.phase = .quiet)
    (hexpects : ∀ started, s'.controller.expects = some started → s'.flags.started = started) :
    s.Moved a s' :=
  h.goto hthreads (hafter.trans hbefore.symm) (fun h => by rw [hafter] at h; cases h)
    (fun h => by rw [hafter] at h; cases h) hexpects

theorem startStep (h : s.Owing) (hcovered : s.Covered) {pc : StartState}
    (hc : s.controller = .start pc) {outcome : Bool} (hmove : StartMove s outcome pc s') :
    s.Moved (.controller outcome) s' := by
  have hcoverage := hcovered.coverage
  rw [hc] at hcoverage
  have hstored := hcoverage.stored pc rfl
  cases hmove with
  | found => exact h.goto ⟨rfl, rfl⟩ (by rw [hc]; rfl) (fun _ => rfl) (fun _ => rfl) nofun
  | begins hrunning =>
    have hbefore : s.controller.phase ≠ .launched := by rw [hc]; nofun
    have hwait : ¬OwesWait (s.goto (.start .storeStopRequested)) := not_owesWait rfl nofun
    -- A wait thread that is still to be joined is given up here.
    refine ⟨.keep ?_ rfl, .lose ⟨hc, hrunning⟩ hwait rfl, fun h => absurd h hwait, nofun⟩
    exact or_congr_left (iff_of_false nofun hbefore)
  | launchRt =>
    have hnot : ¬s.OwesRt := not_owesRt (by rw [hc]; nofun) (hcoverage.quiet rfl).2
    have hwait : ¬s.OwesWait := not_owesWait hc nofun
    refine ⟨.launch trivial hnot (.inl rfl) _ rfl, .keep ?_ rfl, fun h => (nomatch h.1), nofun⟩
    exact iff_of_false (not_owesWait rfl nofun) hwait
  | rtFailedStarted | waitFailedStarted =>
    refine h.quiet ⟨rfl, rfl⟩ (by rw [hc]; rfl) rfl ?_
    intro started hexpects
    cases hexpects
    rfl
  | rtFailedRunning | waitFailedRunning =>
    have hstarted : s.flags.started = false := h.expects false (by rw [hc]; rfl)
    exact settle ⟨rfl, rfl⟩ (by rw [hc]; nofun) nofun (not_owesWait hc nofun)
      (not_owesWait_of_not_started hstarted) nofun
  | launchWait houtcome =>
    have hlaunched : s.OwesRt := .inl (by rw [hc]; rfl)
    have hwait : ¬s.OwesWait := not_owesWait hc nofun
    exact ⟨.keep (iff_of_true (.inr rfl) hlaunched) rfl,
      .launch ⟨hc, congrArg _ houtcome⟩ hwait ⟨rfl, hstored.2.2.2⟩ _ rfl, fun _ => hstored.2.1,
      nofun⟩
  | waitFailed | waitFailedStop =>
    exact h.goto ⟨rfl, rfl⟩ (by rw [hc]; rfl) nofun nofun nofun
  | @waitFailedJoin joined rtThreads hjoin =>
    have hlaunched : s.OwesRt := .inl (by rw [hc]; rfl)
    have hwait : ¬s.OwesWait := not_owesWait hc nofun
    have hnot : ¬OwesRt ({ s with rtThreads }.goto (.start .waitFailedRtJoined)) :=
      not_owesRt nofun (hcoverage.launched rfl)
    refine ⟨.join hlaunched hnot outcome joined hjoin, .keep ?_ rfl, fun h => (nomatch h.1), nofun⟩
    exact iff_of_false (not_owesWait rfl nofun) hwait
  | _ => exact h.quiet ⟨rfl, rfl⟩ (by rw [hc]; rfl) rfl nofun

/-- `rtsyn_engine_join` joins the wait thread exactly where the join is owed. -/
theorem joinStep (h : s.Owing) (hcovered : s.Covered) {pc : JoinState → Controller}
    {ret : System D → Bool → System D}
    (hphase : ∀ j, (pc j).phase = (Controller.join j).phase)
    (hexpects : ∀ j, (pc j).expects = (Controller.join j).expects)
    (hret : ∀ (s : System D) result, ∃ c log, c.phase ≠ .launched ∧ c.expects = none ∧
      ret s result = { s with controller := c, log })
    {j : JoinState} (hc : s.controller = pc j) (hmove : JoinMove s pc ret j s') :
    s.Moved a s' := by
  have hbefore : s.controller.phase ≠ .launched := by
    rw [hc, hphase]
    cases j <;> nofun
  have howes : (pc j).phase = .resting → (pc j).expects = some true → s.OwesWait :=
    fun hresting hexpected =>
      ⟨hc.symm ▸ hresting, h.expects true (by rw [hc]; exact hexpected)⟩
  cases hmove with
  | started hstarted =>
    refine h.goto ⟨rfl, rfl⟩ ?_ (fun _ => rfl) (fun _ => rfl) ?_
    · rw [hc, hphase]
      exact hphase _
    · intro started hstarted'
      rw [goto_controller, hexpects] at hstarted'
      cases hstarted'
      exact hstarted
  | unstarted hstarted =>
    obtain ⟨c, log, hc', hnone, heq⟩ := hret s false
    rw [heq]
    refine settle ⟨rfl, rfl⟩ hbefore hc' (not_owesWait_of_not_started hstarted)
      (not_owesWait_of_not_started hstarted) ?_
    intro started hstarted'
    rw [hnone] at hstarted'
    cases hstarted'
  | alreadyJoined hwaitJoined =>
    have hunjoined := h.unjoined (howes (hphase _) (hexpects _))
    exact absurd (hunjoined.symm.trans hwaitJoined) Bool.false_ne_true
  | unjoined =>
    have hstarted := (howes (hphase _) (hexpects _)).2
    refine h.goto ⟨rfl, rfl⟩ ?_ (fun _ => rfl) (fun _ => rfl) ?_
    · rw [hc, hphase]
      exact hphase _
    · intro started hstarted'
      rw [goto_controller, hexpects] at hstarted'
      cases hstarted'
      exact hstarted
  | @joins outcome waitThreads hjoin =>
    have howed := howes (hphase _) (hexpects _)
    obtain ⟨-, hhead, hhead'⟩ := hcovered.wait.threadJoin hjoin
    have hafter : ({ s with waitThreads }.goto (pc .storeWaitJoined)).controller.phase =
        .quiet := hphase _
    have hnot : ¬({ s with waitThreads }.goto (pc .storeWaitJoined)).OwesWait :=
      fun howed' => nomatch hafter.symm.trans howed'.1
    have hrt : ¬s.OwesRt := not_owesRt hbefore (.inr hhead)
    have hrt' : ¬({ s with waitThreads }.goto (pc .storeWaitJoined)).OwesRt :=
      not_owesRt (by rw [hafter]; nofun) (.inr hhead')
    refine ⟨.keep (iff_of_false hrt' hrt) rfl, .join howed hnot outcome true hjoin,
      fun h => absurd h hnot, ?_⟩
    intro started hstarted'
    rw [goto_controller, hexpects] at hstarted'
    cases hstarted'
  | fails hjoin => cases (h.wait.join (howes (hphase _) (hexpects _)) hjoin not_false).1
  | storeWaitJoined =>
    refine h.quiet ⟨rfl, rfl⟩ (by rw [hc]; exact hphase _) (hphase _) ?_
    intro started hstarted'
    rw [goto_controller, hexpects] at hstarted'
    cases hstarted'
  | storeStarted =>
    have hquiet : s.controller.phase = .quiet := by
      rw [hc]
      exact hphase _
    obtain ⟨c, log, hc', hnone, heq⟩ := hret (s.setFlags { s.flags with started := false }) true
    rw [heq]
    refine settle ⟨rfl, rfl⟩ hbefore hc' (not_owesWait rfl (by rw [hquiet]; nofun))
      (not_owesWait_of_not_started rfl) ?_
    intro started hstarted'
    rw [hnone] at hstarted'
    cases hstarted'

theorem controllerStep (h : s.Owing) (hcovered : s.Covered) {outcome : Bool}
    (hmove : ControllerMove s outcome s') : s.Moved (.controller outcome) s' := by
  cases hmove with
  | start pc hc hmove => exact h.startStep hcovered hc hmove
  | requestStop hc | destroyStop hc =>
    exact h.goto ⟨rfl, rfl⟩ (by rw [hc]; rfl) (fun _ => rfl) (fun _ => rfl) nofun
  | join pc hc hmove =>
    refine h.joinStep hcovered (fun _ => rfl) (fun _ => rfl) (fun s result => ?_) hc hmove
    exact ⟨.idle, _, nofun, rfl, rfl⟩
  | destroyStarted hc hstarted =>
    refine h.goto ⟨rfl, rfl⟩ (by rw [hc]; rfl) (fun _ => rfl) (fun _ => rfl) ?_
    intro started hstarted'
    cases hstarted'
    exact hstarted
  | destroyUnstarted hc hstarted =>
    exact settle ⟨rfl, rfl⟩ (by rw [hc]; nofun) nofun (not_owesWait_of_not_started hstarted)
      (not_owesWait rfl nofun) nofun
  | destroyJoined hc hwaitJoined =>
    have hstarted : s.flags.started = true := h.expects true (by rw [hc]; rfl)
    have hunjoined := h.unjoined ⟨by rw [hc]; rfl, hstarted⟩
    exact absurd (hunjoined.symm.trans hwaitJoined) Bool.false_ne_true
  | destroyUnjoined hc =>
    exact h.goto ⟨rfl, rfl⟩ (by rw [hc]; rfl) (fun _ => rfl) (fun _ => rfl) nofun
  | destroyJoin pc hc hmove =>
    refine h.joinStep hcovered (fun j => ?_) (fun j => ?_) (fun s _ => ?_) hc hmove
    · cases j <;> rfl
    · cases j <;> rfl
    · exact ⟨.destroyFree, s.log, nofun, rfl, rfl⟩
  | destroyFree hc => exact h.quiet ⟨rfl, rfl⟩ (by rw [hc]; rfl) rfl nofun

/-- A step of a thread that leaves the controller and what is joined as they are. -/
theorem frame (h : s.Owing) (hc : s'.controller = s.controller)
    (hrt : s'.rtThreads.map Thread.joins = s.rtThreads.map Thread.joins)
    (hwait : s'.waitThreads.map Thread.joins = s.waitThreads.map Thread.joins)
    (hjoin : headState .returned s'.waitThreads = .join ↔
      headState .returned s.waitThreads = .join)
    (hstarted : s'.flags.started = s.flags.started)
    (hwaitJoined : s'.flags.waitJoined = s.flags.waitJoined) : s.Moved a s' := by
  have howed : s'.OwesWait ↔ s.OwesWait := by rw [OwesWait, OwesWait, hc, hstarted]
  refine .keep hrt hwait ?_ howed (fun h' => ?_) fun started hexpects => ?_
  · rw [OwesRt, OwesRt, hc, hjoin]
  · rw [hwaitJoined]
    exact h.unjoined (howed.mp h')
  · rw [hstarted]
    rw [hc] at hexpects
    exact h.expects started hexpects

theorem rtStep (h : s.Owing) {i : Nat} (hstep : s.step (.rt i) = some s') :
    s.Moved (.rt i) s' := by
  obtain ⟨t, state, world, hi, hthread, rfl⟩ := rt_step hstep
  have hflags : world.engine.flags = t.state.flags s.flags := World.rtThreadStep_flags hthread
  obtain ⟨-, hstarted, -, hwaitJoined⟩ := t.state.flags_frame s.flags
  refine h.frame rfl (joins_set hi state) rfl Iff.rfl ?_ ?_
  · rw [flags, hflags, hstarted]
  · rw [flags, hflags, hwaitJoined]

/-- The wait thread's join is the one that its RT thread is owed. -/
theorem waitJoin (h : s.Owing) (hcovered : s.Covered) {t : Thread WaitState}
    (hi : s.waitThreads[0]? = some t) (hstate : t.state = .join) {outcome joined : Bool}
    {rtThreads : List (Thread (RtState D.limits))}
    (hjoin : threadJoin .returned s.rtThreads outcome = some (joined, rtThreads)) :
    s.Moved a { s with
      rtThreads, waitThreads := s.waitThreads.set 0 { t with state := .storeRtJoined } } := by
  have hhead : headState .returned s.waitThreads = .join := (headState_newest hi).trans hstate
  have hresting : s.controller.phase = .resting := by
    refine hcovered.coverage.resting_of_active ?_
    rw [hhead]
    rintro (h | h) <;> cases h
  have hnot : ¬OwesRt { s with
      rtThreads, waitThreads := s.waitThreads.set 0 { t with state := .storeRtJoined } } := by
    rintro (hlaunched | hjoins)
    · exact nomatch hlaunched.symm.trans hresting
    · dsimp only at hjoins
      rw [headState_set hi, if_pos rfl] at hjoins
      cases hjoins
  exact ⟨.join (.inr hhead) hnot outcome joined hjoin, .keep Iff.rfl (joins_set hi _),
    h.unjoined, h.expects⟩

/-- A wait thread that is not at its join either before or after a step. -/
theorem headState_join_iff {t : Thread WaitState} {state : WaitState} {i : Nat}
    (hi : s.waitThreads[i]? = some t) (hbefore : t.state ≠ .join) (hafter : state ≠ .join) :
    headState .returned (s.waitThreads.set i { t with state }) = .join ↔
      headState .returned s.waitThreads = .join := by
  rw [headState_set hi]
  split
  · next hnewest =>
    subst hnewest
    rw [headState_newest hi]
    exact iff_of_false hafter hbefore
  · exact Iff.rfl

theorem waitStep (h : s.Owing) (hcovered : s.Covered) {i : Nat} {outcome : Bool}
    (hstep : s.step (.wait i outcome) = some s') : s.Moved (.wait i outcome) s' := by
  obtain ⟨⟨wait, joins⟩, state, s₁, hi, hmove, rfl⟩ := wait_step hstep
  cases hmove with
  | join hjoin =>
    obtain ⟨rfl, -⟩ := hcovered.wait.newest hi (by rintro (h | h) <;> cases h)
    exact h.waitJoin hcovered hi rfl hjoin
  | _ => exact h.frame rfl rfl (joins_set hi _) (headState_join_iff hi nofun nofun) rfl rfl

theorem moved (h : s.Owing) (hcovered : s.Covered) (hstep : s.step a = some s') :
    s.Moved a s' := by
  cases a with
  | call call =>
    obtain ⟨hc, rfl⟩ := call_step hstep
    refine h.goto ⟨rfl, rfl⟩ ?_ (fun _ => rfl) (fun _ => rfl) ?_
    · rw [hc]
      cases call <;> rfl
    · cases call <;> nofun
  | controller outcome => exact h.controllerStep hcovered (controllerStep_cases hstep)
  | rt i => exact h.rtStep hstep
  | wait i outcome => exact h.waitStep hcovered hstep
  | pushCommand message =>
    cases hstep
    exact h.frame rfl rfl rfl Iff.rfl rfl rfl

end Owing

theorem joining_of_initial (h : s.Initial) : s.Joining := by
  obtain ⟨hflags, hcontroller, hrt, hwait, -⟩ := h
  have hstarted : s.flags.started = false := by rw [flags, hflags]; rfl
  refine ⟨?_, ?_, fun howed => absurd howed (not_owesWait_of_not_started hstarted), ?_⟩
  · rw [hrt]
    refine .nil (not_owesRt ?_ ?_)
    · rw [hcontroller]
      nofun
    · rw [hwait]
      exact .inr rfl
  · rw [hwait]
    exact .nil (not_owesWait_of_not_started hstarted)
  · rw [hcontroller]
    nofun

/-- Every thread but the newest of its handle has been joined once, that one at most once, and once
the engine is about to destroy its handles all have been. -/
structure JoinedOnce (s : System D) : Prop where
  rt : ∀ t ∈ s.rtThreads.tail, t.joins = 1
  wait : ∀ t ∈ s.waitThreads.tail, t.joins = 1
  newestRt : ∀ t ∈ s.rtThreads, t.joins ≤ 1
  newestWait : ∀ t ∈ s.waitThreads, t.joins ≤ 1
  destroyed : s.controller = .destroyFree ∨ s.controller = .destroyed →
    (∀ t ∈ s.rtThreads, t.joins = 1) ∧ ∀ t ∈ s.waitThreads, t.joins = 1

theorem Joining.joinedOnce (h : s.Joining) (hcovered : s.Covered) : s.JoinedOnce := by
  refine ⟨h.rt.tail, h.wait.tail, h.rt.newest.atMostOnce, h.wait.newest.atMostOnce,
    fun hdestroy => ?_⟩
  have hquiet : s.controller.phase = .quiet := by
    rcases hdestroy with hc | hc <;> rw [hc] <;> rfl
  have hpassive := (hcovered.coverage.quiet hquiet).2
  exact ⟨h.rt.settled (not_owesRt (by rw [hquiet]; nofun) hpassive),
    h.wait.settled (not_owesWait rfl (by rw [hquiet]; nofun))⟩

end System

/-- In every run in which no `start` finds `running` false before the wait thread of the last
launch has been joined, every thread is joined exactly once, before its handle is launched again
and before it is destroyed. -/
theorem joined_once_of_starts_joined {s : System D}
    (h : ReachableBy System.Initial System.step System.StartsJoined s) : s.JoinedOnce := by
  have hinvariant : s.Covered ∧ s.Joining := by
    refine h.invariant (P := fun s : System D => s.Covered ∧ s.Joining) ?_ ?_
    · exact fun s hs => ⟨System.covered_of_initial hs, System.joining_of_initial hs⟩
    · intro s a s' ⟨hcovered, hjoining⟩ hok hstep
      exact ⟨hcovered.step hstep, (hjoining.owing.moved hcovered hstep).joining hjoining hok⟩
  exact hinvariant.2.joinedOnce hinvariant.1

namespace Reference

/-- The acts from the creation of the engine to the end of both threads of its first launch. -/
def launchAndStop : List (Step limits) :=
  .call .start :: List.replicate 9 (.controller true) ++
    [.call .requestStop, .controller true, .rt 0, .rt 0] ++ List.replicate 4 (.wait 0 true)

/-- The engine after a launch, its end, `join` and `destroy`. -/
def destroyed : System deps :=
  (Transition.run (Transition.guarded System.step System.StartsJoined) created
    (launchAndStop ++ .call .join :: List.replicate 5 (.controller true) ++
      .call .destroy :: List.replicate 3 (.controller true))).get (by decide)

/-- The engine after a launch, its end, and a second `start` without a `join`. -/
def restarted : System deps :=
  (Transition.run System.step created
    (launchAndStop ++ .call .start :: List.replicate 9 (.controller true))).get (by decide)

end Reference

theorem joined_once_reference :
    Reference.destroyed.controller = .destroyed ∧ Reference.destroyed.JoinedOnce := by
  have hrun : Transition.run (guarded System.step System.StartsJoined) Reference.created
      (Reference.launchAndStop ++ .call .join :: List.replicate 5 (.controller true) ++
        .call .destroy :: List.replicate 3 (.controller true)) = some Reference.destroyed :=
    (Option.some_get _).symm
  exact ⟨rfl, joined_once_of_starts_joined
    ⟨Reference.created, _, ⟨rfl, rfl, rfl, rfl, rfl⟩, .of_guarded_run hrun⟩⟩

/-- A `start` after the wait thread has cleared `running` launches a second wait thread on its
handle, although the first has not been joined. -/
theorem restart_without_join :
    ¬∀ s : System Reference.deps, s.Reachable → s.JoinedOnce := by
  intro h
  have hcreated : Reference.created.Reachable := .start ⟨rfl, rfl, rfl, rfl, rfl⟩
  have hjoined := h Reference.restarted (hcreated.run (Option.some_get _).symm)
  exact absurd (hjoined.wait ⟨.returned, 0⟩ (List.mem_singleton.mpr rfl)) (by decide)

end RtsynEngine
