import RtsynEngine.Lib.History
import RtsynEngine.Proof.Effects

/-! The cycles of the RT loop, over any number of starts and stops: a history of the loop's runs
holds what each cycle added to the trace and the worlds between the parts of its work.  A rule
carries a law of the completed cycles over every run of the threads. -/

namespace RtsynEngine

open Handle Transition History

variable {D : Deps} {L : Limits}

/-- What has been added to the trace of `w` in `w'`. -/
def World.added (w w' : World D) : List (Event D.limits) := w'.trace.drop w.trace.length

theorem World.added_eq {w w' : World D} {events : List (Event D.limits)}
    (h : w'.trace = w.trace ++ events) : w.added w' = events := by
  rw [added, h, List.drop_left]

/-- A cycle of the RT loop. -/
structure CycleRun (D : Deps) where
  /-- The engine's `cycle_id` when the cycle began. -/
  cycleId : UInt64
  /-- What the loop has added to the trace, oldest first. -/
  events : List (Event D.limits)
  /-- Whether the drain found the command queue empty. -/
  foundEmpty : Bool
  /-- The period of the drain's last `SET_RUNTIME_PERIOD` command that succeeded. -/
  acceptedNs : Option UInt64
  /-- The world before the drain. -/
  began : World D
  /-- The world after the drain. -/
  drained : World D
  /-- The world when the cycle's work is done. -/
  worked : World D
  /-- The world after the publishers of the cycle. -/
  published : World D
  /-- The world when the cycle is over and about to be measured. -/
  rested : World D
  /-- The world after the loop's last step in the cycle. -/
  left : World D
  /-- The runtime's period after the drain and the step. -/
  periodNs : UInt64
  /-- The deadline, the start and the end that the cycle was measured with. -/
  deadlineNs : UInt64
  startedAtNs : UInt64
  completedAtNs : UInt64
  /-- The engine's `cycle_id` when the cycle was over. -/
  nextCycleId : UInt64

/-- A cycle whose begin takes the loop from `w` to `w'`. -/
def CycleRun.start (w w' : World D) : CycleRun D where
  cycleId := w.engine.cycleId
  events := w.added w'
  foundEmpty := false
  acceptedNs := none
  began := w'
  drained := w'
  worked := w'
  published := w'
  rested := w'
  left := w'
  periodNs := 0
  deadlineNs := 0
  startedAtNs := 0
  completedAtNs := 0
  nextCycleId := 0

/-- A run of `rtsyn_engine_rt_thread_main`. -/
structure LoopRun (D : Deps) where
  /-- The time read on entry. -/
  enteredAtNs : UInt64
  /-- The completed cycles, oldest first. -/
  cycles : List (CycleRun D)
  /-- The cycle that the loop is in. -/
  current : Option (CycleRun D)

namespace RtState

/-- The next step pops from an empty queue. -/
def findsEmpty (w : World D) : RtState D.limits → Bool
  | .drain _ _ i => i < w.engine.config.maxCommandsPerCycle.toNat && w.commands.isEmpty
  | _ => false

/-- The period that the next step sets. -/
def accepts (w : World D) : RtState D.limits → Option UInt64
  | .dispatch _ _ _ ⟨seq, .setRuntimePeriod periodNs⟩ =>
    if ((w.emit (.dispatched ⟨seq, .setRuntimePeriod periodNs⟩)).dispatchCommand
        ⟨seq, .setRuntimePeriod periodNs⟩).1 then some periodNs
    else none
  | _ => none

end RtState

/-- A cycle after a further step of the loop. -/
def CycleRun.extended (c : CycleRun D) (w : World D) (state : RtState D.limits) (w' : World D) :
    CycleRun D where
  cycleId := c.cycleId
  events := c.events ++ w.added w'
  foundEmpty := state.findsEmpty w || c.foundEmpty
  acceptedNs := (state.accepts w).or c.acceptedNs
  began := c.began
  drained :=
    match state with
    | .pauseTest _ _ => w
    | _ => c.drained
  worked :=
    match state with
    | .finish _ _ => w
    | _ => c.worked
  published :=
    match state with
    | .sleep _ _ _ _ => w
    | _ => c.published
  rested :=
    match state with
    | .measure _ _ _ _ => w
    | _ => c.rested
  left := w'
  periodNs :=
    match state with
    | .finish _ _ => D.periodNs w.runtime
    | _ => c.periodNs
  deadlineNs :=
    match state with
    | .measure nextDeadlineNs _ _ _ => nextDeadlineNs
    | _ => c.deadlineNs
  startedAtNs :=
    match state with
    | .measure _ startedAtNs _ _ => startedAtNs
    | _ => c.startedAtNs
  completedAtNs :=
    match state with
    | .measure _ _ cycleCompletedAtNs _ => cycleCompletedAtNs
    | _ => c.completedAtNs
  nextCycleId := w'.engine.cycleId

/-- A run of the loop after a further step. -/
def LoopRun.after (r : LoopRun D) (w : World D) (state : RtState D.limits) (w' : World D) :
    LoopRun D :=
  match state with
  | .cycleBegin _ => { r with current := some (.start w w') }
  | .measure _ _ _ _ =>
    { r with
      cycles := r.cycles ++ (r.current.map (·.extended w state w')).toList
      current := none }
  | _ => { r with current := r.current.map (·.extended w state w') }

theorem LoopRun.after_measure {r : LoopRun D} {c : CycleRun D}
    (hcurrent : r.current = some c) (w w' : World D)
    (nextDeadlineNs startedAtNs cycleCompletedAtNs periodNs : UInt64) :
    (r.after w (.measure nextDeadlineNs startedAtNs cycleCompletedAtNs periodNs) w').cycles =
      r.cycles ++
        [c.extended w (.measure nextDeadlineNs startedAtNs cycleCompletedAtNs periodNs) w'] := by
  rw [after, hcurrent]
  rfl

/-- The history of the loop's runs, newest first, after the act `a` in `s`. -/
def System.recordRun (s : System D) (a : Act D.limits) (runs : List (LoopRun D)) :
    List (LoopRun D) :=
  match a, s.loop with
  | .step (.rt _), .enter => ⟨s.world.getTime.1, [], none⟩ :: runs
  | .step (.rt _), state =>
    match s.world.rtThreadStep state with
    | some (_, w') => runs.modifyHead (·.after s.world state w')
    | none => runs
  | _, _ => runs

/-- The system with its history of the loop's runs. -/
def System.cycledAct : System D × List (LoopRun D) → Act D.limits →
    Option (System D × List (LoopRun D)) :=
  recording System.act System.recordRun

theorem Act.other.not_rt {a : Act L} (h : a.other) (i : Nat) : a ≠ .step (.rt i) := by
  rintro rfl
  exact h

theorem System.recordRun_other (s : System D) {a : Act D.limits}
    (h : ∀ i, a ≠ .step (.rt i)) (runs : List (LoopRun D)) : s.recordRun a runs = runs := by
  unfold recordRun
  split
  · exact absurd rfl (h _)
  · exact absurd rfl (h _)
  · rfl

theorem System.recordRun_loop {s s' : System D} (hlive : s.loop ≠ .enter)
    (hstep : s.world.rtThreadStep s.loop = some (s'.loop, s'.world)) (i : Nat)
    (runs : List (LoopRun D)) :
    s.recordRun (.step (.rt i)) runs = runs.modifyHead (·.after s.world s.loop s'.world) := by
  unfold recordRun
  split
  · next heq => exact absurd heq hlive
  · rw [hstep]
  · next hnot _ => exact (hnot i rfl).elim

/-! ### The pause flag outside the loop -/

/-- `start` has stored that the engine is not paused and has not launched the RT thread yet. -/
def StartState.unpaused : StartState → Bool
  | .storeRtJoined | .storeWaitJoined | .storeRunning | .storeStarted | .runRt => true
  | _ => false

theorem StartState.quiet_of_unpaused {pc : StartState} (h : pc.unpaused = true) :
    (Controller.start pc).phase = .quiet := by
  cases pc <;> first | rfl | cases h

namespace System

/-- The RT loop is entered unpaused. -/
structure EntersUnpaused (s : System D) : Prop where
  launching : ∀ pc, s.controller = .start pc → pc.unpaused = true → s.flags.paused = false
  entering : s.loop = .enter → s.flags.paused = false

variable {s s' : System D}

theorem startStep_paused {pc : StartState} {outcome : Bool} (hpc : pc ≠ .storePaused)
    (hmove : StartMove s outcome pc s') :
    s'.flags.paused = s.flags.paused ∧ (s'.loop = s.loop ∨ pc = .runRt) ∧
      ∀ pc', s'.controller = .start pc' → pc'.unpaused = true → pc.unpaused = true := by
  cases hmove with
  | storePaused => exact absurd rfl hpc
  | found | rtFailedRunning | launchWait | waitFailedRunning => exact ⟨rfl, .inl rfl, nofun⟩
  | storeRtJoined | storeWaitJoined | storeRunning | storeStarted =>
    exact ⟨rfl, .inl rfl, fun _ _ _ => rfl⟩
  | launchRt | rtFailed => exact ⟨rfl, .inr rfl, fun _ _ _ => rfl⟩
  | waitFailedJoin hjoin =>
    refine ⟨rfl, .inl (headState_threadJoin hjoin), fun pc' hc h => ?_⟩
    cases hc
    cases h
  | _ =>
    refine ⟨rfl, .inl rfl, fun pc' hc h => ?_⟩
    cases hc
    cases h

/-- What an act of another thread than the RT threads does to the pause flag, the RT loop and
`start`. -/
structure LeavesPaused (s s' : System D) : Prop where
  paused : s'.flags.paused = s.flags.paused ∨
    s.controller = .start .storePaused ∧ s'.flags.paused = false
  loop : s'.loop = s.loop ∨ s.controller = .start .runRt
  launching : ∀ pc', s'.controller = .start pc' → pc'.unpaused = true →
    (∃ pc, s.controller = .start pc ∧ pc.unpaused = true) ∨ s'.flags.paused = false

theorem LeavesPaused.of_not_start (hpaused : s'.flags.paused = s.flags.paused)
    (hloop : s'.loop = s.loop) (hc : ∀ pc, s'.controller ≠ .start pc) : LeavesPaused s s' :=
  ⟨.inl hpaused, .inl hloop, fun pc h => absurd h (hc pc)⟩

theorem LeavesPaused.of_same (hpaused : s'.flags.paused = s.flags.paused)
    (hloop : s'.loop = s.loop) (hc : s'.controller = s.controller) : LeavesPaused s s' :=
  ⟨.inl hpaused, .inl hloop, fun pc h hunpaused => .inl ⟨pc, hc ▸ h, hunpaused⟩⟩

theorem joinStep_paused {pc : JoinState → Controller} {ret : System D → Bool → System D}
    {j : JoinState} (hmove : JoinMove s pc ret j s')
    (hret : ∀ {s₁ : System D} result, s₁.flags.paused = s.flags.paused → s₁.loop = s.loop →
      LeavesPaused s (ret s₁ result))
    (hpc : ∀ j pc', pc j ≠ .start pc') : LeavesPaused s s' := by
  cases hmove with
  | unstarted | fails => exact hret false rfl rfl
  | alreadyJoined | storeStarted => exact hret true rfl rfl
  | _ => exact .of_not_start rfl rfl (hpc _)

theorem controllerStep_paused {outcome : Bool} (hmove : ControllerMove s outcome s') :
    LeavesPaused s s' := by
  cases hmove with
  | start pc hc hmove =>
    by_cases hpc : pc = .storePaused
    · subst hpc
      cases hmove
      exact ⟨.inr ⟨hc, rfl⟩, .inl rfl, fun _ _ _ => .inr rfl⟩
    · obtain ⟨hpaused, hloop, hlaunching⟩ := startStep_paused hpc hmove
      exact ⟨.inl hpaused, hloop.imp_right fun (heq : pc = .runRt) => heq ▸ hc,
        fun pc' hc' h => .inl ⟨pc, hc, hlaunching pc' hc' h⟩⟩
  | join pc hc hmove =>
    exact joinStep_paused hmove
      (fun _ hpaused hloop => .of_not_start hpaused hloop fun _ => Controller.noConfusion)
      fun _ _ => Controller.noConfusion
  | destroyJoin pc hc hmove =>
    exact joinStep_paused hmove
      (fun _ hpaused hloop => .of_not_start hpaused hloop fun _ => Controller.noConfusion)
      fun _ _ => Controller.noConfusion
  | destroyFree hc =>
    refine .of_not_start ?_ rfl fun _ => Controller.noConfusion
    rw [flags, World.collectionDestroy, World.destroyElements_eq]
    rfl
  | _ => exact .of_not_start rfl rfl fun _ => Controller.noConfusion

theorem waitStep_paused {i : Nat} {outcome : Bool} (hstep : s.step (.wait i outcome) = some s') :
    LeavesPaused s s' := by
  obtain ⟨⟨wait, joins⟩, state, s₁, hi, hmove, rfl⟩ := wait_step hstep
  cases hmove with
  | join hjoin => exact .of_same rfl (headState_threadJoin hjoin) rfl
  | _ => exact .of_same rfl rfl rfl

theorem act_paused {a : Act D.limits} (ha : ∀ i, a ≠ .step (.rt i)) (hstep : s.act a = some s') :
    LeavesPaused s s' := by
  cases a with
  | requestStop =>
    cases hstep
    exact .of_same rfl rfl rfl
  | step a =>
    cases a with
    | call call =>
      obtain ⟨-, rfl⟩ := call_step hstep
      refine ⟨.inl rfl, .inl rfl, fun pc hc h => ?_⟩
      cases call <;> cases hc
      cases h
    | controller outcome => exact controllerStep_paused (controllerStep_cases hstep)
    | rt i => exact absurd rfl (ha i)
    | wait i outcome => exact waitStep_paused hstep
    | pushCommand m =>
      cases hstep
      exact .of_same rfl rfl rfl

/-- While the loop runs, the other threads leave the pause flag as it is. -/
theorem Covered.paused_kept (h : s.Covered) {a : Act D.limits} (ha : ∀ i, a ≠ .step (.rt i))
    (hstep : s.act a = some s') (hlive : s.loop ≠ .returned) :
    s'.flags.paused = s.flags.paused := by
  rcases (act_paused ha hstep).paused with hsame | ⟨hc, -⟩
  · exact hsame
  · exact absurd (h.coverage.quiet (by rw [hc]; rfl)).1 hlive

theorem entersUnpaused_of_initial (h : s.Initial) : s.EntersUnpaused where
  launching pc hc := by
    rw [h.2.1] at hc
    cases hc
  entering hloop := by
    rw [loop, h.2.2.1] at hloop
    cases hloop

theorem EntersUnpaused.act (h : s.EntersUnpaused) (hcovered : s.Covered) {a : Act D.limits}
    (hstep : s.act a = some s') : s'.EntersUnpaused := by
  by_cases ha : ∃ i, a = .step (.rt i)
  · obtain ⟨i, rfl⟩ := ha
    obtain ⟨t, state, world, hi, hthread, rfl⟩ := rt_step hstep
    cases rtStep_effect hcovered hstep with
    | loop hloop =>
      have hcases := World.rtThreadStep_cases hloop
      constructor
      · intro pc hc hunpaused
        have hphase : s.controller.phase = .quiet := by
          rw [show s.controller = .start pc from hc]
          exact StartState.quiet_of_unpaused hunpaused
        have hreturned : s.loop = .returned := (hcovered.coverage.quiet hphase).1
        rw [hreturned] at hloop
        cases hloop
      · intro hentered
        rw [hentered] at hcases
        generalize s.loop = state' at hcases
        cases hcases
    | launch ha => exact ha.elim
    | store ha => exact ha.elim
    | free ha => exact ha.elim
  · have hleaves := act_paused (not_exists.mp ha) hstep
    have hkept : s.flags.paused = false → s'.flags.paused = false := fun hunpaused =>
      hleaves.paused.elim (fun hsame => hsame.trans hunpaused) fun h => h.2
    constructor
    · intro pc hc hunpaused
      rcases hleaves.launching pc hc hunpaused with ⟨pc', hc', hunpaused'⟩ | hpaused
      · exact hkept (h.launching pc' hc' hunpaused')
      · exact hpaused
    · intro hentered
      rcases hleaves.loop with hsame | hc
      · exact hkept (h.entering (hsame ▸ hentered))
      · exact hkept (h.launching _ hc rfl)

end System

/-! ### A law of the cycles -/

/-- The completed cycles obey a law with those before them in their run, and the run that the loop
is in is at the stage that the loop's state tells. -/
structure Logged (Law : UInt64 → List (CycleRun D) → CycleRun D → Prop)
    (Stage : World D → RtState D.limits → LoopRun D → Prop) (w : World D)
    (state : RtState D.limits) (runs : List (LoopRun D)) : Prop where
  lawful : ∀ r ∈ runs, Each (Law r.enteredAtNs) r.cycles
  newest : state = .enter ∨ state = .returned ∨ ∃ r rs, runs = r :: rs ∧ Stage w state r

/-- A stage that each step of the loop preserves, a step that completes a cycle with the law, and
that other threads leave, in the worlds with a property that lasts. -/
structure Logs (Lasts : World D → Prop)
    (Law : UInt64 → List (CycleRun D) → CycleRun D → Prop)
    (Stage : World D → RtState D.limits → LoopRun D → Prop) : Prop where
  lasts {s s' : System D} {a : Act D.limits} : s.Covered → s.act a = some s' → Lasts s.world →
    Lasts s'.world
  enter (w : World D) : Lasts w → w.engine.flags.paused = false →
    Stage w.getTime.2 (.test w.getTime.1) ⟨w.getTime.1, [], none⟩
  step {w w' : World D} {state state' : RtState D.limits} {r : LoopRun D} : Lasts w →
    w.rtThreadStep state = some (state', w') → state ≠ .enter → state' ≠ .returned →
      Stage w state r → Stage w' state' (r.after w state w')
  law {w w' : World D} {state state' : RtState D.limits} {r : LoopRun D} : Lasts w →
    w.rtThreadStep state = some (state', w') → Stage w state r →
      Each (Law r.enteredAtNs) r.cycles → Each (Law r.enteredAtNs) (r.after w state w').cycles
  store {w : World D} {state : RtState D.limits} {r : LoopRun D} (f : Flags) :
    f.paused = w.engine.flags.paused → Stage w state r → Stage (w.setFlags f) state r
  push {w : World D} {state : RtState D.limits} {r : LoopRun D}
    (m : CommandMessage D.limits) : Stage w state r →
      Stage { w with commands := w.commands ++ [m] } state r

section Rule

variable {Lasts : World D → Prop}
  {Law : UInt64 → List (CycleRun D) → CycleRun D → Prop}
  {Stage : World D → RtState D.limits → LoopRun D → Prop}
  {s s' : System D} {runs : List (LoopRun D)}

theorem LoopRun.after_enteredAtNs (r : LoopRun D) (w : World D) (state : RtState D.limits)
    (w' : World D) : (r.after w state w').enteredAtNs = r.enteredAtNs := by
  cases state <;> rfl

namespace Logged

theorem frame {w w' : World D} {state : RtState D.limits} (h : Logged Law Stage w state runs)
    (hstage : state ≠ .returned → ∀ r, Stage w state r → Stage w' state r) :
    Logged Law Stage w' state runs := by
  refine ⟨h.lawful, ?_⟩
  rcases h.newest with hentered | hreturned | ⟨r, rs, heq, hr⟩
  · exact .inl hentered
  · exact .inr (.inl hreturned)
  · by_cases hreturned : state = .returned
    · exact .inr (.inl hreturned)
    · exact .inr (.inr ⟨r, rs, heq, hstage hreturned r hr⟩)

theorem loop (rule : Logs Lasts Law Stage) (h : Logged Law Stage s.world s.loop runs)
    (hlasts : Lasts s.world) (hunpaused : s.EntersUnpaused)
    (hstep : s.world.rtThreadStep s.loop = some (s'.loop, s'.world)) (i : Nat) :
    Logged Law Stage s'.world s'.loop (s.recordRun (.step (.rt i)) runs) := by
  by_cases hentered : s.loop = .enter
  · have hrecorded : s.recordRun (.step (.rt i)) runs = ⟨s.world.getTime.1, [], none⟩ :: runs := by
      unfold System.recordRun
      rw [hentered]
    have hcases := World.rtThreadStep_cases hstep
    have hstage := rule.enter s.world hlasts (hunpaused.entering hentered)
    rw [hrecorded]
    rw [hentered] at hcases
    generalize s'.loop = state' at hcases
    generalize s'.world = w' at hcases
    cases hcases
    exact ⟨List.forall_mem_cons.mpr ⟨each_nil, h.lawful⟩, .inr (.inr ⟨_, _, rfl, hstage⟩)⟩
  · rw [System.recordRun_loop hentered hstep]
    rcases h.newest with hentered' | hreturned | ⟨r, rs, rfl, hr⟩
    · exact absurd hentered' hentered
    · rw [hreturned] at hstep
      cases hstep
    · obtain ⟨hlawful, hrest⟩ := List.forall_mem_cons.mp h.lawful
      have hlaw := rule.law hlasts hstep hr hlawful
      constructor
      · refine List.forall_mem_cons.mpr ⟨?_, hrest⟩
        rw [LoopRun.after_enteredAtNs]
        exact hlaw
      · by_cases hreturned : s'.loop = .returned
        · exact .inr (.inl hreturned)
        · exact .inr (.inr ⟨_, _, rfl, rule.step hlasts hstep hentered hreturned hr⟩)

end Logged

/-- In every run from a created engine the completed cycles obey the law, and the newest run is at
its stage. -/
theorem Logs.path (rule : Logs Lasts Law Stage) {s₀ : System D} (h : s₀.Initial)
    (hlasts : Lasts s₀.world) {as : List (Act D.limits)}
    {o : System D × List (LoopRun D)}
    (hpath : Path System.cycledAct (fun _ _ => True) (s₀, []) as o) :
    Logged Law Stage o.1.world o.1.loop o.2 := by
  refine And.right (a := o.1.Covered ∧ o.1.EntersUnpaused ∧ Lasts o.1.world) ?_
  refine hpath.invariant (P := fun _ (o : System D × List (LoopRun D)) =>
    (o.1.Covered ∧ o.1.EntersUnpaused ∧ Lasts o.1.world) ∧
      Logged Law Stage o.1.world o.1.loop o.2) ?_ ?_
  · refine ⟨⟨System.covered_of_initial h, System.entersUnpaused_of_initial h, hlasts⟩,
      fun _ h => (nomatch h), .inr (.inl ?_)⟩
    rw [System.loop, h.2.2.1]
    rfl
  · rintro as ⟨s, runs⟩ a o' ⟨⟨hcovered, hunpaused, hlasts⟩, hlogged⟩ - hstep
    obtain ⟨s', hact, rfl⟩ := Option.map_eq_some_iff.mp hstep
    refine ⟨⟨hcovered.act hact, hunpaused.act hcovered hact, rule.lasts hcovered hact hlasts⟩, ?_⟩
    dsimp only at hlogged ⊢
    cases System.act_effect hcovered hact with
    | loop hloop => exact hlogged.loop rule hlasts hunpaused hloop 0
    | launch ha hbefore hafter hworld =>
      rw [s.recordRun_other ha.not_rt]
      exact ⟨hlogged.lawful, .inl hafter⟩
    | store ha hloop hworld _ =>
      rw [s.recordRun_other ha.not_rt, hloop, hworld]
      refine hlogged.frame fun hlive r hr => rule.store _ ?_ hr
      have hkept := hcovered.paused_kept ha.not_rt hact hlive
      rwa [System.flags, hworld] at hkept
    | push m hloop hworld =>
      have hpush : ∀ i, (.step (.pushCommand m) : Act D.limits) ≠ .step (.rt i) := by
        rintro i ⟨⟩
      rw [s.recordRun_other hpush, hloop, hworld]
      exact hlogged.frame fun _ _ hr => rule.push m hr
    | free ha hbefore hloop hworld =>
      rw [s.recordRun_other ha.not_rt, hloop, hbefore]
      exact ⟨hlogged.lawful, .inr (.inl rfl)⟩

end Rule

end RtsynEngine
