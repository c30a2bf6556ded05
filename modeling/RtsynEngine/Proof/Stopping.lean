import RtsynEngine.Proof.Effects

/-! What an RT loop may still do once its stop is requested: each place of the loop has a number of
steps, cycles and commands left, and no act of any thread adds to it before the next `start`. -/

namespace RtsynEngine

open Transition

variable {D : Deps} {L : Limits}

namespace RtState

/-- The steps of the runtime left to a loop whose stop is requested. -/
def stepsLeft : RtState L → Nat
  | .cycleBegin _ | .drain _ _ _ | .dispatch _ _ _ _ | .pauseTest _ _ | .step _ _ => 1
  | _ => 0

/-- The ends of a cycle left to it. -/
def cyclesLeft : RtState L → Nat
  | .enter | .test _ | .returned => 0
  | _ => 1

/-- The commands left to it: those that it may still pop, and the one in flight. -/
def commandsLeft (budget : Nat) : RtState L → Nat
  | .cycleBegin _ => budget
  | .drain _ _ i => budget - i
  | .dispatch _ _ i _ => budget - (i + 1) + 1
  | _ => 0

theorem stepsLeft_le (state : RtState L) : state.stepsLeft ≤ 1 := by
  cases state <;> simp [stepsLeft]

theorem cyclesLeft_le (state : RtState L) : state.cyclesLeft ≤ 1 := by
  cases state <;> simp [cyclesLeft]

theorem begins_le (state : RtState L) : state.begins ≤ 1 := by
  cases state <;> simp [begins]

theorem inFlight_le (budget : Nat) (state : RtState L) :
    state.inFlight.length ≤ state.commandsLeft budget := by
  cases state <;> simp [inFlight, commandsLeft]

/-- A command in flight is within the budget of its cycle. -/
def WithinBudget (budget : Nat) : RtState L → Prop
  | .dispatch _ _ i _ => i < budget
  | _ => True

theorem commandsLeft_le {budget : Nat} {state : RtState L} (h : state.WithinBudget budget) :
    state.commandsLeft budget ≤ budget := by
  cases state with
  | dispatch =>
    have hbudget : _ < budget := h
    simp only [commandsLeft]
    omega
  | _ => simp [commandsLeft]

/-- Nothing the loop dispatches takes a request to stop back. -/
theorem flags_stopRequested (state : RtState L) {f : Flags} (hstop : f.stopRequested = true) :
    (state.flags f).stopRequested = true := by
  unfold flags
  split
  · unfold CommandData.flags
    split
    · split <;> first | rfl | exact hstop
    · exact hstop
  · exact hstop

end RtState

/-- A step of a loop whose stop is requested uses up what it does. -/
theorem rtThreadStep_left {w w' : World D} {state state' : RtState D.limits}
    (h : w.rtThreadStep state = some (state', w'))
    (hstop : w.engine.flags.stopRequested = true) :
    state.steps + state'.stepsLeft ≤ state.stepsLeft ∧
      state.begins + state'.begins ≤ state.begins ∧
      state.cycles + state'.cyclesLeft ≤ state.cyclesLeft ∧
      state.inFlight.length +
          state'.commandsLeft w.engine.config.maxCommandsPerCycle.toNat ≤
        state.commandsLeft w.engine.config.maxCommandsPerCycle.toNat := by
  cases World.rtThreadStep_cases h with
  | again nextDeadlineNs hrunning =>
    rw [hstop] at hrunning
    cases hrunning
  | pop nextDeadlineNs startedAtNs i message commands hi hcommands =>
    simp only [RtState.steps, RtState.stepsLeft, RtState.begins, RtState.cycles,
      RtState.cyclesLeft, RtState.inFlight, RtState.commandsLeft, List.length_nil]
    omega
  | _ =>
    simp [RtState.steps, RtState.stepsLeft, RtState.begins, RtState.cycles, RtState.cyclesLeft,
      RtState.inFlight, RtState.commandsLeft, Nat.add_comm]

/-- The acts before the next `start` takes the request to stop back. -/
def System.Holds (s : System D) (a : Act D.limits) : Prop := ¬s.Restarts a

/-- What has happened since `s`, where the stop was requested, and what is left. -/
structure WindsDown (s : System D) (as : List (Act D.limits)) (s' : System D) : Prop where
  covered : s'.Covered
  stays : s'.flags.stopRequested = true
  budget : s'.budget = s.budget
  steps : runtimeSteps s'.world.trace + s'.loop.stepsLeft ≤
    runtimeSteps s.world.trace + s.loop.stepsLeft
  begins : cycleBegins s'.world.trace + s'.loop.begins ≤
    cycleBegins s.world.trace + s.loop.begins
  cycles : ∃ n, s'.world.engine.cycleId = s.world.engine.cycleId + UInt64.ofNat n ∧
    n + s'.loop.cyclesLeft ≤ s.loop.cyclesLeft
  commands : ∃ ms, dispatchedCommands s'.world.trace = dispatchedCommands s.world.trace ++ ms ∧
    s.loop.inFlight ++ s.world.commands ++ as.filterMap Act.pushed =
      ms ++ s'.loop.inFlight ++ s'.world.commands ∧
    ms.length + s'.loop.commandsLeft s.budget ≤ s.loop.commandsLeft s.budget

namespace WindsDown

variable {s s' s'' : System D} {as : List (Act D.limits)} {a : Act D.limits}

theorem refl (h : s.Covered) (hstop : s.flags.stopRequested = true) : WindsDown s [] s where
  covered := h
  stays := hstop
  budget := rfl
  steps := Nat.le_refl _
  begins := Nat.le_refl _
  cycles := ⟨0, by simp, by simp⟩
  commands := ⟨[], by simp, by simp, by simp⟩

theorem idle (h : WindsDown s as s') (hcovered : s''.Covered)
    (hstays : s''.flags.stopRequested = true) (hidle : Idles s' s'' a) :
    WindsDown s (as ++ [a]) s'' := by
  obtain ⟨hother, htrace, hcommands, hconfig, hcycleId, -, hloop⟩ := hidle
  obtain ⟨events, htrace, hemits⟩ := htrace
  have hleft : s''.loop.stepsLeft = s'.loop.stepsLeft ∧ s''.loop.begins = s'.loop.begins ∧
      s''.loop.cyclesLeft = s'.loop.cyclesLeft ∧ s''.loop.inFlight = s'.loop.inFlight ∧
      s''.loop.commandsLeft s.budget = s'.loop.commandsLeft s.budget := by
    rcases hloop with hsame | ⟨hbefore, hafter⟩
    · rw [hsame]
      exact ⟨rfl, rfl, rfl, rfl, rfl⟩
    · rw [hbefore, hafter]
      exact ⟨rfl, rfl, rfl, rfl, rfl⟩
  obtain ⟨hsteps, hbegins, hcycles, hinFlight, hleft⟩ := hleft
  obtain ⟨n, hn, hcyclesLeft⟩ := h.cycles
  obtain ⟨ms, hms, hqueue, hcommandsLeft⟩ := h.commands
  refine ⟨hcovered, hstays, ?_, ?_, ?_, ⟨n, ?_, ?_⟩, ⟨ms, ?_, ?_, ?_⟩⟩
  · rw [← h.budget, System.budget, hconfig, System.budget]
  · have hcount := h.steps
    rw [hsteps, htrace, runtimeSteps, List.countP_append, ← runtimeSteps, ← runtimeSteps,
      hemits.steps]
    omega
  · have hcount := h.begins
    have hnone := hemits.begins
    rw [hbegins, htrace, cycleBegins, List.countP_append, ← cycleBegins, ← cycleBegins]
    omega
  · rw [hcycleId, hn]
  · rwa [hcycles]
  · rw [htrace, dispatchedCommands, List.filterMap_append, ← dispatchedCommands,
      ← dispatchedCommands, hemits.commands, hms, List.append_nil]
  · rw [List.filterMap_append, List.filterMap_cons, hother.pushed, List.filterMap_nil,
      List.append_nil, hqueue, hinFlight, hcommands]
  · rwa [hleft]

theorem loopStep (h : WindsDown s as s') {i : Nat} (hcovered : s''.Covered)
    (hstep : s'.world.rtThreadStep s'.loop = some (s''.loop, s''.world)) :
    WindsDown s (as ++ [.step (.rt i)]) s'' := by
  obtain ⟨⟨events, htrace, hemits⟩, hqueue', ⟨rtThread, tolerance, hconfig⟩, hcycleId⟩ :=
    World.rtThreadStep_loopStep hstep
  obtain ⟨hsteps, hbegins, hcycles, hleft⟩ := rtThreadStep_left hstep h.stays
  obtain ⟨n, hn, hcyclesLeft⟩ := h.cycles
  obtain ⟨ms, hms, hqueue, hcommandsLeft⟩ := h.commands
  have hbudget : s'.world.engine.config.maxCommandsPerCycle.toNat = s.budget := h.budget
  rw [hbudget] at hleft
  refine ⟨hcovered, ?_, ?_, ?_, ?_, ⟨n + s'.loop.cycles, ?_, ?_⟩,
    ⟨ms ++ s'.loop.inFlight, ?_, ?_, ?_⟩⟩
  · rw [System.flags, World.rtThreadStep_flags hstep]
    exact RtState.flags_stopRequested _ h.stays
  · rw [← hbudget, System.budget, hconfig]
  · have hcount := h.steps
    rw [htrace, runtimeSteps, List.countP_append, ← runtimeSteps, ← runtimeSteps, hemits.steps]
    omega
  · have hcount := h.begins
    have hnew := hemits.begins
    rw [htrace, cycleBegins, List.countP_append, ← cycleBegins, ← cycleBegins]
    omega
  · rw [hcycleId, hn, UInt64.ofNat_add, UInt64.add_assoc]
  · omega
  · rw [htrace, dispatchedCommands, List.filterMap_append, ← dispatchedCommands,
      ← dispatchedCommands, hemits.commands, hms, List.append_assoc]
  · rw [List.filterMap_append, List.filterMap_cons]
    dsimp only [Act.pushed]
    rw [List.filterMap_nil, List.append_nil, hqueue, hqueue', List.append_assoc (ms ++ _)]
  · rw [List.length_append]
    omega

theorem push (h : WindsDown s as s') (hcovered : s''.Covered) (m : CommandMessage D.limits)
    (hloop : s''.loop = s'.loop)
    (hworld : s''.world = { s'.world with commands := s'.world.commands ++ [m] }) :
    WindsDown s (as ++ [.step (.pushCommand m)]) s'' := by
  obtain ⟨ms, hms, hqueue, hcommandsLeft⟩ := h.commands
  refine ⟨hcovered, ?_, ?_, ?_, ?_, ?_, ⟨ms, ?_, ?_, ?_⟩⟩
  · rw [System.flags, hworld]
    exact h.stays
  · rw [System.budget, hworld]
    exact h.budget
  · rw [hloop, hworld]
    exact h.steps
  · rw [hloop, hworld]
    exact h.begins
  · rw [hloop, hworld]
    exact h.cycles
  · rw [hworld]
    exact hms
  · rw [List.filterMap_append, ← List.append_assoc, hqueue, hloop, hworld]
    simp [Act.pushed]
  · rwa [hloop]

/-- Only the next `start` takes the request back. -/
theorem stays_of_act (h : s'.Covered) (hstop : s'.flags.stopRequested = true) (ha : s'.Holds a)
    (hstep : s'.act a = some s'') : s''.flags.stopRequested = true := by
  cases System.act_effect h hstep with
  | loop hthread =>
    rw [System.flags, World.rtThreadStep_flags hthread]
    exact RtState.flags_stopRequested _ hstop
  | launch hother hbefore hafter hworld =>
    rw [System.flags, hworld]
    exact hstop
  | store hother hloop hworld hkept =>
    rw [System.flags, hworld]
    exact hkept hstop ha
  | push m hloop hworld =>
    rw [System.flags, hworld]
    exact hstop
  | free hother hbefore hloop hworld =>
    rw [World.collectionDestroy, World.destroyElements_eq] at hworld
    rw [System.flags, hworld]
    exact hstop

theorem act (h : WindsDown s as s') (ha : s'.Holds a) (hstep : s'.act a = some s'') :
    WindsDown s (as ++ [a]) s'' := by
  have hcovered : s''.Covered := h.covered.act hstep
  have hstays := stays_of_act h.covered h.stays ha hstep
  cases (System.act_effect h.covered hstep).share with
  | loop hloop => exact h.loopStep hcovered hloop
  | push m hloop hworld => exact h.push hcovered m hloop hworld
  | idle hidle => exact h.idle hcovered hstays hidle

theorem path (h : s.Covered) (hstop : s.flags.stopRequested = true)
    (hpath : Path System.act System.Holds s as s') : WindsDown s as s' :=
  hpath.invariant (.refl h hstop) fun _ _ _ _ hs => hs.act

end WindsDown

/-- A command in flight is within the budget of its cycle, in every reachable state. -/
theorem rtThreadStep_withinBudget {w w' : World D} {state state' : RtState D.limits}
    (h : w.rtThreadStep state = some (state', w')) :
    state'.WithinBudget w'.engine.config.maxCommandsPerCycle.toNat := by
  obtain ⟨-, -, ⟨rtThread, tolerance, hconfig⟩, -⟩ := World.rtThreadStep_loopStep h
  rw [hconfig]
  cases World.rtThreadStep_cases h with
  | pop nextDeadlineNs startedAtNs i message commands hi hcommands => exact hi
  | _ => trivial

namespace System

theorem SharedReachable.withinBudget {s : System D} (h : s.SharedReachable) :
    s.loop.WithinBudget s.budget := by
  refine (Reachable.invariant (P := fun s : System D => s.Covered ∧
    s.loop.WithinBudget s.budget) ?_ ?_ h).2
  · intro s hs
    refine ⟨covered_of_initial hs, ?_⟩
    rw [loop, hs.2.2.1]
    trivial
  · intro s a s' hs hstep
    refine ⟨hs.1.act hstep, ?_⟩
    cases (act_effect hs.1 hstep).share with
    | loop hloop => exact rtThreadStep_withinBudget hloop
    | push m hloop hworld =>
      rw [hloop, budget, hworld]
      exact hs.2
    | idle hidle =>
      rcases hidle.loop with hloop | ⟨-, hloop⟩
      · rw [hloop, budget, hidle.config]
        exact hs.2
      · rw [hloop]
        trivial

/-- What may have happened since `s`, where the stop was requested: at most one step, one increment
of the cycle id and one `CYCLE_BEGIN`, and of the commands queued or pushed at most `n` are popped
and dispatched, in their order. -/
structure StopsWithin (s : System D) (n : Nat) (as : List (Act D.limits)) (s' : System D) :
    Prop where
  stays : s'.flags.stopRequested = true
  steps : runtimeSteps s'.world.trace ≤ runtimeSteps s.world.trace + 1
  cycleId : s'.world.engine.cycleId = s.world.engine.cycleId ∨
    s'.world.engine.cycleId = s.world.engine.cycleId + 1
  begins : cycleBegins s'.world.trace ≤ cycleBegins s.world.trace + 1
  commands : ∃ ms, dispatchedCommands s'.world.trace = dispatchedCommands s.world.trace ++ ms ∧
    s.loop.inFlight ++ s.world.commands ++ as.filterMap Act.pushed =
      ms ++ s'.loop.inFlight ++ s'.world.commands ∧
    ms.length + s'.loop.inFlight.length ≤ n

end System

theorem System.StopsWithin.mono {s s' : System D} {as : List (Act D.limits)} {n n' : Nat}
    (h : s.StopsWithin n as s') (hle : n ≤ n') : s.StopsWithin n' as s' := by
  obtain ⟨ms, hms, hqueue, hbound⟩ := h.commands
  exact ⟨h.stays, h.steps, h.cycleId, h.begins, ms, hms, hqueue, by omega⟩

theorem WindsDown.stopsWithin {s s' : System D} {as : List (Act D.limits)}
    (h : WindsDown s as s') : s.StopsWithin (s.loop.commandsLeft s.budget) as s' := by
  refine ⟨h.stays, ?_, ?_, ?_, ?_⟩
  · have hleft := s.loop.stepsLeft_le
    have hsteps := h.steps
    omega
  · obtain ⟨n, hn, hleft⟩ := h.cycles
    have hone := s.loop.cyclesLeft_le
    have hn' : n = 0 ∨ n = 1 := by omega
    rcases hn' with rfl | rfl
    · exact .inl (hn.trans (by simp))
    · exact .inr hn
  · have hleft := s.loop.begins_le
    have hbegins := h.begins
    omega
  · obtain ⟨ms, hms, hqueue, hleft⟩ := h.commands
    have hinFlight := RtState.inFlight_le s.budget s'.loop
    exact ⟨ms, hms, hqueue, by omega⟩

/-- Once the stop is requested it stays so until the next `start` takes it back, and what the loop
still does is bounded; after a dispatched `STOP` the cycle's budget has one command less. -/
theorem stop_takes_effect {s : System D} (h : s.SharedReachable) :
    (s.flags.stopRequested = true → ∀ as s', Path System.act System.Holds s as s' →
      s.StopsWithin s.budget as s') ∧
      ∀ i s₁ nextDeadlineNs startedAtNs j message command,
        s.act (.step (.rt i)) = some s₁ →
        s.loop = .dispatch nextDeadlineNs startedAtNs j message →
        message.data = .globalCommand command → GlobalCommand.ofField command = .stop →
        s₁.flags.stopRequested = true ∧ ∀ as s', Path System.act System.Holds s₁ as s' →
          s₁.StopsWithin (s₁.budget - 1) as s' := by
  have hcovered := h.covered
  have hwithin := h.withinBudget
  constructor
  · intro hstop as s' hpath
    have hwinds := WindsDown.path hcovered hstop hpath
    exact hwinds.stopsWithin.mono (RtState.commandsLeft_le hwithin)
  · intro i s₁ nextDeadlineNs startedAtNs j message command hstep hloop hdata hcommand
    cases System.act_effect hcovered hstep with
    | store hother => exact hother.elim
    | launch hother => exact hother.elim
    | free hother => exact hother.elim
    | loop hthread =>
      obtain ⟨-, -, ⟨rtThread, tolerance, hconfig⟩, -⟩ := World.rtThreadStep_loopStep hthread
      have hbudget : s₁.budget = s.budget := by rw [System.budget, hconfig, System.budget]
      have hstop : s₁.flags.stopRequested = true := by
        have hflags := World.rtThreadStep_flags hthread
        rw [hloop] at hflags
        rw [System.flags, hflags]
        simp only [RtState.flags, CommandData.flags, hdata, hcommand]
      refine ⟨hstop, fun as s' hpath => ?_⟩
      have hwinds := WindsDown.path (hcovered.act hstep) hstop hpath
      refine hwinds.stopsWithin.mono ?_
      rw [hloop] at hthread hwithin
      have hafter : s₁.loop = .drain nextDeadlineNs startedAtNs (j + 1) := by
        dsimp only [World.rtThreadStep] at hthread
        exact (Prod.mk.inj (Option.some.inj hthread)).1.symm
      rw [hafter, RtState.commandsLeft]
      omega

namespace Reference

def stopMessage : CommandMessage limits := ⟨1, .globalCommand 1⟩

/-- The engine with its RT loop about to dispatch a `STOP`. -/
def dispatchingStop : System deps :=
  (Transition.run System.act started
    (.step (.pushCommand stopMessage) :: List.replicate 3 (.step (.rt 0)))).get (by decide)

/-- The engine after that dispatch, with the drain at its second command. -/
def stopDispatched : System deps := (dispatchingStop.act (.step (.rt 0))).get (by decide)

end Reference

theorem stop_takes_effect_reference :
    Reference.stopDispatched.flags.stopRequested = true ∧
      (∀ as s', Path System.act System.Holds Reference.stopDispatched as s' →
        Reference.stopDispatched.StopsWithin 3 as s') ∧
      ∀ as s', Path System.act System.Holds Reference.stopDispatched as s' →
        Reference.stopDispatched.StopsWithin 4 as s' := by
  have hcreated : Reference.created.SharedReachable := .start ⟨rfl, rfl, rfl, rfl, rfl⟩
  have hstarted : Transition.run System.act Reference.created
      (.step (.call .start) :: List.replicate 9 (.step (.controller true)) ++
        [.step (.rt 0)]) = some Reference.started := rfl
  have hdispatching : Reference.dispatchingStop.SharedReachable :=
    (hcreated.run hstarted).run (Option.some_get _).symm
  have hstep : Reference.dispatchingStop.act (.step (.rt 0)) = some Reference.stopDispatched :=
    (Option.some_get _).symm
  obtain ⟨hstop, hwithin⟩ := (stop_takes_effect hdispatching).2 0 Reference.stopDispatched 0 0 0
    Reference.stopMessage 1 hstep rfl rfl rfl
  exact ⟨hstop, hwithin, (stop_takes_effect (hdispatching.next hstep)).1 hstop⟩

end RtsynEngine
