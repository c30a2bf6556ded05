import RtsynEngine.Lib.Pacing
import RtsynEngine.Proof.Clock
import RtsynEngine.Proof.Effects

/-! How the RT loop paces itself: a history of its launches holds the readings, the period and the
deadline of each cycle, and they are those of a loop with an accumulated deadline. -/

namespace RtsynEngine

open Transition Pacing History

variable {D : Deps} {L : Limits}

/-- A launch of the RT loop: the time when it was entered, and its cycles, oldest first. -/
structure Launch where
  enteredAtNs : UInt64
  laps : List Lap

namespace Launch

def clock (l : Launch) : UInt64 := Pacing.clock l.enteredAtNs l.laps

def deadline (l : Launch) : UInt64 := Pacing.deadline l.enteredAtNs l.laps

/-- The readings and deadlines are those of a loop with an accumulated deadline. -/
def Timed (l : Launch) : Prop := Each (Pacing.Timed l.enteredAtNs) l.laps

/-- In every cycle with a positive period the deadline is later than the end of the work and at
most one period after its start. -/
def InTime (l : Launch) : Prop := ∀ c ∈ l.laps, c.periodic → c.InTime

/-- The work of every cycle with a positive period, with that of the free-running ones since the
last such cycle, takes less than the period, and the start time with the periods so far is less
than `2 ^ 64`. -/
def Feasible (l : Launch) : Prop :=
  Each (fun before c => c.periodic → Pacing.Feasible l.enteredAtNs before c) l.laps

def add (l : Launch) (c : Lap) : Launch := { l with laps := l.laps ++ [c] }

@[simp] theorem clock_add (l : Launch) (c : Lap) : (l.add c).clock = c.completedAt :=
  clock_append _ _ _

@[simp] theorem deadline_add (l : Launch) (c : Lap) :
    (l.add c).deadline = l.deadline + c.period :=
  deadline_append _ _ _

end Launch

/-- The history of launches, newest first, after the act `a` in `s`: a cycle is recorded when its
loop is about to sleep. -/
def System.recordLap (s : System D) (a : Act D.limits) (launches : List Launch) : List Launch :=
  match a, s.loop with
  | .step (.rt _), .enter => ⟨s.world.getTime.1, []⟩ :: launches
  | .step (.rt _), .sleep nextDeadlineNs startedAtNs finishedAtNs periodNs =>
    launches.modifyHead
      (·.add ⟨startedAtNs, finishedAtNs, periodNs, nextDeadlineNs + periodNs⟩)
  | _, _ => launches

/-- The recorded deadline is the one passed to `rtsyn_thread_sleep_until`. -/
theorem World.sleepUntil_recorded (w : World D)
    {nextDeadlineNs startedAtNs finishedAtNs periodNs : UInt64} (hperiod : 0 < periodNs) :
    ∃ state w', w.rtThreadStep (.sleep nextDeadlineNs startedAtNs finishedAtNs periodNs) =
      some (state, w') ∧ w'.trace = w.trace ++ [.sleepUntil (nextDeadlineNs + periodNs)] ∧
        w'.env = (D.threadGetTime (D.threadSleepUntil w.env (nextDeadlineNs + periodNs))).2 := by
  refine ⟨_, _, if_pos hperiod, rfl, rfl⟩

/-- The loop's variables and the clock, as the cycles of its launch leave them. -/
def RtState.Paces (l : Launch) (now : UInt64) : RtState L → Prop
  | .test nextDeadlineNs | .cycleBegin nextDeadlineNs | .measure nextDeadlineNs _ _ _ =>
    nextDeadlineNs = l.deadline ∧ now = l.clock
  | .drain nextDeadlineNs startedAtNs _ | .dispatch nextDeadlineNs startedAtNs _ _
  | .pauseTest nextDeadlineNs startedAtNs | .step nextDeadlineNs startedAtNs
  | .finish nextDeadlineNs startedAtNs =>
    nextDeadlineNs = l.deadline ∧ startedAtNs = l.clock ∧ startedAtNs ≤ now
  | .sleep nextDeadlineNs startedAtNs finishedAtNs _ =>
    nextDeadlineNs = l.deadline ∧ startedAtNs = l.clock ∧ startedAtNs ≤ finishedAtNs ∧
      now = finishedAtNs
  | .enter | .returned => True

/-- The history is one of timed launches, the newest of which is where the loop is. -/
structure Paced (launches : List Launch) (state : RtState L) (now : UInt64) : Prop where
  timed : ∀ l ∈ launches, l.Timed
  newest : state = .enter ∨ state = .returned ∨ ∃ l ls, launches = l :: ls ∧ state.Paces l now

namespace Paced

variable {launches : List Launch} {state state' : RtState L} {now now' : UInt64}

/-- A step within a cycle. -/
theorem keep (h : Paced launches state now) (hlive : state ≠ .enter ∧ state ≠ .returned)
    (hpaces : ∀ l, state.Paces l now → state'.Paces l now') : Paced launches state' now' := by
  obtain ⟨htimed, hstate | hstate | ⟨l, ls, heq, hl⟩⟩ := h
  · exact absurd hstate hlive.1
  · exact absurd hstate hlive.2
  · exact ⟨htimed, .inr (.inr ⟨l, ls, heq, hpaces l hl⟩)⟩

theorem enter (h : Paced launches state now) (enteredAtNs : UInt64) :
    Paced (⟨enteredAtNs, []⟩ :: launches) (.test enteredAtNs : RtState L) enteredAtNs := by
  refine ⟨List.forall_mem_cons.mpr ⟨each_nil, h.timed⟩, .inr (.inr ⟨_, _, rfl, rfl, rfl⟩)⟩

theorem finished {nextDeadlineNs startedAtNs finishedAtNs periodNs : UInt64}
    (h : Paced launches (.sleep nextDeadlineNs startedAtNs finishedAtNs periodNs : RtState L) now) :
    now = finishedAtNs := by
  obtain ⟨-, hstate | hstate | ⟨l, ls, -, -, -, -, hnow⟩⟩ := h
  · cases hstate
  · cases hstate
  · exact hnow

/-- The end of a cycle, with the clock at the lap's end. -/
theorem sleep {nextDeadlineNs startedAtNs finishedAtNs periodNs : UInt64}
    (h : Paced launches (.sleep nextDeadlineNs startedAtNs finishedAtNs periodNs : RtState L) now)
    (completedAtNs : UInt64) {c : Lap}
    (hc : c = ⟨startedAtNs, finishedAtNs, periodNs, nextDeadlineNs + periodNs⟩)
    (hnow : now' = c.completedAt) :
    Paced (launches.modifyHead (·.add c))
      (.measure (nextDeadlineNs + periodNs) startedAtNs completedAtNs periodNs : RtState L)
      now' := by
  obtain ⟨htimed, hstate | hstate | ⟨l, ls, rfl, hdeadline, hstarted, hfinished, -⟩⟩ := h
  · cases hstate
  · cases hstate
  obtain ⟨hl, hls⟩ := List.forall_mem_cons.mp htimed
  have hlap : Pacing.Timed l.enteredAtNs l.laps c := by
    rw [hc]
    exact ⟨hstarted, hfinished, by rw [hdeadline]; rfl⟩
  refine ⟨List.forall_mem_cons.mpr ⟨each_append_singleton.mpr ⟨hl, hlap⟩, hls⟩,
    .inr (.inr ⟨_, _, rfl, ?_, ?_⟩)⟩
  · rw [Launch.deadline_add, hdeadline, hc]
  · rw [Launch.clock_add, hnow]

end Paced

namespace System

variable {s s' : System D} {now : D.Env → UInt64} {launches : List Launch}

theorem loopStep_paced (laws : D.ClockLaws now)
    (h : Paced launches s.loop (now s.world.env))
    (hstep : s.world.rtThreadStep s.loop = some (s'.loop, s'.world)) (i : Nat) :
    Paced (s.recordLap (.step (.rt i)) launches) s'.loop (now s'.world.env) := by
  have hcases := World.rtThreadStep_cases hstep
  unfold recordLap
  generalize s.loop = state at h hcases
  generalize s'.loop = state' at hcases
  generalize s'.world = w' at hcases
  have hread : s.world.getTime.1 = now s.world.env := laws.read _
  have hclock : now s.world.getTime.2.env = now s.world.env := laws.threadGetTime _
  cases hcases with
  | enter =>
    rw [hclock, ← hread]
    exact h.enter _
  | leave nextDeadlineNs hstop => exact ⟨h.timed, .inr (.inl rfl)⟩
  | cycleBegin nextDeadlineNs =>
    rw [World.publish_env, hclock]
    refine h.keep ⟨nofun, nofun⟩ ?_
    rintro l ⟨hdeadline, hnow⟩
    exact ⟨hdeadline, hread.trans hnow, UInt64.le_of_eq hread⟩
  | dispatch nextDeadlineNs startedAtNs i message =>
    have hnow := World.dispatch_now laws (s.world.emit (.dispatched message)) message
    refine h.keep ⟨nofun, nofun⟩ ?_
    rintro l ⟨hdeadline, hstarted, hle⟩
    exact ⟨hdeadline, hstarted, UInt64.le_trans hle hnow⟩
  | step nextDeadlineNs startedAtNs =>
    refine h.keep ⟨nofun, nofun⟩ ?_
    rintro l ⟨hdeadline, hstarted, hle⟩
    exact ⟨hdeadline, hstarted, UInt64.le_trans hle (laws.step _ _)⟩
  | finish nextDeadlineNs startedAtNs =>
    rw [World.publishCycle_env, hclock, ← hread]
    rw [← hread] at h
    refine h.keep ⟨nofun, nofun⟩ ?_
    rintro l ⟨hdeadline, hstarted, hle⟩
    exact ⟨hdeadline, hstarted, hle, rfl⟩
  | sleep nextDeadlineNs startedAtNs finishedAtNs periodNs hperiod =>
    have hperiodic : Lap.periodic
        ⟨startedAtNs, finishedAtNs, periodNs, nextDeadlineNs + periodNs⟩ := hperiod
    have hsleep := laws.threadSleepUntil s.world.env (nextDeadlineNs + periodNs)
    rw [h.finished] at hsleep
    refine h.sleep _ rfl ?_
    rw [Lap.completedAt_periodic hperiodic]
    exact (laws.threadGetTime _).trans hsleep
  | free nextDeadlineNs startedAtNs finishedAtNs periodNs hperiod =>
    have hfree : ¬Lap.periodic
        ⟨startedAtNs, finishedAtNs, periodNs, nextDeadlineNs + periodNs⟩ := hperiod
    have hzero : nextDeadlineNs + periodNs = nextDeadlineNs := by
      have hperiod' : periodNs = 0 := UInt64.le_antisymm (UInt64.not_lt.mp hperiod) (by simp)
      rw [hperiod', UInt64.add_zero]
    have hpaced := h.sleep finishedAtNs rfl (Lap.completedAt_free hfree).symm
    rw [hzero] at hpaced
    rw [h.finished]
    dsimp only
    rw [hzero]
    exact hpaced
  | measure nextDeadlineNs startedAtNs cycleCompletedAtNs periodNs =>
    have hnow := World.measureCycle_now laws s.world nextDeadlineNs startedAtNs
      cycleCompletedAtNs periodNs
    refine h.keep ⟨nofun, nofun⟩ ?_
    rintro l ⟨hdeadline, hl⟩
    exact ⟨hdeadline, hnow.trans hl⟩
  | _ => exact h.keep ⟨nofun, nofun⟩ fun _ hl => hl

/-- The system with its history of launches. -/
def pacedAct : System D × List Launch → Act D.limits → Option (System D × List Launch) :=
  recording act recordLap

theorem recordLap_other (s : System D) {a : Act D.limits} (h : a.other)
    (launches : List Launch) : s.recordLap a launches = launches := by
  cases a with
  | requestStop => rfl
  | step a => cases a <;> first | rfl | exact h.elim

/-- In every run from a created engine the history is one of timed launches. -/
theorem paced_of_path (laws : D.ClockLaws now) {s₀ : System D} (h : s₀.Initial)
    {as : List (Act D.limits)} {o : System D × List Launch}
    (hpath : Path pacedAct (fun _ _ => True) (s₀, []) as o) :
    o.1.Covered ∧ Paced o.2 o.1.loop (now o.1.world.env) := by
  refine hpath.invariant (P := fun _ (o : System D × List Launch) =>
    o.1.Covered ∧ Paced o.2 o.1.loop (now o.1.world.env)) ?_ ?_
  · refine ⟨covered_of_initial h, fun _ h => (nomatch h), .inr (.inl ?_)⟩
    rw [loop, h.2.2.1]
    rfl
  · rintro as ⟨s, launches⟩ a o' ⟨hcovered, hpaced⟩ - hstep
    obtain ⟨s', hact, rfl⟩ := Option.map_eq_some_iff.mp hstep
    refine ⟨hcovered.act hact, ?_⟩
    cases (act_effect hcovered hact).share with
    | loop hloop => exact loopStep_paced laws hpaced hloop 0
    | push m hloop hworld =>
      rw [hloop, hworld]
      exact hpaced
    | idle hidle =>
      rw [s.recordLap_other hidle.other, hidle.env]
      rcases hidle.loop with hloop | ⟨-, hloop⟩
      · rw [hloop]
        exact hpaced
      · exact ⟨hpaced.timed, .inl hloop⟩

end System

/-- In every run and each launch of the loop, the loop sleeps in every cycle with a positive period
until at most one period after its start, if and only if the launch is feasible. -/
theorem paces_itself_iff {now : D.Env → UInt64} (laws : D.ClockLaws now) {s₀ : System D}
    (h : s₀.Initial) {as : List (Act D.limits)} {s : System D} {launches : List Launch}
    (hpath : Path System.pacedAct (fun _ _ => True) (s₀, []) as (s, launches)) :
    ∀ l ∈ launches, l.InTime ↔ l.Feasible := by
  intro l hl
  have htimed := (System.paced_of_path laws h hpath).2.timed l hl
  exact inTime_iff_feasible htimed

namespace Reference

/-- The reference dependencies with a step of the runtime that takes 10 ns. -/
def timedDeps : Deps :=
  { deps with step := fun r e => (r, { e with now := max e.now (e.now + 10) }) }

theorem clockLaws : timedDeps.ClockLaws Env.now where
  read _ := rfl
  threadGetTime _ := rfl
  threadSleepUntil _ _ := rfl
  calculateCycle _ _ _ _ := rfl
  step r e := by
    show e.now ≤ if e.now ≤ e.now + 10 then e.now + 10 else e.now
    split
    · next hle => exact hle
    · exact UInt64.le_refl _
  nodeCreatePlugin e d := by
    dsimp only [timedDeps, deps, createNode]
    split <;> exact UInt64.le_refl _
  nodeCreateDevice e d := by
    dsimp only [timedDeps, deps, createNode]
    split <;> exact UInt64.le_refl _
  nodeDestroy _ _ := UInt64.le_refl _
  moduleLoaderCreate e modulePath := by
    dsimp only [timedDeps, deps]
    split <;> exact UInt64.le_refl _
  mallocLoadedNode _ := UInt64.le_refl _
  collectionAdd _ := UInt64.le_refl _
  threadSetPriority _ _ := UInt64.le_refl _

def periodMessage : CommandMessage limits := ⟨1, .setRuntimePeriod 11⟩

/-- A created engine with these dependencies, free running, and some commands in its queue. -/
def timedCreated (commands : List (CommandMessage limits)) : System timedDeps where
  world :=
    { engine := world.engine, runtime := world.runtime, env := world.env,
      results := world.results, telemetry := world.telemetry, commands, trace := [] }
  controller := .idle
  rtThreads := []
  waitThreads := []
  log := []

theorem timedCreated_initial (commands : List (CommandMessage limits)) :
    (timedCreated commands).Initial := ⟨rfl, rfl, rfl, rfl, rfl⟩

/-- The start of the engine, and `n` steps of its RT loop. -/
def startActs (n : Nat) : List (Act limits) :=
  .step (.call .start) :: List.replicate 9 (.step (.controller true)) ++
    List.replicate n (.step (.rt 0))

/-- A launch with a period of 11 ns from its first cycle on. -/
def periodicRun : System timedDeps × List Launch :=
  (Transition.run System.pacedAct (timedCreated [periodMessage], []) (startActs 11)).get
    (by decide)

/-- A launch whose first cycle runs free, and whose second has a period of 11 ns. -/
def switchedRun : System timedDeps × List Launch :=
  (Transition.run System.pacedAct (timedCreated [], [])
    (startActs 9 ++ .step (.pushCommand periodMessage) ::
      List.replicate 9 (.step (.rt 0)))).get (by decide)

end Reference

theorem paces_itself_reference : (⟨0, [⟨0, 10, 11, 11⟩]⟩ : Launch).InTime := by
  have hrun : Transition.run System.pacedAct
      (Reference.timedCreated [Reference.periodMessage], []) (Reference.startActs 11) =
        some Reference.periodicRun := (Option.some_get _).symm
  have hlaunches : Reference.periodicRun.2 = [⟨0, [⟨0, 10, 11, 11⟩]⟩] := rfl
  have hmem : (⟨0, [⟨0, 10, 11, 11⟩]⟩ : Launch) ∈ Reference.periodicRun.2 := by
    rw [hlaunches]
    exact List.mem_singleton_self _
  have hpath := Path.of_run (fun _ _ => trivial) hrun
  refine (paces_itself_iff Reference.clockLaws (Reference.timedCreated_initial _) hpath _
    hmem).mpr ?_
  refine each_append_singleton.mpr ⟨each_nil, fun _ => ⟨?_, ?_⟩⟩ <;> decide

/-- With a clock and a runtime as assumed, a loop that ran free before it is given a period computes
a deadline in the past, although the work takes less than the period. -/
theorem free_running_deadline_past :
    Reference.timedDeps.ClockLaws Reference.Env.now ∧
      (∀ r periodNs, periodNs ≠ 0 → ∃ r', Reference.timedDeps.setPeriod r periodNs = some r' ∧
        Reference.timedDeps.periodNs r' = periodNs) ∧
      ¬∀ as s launches, Path System.pacedAct (fun _ _ => True)
        (Reference.timedCreated [], []) as (s, launches) → ∀ l ∈ launches,
          (∀ c ∈ l.laps, c.periodic → c.work < c.period.toNat) → l.InTime := by
  refine ⟨Reference.clockLaws, ?_, ?_⟩
  · intro r periodNs hperiod
    have haccepted : (periodNs != 0) = true := by simpa using hperiod
    exact ⟨{ r with periodNs }, if_pos haccepted, rfl⟩
  · intro h
    have hrun : Transition.run System.pacedAct (Reference.timedCreated [], [])
        (Reference.startActs 9 ++ .step (.pushCommand Reference.periodMessage) ::
          List.replicate 9 (.step (.rt 0))) = some Reference.switchedRun :=
      (Option.some_get _).symm
    have hlaunches : Reference.switchedRun.2 = [⟨0, [⟨0, 10, 0, 0⟩, ⟨10, 20, 11, 11⟩]⟩] := rfl
    have hmem : (⟨0, [⟨0, 10, 0, 0⟩, ⟨10, 20, 11, 11⟩]⟩ : Launch) ∈
        Reference.switchedRun.2 := by
      rw [hlaunches]
      exact List.mem_singleton_self _
    have hin := h _ _ _ (.of_run (fun _ _ => trivial) hrun) _ hmem (by decide)
    exact absurd (hin ⟨10, 20, 11, 11⟩ (by simp) (by decide)).sleeps (by decide)

end RtsynEngine
