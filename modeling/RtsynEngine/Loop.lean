import RtsynEngine.Command
import RtsynEngine.Telemetry

/-! The RT thread's function and the wait thread's function (`engine/thread.c`), in steps between
which the other threads may act: a step loads or stores one atomic, pops or dispatches one command,
or does what touches no state shared with the engine's other threads. -/

namespace RtsynEngine

variable {D : Deps}

namespace World

/-- `rtsyn_thread_get_time` -/
def getTime (w : World D) : UInt64 × World D :=
  let (now, env) := D.threadGetTime w.env
  (now, { w with env })

/-- `rtsyn_spsc_command_try_pop` -/
def commandTryPop (w : World D) : Option (CommandMessage D.limits) × World D :=
  match w.commands with
  | [] => (none, w)
  | m :: commands => (some m, { w with commands })

/-- `rtsyn_runtime_step` -/
def runtimeStep (w : World D) : World D :=
  let (runtime, env) := D.step w.runtime w.env
  { w with runtime, env }.emit .runtimeStep

/-- `rtsyn_thread_sleep_until` -/
def sleepUntil (w : World D) (deadlineNs : UInt64) : World D :=
  { w with env := D.threadSleepUntil w.env deadlineNs }.emit (.sleepUntil deadlineNs)

def nextCycle (w : World D) : World D :=
  { w with engine := { w.engine with cycleId := w.engine.cycleId + 1 } }

end World

/-- Where an RT thread is in `rtsyn_engine_rt_thread_main`, with those of its local variables that
it still reads. -/
inductive RtState (L : Limits)
  | enter
  | test (nextDeadlineNs : UInt64)
  | cycleBegin (nextDeadlineNs : UInt64)
  /-- `rtsyn_engine_drain_commands` at the head of its loop. -/
  | drain (nextDeadlineNs startedAtNs : UInt64) (i : Nat)
  | dispatch (nextDeadlineNs startedAtNs : UInt64) (i : Nat) (message : CommandMessage L)
  | pauseTest (nextDeadlineNs startedAtNs : UInt64)
  | step (nextDeadlineNs startedAtNs : UInt64)
  | finish (nextDeadlineNs startedAtNs : UInt64)
  | sleep (nextDeadlineNs startedAtNs finishedAtNs periodNs : UInt64)
  | measure (nextDeadlineNs startedAtNs cycleCompletedAtNs periodNs : UInt64)
  | returned
deriving DecidableEq

namespace World

/-- The publishers after the work of a cycle. -/
def publishCycle (w : World D) (startedAtNs finishedAtNs : UInt64) : World D :=
  let w := (w.eventPublishRequestedValues finishedAtNs).2
  let w := (w.eventPublishCycleEnd startedAtNs finishedAtNs).2
  (w.eventPublishDropped finishedAtNs).2

/-- The measurement of a cycle. -/
def measureCycle (w : World D) (nextDeadlineNs startedAtNs cycleCompletedAtNs periodNs : UInt64) :
    World D :=
  match D.calculateCycle w.env periodNs startedAtNs cycleCompletedAtNs with
  | (none, env) => { w with env }
  | (some metrics, env) =>
    let w := { w with env }
    let metrics := D.calculateDeadline periodNs cycleCompletedAtNs nextDeadlineNs
      w.engine.config.deadlineToleranceNs metrics
    (w.eventPublishMeasurement cycleCompletedAtNs (some metrics)).2

/-- The next step of `rtsyn_engine_rt_thread_main`; `none` once it has returned. -/
def rtThreadStep (w : World D) : RtState D.limits → Option (RtState D.limits × World D)
  | .enter =>
    let (nextDeadlineNs, w) := w.getTime
    some (.test nextDeadlineNs, w)
  | .test nextDeadlineNs =>
    if w.engine.flags.stopRequested then some (.returned, w)
    else some (.cycleBegin nextDeadlineNs, w)
  | .cycleBegin nextDeadlineNs =>
    let (startedAtNs, w) := w.getTime
    some (.drain nextDeadlineNs startedAtNs 0, (w.eventPublishCycleBegin startedAtNs).2)
  | .drain nextDeadlineNs startedAtNs i =>
    if i < w.engine.config.maxCommandsPerCycle.toNat then
      match w.commandTryPop with
      | (none, w) => some (.pauseTest nextDeadlineNs startedAtNs, w)
      | (some message, w) => some (.dispatch nextDeadlineNs startedAtNs i message, w)
    else some (.pauseTest nextDeadlineNs startedAtNs, w)
  | .dispatch nextDeadlineNs startedAtNs i message =>
    some (.drain nextDeadlineNs startedAtNs (i + 1),
      ((w.emit (.dispatched message)).dispatchCommand message).2)
  | .pauseTest nextDeadlineNs startedAtNs =>
    if w.engine.flags.paused then some (.finish nextDeadlineNs startedAtNs, w)
    else some (.step nextDeadlineNs startedAtNs, w)
  | .step nextDeadlineNs startedAtNs => some (.finish nextDeadlineNs startedAtNs, w.runtimeStep)
  | .finish nextDeadlineNs startedAtNs =>
    let (finishedAtNs, w) := w.getTime
    let periodNs := D.periodNs w.runtime
    some (.sleep nextDeadlineNs startedAtNs finishedAtNs periodNs,
      w.publishCycle startedAtNs finishedAtNs)
  | .sleep nextDeadlineNs startedAtNs finishedAtNs periodNs =>
    if periodNs > 0 then
      let nextDeadlineNs := nextDeadlineNs + periodNs
      let (cycleCompletedAtNs, w) := (w.sleepUntil nextDeadlineNs).getTime
      some (.measure nextDeadlineNs startedAtNs cycleCompletedAtNs periodNs, w)
    else some (.measure nextDeadlineNs startedAtNs finishedAtNs periodNs, w)
  | .measure nextDeadlineNs startedAtNs cycleCompletedAtNs periodNs =>
    some (.test nextDeadlineNs,
      (w.measureCycle nextDeadlineNs startedAtNs cycleCompletedAtNs periodNs).nextCycle)
  | .returned => none

end World

/-- Where a wait thread is in `rtsyn_engine_wait_thread_main`; at `returning` it has only its
`return` left. -/
inductive WaitState
  | join
  | storeRtJoined
  | storeRunning
  | returning
  | returned
deriving DecidableEq

end RtsynEngine
