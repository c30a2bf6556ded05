import RtsynEngine.Interleaving

/-! The RT thread's function as `engine/thread.c` reads, when no other thread comes between, and the
engine whose RT loop takes each of its cycles in one step. -/

namespace RtsynEngine

variable {D : Deps}

namespace World

/-- The loop of `rtsyn_engine_drain_commands`, with that many turns left. -/
def drainCommands (w : World D) : Nat → World D
  | 0 => w
  | left + 1 =>
    match w.commandTryPop with
    | (none, w) => w
    | (some message, w) =>
      ((w.emit (.dispatched message)).dispatchCommand message).2.drainCommands left

/-- The body of the loop of `rtsyn_engine_rt_thread_main`, with the deadline that it leaves. -/
def cycle (w : World D) (nextDeadlineNs : UInt64) : UInt64 × World D :=
  let (startedAtNs, w) := w.getTime
  let w := (w.eventPublishCycleBegin startedAtNs).2
  let w := w.drainCommands w.engine.config.maxCommandsPerCycle.toNat
  let w := if w.engine.flags.paused then w else w.runtimeStep
  let (finishedAtNs, w) := w.getTime
  let periodNs := D.periodNs w.runtime
  let w := w.publishCycle startedAtNs finishedAtNs
  if periodNs > 0 then
    let nextDeadlineNs := nextDeadlineNs + periodNs
    let (cycleCompletedAtNs, w) := (w.sleepUntil nextDeadlineNs).getTime
    (nextDeadlineNs,
      (w.measureCycle nextDeadlineNs startedAtNs cycleCompletedAtNs periodNs).nextCycle)
  else
    (nextDeadlineNs, (w.measureCycle nextDeadlineNs startedAtNs finishedAtNs periodNs).nextCycle)

end World

/-- The loop is in its body. -/
def RtState.inCycle {L : Limits} : RtState L → Bool
  | .enter | .test _ | .returned => false
  | _ => true

/-- An act that does not lead into a cycle, or a whole cycle of the RT loop. -/
inductive AtomicAct (L : Limits)
  | act (a : Act L)
  | cycle

/-- What is done by others than the RT loop in its cycle. -/
def AtomicAct.act? {L : Limits} : AtomicAct L → Option (Act L)
  | .act a => some a
  | .cycle => none

namespace System

/-- A cycle of the newest RT thread from the head of its loop, where no stop is requested. -/
def cycle (s : System D) : Option (System D) :=
  match s.rtThreads with
  | ⟨.test nextDeadlineNs, joins⟩ :: rtThreads =>
    if s.flags.stopRequested then none
    else
      let (nextDeadlineNs, world) := s.world.cycle nextDeadlineNs
      some { s with world, rtThreads := ⟨.test nextDeadlineNs, joins⟩ :: rtThreads }
  | _ => none

def atomicAct (s : System D) : AtomicAct D.limits → Option (System D)
  | .act a => (s.act a).filter fun s => !s.loop.inCycle
  | .cycle => s.cycle

end System

end RtsynEngine
