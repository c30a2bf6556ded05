import RtsynEngine.Lifecycle

/-! The threads of an engine together with other threads of the host, which may call
`rtsyn_engine_request_stop` at any moment, whatever the controller does. -/

namespace RtsynEngine

open Handle

/-- A step of the engine's threads, or a call of `rtsyn_engine_request_stop` by another thread. -/
inductive Act (L : Limits)
  | step (step : Step L)
  | requestStop

/-- The command that an act pushes. -/
def Act.pushed {L : Limits} : Act L → Option (CommandMessage L)
  | .step (.pushCommand m) => some m
  | _ => none

namespace System

variable {D : Deps}

def act (s : System D) : Act D.limits → Option (System D)
  | .step a => s.step a
  | .requestStop => some (s.setFlags { s.flags with stopRequested := true })

/-- The states of an engine whose stop other threads may request. -/
def SharedReachable : System D → Prop := Transition.Reachable Initial act

/-- Where the newest RT thread is; an engine that was never started counts as returned. -/
def loop (s : System D) : RtState D.limits := headState .returned s.rtThreads

end System

end RtsynEngine
