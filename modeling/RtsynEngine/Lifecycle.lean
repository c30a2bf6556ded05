import RtsynEngine.Lib.Handle
import RtsynEngine.Lib.Transition
import RtsynEngine.Loop
import RtsynEngine.Operation

/-! The threads of an engine as a transition system.  One controller calls `start`, `request_stop`,
`join` and `destroy`, one call after the other; a successful `rtsyn_thread_run` launches an RT
thread or a wait thread; clients push commands.  Each load or store of an atomic flag is a step of
its own, so every interleaving is a run.  `Handle.threadJoin` is `rtsyn_thread_join`. -/

namespace RtsynEngine

open Handle

/-- Where the controller is in `rtsyn_engine_start`. -/
inductive StartState
  | loadRunning
  | storeStopRequested
  | storePaused
  | storeRtJoined
  | storeWaitJoined
  | storeRunning
  | storeStarted
  | runRt
  /-- The stores after a failed `rtsyn_thread_run` on the RT thread. -/
  | rtFailedStarted
  | rtFailedRunning
  | runWait
  /-- The steps after a failed `rtsyn_thread_run` on the wait thread. -/
  | waitFailedStop
  | waitFailedJoin
  | waitFailedRtJoined
  | waitFailedStarted
  | waitFailedRunning
deriving DecidableEq

/-- Where the controller is in `rtsyn_engine_join`. -/
inductive JoinState
  | loadStarted
  | loadWaitJoined
  | joinWait
  | storeWaitJoined
  | storeStarted
deriving DecidableEq

/-- Where the controller is. -/
inductive Controller
  | idle
  | start (pc : StartState)
  | requestStop
  | join (pc : JoinState)
  /-- `rtsyn_engine_destroy`: its `request_stop`, its two loads, its `join`, its end. -/
  | destroyStop
  | destroyLoadStarted
  | destroyLoadWaitJoined
  | destroyJoin (pc : JoinState)
  | destroyFree
  | destroyed
deriving DecidableEq

/-- A call of the controller. -/
inductive Call
  | start
  | requestStop
  | join
  | destroy
deriving DecidableEq

/-- A call that has returned, with its result; for `start`, whether it had found `running` true. -/
inductive Returned
  | start (foundRunning result : Bool)
  | requestStop
  | join (result : Bool)
deriving DecidableEq

/-- The threads of each handle are listed newest first, so the handle's own is the head. -/
structure System (D : Deps) where
  world : World D
  controller : Controller
  rtThreads : List (Thread (RtState D.limits))
  waitThreads : List (Thread WaitState)
  /-- The calls that have returned, newest first. -/
  log : List Returned

/-- The steps.  `outcome` is the answer of the thread library where a step asks for one. -/
inductive Step (L : Limits)
  | call (call : Call)
  | controller (outcome : Bool)
  | rt (i : Nat)
  | wait (i : Nat) (outcome : Bool)
  | pushCommand (message : CommandMessage L)

namespace System

variable {D : Deps}

def flags (s : System D) : Flags := s.world.engine.flags

def isRunning (s : System D) : Bool := s.flags.running

def setFlags (s : System D) (f : Flags) : System D := { s with world := s.world.setFlags f }

def goto (s : System D) (c : Controller) : System D := { s with controller := c }

/-- The controller's call returns. -/
def ret (s : System D) (r : Returned) : System D :=
  { s with controller := .idle, log := r :: s.log }

/-- The next step of `rtsyn_engine_start`. -/
def startStep (s : System D) (outcome : Bool) : StartState → Option (System D)
  | .loadRunning =>
    if s.flags.running then some (s.ret (.start true false))
    else some (s.goto (.start .storeStopRequested))
  | .storeStopRequested =>
    some ((s.setFlags { s.flags with stopRequested := false }).goto (.start .storePaused))
  | .storePaused =>
    some ((s.setFlags { s.flags with paused := false }).goto (.start .storeRtJoined))
  | .storeRtJoined =>
    some ((s.setFlags { s.flags with rtJoined := false }).goto (.start .storeWaitJoined))
  | .storeWaitJoined =>
    some ((s.setFlags { s.flags with waitJoined := false }).goto (.start .storeRunning))
  | .storeRunning =>
    some ((s.setFlags { s.flags with running := true }).goto (.start .storeStarted))
  | .storeStarted =>
    some ((s.setFlags { s.flags with started := true }).goto (.start .runRt))
  | .runRt =>
    if outcome then
      some ({ s with rtThreads := ⟨.enter, 0⟩ :: s.rtThreads }.goto (.start .runWait))
    else some (s.goto (.start .rtFailedStarted))
  | .rtFailedStarted =>
    some ((s.setFlags { s.flags with started := false }).goto (.start .rtFailedRunning))
  | .rtFailedRunning =>
    some ((s.setFlags { s.flags with running := false }).ret (.start false false))
  | .runWait =>
    if outcome then
      some ({ s with waitThreads := ⟨.join, 0⟩ :: s.waitThreads }.ret (.start false true))
    else some (s.goto (.start .waitFailedStop))
  | .waitFailedStop =>
    some ((s.setFlags { s.flags with stopRequested := true }).goto (.start .waitFailedJoin))
  | .waitFailedJoin =>
    (threadJoin .returned s.rtThreads outcome).map fun (_, rtThreads) =>
      { s with rtThreads }.goto (.start .waitFailedRtJoined)
  | .waitFailedRtJoined =>
    some ((s.setFlags { s.flags with rtJoined := true }).goto (.start .waitFailedStarted))
  | .waitFailedStarted =>
    some ((s.setFlags { s.flags with started := false }).goto (.start .waitFailedRunning))
  | .waitFailedRunning =>
    some ((s.setFlags { s.flags with running := false }).ret (.start false false))

/-- The next step of `rtsyn_engine_join`, at `pc c` for the caller's states `pc`; `ret` is its
return to the caller. -/
def joinStep (s : System D) (outcome : Bool) (pc : JoinState → Controller)
    (ret : System D → Bool → System D) : JoinState → Option (System D)
  | .loadStarted =>
    if s.flags.started then some (s.goto (pc .loadWaitJoined)) else some (ret s false)
  | .loadWaitJoined =>
    if s.flags.waitJoined then some (ret s true) else some (s.goto (pc .joinWait))
  | .joinWait =>
    (threadJoin .returned s.waitThreads outcome).map fun (joined, waitThreads) =>
      if joined then { s with waitThreads }.goto (pc .storeWaitJoined)
      else ret { s with waitThreads } false
  | .storeWaitJoined =>
    some ((s.setFlags { s.flags with waitJoined := true }).goto (pc .storeStarted))
  | .storeStarted => some (ret (s.setFlags { s.flags with started := false }) true)

/-- The next step of the controller's call. -/
def controllerStep (s : System D) (outcome : Bool) : Option (System D) :=
  match s.controller with
  | .idle => none
  | .start pc => s.startStep outcome pc
  | .requestStop =>
    some ((s.setFlags { s.flags with stopRequested := true }).ret .requestStop)
  | .join pc => s.joinStep outcome .join (fun s result => s.ret (.join result)) pc
  | .destroyStop =>
    some ((s.setFlags { s.flags with stopRequested := true }).goto .destroyLoadStarted)
  | .destroyLoadStarted =>
    if s.flags.started then some (s.goto .destroyLoadWaitJoined) else some (s.goto .destroyFree)
  | .destroyLoadWaitJoined =>
    if s.flags.waitJoined then some (s.goto .destroyFree)
    else some (s.goto (.destroyJoin .loadStarted))
  | .destroyJoin pc => s.joinStep outcome .destroyJoin (fun s _ => s.goto .destroyFree) pc
  | .destroyFree => some { s with world := s.world.collectionDestroy, controller := .destroyed }
  | .destroyed => none

/-- The next step of `rtsyn_engine_wait_thread_main`. -/
def waitStep (s : System D) (outcome : Bool) : WaitState → Option (WaitState × System D)
  | .join =>
    (threadJoin .returned s.rtThreads outcome).map fun (_, rtThreads) =>
      (.storeRtJoined, { s with rtThreads })
  | .storeRtJoined => some (.storeRunning, s.setFlags { s.flags with rtJoined := true })
  | .storeRunning => some (.returning, s.setFlags { s.flags with running := false })
  | .returning => some (.returned, s)
  | .returned => none

def callState : Call → Controller
  | .start => .start .loadRunning
  | .requestStop => .requestStop
  | .join => .join .loadStarted
  | .destroy => .destroyStop

def step (s : System D) : Step D.limits → Option (System D)
  | .call call => if s.controller = .idle then some (s.goto (callState call)) else none
  | .controller outcome => s.controllerStep outcome
  | .rt i =>
    s.rtThreads[i]?.bind fun t =>
      (s.world.rtThreadStep t.state).map fun (state, world) =>
        { s with world, rtThreads := s.rtThreads.set i { t with state } }
  | .wait i outcome =>
    s.waitThreads[i]?.bind fun t =>
      (s.waitStep outcome t.state).map fun (state, s) =>
        { s with waitThreads := s.waitThreads.set i { t with state } }
  | .pushCommand message =>
    some { s with world := { s.world with commands := s.world.commands ++ [message] } }

/-- A created engine, before any call. -/
def Initial (s : System D) : Prop :=
  s.world.engine.flags = Flags.zero ∧ s.controller = .idle ∧ s.rtThreads = [] ∧
    s.waitThreads = [] ∧ s.log = []

def Reachable : System D → Prop := Transition.Reachable Initial step

end System

end RtsynEngine
