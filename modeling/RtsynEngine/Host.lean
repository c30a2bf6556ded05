import RtsynEngine.Interleaving

/-! The host process (`main.c`): its main thread is the controller of the engine.  Every other
thread blocks all signals, so the handler of a stop signal runs in main, between two of its
steps, and ends its `pause`. -/

namespace RtsynEngine

inductive Signal
  | int
  | term
deriving DecidableEq

/-- Where main is; `joined` is what `rtsyn_engine_join` returned. -/
inductive MainState
  | blockProcessSignals
  | installSignalHandlers
  /-- The creation of the runtime, the shared queues and the engine. -/
  | create
  | start
  | unblockStopSignals
  /-- The `rtsyn_engine_request_stop` after the stop signals could not be unblocked. -/
  | unblockFailed
  /-- The head of the waiting loop. -/
  | test
  | pause
  /-- In `pause ()`, which has suspended the thread. -/
  | suspended
  | requestStop
  | join
  | restoreMask (joined : Bool)
  | destroy (joined : Bool)
  | exited (success : Bool)
deriving DecidableEq

/-- The process.  `blocked` is main's signal mask. -/
structure Host (D : Deps) where
  main : MainState
  /-- `rtsyn_engine_main_stop_requested` -/
  stopRequested : Bool
  blocked : Signal → Bool
  previousMask : Signal → Bool
  pending : Signal → Bool
  system : System D

/-- The steps.  `outcome` is the answer of a library call that main makes. -/
inductive HostStep (L : Limits)
  | main (outcome : Bool)
  /-- A step of the engine's threads, or of the engine's call that main is in. -/
  | engine (step : Step L)
  | raise (signal : Signal)
  | deliver (signal : Signal)

def Step.isCall {L : Limits} : Step L → Bool
  | .call _ => true
  | _ => false

namespace Host

variable {D : Deps}

def goto (h : Host D) (main : MainState) : Host D := { h with main }

/-- Main calls a function of the engine. -/
def call (h : Host D) (call : Call) (main : MainState) : Option (Host D) :=
  (h.system.step (.call call)).map fun system => { h with system, main }

/-- The next step of `main` in its own code. -/
def mainStep (h : Host D) (outcome : Bool) : Option (Host D) :=
  match h.main with
  | .blockProcessSignals =>
    if outcome then
      some { h with
        main := .installSignalHandlers, previousMask := h.blocked, blocked := fun _ => true }
    else some (h.goto (.exited false))
  | .installSignalHandlers =>
    if outcome then some (h.goto .create) else some (h.goto (.exited false))
  | .create => if outcome then h.call .start .start else some (h.goto (.exited false))
  | .start =>
    match h.system.controller, h.system.log with
    | .idle, .start _ true :: _ => some (h.goto .unblockStopSignals)
    | .idle, .start _ false :: _ => h.call .destroy (.destroy false)
    | _, _ => none
  | .unblockStopSignals =>
    if outcome then some { h with main := .test, blocked := fun _ => false }
    else h.call .requestStop .unblockFailed
  | .unblockFailed => if h.system.controller = .idle then some (h.goto .test) else none
  | .test => if h.stopRequested then h.call .requestStop .requestStop else some (h.goto .pause)
  | .pause => some (h.goto .suspended)
  | .suspended => none
  | .requestStop => h.call .join .join
  | .join =>
    match h.system.controller, h.system.log with
    | .idle, .join joined :: _ => some (h.goto (.restoreMask joined))
    | _, _ => none
  | .restoreMask joined =>
    { h with blocked := if outcome then h.previousMask else h.blocked }.call .destroy
      (.destroy joined)
  | .destroy joined =>
    if h.system.controller = .destroyed then some (h.goto (.exited joined)) else none
  | .exited _ => none

def setPending (h : Host D) (signal : Signal) (pending : Bool) : Host D :=
  { h with pending := fun s => if s = signal then pending else h.pending s }

/-- `rtsyn_engine_main_signal_handler`, which ends `pause ()`; before it is installed a signal ends
the process. -/
def signalHandler (h : Host D) : Host D :=
  match h.main with
  | .blockProcessSignals | .installSignalHandlers => h.goto (.exited false)
  | .suspended => { h with stopRequested := true, main := .test }
  | _ => { h with stopRequested := true }

def deliverable (h : Host D) (signal : Signal) : Bool := h.pending signal && !h.blocked signal

def step (h : Host D) : HostStep D.limits → Option (Host D)
  | .main outcome => h.mainStep outcome
  | .engine a =>
    if a.isCall then none else (h.system.step a).map fun system => { h with system }
  | .raise signal => some (h.setPending signal true)
  | .deliver signal =>
    if h.deliverable signal then some (h.setPending signal false).signalHandler else none

/-- The process at the entry of `main`, whatever signals are blocked or pending. -/
def Initial (h : Host D) : Prop :=
  h.main = .blockProcessSignals ∧ h.stopRequested = false ∧ h.system.Initial

def Reachable : Host D → Prop := Transition.Reachable Initial step

/-- A signal is pending that is not blocked. -/
def Woken (h : Host D) : Prop := h.deliverable .int = true ∨ h.deliverable .term = true

/-- Main is suspended, although a stop has been requested, and no signal is about to wake it. -/
def SleepsThroughStop (h : Host D) : Prop :=
  h.main = .suspended ∧ ¬h.Woken ∧
    (h.stopRequested = true ∨ h.system.flags.stopRequested = true)

end Host

end RtsynEngine
