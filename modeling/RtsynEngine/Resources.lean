import RtsynEngine.Host
import RtsynEngine.Lib.Ledger

/-! What the process acquires and releases: the parts of an engine in `rtsyn_engine_create` and
`rtsyn_engine_destroy`, and in `main` the runtime and the queues that it shares with its clients,
wherever acquiring them fails.  The functions of the shared queues and the setter of the probe
callback are parameters, with their documented behaviour as laws. -/

namespace RtsynEngine

open Ledger

/-- The parts of an engine.  `probe` is the runtime's probe callback, set for the engine. -/
inductive EnginePart
  | memory
  | loadedNodes
  | measurementTool
  | probe
  | rtThread
  | waitThread
deriving DecidableEq

inductive SharedQueue
  | command
  | result
  | telemetry
  | values
deriving DecidableEq

/-- An engine is named by a number that stands for its address. -/
inductive Resource
  | part (engine : Nat) (part : EnginePart)
  | runtime
  /-- The shared memory of a queue, mapped into the process. -/
  | mapping (queue : SharedQueue)
deriving DecidableEq

/-- What main creates before the engine. -/
def Resource.shared : Finset Resource :=
  {.runtime, .mapping .command, .mapping .result, .mapping .telemetry, .mapping .values}

/-- What has to be held as long as a resource is: its engine reaches a part through its memory and
uses the runtime and the queues, and the probe callback uses the measurement tool. -/
def Resource.needs : Resource → Finset Resource
  | .part _ .memory => shared
  | .part e .probe => {.runtime, .part e .memory, .part e .measurementTool}
  | .part e _ => {.part e .memory}
  | .runtime | .mapping _ => ∅

/-- The dependencies that hold things for the process. -/
structure HostDeps where
  /-- The shared memory of the system, with main's `shared` structures of the queues. -/
  Memory : Type
  /-- Whether main's structure of a queue is mapped. -/
  mapped : Memory → SharedQueue → Bool
  /-- The names of shared memory in the system. -/
  linked : Memory → CString → Bool
  /-- `rtsyn_spsc_*_shared_create`: whether it returns 0. -/
  sharedCreate : Memory → SharedQueue → CString → Bool × Memory
  /-- `rtsyn_spsc_*_shared_close` -/
  sharedClose : Memory → SharedQueue → Memory
  /-- `rtsyn_spsc_*_shared_unlink`: whether it returns 0. -/
  sharedUnlink : Memory → SharedQueue → CString → Bool × Memory
  /-- What the runtime keeps of its probe callback. -/
  Callback : Type
  /-- The engine that the callback is set for. -/
  probe : Callback → Option Nat
  /-- `rtsyn_runtime_set_probe_callback`, with the engine that the callback is to get or without a
  callback. -/
  setProbeCallback : Callback → Option Nat → Callback

namespace HostDeps

/-- The setter replaces the callback that is set. -/
structure ProbeLaw (O : HostDeps) : Prop where
  replaces (c : O.Callback) (engine : Option Nat) : O.probe (O.setProbeCallback c engine) = engine

/-- A queue is mapped by a creation that succeeds on an unmapped structure and until it is closed;
closing an unmapped structure does nothing.  A creation and an `unlink` touch no name but their own,
an `unlink` that succeeds removes it, and one that fails changes no name. -/
structure SharedLaws (O : HostDeps) : Prop where
  create_mapped {m m' : O.Memory} {q : SharedQueue} {name : CString} {created : Bool} :
    O.mapped m q = false → O.sharedCreate m q name = (created, m') →
      ∀ q', O.mapped m' q' = if created = true ∧ q' = q then true else O.mapped m q'
  create_linked {m m' : O.Memory} {q : SharedQueue} {name : CString} {created : Bool} :
    O.sharedCreate m q name = (created, m') → ∀ n ≠ name, O.linked m' n = O.linked m n
  close_mapped (m : O.Memory) (q q' : SharedQueue) :
    O.mapped (O.sharedClose m q) q' = if q' = q then false else O.mapped m q'
  close_linked (m : O.Memory) (q : SharedQueue) : O.linked (O.sharedClose m q) = O.linked m
  unlink_mapped (m : O.Memory) (q : SharedQueue) (name : CString) :
    O.mapped (O.sharedUnlink m q name).2 = O.mapped m
  unlink_linked {m m' : O.Memory} {q : SharedQueue} {name : CString} {unlinked : Bool} :
    O.sharedUnlink m q name = (unlinked, m') →
      ∀ n, O.linked m' n = if unlinked = true ∧ n = name then false else O.linked m n

end HostDeps

/-- What is held, with a ledger of what has been acquired and released. -/
structure Holdings (O : HostDeps) where
  callback : O.Callback
  memory : O.Memory
  /-- Whether the last `unlink` of a queue's name succeeded; main does not look at it. -/
  unlinked : SharedQueue → Bool
  ledger : List (Entry Resource)

namespace Holdings

variable {O : HostDeps}

/-- The engine that the runtime's probe callback is set for. -/
def probe (h : Holdings O) : Option Nat := O.probe h.callback

def mapped (h : Holdings O) : SharedQueue → Bool := O.mapped h.memory

def linked (h : Holdings O) : CString → Bool := O.linked h.memory

def acquire (h : Holdings O) (r : Resource) : Holdings O :=
  { h with ledger := h.ledger ++ [.acquire r] }

def release (h : Holdings O) (r : Resource) : Holdings O :=
  { h with ledger := h.ledger ++ [.release r] }

/-- Releases parts of an engine, one after the other. -/
def releaseParts (h : Holdings O) (e : Nat) (parts : List EnginePart) : Holdings O :=
  parts.foldl (fun h p => h.release (.part e p)) h

/-- A call of the setter: the callback that was set goes, and the one that is set then comes. -/
def setProbeCallback (h : Holdings O) (engine : Option Nat) : Holdings O :=
  let callback := O.setProbeCallback h.callback engine
  { h with
    callback
    ledger := h.ledger ++ (h.probe.map fun e => Entry.release (.part e .probe)).toList ++
      ((O.probe callback).map fun e => Entry.acquire (.part e .probe)).toList }

/-- `rtsyn_engine_create` of the engine `e`.  `answers p` is whether the call that acquires the part
`p` succeeds. -/
def createEngine (h : Holdings O) (L : Limits) (config : Config) (answers : EnginePart → Bool)
    (e : Nat) : Option (Engine L) × Holdings O :=
  match Engine.create L config with
  | none => (none, h)
  | some engine =>
    if !answers .memory then (none, h)
    else
      let h := h.acquire (.part e .memory)
      if !answers .loadedNodes then (none, h.releaseParts e [.memory])
      else
        let h := h.acquire (.part e .loadedNodes)
        if !answers .measurementTool then (none, h.releaseParts e [.loadedNodes, .memory])
        else
          let h := (h.acquire (.part e .measurementTool)).setProbeCallback (some e)
          if !answers .rtThread then
            (none,
              (h.setProbeCallback none).releaseParts e [.measurementTool, .loadedNodes, .memory])
          else
            let h := h.acquire (.part e .rtThread)
            if !answers .waitThread then
              (none,
                (h.setProbeCallback none).releaseParts e
                  [.measurementTool, .rtThread, .loadedNodes, .memory])
            else (some engine, h.acquire (.part e .waitThread))

/-- The end of `rtsyn_engine_destroy`, once its threads have been joined. -/
def destroyEngine (h : Holdings O) (e : Nat) : Holdings O :=
  (h.setProbeCallback none).releaseParts e
    [.measurementTool, .waitThread, .rtThread, .loadedNodes, .memory]

end Holdings

/-- The answers of the calls by which main acquires the runtime and the parts of the engine. -/
structure CreateAnswers where
  runtime : Bool
  engine : EnginePart → Bool

/-- The defaults that the build selects for the threads. -/
structure ThreadDefaults where
  /-- Whether the thread core is `PREEMPT_RT` or `XENOMAI`. -/
  realTime : Bool
  rtThread : ThreadConfig
  waitThread : ThreadConfig

def configInitRtThread (d : ThreadDefaults) : ThreadConfig :=
  if d.realTime then d.rtThread else d.waitThread

def configInit (L : Limits) (d : ThreadDefaults) : Config where
  resultQueue := false
  telemetryQueue := false
  telemetryValues := false
  rtThread := configInitRtThread d
  waitThread := d.waitThread
  deadlineToleranceNs := 0
  maxCommandsPerCycle := L.commandBudget

/-- What main finds in its environment and in its headers. -/
structure MainSetup where
  env : SharedQueue → Option CString
  defaultName : SharedQueue → CString
  threads : ThreadDefaults

def mainEnvOrDefault (value : Option CString) (defaultValue : CString) : CString :=
  match value with
  | some value => if value.bytes = [] then defaultValue else value
  | none => defaultValue

def MainSetup.name (m : MainSetup) (queue : SharedQueue) : CString :=
  mainEnvOrDefault (m.env queue) (m.defaultName queue)

/-- The configuration that main creates the engine with. -/
def MainSetup.engineConfig (m : MainSetup) (L : Limits) : Config :=
  { configInit L m.threads with
    resultQueue := true, telemetryQueue := true, telemetryValues := true }

namespace Holdings

variable {O : HostDeps}

/-- The queues in the order in which main creates, closes and unlinks them. -/
def queues : List SharedQueue := [.command, .result, .telemetry, .values]

/-- A call that leaves the shared memory as `memory`: the queues that are no longer mapped go, and
those that are mapped now come. -/
def setMemory (h : Holdings O) (memory : O.Memory) : Holdings O :=
  { h with
    memory
    ledger := h.ledger ++
      ((queues.filter fun q => h.mapped q && !O.mapped memory q).map fun q =>
        Entry.release (.mapping q)) ++
      ((queues.filter fun q => !h.mapped q && O.mapped memory q).map fun q =>
        Entry.acquire (.mapping q)) }

def sharedCreate (h : Holdings O) (m : MainSetup) (queue : SharedQueue) : Bool × Holdings O :=
  let (created, memory) := O.sharedCreate h.memory queue (m.name queue)
  (created, h.setMemory memory)

def sharedClose (h : Holdings O) (queue : SharedQueue) : Holdings O :=
  h.setMemory (O.sharedClose h.memory queue)

def sharedUnlink (h : Holdings O) (m : MainSetup) (queue : SharedQueue) : Holdings O :=
  let (unlinked, memory) := O.sharedUnlink h.memory queue (m.name queue)
  { h.setMemory memory with
    unlinked := fun q => if q = queue then unlinked else h.unlinked q }

/-- The creation of the shared queues, up to the first that fails. -/
def createSharedQueues (h : Holdings O) (m : MainSetup) : List SharedQueue → Bool × Holdings O
  | [] => (true, h)
  | q :: qs =>
    match h.sharedCreate m q with
    | (false, h) => (false, h)
    | (true, h) => h.createSharedQueues m qs

def mainCloseSharedQueues (h : Holdings O) : Holdings O := queues.foldl sharedClose h

def mainUnlinkSharedQueues (h : Holdings O) (m : MainSetup) : Holdings O :=
  queues.foldl (fun h q => h.sharedUnlink m q) h

/-- What main does at each of its exits from the creation of the queues on. -/
def mainRelease (h : Holdings O) (m : MainSetup) : Holdings O :=
  (h.mainCloseSharedQueues.mainUnlinkSharedQueues m).release .runtime

/-- Main from the creation of the runtime to that of the engine: whether main goes on to start
it. -/
def mainCreate (h : Holdings O) (L : Limits) (m : MainSetup) (answers : CreateAnswers) :
    Bool × Holdings O :=
  if !answers.runtime then (false, h)
  else
    let h := (h.acquire .runtime).mainUnlinkSharedQueues m
    match h.createSharedQueues m queues with
    | (false, h) => (false, h.mainRelease m)
    | (true, h) =>
      match h.createEngine L (m.engineConfig L) answers.engine 0 with
      | (none, h) => (false, h.mainRelease m)
      | (some _, h) => (true, h)

end Holdings

/-- The host process with what it holds. -/
structure Process (D : Deps) (O : HostDeps) where
  host : Host D
  holdings : Holdings O

namespace Process

variable {D : Deps} {O : HostDeps}

/-- The step at whose end the call of `rtsyn_engine_destroy` has released the engine's parts. -/
def destroysEngine (p : Process D O) : HostStep D.limits → Bool
  | .engine (.controller _) => decide (p.host.system.controller = .destroyFree)
  | _ => false

/-- A step of the process, with the answers that main gets where the step is main's creation of what
it needs. -/
def step (m : MainSetup) (p : Process D O) (a : HostStep D.limits × CreateAnswers) :
    Option (Process D O) :=
  match p.host.main, a.1 with
  | .create, .main _ =>
    let (created, holdings) := p.holdings.mainCreate D.limits m a.2
    (p.host.step (.main created)).map fun host => { host, holdings }
  | .destroy _, .main outcome =>
    (p.host.step (.main outcome)).map fun host =>
      { host, holdings := p.holdings.mainRelease m }
  | _, hostStep =>
    (p.host.step hostStep).map fun host =>
      { host
        holdings :=
          if p.destroysEngine hostStep then p.holdings.destroyEngine 0 else p.holdings }

/-- The process at the entry of `main`, with the shared memory that it finds: its structures of the
queues are zeroed, and no callback is set. -/
structure Initial (memory : O.Memory) (p : Process D O) : Prop where
  host : p.host.Initial
  memory : p.holdings.memory = memory
  mapped : ∀ q, p.holdings.mapped q = false
  probe : p.holdings.probe = none
  ledger : p.holdings.ledger = []

end Process

end RtsynEngine
