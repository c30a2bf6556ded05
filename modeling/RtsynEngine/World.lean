import RtsynEngine.Deps

/-! The engine's state, the world it acts on, and the trace of what it does there: the pushes to
its queues, the modules it unloads, the commands it dispatches and the steps of the RT loop.  A
definition that models a function of the engine has that function's name without `rtsyn_engine_`. -/

namespace RtsynEngine

/-- `rtsyn_engine_thread_config_t`: the fields that the engine reads. -/
structure ThreadConfig where
  priority : Int32
  inheritsched : Int32
deriving DecidableEq

/-- `rtsyn_engine_config_t`.  The queues and the runtime are in the `World`; here is whether the
pointers to the optional ones are set. -/
structure Config where
  resultQueue : Bool
  telemetryQueue : Bool
  telemetryValues : Bool
  rtThread : ThreadConfig
  waitThread : ThreadConfig
  deadlineToleranceNs : UInt64
  maxCommandsPerCycle : UInt32
deriving DecidableEq

/-- `rtsyn_engine_telemetry_subscription_t`. -/
structure Subscription where
  used : Bool
  nodeId : UInt32
  portValuesMask : UInt64
  variableMask : UInt64
deriving DecidableEq

/-- A slot after `memset (subscription, 0, sizeof (*subscription))`. -/
def Subscription.zero : Subscription := ⟨false, 0, 0, 0⟩

/-- `rtsyn_engine_loaded_node_t`: a loader and the descriptor that its module exports. -/
structure LoadedNode where
  loader : ModuleLoader
  descriptor : Pointer NodeDescriptor
  exported : loader.descriptor = some descriptor
deriving DecidableEq

/-- The name a loaded node is registered under. -/
def LoadedNode.name (e : LoadedNode) : Option CString := e.descriptor.target.name

/-- The atomic flags of `struct rtsyn_engine_s`. -/
structure Flags where
  running : Bool
  started : Bool
  paused : Bool
  stopRequested : Bool
  rtJoined : Bool
  waitJoined : Bool
deriving DecidableEq

def Flags.zero : Flags := ⟨false, false, false, false, false, false⟩

/-- `struct rtsyn_engine_s`; its measurement tool and thread handles are dependencies' state. -/
structure Engine (L : Limits) where
  config : Config
  loadedNodes : List LoadedNode
  flags : Flags
  cycleId : UInt64
  telemetrySeq : UInt64
  droppedTelemetryEvents : UInt64
  droppedTelemetryValues : UInt64
  telemetrySubscriptions : Vector Subscription L.subscriptionCapacity
deriving DecidableEq

def threadConfigIsValid (L : Limits) (c : ThreadConfig) : Bool :=
  c.inheritsched == L.inheritSched || c.inheritsched == L.explicitSched

/-- `rtsyn_engine_create`, when every allocation succeeds. -/
def Engine.create (L : Limits) (config : Config) : Option (Engine L) :=
  if threadConfigIsValid L config.rtThread && threadConfigIsValid L config.waitThread then
    some {
      config :=
        if config.maxCommandsPerCycle == 0 then
          { config with maxCommandsPerCycle := L.commandBudget }
        else config
      loadedNodes := []
      flags := Flags.zero
      cycleId := 0
      telemetrySeq := 0
      droppedTelemetryEvents := 0
      droppedTelemetryValues := 0
      telemetrySubscriptions := Vector.replicate _ Subscription.zero }
  else none

/-- The state of a created engine. -/
structure Engine.Fresh {L : Limits} (config : Config) (e : Engine L) : Prop where
  config : { e.config with maxCommandsPerCycle := config.maxCommandsPerCycle } = config
  loadedNodes : e.loadedNodes = []
  flags : e.flags = Flags.zero
  cycleId : e.cycleId = 0
  telemetrySeq : e.telemetrySeq = 0
  droppedTelemetryEvents : e.droppedTelemetryEvents = 0
  droppedTelemetryValues : e.droppedTelemetryValues = 0
  telemetrySubscriptions : e.telemetrySubscriptions = Vector.replicate _ Subscription.zero

theorem Engine.create_fresh {L : Limits} {config : Config} {e : Engine L}
    (h : Engine.create L config = some e) : e.Fresh config := by
  unfold Engine.create at h
  split at h
  · rw [← Option.some.inj h]
    refine ⟨?_, rfl, rfl, rfl, rfl, rfl, rfl, rfl⟩
    dsimp only
    split <;> rfl
  · cases h

/-- What the engine does to the world, with the outcome of each push. -/
inductive Event (L : Limits)
  | resultPush (message : ResultMessage L) (accepted : Bool)
  | telemetryPush (message : TelemetryMessage) (accepted : Bool)
  | valuesPublish (message : TelemetryMessage) (samples : List (Sample L)) (accepted : Bool)
  /-- `rtsyn_module_loader_destroy`: whether the loader was in `loaded_nodes`, and the nodes in
  the runtime at that moment. -/
  | loaderDestroy (loader : ModuleLoader) (registered : Bool) (nodes : List (Node L))
  /-- A command that the RT loop dispatches. -/
  | dispatched (message : CommandMessage L)
  | runtimeStep
  | sleepUntil (deadlineNs : UInt64)

/-- The engine, the state of its dependencies and the trace. -/
structure World (D : Deps) where
  engine : Engine D.limits
  runtime : D.Runtime
  env : D.Env
  results : D.ResultQueue
  telemetry : D.TelemetryQueue
  /-- The messages in the command queue. -/
  commands : List (CommandMessage D.limits)
  trace : List (Event D.limits)

namespace World

variable {D : Deps}

def emit (w : World D) (e : Event D.limits) : World D := { w with trace := w.trace ++ [e] }

@[simp] theorem emit_trace (w : World D) (e : Event D.limits) :
    (w.emit e).trace = w.trace ++ [e] := rfl

def setFlags (w : World D) (f : Flags) : World D :=
  { w with engine := { w.engine with flags := f } }

def eventPushResult (w : World D) (m : ResultMessage D.limits) : Bool × World D :=
  if w.engine.config.resultQueue then
    let (accepted, results) := D.resultTryPush w.results m
    (accepted, { w with results }.emit (.resultPush m accepted))
  else (false, w)

end World

end RtsynEngine
