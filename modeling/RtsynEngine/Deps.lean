import RtsynEngine.Lib.Channel
import RtsynEngine.Message

/-! The libraries the engine is linked with (`rtsyn_dependencies` in `xmake.lua`) as parameters:
the runtime and its nodes, the module loader, the allocator, the queues, the threads' clock and
the measurement tool.  The laws state the documented behaviour of the runtime, of node creation,
of the result queue and of the clock that the engine's code relies on. -/

namespace RtsynEngine

/-- The dependencies.  `Env` is whatever the calls depend on besides their arguments: the file
system, the heap, the node id generator, the scheduler and the clock.  A runtime call that returns
false is `none`: it leaves the runtime as it is. -/
structure Deps where
  limits : Limits
  Runtime : Type
  Env : Type
  Value : Type
  ResultQueue : Type
  TelemetryQueue : Type
  /-- The nodes in the order of `rtsyn_runtime_for_each_node`. -/
  nodes : Runtime → List (Node limits)
  /-- The connections in the order of `rtsyn_runtime_for_each_connection`. -/
  connections : Runtime → List Connection
  /-- `rtsyn_node_get_runtime_state` -/
  nodeRuntimeState : Runtime → Node limits → UInt32
  /-- `rtsyn_runtime_get_config (runtime).period_ns` -/
  periodNs : Runtime → UInt64
  getNode : Runtime → UInt32 → Option (Node limits)
  addNode : Runtime → Node limits → Option Runtime
  removeNodeById : Runtime → UInt32 → Option Runtime
  removeNodesByName : Runtime → CString → Runtime
  transitionNode : Runtime → UInt32 → UInt32 → Option Runtime
  /-- `rtsyn_runtime_add_connection_between`: the connection's id, then the node and port ids of
  its source and its destination. -/
  addConnectionBetween : Runtime → UInt32 → UInt32 → UInt32 → UInt32 → UInt32 → Option Runtime
  removeConnection : Runtime → UInt32 → Option Runtime
  setNodeParam : Runtime → UInt32 → UInt32 → ParamPointer limits → Option Runtime
  setPeriod : Runtime → UInt64 → Option Runtime
  getNodePortValue : Runtime → UInt32 → UInt32 → PortDirection → Option Value
  getNodeState : Runtime → UInt32 → UInt32 → Option Value
  /-- `rtsyn_runtime_step`, whose probes record in the measurement tool. -/
  step : Runtime → Env → Runtime × Env
  valueTypeGet : Value → ValueType
  /-- `rtsyn_value_get` into a buffer of each type; `none` when it returns false. -/
  valueGetF32 : Value → Option UInt32
  valueGetF64 : Value → Option UInt64
  valueGetInt : Value → Option Int32
  valueGetU64 : Value → Option UInt64
  valueGetString : Value → Option (Vector UInt8 limits.portValueStringSize)
  nodeTypeIsValid : NodeType → Bool
  valueIsValid : ValueType → Bool
  nodeCreatePlugin : Env → Pointer NodeDescriptor → Option (Node limits) × Env
  nodeCreateDevice : Env → Pointer NodeDescriptor → Option (Node limits) × Env
  nodeDestroy : Env → Node limits → Env
  moduleLoaderCreate : Env → CString → Option ModuleLoader × Env
  /-- Whether `malloc` returns memory for a `rtsyn_engine_loaded_node_t`. -/
  mallocLoadedNode : Env → Bool × Env
  /-- Whether `rtsyn_collection_add` gets memory for the list's element. -/
  collectionAdd : Env → Bool × Env
  /-- `rtsyn_thread_set_priority` on the RT thread's handle: 0 when it succeeds. -/
  threadSetPriority : Env → Int32 → Int32 × Env
  threadGetTime : Env → UInt64 × Env
  threadSleepUntil : Env → UInt64 → Env
  /-- `rtsyn_measurement_tool_calculate_cycle`: the period, the start and the end of the cycle. -/
  calculateCycle : Env → UInt64 → UInt64 → UInt64 → Option Metrics × Env
  /-- `rtsyn_measurement_tool_calculate_deadline`: the period, the end of the cycle, the deadline
  and the tolerance. -/
  calculateDeadline : UInt64 → UInt64 → UInt64 → UInt64 → Metrics → Metrics
  resultTryPush : ResultQueue → ResultMessage limits → Bool × ResultQueue
  telemetryTryPush : TelemetryQueue → TelemetryMessage → Bool × TelemetryQueue
  telemetryTryPublishValues :
    TelemetryQueue → TelemetryMessage → List (Sample limits) → Bool × TelemetryQueue

namespace Deps

/-- What the calls do to the set of nodes of the runtime. -/
structure RuntimeLaws (D : Deps) : Prop where
  addNode {r r' : D.Runtime} {n : Node D.limits} :
    D.addNode r n = some r' → ∀ m, m ∈ D.nodes r' ↔ m ∈ D.nodes r ∨ m = n
  removeNodeById {r r' : D.Runtime} {id : UInt32} :
    D.removeNodeById r id = some r' → ∀ m, m ∈ D.nodes r' ↔ m ∈ D.nodes r ∧ m.id ≠ id
  removeNodesByName (r : D.Runtime) (name : CString) :
    ∀ m, m ∈ D.nodes (D.removeNodesByName r name) ↔ m ∈ D.nodes r ∧ m.name ≠ some name
  transitionNode {r r' : D.Runtime} {id state : UInt32} :
    D.transitionNode r id state = some r' → D.nodes r' = D.nodes r
  addConnectionBetween {r r' : D.Runtime} {id sourceNode sourcePort node port : UInt32} :
    D.addConnectionBetween r id sourceNode sourcePort node port = some r' →
      D.nodes r' = D.nodes r
  removeConnection {r r' : D.Runtime} {id : UInt32} :
    D.removeConnection r id = some r' → D.nodes r' = D.nodes r
  setNodeParam {r r' : D.Runtime} {id param : UInt32} {value : ParamPointer D.limits} :
    D.setNodeParam r id param value = some r' → D.nodes r' = D.nodes r
  setPeriod {r r' : D.Runtime} {period : UInt64} :
    D.setPeriod r period = some r' → D.nodes r' = D.nodes r

/-- A step of the runtime keeps its nodes. -/
structure StepLaw (D : Deps) : Prop where
  nodes (r : D.Runtime) (e : D.Env) : D.nodes (D.step r e).1 = D.nodes r

/-- A created node refers to the descriptor it was created from and has the type of its
constructor; the invalid node type is not valid. -/
structure NodeLaws (D : Deps) : Prop where
  nodeCreatePlugin {e e' : D.Env} {d : Pointer NodeDescriptor} {n : Node D.limits} :
    D.nodeCreatePlugin e d = (some n, e') → n.descriptor = d ∧ n.nodeType = .plugin
  nodeCreateDevice {e e' : D.Env} {d : Pointer NodeDescriptor} {n : Node D.limits} :
    D.nodeCreateDevice e d = (some n, e') → n.descriptor = d ∧ n.nodeType = .device
  invalid_not_valid : D.nodeTypeIsValid .invalid = false

/-- The result queue is a bounded FIFO: `view` shows its content and the consumer's pops. -/
structure ResultQueueLaws (D : Deps) (view : D.ResultQueue → Channel (ResultMessage D.limits)) :
    Prop where
  accepted (q : D.ResultQueue) (m : ResultMessage D.limits) :
    (D.resultTryPush q m).1 = ((view q).tryPush m).1
  pushed (q : D.ResultQueue) (m : ResultMessage D.limits) :
    view (D.resultTryPush q m).2 = ((view q).tryPush m).2

/-- `now` is the clock that the threads read: a sleep ends at its deadline, or at once if that is
over, and what is not listed here takes no time. -/
structure ClockLaws (D : Deps) (now : D.Env → UInt64) : Prop where
  read (e : D.Env) : (D.threadGetTime e).1 = now e
  threadGetTime (e : D.Env) : now (D.threadGetTime e).2 = now e
  threadSleepUntil (e : D.Env) (deadlineNs : UInt64) :
    now (D.threadSleepUntil e deadlineNs) = max (now e) deadlineNs
  calculateCycle (e : D.Env) (periodNs startedAtNs completedAtNs : UInt64) :
    now (D.calculateCycle e periodNs startedAtNs completedAtNs).2 = now e
  step (r : D.Runtime) (e : D.Env) : now e ≤ now (D.step r e).2
  nodeCreatePlugin (e : D.Env) (d : Pointer NodeDescriptor) :
    now e ≤ now (D.nodeCreatePlugin e d).2
  nodeCreateDevice (e : D.Env) (d : Pointer NodeDescriptor) :
    now e ≤ now (D.nodeCreateDevice e d).2
  nodeDestroy (e : D.Env) (n : Node D.limits) : now e ≤ now (D.nodeDestroy e n)
  moduleLoaderCreate (e : D.Env) (modulePath : CString) :
    now e ≤ now (D.moduleLoaderCreate e modulePath).2
  mallocLoadedNode (e : D.Env) : now e ≤ now (D.mallocLoadedNode e).2
  collectionAdd (e : D.Env) : now e ≤ now (D.collectionAdd e).2
  threadSetPriority (e : D.Env) (priority : Int32) :
    now e ≤ now (D.threadSetPriority e priority).2

end Deps

end RtsynEngine
