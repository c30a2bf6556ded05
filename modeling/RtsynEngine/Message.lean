import RtsynEngine.Abi

/-! The messages of the queues between the engine and its clients: commands, results and
telemetry. -/

namespace RtsynEngine

/-! ### Commands -/

/-- `rtsyn_spsc_command_message_type_t`; a message may carry a number that names no type. -/
inductive CommandType
  | none
  | globalCommand
  | pluginUpdate
  | requestPortValues
  | requestPortVariables
  | loadNode
  | addNode
  | removeNode
  | addConnection
  | removeConnection
  | setParam
  | setRuntimePeriod
  | setRuntimePriority
  | setRuntimeDeadlineTolerance
  | requestRuntimeNodes
  | other (code : UInt32)
deriving DecidableEq

/-- `rtsyn_engine_global_command_t`, an enumeration of 8 bits. -/
inductive GlobalCommand
  | none
  | stop
  | pause
  | resume
  | other (code : UInt8)
deriving DecidableEq

/-- The cast of a message's field to the enumeration. -/
def GlobalCommand.ofField (command : UInt32) : GlobalCommand :=
  match command.toUInt8 with
  | 0 => .none
  | 1 => .stop
  | 2 => .pause
  | 3 => .resume
  | code => .other code

/-- The union in a `SET_PARAM` message, as each of its members reads. -/
structure ParamPayload (L : Limits) where
  f32 : UInt32
  f64 : UInt64
  i64 : Int64
  u64 : UInt64
  string : Vector UInt8 L.paramStringSize
deriving DecidableEq

/-- The pointer that `rtsyn_runtime_set_node_param` receives, by what it points to.  Floats are
their bits. -/
inductive ParamPointer (L : Limits)
  | f32 (bits : UInt32)
  | f64 (bits : UInt64)
  | int (value : Int32)
  | u64 (value : UInt64)
  | string (buffer : Vector UInt8 L.paramStringSize)
deriving DecidableEq

/-- A command message's type and the member of its union that belongs to that type. -/
inductive CommandData (L : Limits)
  | none
  | globalCommand (command : UInt32)
  | pluginUpdate (pluginId pluginState : UInt32)
  | requestPortValues (pluginId : UInt32) (portsynMask : UInt64) (send : Bool)
  | requestPortVariables (pluginId : UInt32) (variableMask : UInt64) (send : Bool)
  | loadNode (nodeType : NodeType) (modulePath : Vector UInt8 L.modulePathSize)
  | addNode (nodeType : NodeType) (nodeName : Vector UInt8 L.nodeNameSize)
  | removeNode (nodeId : UInt32)
  | addConnection (connectionId sourceNodeId sourcePortId destinationNodeId
      destinationPortId : UInt32)
  | removeConnection (connectionId : UInt32)
  | setParam (nodeId paramId : UInt32) (valueType : ValueType) (value : ParamPayload L)
  | setRuntimePeriod (periodNs : UInt64)
  | setRuntimePriority (priority : Int32)
  | setRuntimeDeadlineTolerance (toleranceNs : UInt64)
  | requestRuntimeNodes
  | unknown (type : UInt32)
deriving DecidableEq

def CommandData.type {L : Limits} : CommandData L → CommandType
  | .none => .none
  | .globalCommand _ => .globalCommand
  | .pluginUpdate _ _ => .pluginUpdate
  | .requestPortValues _ _ _ => .requestPortValues
  | .requestPortVariables _ _ _ => .requestPortVariables
  | .loadNode _ _ => .loadNode
  | .addNode _ _ => .addNode
  | .removeNode _ => .removeNode
  | .addConnection _ _ _ _ _ => .addConnection
  | .removeConnection _ => .removeConnection
  | .setParam _ _ _ _ => .setParam
  | .setRuntimePeriod _ => .setRuntimePeriod
  | .setRuntimePriority _ => .setRuntimePriority
  | .setRuntimeDeadlineTolerance _ => .setRuntimeDeadlineTolerance
  | .requestRuntimeNodes => .requestRuntimeNodes
  | .unknown type => .other type

/-- `rtsyn_spsc_command_message_t`. -/
structure CommandMessage (L : Limits) where
  seq : UInt64
  data : CommandData L
deriving DecidableEq

def CommandMessage.type {L : Limits} (m : CommandMessage L) : CommandType := m.data.type

/-! ### Results -/

inductive ResultStatus
  | ok
  | error
deriving DecidableEq

structure ResultPort (L : Limits) where
  id : UInt32
  valueType : ValueType
  direction : PortDirection
  name : Vector UInt8 L.portNameSize
deriving DecidableEq

/-- A parameter or a state of a result, with the sizes of its strings. -/
structure ResultValue (nameSize descriptionSize : Nat) where
  id : UInt32
  valueType : ValueType
  name : Vector UInt8 nameSize
  description : Vector UInt8 descriptionSize
deriving DecidableEq

/-- `rtsyn_spsc_result_node_descriptor_t`. -/
structure ResultNodeDescriptor (L : Limits) where
  nodeType : NodeType
  portCount : UInt32
  paramCount : UInt32
  stateCount : UInt32
  name : Vector UInt8 L.resultNameSize
  ports : Vector (ResultPort L) L.portCapacity
  params : Vector (ResultValue L.paramNameSize L.paramDescriptionSize) L.paramCapacity
  states : Vector (ResultValue L.stateNameSize L.stateDescriptionSize) L.stateCapacity
deriving DecidableEq

structure ResultConnection where
  connectionId : UInt32
  sourceNodeId : UInt32
  sourcePortId : UInt32
  destinationNodeId : UInt32
  destinationPortId : UInt32
  timing : UInt32
deriving DecidableEq

/-- `rtsyn_spsc_result_message_t`. -/
structure ResultMessage (L : Limits) where
  seq : UInt64
  commandType : CommandType
  status : ResultStatus
  statusCode : UInt32
  nodeId : UInt32
  node : ResultNodeDescriptor L
  connection : ResultConnection
deriving DecidableEq

/-- The zeroed port of a record. -/
def ResultPort.zero (L : Limits) : ResultPort L :=
  ⟨0, L.zeroValueType, L.zeroDirection, Vector.replicate _ 0⟩

/-- The zeroed parameter or state of a record. -/
def ResultValue.zero (L : Limits) (nameSize descriptionSize : Nat) :
    ResultValue nameSize descriptionSize :=
  ⟨0, L.zeroValueType, Vector.replicate _ 0, Vector.replicate _ 0⟩

/-- A descriptor record after `memset (result, 0, sizeof (*result))`. -/
def ResultNodeDescriptor.zero (L : Limits) : ResultNodeDescriptor L where
  nodeType := L.zeroNodeType
  portCount := 0
  paramCount := 0
  stateCount := 0
  name := Vector.replicate _ 0
  ports := Vector.replicate _ (ResultPort.zero L)
  params := Vector.replicate _ (ResultValue.zero L _ _)
  states := Vector.replicate _ (ResultValue.zero L _ _)

def ResultConnection.zero : ResultConnection := ⟨0, 0, 0, 0, 0, 0⟩

/-! ### Telemetry -/

inductive TelemetrySource
  | none
  | plugin
  | device
  | other (code : UInt32)
deriving DecidableEq

inductive ValueKind
  | port
  | state
deriving DecidableEq

/-- The union of a telemetry value; `zero` is the zeroed union. -/
inductive SampleData (L : Limits)
  | zero
  | f32 (bits : UInt32)
  | f64 (bits : UInt64)
  | i64 (value : Int64)
  | u64 (value : UInt64)
  | string (buffer : Vector UInt8 L.telemetryStringSize)
deriving DecidableEq

/-- `rtsyn_spsc_telemetry_value_t`. -/
structure Sample (L : Limits) where
  cycleId : UInt64
  timestampNs : UInt64
  nodeId : UInt32
  valueId : UInt32
  sampleOffset : UInt16
  valueKind : ValueKind
  source : TelemetrySource
  valueType : ValueType
  data : SampleData L
deriving DecidableEq

/-- `rtsyn_measurement_metrics_t`. -/
structure Metrics where
  cycleId : UInt64
  periodNs : UInt64
  actualPeriodNs : UInt64
  latencyNs : UInt64
  wakeLatenessNs : UInt64
  skippedCycleCount : UInt64
  devicesReadNs : UInt64
  pluginsTimeNs : UInt64
  devicesWriteNs : UInt64
  missedCycle : Bool
  deadlineMissed : Bool
deriving DecidableEq

/-- The type of a telemetry message and the member of its union that belongs to that type.
`valuesWritten` leaves out the two fields that the dependency's publisher fills in. -/
inductive TelemetryData
  | cycleBegin (cycleId scheduledTimestampNs : UInt64)
  | cycleEnd (cycleId startedAtNs finishedAtNs : UInt64)
  | measurement (cycleId periodNs actualPeriodNs latencyNs wakeLatenessNs skippedCycleCount
      devicesReadNs pluginsTimeNs devicesWriteNs : UInt64) (missedCycle deadlineMissed : UInt8)
  | dropped (cycleId droppedEventCount droppedValueCount : UInt64)
  | valuesWritten (cycleId : UInt64) (nodeId : UInt32) (source : TelemetrySource)
  | other (type : UInt32)
deriving DecidableEq

/-- `rtsyn_spsc_telemetry_message_t`. -/
structure TelemetryMessage where
  seq : UInt64
  timestampNs : UInt64
  droppedEventCount : UInt64
  data : TelemetryData
deriving DecidableEq

end RtsynEngine
