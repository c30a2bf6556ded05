/-! The data that the engine exchanges with modules, the runtime and other processes: C strings,
the enumerations and descriptors of the node ABI, runtime nodes and connections.  `Limits` holds
the constants of the dependencies' headers, which are parameters of the development. -/

namespace RtsynEngine

/-- A C string: the bytes before its terminating NUL. -/
structure CString where
  bytes : List UInt8
  noNul : 0 ∉ bytes
deriving DecidableEq

/-- The string in an array of bytes: those before the first NUL. -/
def CString.ofBytes (bytes : List UInt8) : CString where
  bytes := bytes.takeWhile (· != 0)
  noNul h := by
    have := List.all_takeWhile (l := bytes) (p := (· != 0))
    simpa using List.all_eq_true.mp this 0 h

/-- The string that `strncpy (local, field, sizeof (local) - 1)` leaves in a zeroed array of the
field's size. -/
def CString.ofField {n : Nat} (field : Vector UInt8 n) : CString :=
  CString.ofBytes (field.toList.take (n - 1))

/-- A pointer to an object that does not change: its address, which tells two objects of equal
content apart, and the object. -/
structure Pointer (α : Type) where
  address : Nat
  target : α
deriving DecidableEq

/-- `rtsyn_abi_node_type_t`; a field filled by another process may hold any other number. -/
inductive NodeType
  | invalid
  | plugin
  | device
  | other (code : UInt32)
deriving DecidableEq

/-- `rtsyn_abi_value_type_t`. -/
inductive ValueType
  | f32
  | f64
  | i64
  | u64
  | string
  | other (code : UInt32)
deriving DecidableEq

/-- `rtsyn_abi_port_direction_t`. -/
inductive PortDirection
  | input
  | output
  | other (code : UInt32)
deriving DecidableEq

/-- The constants of the dependencies' headers.  `subscriptionCapacity` and `commandBudget` are the
engine's defaults; the next three are the sizes of the strings of a command; then come the array
capacities of a result and the sizes of its strings, which the source takes with `sizeof`; then the
string capacities of a port value and of a telemetry value.  The ids and the states are the
sentinels `RTSYN_..._INVALID` and the state `RTSYN_NODE_RUNTIME_STATE_STOP`; the scheduling
constants are pthread's two.  The last three are the enumerators of code 0, which zeroed memory
holds. -/
structure Limits where
  subscriptionCapacity : Nat
  commandBudget : UInt32
  modulePathSize : Nat
  nodeNameSize : Nat
  paramStringSize : Nat
  portCapacity : Nat
  paramCapacity : Nat
  stateCapacity : Nat
  resultNameSize : Nat
  portNameSize : Nat
  paramNameSize : Nat
  paramDescriptionSize : Nat
  stateNameSize : Nat
  stateDescriptionSize : Nat
  portValueStringSize : Nat
  telemetryStringSize : Nat
  nodeIdInvalid : UInt32
  nodeValueIdInvalid : UInt32
  portIdInvalid : UInt32
  connectionIdInvalid : UInt32
  runtimeStateInvalid : UInt32
  runtimeStateStop : UInt32
  inheritSched : Int32
  explicitSched : Int32
  zeroNodeType : NodeType
  zeroValueType : ValueType
  zeroDirection : PortDirection

structure PortDescriptor where
  name : Option CString
  valueType : ValueType
  direction : PortDirection
deriving DecidableEq

/-- `rtsyn_abi_param_descriptor_t` and `rtsyn_abi_state_descriptor_t`, which have the same
fields. -/
structure ValueDescriptor where
  name : Option CString
  description : Option CString
  valueType : ValueType
deriving DecidableEq

/-- `rtsyn_abi_node_descriptor_t`, without its callbacks, which the engine never calls.  Each array
has at least as many entries as its count says. -/
structure NodeDescriptor where
  name : Option CString
  nodeType : NodeType
  portCount : UInt32
  ports : List PortDescriptor
  paramCount : UInt32
  params : List ValueDescriptor
  stateCount : UInt32
  states : List ValueDescriptor
  portsHold : portCount.toNat ≤ ports.length
  paramsHold : paramCount.toNat ≤ params.length
  statesHold : stateCount.toNat ≤ states.length
deriving DecidableEq

/-- `rtsyn_node_t`: an instance of a descriptor, whose name is its own. -/
structure Node (L : Limits) where
  id : UInt32
  nodeType : NodeType
  descriptor : Pointer NodeDescriptor
  valid : id ≠ L.nodeIdInvalid
deriving DecidableEq

def Node.name {L : Limits} (n : Node L) : Option CString := n.descriptor.target.name

/-- `rtsyn_runtime_connection_t`; a port is `none` when its pointer is null. -/
structure Connection where
  id : UInt32
  sourceNodeId : UInt32
  sourcePort : Option UInt32
  destinationNodeId : UInt32
  destinationPort : Option UInt32
  timing : UInt32
deriving DecidableEq

/-- `rtsyn_module_loader_t`: the handle of a loaded module and the descriptor it exports. -/
structure ModuleLoader where
  handle : Nat
  descriptor : Option (Pointer NodeDescriptor)
deriving DecidableEq

end RtsynEngine
