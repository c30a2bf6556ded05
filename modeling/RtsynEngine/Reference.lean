import RtsynEngine.Operation

/-! A reference implementation of the dependencies that keeps their laws: a runtime that is a list
of nodes and connections with the values that the nodes show, modules found by path, and node ids
counted up.  The outcomes that the
environment decides (failing allocations, refused pushes, the thread's answer to a new priority)
are scripted in its state. -/

namespace RtsynEngine.Reference

def limits : Limits where
  subscriptionCapacity := 2
  commandBudget := 4
  modulePathSize := 4
  nodeNameSize := 4
  paramStringSize := 4
  portCapacity := 2
  paramCapacity := 2
  stateCapacity := 2
  resultNameSize := 4
  portNameSize := 4
  paramNameSize := 4
  paramDescriptionSize := 4
  stateNameSize := 4
  stateDescriptionSize := 4
  portValueStringSize := 4
  telemetryStringSize := 4
  nodeIdInvalid := 4294967295
  nodeValueIdInvalid := 4294967295
  portIdInvalid := 4294967295
  connectionIdInvalid := 4294967295
  runtimeStateInvalid := 0
  runtimeStateStop := 1
  inheritSched := 0
  explicitSched := 1
  zeroNodeType := .invalid
  zeroValueType := .other 0
  zeroDirection := .input

/-- The runtime, with the values of its ports and states by node and id. -/
structure Runtime where
  nodes : List (Node limits)
  connections : List Connection
  states : List (UInt32 × UInt32)
  params : List ((UInt32 × UInt32) × ParamPointer limits)
  periodNs : UInt64
  outputValues : List ((UInt32 × UInt32) × UInt64)
  inputValues : List ((UInt32 × UInt32) × UInt64)
  stateValues : List ((UInt32 × UInt32) × UInt64)

/-- A scripted environment.  Each list of outcomes is used up from the front and stands for success
once it is empty. -/
structure Env where
  nextNodeId : UInt32
  nextHandle : Nat
  modules : List (CString × Pointer NodeDescriptor)
  allocations : List Bool
  priorityCode : Int32
  now : UInt64

/-- The next of a list of outcomes. -/
def outcome (outcomes : List Bool) : Bool := outcomes.headD true

/-- The outcome of a call that is accepted when `accepted` holds. -/
def guarded (accepted : Bool) (r : Runtime) : Option Runtime := if accepted then some r else none

theorem guarded_eq_some {accepted : Bool} {r r' : Runtime} (h : guarded accepted r = some r') :
    r' = r := by
  unfold guarded at h
  split at h
  · exact (Option.some.inj h).symm
  · cases h

theorem nodes_guarded {accepted : Bool} {r r' : Runtime} (h : guarded accepted r = some r') :
    r'.nodes = r.nodes := by
  rw [guarded_eq_some h]

namespace Runtime

def hasNode (r : Runtime) (id : UInt32) : Bool := r.nodes.any (·.id == id)

def addNode (r : Runtime) (n : Node limits) : Option Runtime :=
  guarded (!r.hasNode n.id) { r with nodes := r.nodes ++ [n] }

def removeNodeById (r : Runtime) (id : UInt32) : Option Runtime :=
  guarded (r.hasNode id) { r with nodes := r.nodes.filter (·.id != id) }

def removeNodesByName (r : Runtime) (name : CString) : Runtime :=
  { r with nodes := r.nodes.filter (·.name != some name) }

def transitionNode (r : Runtime) (id state : UInt32) : Option Runtime :=
  guarded (r.hasNode id) { r with states := (id, state) :: r.states }

def addConnectionBetween (r : Runtime) (id sourceNode sourcePort node port : UInt32) :
    Option Runtime :=
  guarded (r.hasNode sourceNode && r.hasNode node) { r with
    connections := r.connections ++ [⟨id, sourceNode, some sourcePort, node, some port, 0⟩] }

def removeConnection (r : Runtime) (id : UInt32) : Option Runtime :=
  guarded (r.connections.any (·.id == id)) { r with
    connections := r.connections.filter (·.id != id) }

def setNodeParam (r : Runtime) (id param : UInt32) (value : ParamPointer limits) :
    Option Runtime :=
  guarded (r.hasNode id) { r with params := ((id, param), value) :: r.params }

def setPeriod (r : Runtime) (periodNs : UInt64) : Option Runtime :=
  guarded (periodNs != 0) { r with periodNs }

def getNodePortValue (r : Runtime) (id port : UInt32) : PortDirection → Option UInt64
  | .output => if r.hasNode id then r.outputValues.lookup (id, port) else none
  | .input => if r.hasNode id then r.inputValues.lookup (id, port) else none
  | .other _ => none

def getNodeState (r : Runtime) (id state : UInt32) : Option UInt64 :=
  if r.hasNode id then r.stateValues.lookup (id, state) else none

theorem mem_addNode {r r' : Runtime} {n : Node limits} (h : r.addNode n = some r')
    (m : Node limits) : m ∈ r'.nodes ↔ m ∈ r.nodes ∨ m = n := by
  rw [guarded_eq_some h]
  simp

theorem mem_removeNodeById {r r' : Runtime} {id : UInt32} (h : r.removeNodeById id = some r')
    (m : Node limits) : m ∈ r'.nodes ↔ m ∈ r.nodes ∧ m.id ≠ id := by
  rw [guarded_eq_some h]
  simp

theorem mem_removeNodesByName (r : Runtime) (name : CString) (m : Node limits) :
    m ∈ (r.removeNodesByName name).nodes ↔ m ∈ r.nodes ∧ m.name ≠ some name := by
  simp [removeNodesByName]

end Runtime

def createNode (nodeType : NodeType) (e : Env) (d : Pointer NodeDescriptor) :
    Option (Node limits) × Env :=
  if h : e.nextNodeId ≠ limits.nodeIdInvalid then
    (some ⟨e.nextNodeId, nodeType, d, h⟩, { e with nextNodeId := e.nextNodeId + 1 })
  else (none, e)

def deps : Deps where
  limits := limits
  Runtime := Runtime
  Env := Env
  Value := UInt64
  ResultQueue := Channel (ResultMessage limits)
  TelemetryQueue := List Bool
  nodes := Runtime.nodes
  connections := Runtime.connections
  nodeRuntimeState r n := (r.states.lookup n.id).getD 1
  periodNs := Runtime.periodNs
  getNode r id := r.nodes.find? (·.id == id)
  addNode := Runtime.addNode
  removeNodeById := Runtime.removeNodeById
  removeNodesByName := Runtime.removeNodesByName
  transitionNode := Runtime.transitionNode
  addConnectionBetween := Runtime.addConnectionBetween
  removeConnection := Runtime.removeConnection
  setNodeParam := Runtime.setNodeParam
  setPeriod := Runtime.setPeriod
  getNodePortValue := Runtime.getNodePortValue
  getNodeState := Runtime.getNodeState
  step r e := (r, e)
  valueTypeGet _ := .u64
  valueGetF32 _ := none
  valueGetF64 _ := none
  valueGetInt _ := none
  valueGetU64 := some
  valueGetString _ := none
  nodeTypeIsValid t := t == .plugin || t == .device
  valueIsValid
    | .other _ => false
    | _ => true
  nodeCreatePlugin := createNode .plugin
  nodeCreateDevice := createNode .device
  nodeDestroy e _ := e
  moduleLoaderCreate e path :=
    match e.modules.lookup path with
    | some d => (some ⟨e.nextHandle, some d⟩, { e with nextHandle := e.nextHandle + 1 })
    | none => (none, e)
  mallocLoadedNode e := (outcome e.allocations, { e with allocations := e.allocations.tail })
  collectionAdd e := (outcome e.allocations, { e with allocations := e.allocations.tail })
  threadSetPriority e _ := (e.priorityCode, e)
  threadGetTime e := (e.now, e)
  threadSleepUntil e deadline := { e with now := max e.now deadline }
  calculateCycle e _ _ _ := (none, e)
  calculateDeadline _ _ _ _ m := m
  resultTryPush := Channel.tryPush
  telemetryTryPush q _ := (outcome q, q.tail)
  telemetryTryPublishValues q _ _ := (outcome q, q.tail)

theorem runtimeLaws : deps.RuntimeLaws where
  addNode := Runtime.mem_addNode
  removeNodeById := Runtime.mem_removeNodeById
  removeNodesByName := Runtime.mem_removeNodesByName
  transitionNode h := (nodes_guarded h :)
  addConnectionBetween h := (nodes_guarded h :)
  removeConnection h := (nodes_guarded h :)
  setNodeParam h := (nodes_guarded h :)
  setPeriod h := (nodes_guarded h :)

theorem stepLaw : deps.StepLaw where
  nodes _ _ := rfl

theorem createNode_spec {t : NodeType} {e e' : Env} {d : Pointer NodeDescriptor}
    {n : Node limits} (h : createNode t e d = (some n, e')) :
    n.descriptor = d ∧ n.nodeType = t := by
  unfold createNode at h
  split at h
  · cases h
    exact ⟨rfl, rfl⟩
  · cases h

theorem nodeLaws : deps.NodeLaws where
  nodeCreatePlugin h := createNode_spec h
  nodeCreateDevice h := createNode_spec h
  invalid_not_valid := rfl

theorem resultQueueLaws : deps.ResultQueueLaws id where
  accepted _ _ := rfl
  pushed _ _ := rfl

def modulePath : CString := ⟨[109], by decide⟩

/-- A plugin without ports and values, which the module at `modulePath` exports. -/
def descriptor : Pointer NodeDescriptor where
  address := 1
  target := {
    name := some ⟨[110], by decide⟩
    nodeType := .plugin
    portCount := 0
    ports := []
    paramCount := 0
    params := []
    stateCount := 0
    states := []
    portsHold := by decide
    paramsHold := by decide
    statesHold := by decide }

/-- A name of one character in the field of a command. -/
def nameField (c : UInt8) : Vector UInt8 4 := (Vector.replicate 4 0).setIfInBounds 0 c

def config : Config where
  resultQueue := true
  telemetryQueue := true
  telemetryValues := true
  rtThread := ⟨0, 0⟩
  waitThread := ⟨0, 0⟩
  deadlineToleranceNs := 0
  maxCommandsPerCycle := 0

/-- A fresh engine, an empty runtime and empty queues; all pushes are accepted. -/
def world : World deps where
  engine := (Engine.create limits config).get (by decide)
  runtime := ⟨[], [], [], [], 0, [], [], []⟩
  env := ⟨0, 0, [(modulePath, descriptor)], [], 0, 0⟩
  results := ⟨4, [], []⟩
  telemetry := []
  commands := []
  trace := []

/-- The fresh engine after its module is loaded and a node added from it. -/
def loadedWorld : World deps :=
  world.performAll [.loadNode modulePath, .addNode ⟨[110], by decide⟩]

end RtsynEngine.Reference
