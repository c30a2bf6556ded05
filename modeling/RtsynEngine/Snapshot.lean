import RtsynEngine.Descriptor
import RtsynEngine.Registry

/-! The snapshot of the runtime graph that answers `REQUEST_RUNTIME_NODES`: a record for each node
of a loaded descriptor, a record for each connection with both ports, and a terminator. -/

namespace RtsynEngine

variable {D : Deps}

/-- The number in the `status_code` of a terminator, `UINT32_MAX`. -/
def terminatorCode : UInt32 := 4294967295

/-- A zeroed result with the fields that every record of the engine sets. -/
def resultMessage (L : Limits) (seq : UInt64) (commandType : CommandType) (status : ResultStatus)
    (statusCode : UInt32) : ResultMessage L where
  seq := seq
  commandType := commandType
  status := status
  statusCode := statusCode
  nodeId := 0
  node := ResultNodeDescriptor.zero L
  connection := ResultConnection.zero

/-- `rtsyn_engine_runtime_snapshot_context_t`; its engine is the world's. -/
structure SnapshotContext where
  seq : UInt64
  ok : Bool

namespace World

/-- The record that `rtsyn_engine_event_push_node_snapshot` fills in for a node. -/
def nodeRecord (w : World D) (seq : UInt64) (node : Node D.limits) :
    Option (ResultMessage D.limits) :=
  match collectionGet w.engine.loadedNodes node.name with
  | none => none
  | some loadedNode =>
    let state := D.nodeRuntimeState w.runtime node
    let state :=
      if state == D.limits.runtimeStateInvalid then D.limits.runtimeStateStop else state
    let result := resultMessage D.limits seq .requestRuntimeNodes .ok state
    some { result with
      nodeId := node.id
      node := resultCopyDescriptor result.node loadedNode.descriptor.target }

/-- The record that `rtsyn_engine_event_push_connection_snapshot` fills in for a connection. -/
def connectionRecord (L : Limits) (seq : UInt64) (c : Connection) : Option (ResultMessage L) :=
  match c.sourcePort, c.destinationPort with
  | some sourcePortId, some destinationPortId =>
    some { resultMessage L seq .requestRuntimeNodes .ok 0 with
      nodeId := L.nodeIdInvalid
      connection := {
        connectionId := c.id
        sourceNodeId := c.sourceNodeId
        sourcePortId
        destinationNodeId := c.destinationNodeId
        destinationPortId
        timing := c.timing } }
  | _, _ => none

/-- A push of the snapshot: `context->ok = push (...) && context->ok`. -/
def pushSnapshotRecord (s : SnapshotContext × World D) (record : ResultMessage D.limits) :
    SnapshotContext × World D :=
  let (pushed, w) := s.2.eventPushResult record
  ({ s.1 with ok := pushed && s.1.ok }, w)

/-- `rtsyn_engine_event_push_node_snapshot`, which never stops the iteration. -/
def eventPushNodeSnapshot (s : SnapshotContext × World D) (node : Node D.limits) :
    SnapshotContext × World D :=
  match s.2.nodeRecord s.1.seq node with
  | none => s
  | some record => pushSnapshotRecord s record

/-- `rtsyn_engine_event_push_connection_snapshot`, which never stops the iteration. -/
def eventPushConnectionSnapshot (s : SnapshotContext × World D) (c : Connection) :
    SnapshotContext × World D :=
  match connectionRecord D.limits s.1.seq c with
  | none => s
  | some record => pushSnapshotRecord s record

/-- The terminator of a snapshot. -/
def terminatorRecord (L : Limits) (seq : UInt64) : ResultMessage L :=
  { resultMessage L seq .requestRuntimeNodes .ok terminatorCode with nodeId := L.nodeIdInvalid }

def eventRequestRuntimeNodes (w : World D) (m : CommandMessage D.limits) : Bool × World D :=
  match m.data with
  | .requestRuntimeNodes =>
    let s := (D.nodes w.runtime).foldl eventPushNodeSnapshot (⟨m.seq, true⟩, w)
    let s := (D.connections w.runtime).foldl eventPushConnectionSnapshot s
    let s := pushSnapshotRecord s (terminatorRecord D.limits m.seq)
    (s.1.ok, s.2)
  | _ => (false, w)

end World

end RtsynEngine
