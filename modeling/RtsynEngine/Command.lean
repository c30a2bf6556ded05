import RtsynEngine.Snapshot
import RtsynEngine.Subscription

/-! The command handlers of `telemetry_command.c` and `global_command.c`, and the dispatcher of
`command.c`.  Each handler rejects a message of another type. -/

namespace RtsynEngine

variable {D : Deps}

namespace World

def requestStop (w : World D) : World D :=
  w.setFlags { w.engine.flags with stopRequested := true }

/-- The outcome of a handler that returns what a runtime call returns. -/
def ofRuntime (w : World D) (runtime : Option D.Runtime) : Bool × World D :=
  match runtime with
  | some runtime => (true, { w with runtime })
  | none => (false, w)

def eventGlobalCommand (w : World D) (m : CommandMessage D.limits) : Bool × World D :=
  match m.data with
  | .globalCommand command =>
    match GlobalCommand.ofField command with
    | .none => (true, w)
    | .stop => (true, w.setFlags { w.engine.flags with stopRequested := true })
    | .pause => (true, w.setFlags { w.engine.flags with paused := true })
    | .resume => (true, w.setFlags { w.engine.flags with paused := false })
    | .other _ => (false, w)
  | _ => (false, w)

def eventPluginUpdate (w : World D) (m : CommandMessage D.limits) : Bool × World D :=
  match m.data with
  | .pluginUpdate pluginId pluginState =>
    w.ofRuntime (D.transitionNode w.runtime pluginId pluginState)
  | _ => (false, w)

def eventRequestPortValues (w : World D) (m : CommandMessage D.limits) : Bool × World D :=
  match m.data with
  | .requestPortValues pluginId portsynMask send =>
    w.updateSubscriptionMask pluginId portsynMask send false
  | _ => (false, w)

def eventRequestPortVariables (w : World D) (m : CommandMessage D.limits) : Bool × World D :=
  match m.data with
  | .requestPortVariables pluginId variableMask send =>
    w.updateSubscriptionMask pluginId variableMask send true
  | _ => (false, w)

/-- A result's status and status code from whether the command was carried out. -/
def statusResult (m : CommandMessage D.limits) (done : Bool) : ResultMessage D.limits :=
  resultMessage D.limits m.seq m.type (if done then .ok else .error) (if done then 0 else 1)

def eventLoadNode (w : World D) (m : CommandMessage D.limits) : Bool × World D :=
  match m.data with
  | .loadNode nodeType modulePath =>
    if !D.nodeTypeIsValid nodeType || modulePath[0]? == some 0 then (false, w)
    else
      match w.loadNodeDescriptorAs (CString.ofField modulePath) nodeType with
      | (none, w) => (false, (w.eventPushResult (statusResult m false)).2)
      | (some descriptor, w) =>
        let result := statusResult m true
        let result :=
          { result with node := resultCopyDescriptor result.node descriptor.target }
        (true, (w.eventPushResult result).2)
  | _ => (false, w)

/-- The descriptor that the reply to `ADD_NODE` carries: that of the loaded node of the requested
name, if there is one. -/
def addedDescriptor (w : World D) (nodeName : CString) : ResultNodeDescriptor D.limits :=
  match collectionGet w.engine.loadedNodes nodeName with
  | some loadedNode =>
    resultCopyDescriptor (ResultNodeDescriptor.zero D.limits) loadedNode.descriptor.target
  | none => ResultNodeDescriptor.zero D.limits

def eventAddNode (w : World D) (m : CommandMessage D.limits) : Bool × World D :=
  match m.data with
  | .addNode nodeType nodeName =>
    if !D.nodeTypeIsValid nodeType || nodeName[0]? == some 0 then (false, w)
    else
      let (node, w) := w.addNodeAs (CString.ofField nodeName) nodeType
      let result :=
        { statusResult m node.isSome with
          nodeId := (node.map Node.id).getD D.limits.nodeIdInvalid
          node := w.addedDescriptor (CString.ofField nodeName) }
      (node.isSome, (w.eventPushResult result).2)
  | _ => (false, w)

def eventRemoveNode (w : World D) (m : CommandMessage D.limits) : Bool × World D :=
  match m.data with
  | .removeNode nodeId =>
    if nodeId == D.limits.nodeIdInvalid then (false, w)
    else
      let (removed, w) := w.ofRuntime (D.removeNodeById w.runtime nodeId)
      (removed, (w.eventPushResult { statusResult m removed with nodeId }).2)
  | _ => (false, w)

def eventAddConnection (w : World D) (m : CommandMessage D.limits) : Bool × World D :=
  match m.data with
  | .addConnection connectionId sourceNodeId sourcePortId destinationNodeId destinationPortId =>
    if connectionId == D.limits.connectionIdInvalid || sourceNodeId == D.limits.nodeIdInvalid
        || sourcePortId == D.limits.portIdInvalid || destinationNodeId == D.limits.nodeIdInvalid
        || destinationPortId == D.limits.portIdInvalid then (false, w)
    else
      w.ofRuntime (D.addConnectionBetween w.runtime connectionId sourceNodeId sourcePortId
        destinationNodeId destinationPortId)
  | _ => (false, w)

def eventRemoveConnection (w : World D) (m : CommandMessage D.limits) : Bool × World D :=
  match m.data with
  | .removeConnection connectionId =>
    if connectionId == D.limits.connectionIdInvalid then (false, w)
    else w.ofRuntime (D.removeConnection w.runtime connectionId)
  | _ => (false, w)

/-- The pointer that `rtsyn_engine_event_set_param` passes on for a value type; an `I64` goes
through an `int`, a string through a zeroed buffer of the field's size. -/
def paramPointer {L : Limits} (valueType : ValueType) (value : ParamPayload L) :
    Option (ParamPointer L) :=
  match valueType with
  | .f32 => some (.f32 value.f32)
  | .f64 => some (.f64 value.f64)
  | .i64 => some (.int value.i64.toInt32)
  | .u64 => some (.u64 value.u64)
  | .string =>
    some (.string (strncpy (Vector.replicate _ 0) (CString.ofField value.string)
      (L.paramStringSize - 1)))
  | .other _ => none

def eventSetParam (w : World D) (m : CommandMessage D.limits) : Bool × World D :=
  match m.data with
  | .setParam nodeId paramId valueType value =>
    if nodeId == D.limits.nodeIdInvalid || paramId == D.limits.nodeValueIdInvalid
        || !D.valueIsValid valueType then (false, w)
    else
      match paramPointer valueType value with
      | some pointer => w.ofRuntime (D.setNodeParam w.runtime nodeId paramId pointer)
      | none => (false, w)
  | _ => (false, w)

/-- `rtsyn_engine_set_rt_thread_priority`, which stores the priority before it asks the thread for
it. -/
def setRtThreadPriority (w : World D) (priority : Int32) : Bool × World D :=
  if priority < 0 || priority > 99 then (false, w)
  else
    let config := w.engine.config
    let w : World D := { w with
      engine := { w.engine with
        config := { config with rtThread := { config.rtThread with priority } } } }
    let (code, env) := D.threadSetPriority w.env priority
    (code == 0, { w with env })

def setDeadlineTolerance (w : World D) (toleranceNs : UInt64) : Bool × World D :=
  (true, { w with
    engine := { w.engine with
      config := { w.engine.config with deadlineToleranceNs := toleranceNs } } })

/-- `rtsyn_engine_event_dispatch_command` -/
def dispatchCommand (w : World D) (m : CommandMessage D.limits) : Bool × World D :=
  match m.data with
  | .none => (true, w)
  | .globalCommand _ => w.eventGlobalCommand m
  | .pluginUpdate _ _ => w.eventPluginUpdate m
  | .requestPortValues _ _ _ => w.eventRequestPortValues m
  | .requestPortVariables _ _ _ => w.eventRequestPortVariables m
  | .loadNode _ _ => w.eventLoadNode m
  | .addNode _ _ => w.eventAddNode m
  | .removeNode _ => w.eventRemoveNode m
  | .addConnection _ _ _ _ _ => w.eventAddConnection m
  | .removeConnection _ => w.eventRemoveConnection m
  | .setParam _ _ _ _ => w.eventSetParam m
  | .setRuntimePeriod periodNs => w.ofRuntime (D.setPeriod w.runtime periodNs)
  | .setRuntimePriority priority => w.setRtThreadPriority priority
  | .setRuntimeDeadlineTolerance toleranceNs => w.setDeadlineTolerance toleranceNs
  | .requestRuntimeNodes => w.eventRequestRuntimeNodes m
  | .unknown _ => (false, w)

/-- Commands dispatched one after the other, whatever each dispatch returns. -/
def dispatchAll (w : World D) (ms : List (CommandMessage D.limits)) : World D :=
  ms.foldl (fun w m => (w.dispatchCommand m).2) w

@[simp] theorem dispatchAll_nil (w : World D) : w.dispatchAll [] = w := rfl

@[simp] theorem dispatchAll_cons (w : World D) (m : CommandMessage D.limits)
    (ms : List (CommandMessage D.limits)) :
    w.dispatchAll (m :: ms) = (w.dispatchCommand m).2.dispatchAll ms := rfl

theorem dispatchAll_append (w : World D) (ms ms' : List (CommandMessage D.limits)) :
    w.dispatchAll (ms ++ ms') = (w.dispatchAll ms).dispatchAll ms' :=
  List.foldl_append

end World

end RtsynEngine
