import RtsynEngine.Proof.Registry
import RtsynEngine.Proof.Snapshot

/-! What the command handlers leave alone. -/

namespace RtsynEngine

variable {D : Deps}

/-- The commands that are answered by results. -/
def CommandData.answered {L : Limits} : CommandData L → Bool
  | .loadNode _ _ | .addNode _ _ | .removeNode _ | .requestRuntimeNodes => true
  | _ => false

/-- The requests that their handlers turn down before they do or answer anything. -/
def CommandData.malformed (D : Deps) : CommandData D.limits → Bool
  | .loadNode nodeType modulePath => !D.nodeTypeIsValid nodeType || modulePath[0]? == some 0
  | .addNode nodeType nodeName => !D.nodeTypeIsValid nodeType || nodeName[0]? == some 0
  | .removeNode nodeId => nodeId == D.limits.nodeIdInvalid
  | _ => false

/-- The commands that change the subscription table. -/
def CommandData.subscribes {L : Limits} : CommandData L → Bool
  | .requestPortValues _ _ _ | .requestPortVariables _ _ _ => true
  | _ => false

/-- What a command does to the flags. -/
def CommandData.flags {L : Limits} (data : CommandData L) (f : Flags) : Flags :=
  match data with
  | .globalCommand command =>
    match GlobalCommand.ofField command with
    | .stop => { f with stopRequested := true }
    | .pause => { f with paused := true }
    | .resume => { f with paused := false }
    | .none | .other _ => f
  | _ => f

/-- What the calls of the handlers that push no results do to the runtime. -/
inductive RuntimeCall (r r' : D.Runtime) : Prop
  | same (h : r' = r)
  | transitionNode {id state : UInt32} (h : D.transitionNode r id state = some r')
  | addConnectionBetween {id sourceNode sourcePort node port : UInt32}
    (h : D.addConnectionBetween r id sourceNode sourcePort node port = some r')
  | removeConnection {id : UInt32} (h : D.removeConnection r id = some r')
  | setNodeParam {id param : UInt32} {value : ParamPointer D.limits}
    (h : D.setNodeParam r id param value = some r')
  | setPeriod {period : UInt64} (h : D.setPeriod r period = some r')

theorem RuntimeCall.nodes (laws : D.RuntimeLaws) {r r' : D.Runtime} (h : RuntimeCall r r') :
    D.nodes r' = D.nodes r := by
  cases h with
  | same h => rw [h]
  | transitionNode h => exact laws.transitionNode h
  | addConnectionBetween h => exact laws.addConnectionBetween h
  | removeConnection h => exact laws.removeConnection h
  | setNodeParam h => exact laws.setNodeParam h
  | setPeriod h => exact laws.setPeriod h

/-- What a command that is not answered leaves alone: it stores its flags, calls the runtime once,
and only one that `subscribes` changes the subscription table. -/
structure Quiet (data : CommandData D.limits) (w w' : World D) : Prop where
  loadedNodes : w'.engine.loadedNodes = w.engine.loadedNodes
  flags : w'.engine.flags = data.flags w.engine.flags
  subscriptions : data.subscribes = false →
    w'.engine.telemetrySubscriptions = w.engine.telemetrySubscriptions
  runtime : RuntimeCall w.runtime w'.runtime
  results : w'.results = w.results
  telemetry : w'.telemetry = w.telemetry
  commands : w'.commands = w.commands
  trace : w'.trace = w.trace

theorem Quiet.refl {data : CommandData D.limits} (w : World D)
    (hflags : data.flags w.engine.flags = w.engine.flags) : Quiet data w w :=
  ⟨rfl, hflags.symm, fun _ => rfl, .same rfl, rfl, rfl, rfl, rfl⟩

/-- What a command that is not answered does to the world: a case for each way its handler ends. -/
inductive QuietMove (w : World D) : CommandData D.limits → World D → Prop
  | nothing {data : CommandData D.limits} (hflags : data.flags w.engine.flags = w.engine.flags) :
    QuietMove w data w
  | globalCommand (command : UInt32) :
    QuietMove w (.globalCommand command) (w.setFlags
      ((CommandData.globalCommand command : CommandData D.limits).flags w.engine.flags))
  | subscribe {data : CommandData D.limits} (hsubscribes : data.subscribes = true)
    (hflags : data.flags w.engine.flags = w.engine.flags)
    (table : Vector Subscription D.limits.subscriptionCapacity) :
    QuietMove w data (w.setSubscriptions table)
  | transitionNode {id state : UInt32} {r : D.Runtime}
    (h : D.transitionNode w.runtime id state = some r) :
    QuietMove w (.pluginUpdate id state) { w with runtime := r }
  | addConnectionBetween {id sourceNode sourcePort node port : UInt32} {r : D.Runtime}
    (h : D.addConnectionBetween w.runtime id sourceNode sourcePort node port = some r) :
    QuietMove w (.addConnection id sourceNode sourcePort node port) { w with runtime := r }
  | removeConnection {id : UInt32} {r : D.Runtime} (h : D.removeConnection w.runtime id = some r) :
    QuietMove w (.removeConnection id) { w with runtime := r }
  | setNodeParam {id param : UInt32} {valueType : ValueType} {payload : ParamPayload D.limits}
    {value : ParamPointer D.limits} {r : D.Runtime}
    (h : D.setNodeParam w.runtime id param value = some r) :
    QuietMove w (.setParam id param valueType payload) { w with runtime := r }
  | setPeriod {period : UInt64} {r : D.Runtime} (h : D.setPeriod w.runtime period = some r) :
    QuietMove w (.setRuntimePeriod period) { w with runtime := r }
  | setPriority (priority : Int32) :
    QuietMove w (.setRuntimePriority priority) { w with
      engine := { w.engine with config := { w.engine.config with
        rtThread := { w.engine.config.rtThread with priority } } }
      env := (D.threadSetPriority w.env priority).2 }
  | setDeadlineTolerance (toleranceNs : UInt64) :
    QuietMove w (.setRuntimeDeadlineTolerance toleranceNs) (w.setDeadlineTolerance toleranceNs).2

theorem QuietMove.quiet {data : CommandData D.limits} {w w' : World D}
    (h : QuietMove w data w') : Quiet data w w' := by
  cases h with
  | nothing hflags => exact .refl w hflags
  | globalCommand command => exact ⟨rfl, rfl, fun _ => rfl, .same rfl, rfl, rfl, rfl, rfl⟩
  | subscribe hsubscribes hflags table =>
    refine ⟨rfl, hflags.symm, fun hfalse => ?_, .same rfl, rfl, rfl, rfl, rfl⟩
    rw [hsubscribes] at hfalse
    cases hfalse
  | transitionNode h => exact ⟨rfl, rfl, fun _ => rfl, .transitionNode h, rfl, rfl, rfl, rfl⟩
  | addConnectionBetween h =>
    exact ⟨rfl, rfl, fun _ => rfl, .addConnectionBetween h, rfl, rfl, rfl, rfl⟩
  | removeConnection h => exact ⟨rfl, rfl, fun _ => rfl, .removeConnection h, rfl, rfl, rfl, rfl⟩
  | setNodeParam h => exact ⟨rfl, rfl, fun _ => rfl, .setNodeParam h, rfl, rfl, rfl, rfl⟩
  | setPeriod h => exact ⟨rfl, rfl, fun _ => rfl, .setPeriod h, rfl, rfl, rfl, rfl⟩
  | setPriority priority => exact ⟨rfl, rfl, fun _ => rfl, .same rfl, rfl, rfl, rfl, rfl⟩
  | setDeadlineTolerance toleranceNs =>
    exact ⟨rfl, rfl, fun _ => rfl, .same rfl, rfl, rfl, rfl, rfl⟩

namespace World

theorem ofRuntime_move {data : CommandData D.limits} (w : World D) {runtime : Option D.Runtime}
    (hflags : data.flags w.engine.flags = w.engine.flags)
    (hcall : ∀ r, runtime = some r → QuietMove w data { w with runtime := r }) :
    QuietMove w data (w.ofRuntime runtime).2 := by
  cases runtime with
  | none => exact .nothing hflags
  | some r => exact hcall r rfl

theorem updateSubscriptionMask_table (w : World D) (nodeId : UInt32) (mask : UInt64)
    (send vars : Bool) :
    ∃ table, (w.updateSubscriptionMask nodeId mask send vars).2 = w.setSubscriptions table :=
  ⟨_, rfl⟩

theorem updateSubscriptionMask_move {data : CommandData D.limits} (w : World D)
    (nodeId : UInt32) (mask : UInt64) (send vars : Bool) (hsubscribes : data.subscribes = true)
    (hflags : data.flags w.engine.flags = w.engine.flags) :
    QuietMove w data (w.updateSubscriptionMask nodeId mask send vars).2 := by
  obtain ⟨table, htable⟩ := w.updateSubscriptionMask_table nodeId mask send vars
  rw [htable]
  exact .subscribe hsubscribes hflags table

theorem eventGlobalCommand_flags (w : World D) (seq : UInt64) (command : UInt32) :
    (w.eventGlobalCommand ⟨seq, .globalCommand command⟩).2 =
      w.setFlags ((CommandData.globalCommand command : CommandData D.limits).flags
        w.engine.flags) := by
  dsimp only [eventGlobalCommand, CommandData.flags]
  cases GlobalCommand.ofField command <;> rfl

theorem eventSetParam_move (w : World D) (seq : UInt64) (nodeId paramId : UInt32)
    (valueType : ValueType) (value : ParamPayload D.limits) :
    QuietMove w (.setParam nodeId paramId valueType value)
      (w.eventSetParam ⟨seq, .setParam nodeId paramId valueType value⟩).2 := by
  dsimp only [eventSetParam]
  split
  · exact .nothing rfl
  · split
    · exact w.ofRuntime_move rfl fun _ h => .setNodeParam h
    · exact .nothing rfl

theorem dispatch_move (w : World D) {m : CommandMessage D.limits}
    (hm : m.data.answered = false) : QuietMove w m.data (w.dispatchCommand m).2 := by
  obtain ⟨seq, data⟩ := m
  cases data with
  | none => exact .nothing rfl
  | globalCommand command =>
    dsimp only [dispatchCommand]
    rw [w.eventGlobalCommand_flags]
    exact .globalCommand command
  | pluginUpdate => exact w.ofRuntime_move rfl fun _ h => .transitionNode h
  | requestPortValues nodeId mask send =>
    exact w.updateSubscriptionMask_move nodeId mask send false rfl rfl
  | requestPortVariables nodeId mask send =>
    exact w.updateSubscriptionMask_move nodeId mask send true rfl rfl
  | loadNode => cases hm
  | addNode => cases hm
  | removeNode => cases hm
  | addConnection =>
    dsimp only [dispatchCommand, eventAddConnection]
    split
    · exact .nothing rfl
    · exact w.ofRuntime_move rfl fun _ h => .addConnectionBetween h
  | removeConnection =>
    dsimp only [dispatchCommand, eventRemoveConnection]
    split
    · exact .nothing rfl
    · exact w.ofRuntime_move rfl fun _ h => .removeConnection h
  | setParam nodeId paramId valueType value =>
    exact w.eventSetParam_move seq nodeId paramId valueType value
  | setRuntimePeriod => exact w.ofRuntime_move rfl fun _ h => .setPeriod h
  | setRuntimePriority priority =>
    dsimp only [dispatchCommand, setRtThreadPriority]
    split
    · exact .nothing rfl
    · exact .setPriority priority
  | setRuntimeDeadlineTolerance toleranceNs => exact .setDeadlineTolerance toleranceNs
  | requestRuntimeNodes => cases hm
  | unknown => exact .nothing rfl

theorem dispatch_quiet (w : World D) {m : CommandMessage D.limits}
    (hm : m.data.answered = false) : Quiet m.data w (w.dispatchCommand m).2 :=
  (w.dispatch_move hm).quiet

theorem dispatch_malformed (w : World D) {m : CommandMessage D.limits}
    (hm : m.data.malformed D = true) : w.dispatchCommand m = (false, w) := by
  obtain ⟨seq, data⟩ := m
  cases data with
  | loadNode nodeType modulePath => exact if_pos hm
  | addNode nodeType nodeName => exact if_pos hm
  | removeNode nodeId => exact if_pos hm
  | _ => cases hm

/-- The descriptor that the reply to `LOAD_NODE` carries. -/
def loadedDescriptor (descriptor : Option (Pointer NodeDescriptor)) :
    ResultNodeDescriptor D.limits :=
  match descriptor with
  | some d => resultCopyDescriptor (ResultNodeDescriptor.zero D.limits) d.target
  | none => ResultNodeDescriptor.zero D.limits

theorem dispatch_loadNode (w : World D) (seq : UInt64) {nodeType : NodeType}
    {modulePath : Vector UInt8 D.limits.modulePathSize}
    (hm : (CommandData.loadNode nodeType modulePath).malformed D = false) :
    ∃ descriptor w₁, w.loadNodeDescriptorAs (CString.ofField modulePath) nodeType =
        (descriptor, w₁) ∧
      w.dispatchCommand ⟨seq, .loadNode nodeType modulePath⟩ = (descriptor.isSome,
        (w₁.eventPushResult { statusResult ⟨seq, .loadNode nodeType modulePath⟩ descriptor.isSome
          with node := loadedDescriptor descriptor }).2) := by
  obtain ⟨descriptor, w₁, hload⟩ : ∃ descriptor w₁,
      w.loadNodeDescriptorAs (CString.ofField modulePath) nodeType = (descriptor, w₁) := ⟨_, _, rfl⟩
  have hguard : ¬(!D.nodeTypeIsValid nodeType || modulePath[0]? == some 0) = true :=
    Bool.eq_false_iff.mp hm
  refine ⟨descriptor, w₁, hload, ?_⟩
  simp only [dispatchCommand, eventLoadNode, if_neg hguard, hload]
  cases descriptor <;> rfl

theorem dispatch_addNode (w : World D) (seq : UInt64) {nodeType : NodeType}
    {nodeName : Vector UInt8 D.limits.nodeNameSize}
    (hm : (CommandData.addNode nodeType nodeName).malformed D = false) :
    ∃ node w₁, w.addNodeAs (CString.ofField nodeName) nodeType = (node, w₁) ∧
      w.dispatchCommand ⟨seq, .addNode nodeType nodeName⟩ = (node.isSome,
        (w₁.eventPushResult { statusResult ⟨seq, .addNode nodeType nodeName⟩ node.isSome with
          nodeId := (node.map Node.id).getD D.limits.nodeIdInvalid
          node := w₁.addedDescriptor (CString.ofField nodeName) }).2) := by
  obtain ⟨node, w₁, hadd⟩ : ∃ node w₁,
      w.addNodeAs (CString.ofField nodeName) nodeType = (node, w₁) := ⟨_, _, rfl⟩
  have hguard : ¬(!D.nodeTypeIsValid nodeType || nodeName[0]? == some 0) = true :=
    Bool.eq_false_iff.mp hm
  refine ⟨node, w₁, hadd, ?_⟩
  simp only [dispatchCommand, eventAddNode, if_neg hguard, hadd]

theorem dispatch_removeNode (w : World D) (seq : UInt64) {nodeId : UInt32}
    (hm : (CommandData.removeNode nodeId : CommandData D.limits).malformed D = false) :
    ∃ removed w₁, w.ofRuntime (D.removeNodeById w.runtime nodeId) = (removed, w₁) ∧
      w.dispatchCommand ⟨seq, .removeNode nodeId⟩ = (removed,
        (w₁.eventPushResult { statusResult ⟨seq, .removeNode nodeId⟩ removed with nodeId }).2) := by
  obtain ⟨removed, w₁, hremove⟩ : ∃ removed w₁,
      w.ofRuntime (D.removeNodeById w.runtime nodeId) = (removed, w₁) := ⟨_, _, rfl⟩
  have hguard : ¬(nodeId == D.limits.nodeIdInvalid) = true := Bool.eq_false_iff.mp hm
  refine ⟨removed, w₁, hremove, ?_⟩
  simp only [dispatchCommand, eventRemoveNode, if_neg hguard, hremove]

/-- What a command does before it pushes its results. -/
inductive Action (w : World D) : CommandData D.limits → World D → Prop
  | quiet {data : CommandData D.limits} {w₁ : World D} (hdata : data.answered = false)
    (hquiet : Quiet data w w₁) : Action w data w₁
  | nothing {data : CommandData D.limits} (hdata : data.answered = true) : Action w data w
  | load (nodeType : NodeType) (modulePath : Vector UInt8 D.limits.modulePathSize) :
    Action w (.loadNode nodeType modulePath)
      (w.loadNodeDescriptorAs (CString.ofField modulePath) nodeType).2
  | add (nodeType : NodeType) (nodeName : Vector UInt8 D.limits.nodeNameSize) :
    Action w (.addNode nodeType nodeName) (w.addNodeAs (CString.ofField nodeName) nodeType).2
  | remove (nodeId : UInt32) :
    Action w (.removeNode nodeId) (w.ofRuntime (D.removeNodeById w.runtime nodeId)).2

theorem dispatch_action (w : World D) (m : CommandMessage D.limits) :
    ∃ w₁, Action w m.data w₁ ∧ OnlyPushes w₁ (w.dispatchCommand m).2 := by
  by_cases hanswered : m.data.answered = false
  · exact ⟨_, .quiet hanswered (w.dispatch_quiet hanswered), .refl _⟩
  rw [Bool.not_eq_false] at hanswered
  by_cases hmalformed : m.data.malformed D = true
  · rw [w.dispatch_malformed hmalformed]
    exact ⟨w, .nothing hanswered, .refl w⟩
  rw [Bool.not_eq_true] at hmalformed
  obtain ⟨seq, data⟩ := m
  cases data with
  | loadNode nodeType modulePath =>
    obtain ⟨descriptor, w₁, hload, hw⟩ := w.dispatch_loadNode seq hmalformed
    rw [hw]
    have haction := Action.load (w := w) nodeType modulePath
    rw [hload] at haction
    exact ⟨w₁, haction, w₁.eventPushResult_onlyPushes _⟩
  | addNode nodeType nodeName =>
    obtain ⟨node, w₁, hadd, hw⟩ := w.dispatch_addNode seq hmalformed
    rw [hw]
    have haction := Action.add (w := w) nodeType nodeName
    rw [hadd] at haction
    exact ⟨w₁, haction, w₁.eventPushResult_onlyPushes _⟩
  | removeNode nodeId =>
    obtain ⟨removed, w₁, hremove, hw⟩ := w.dispatch_removeNode seq hmalformed
    rw [hw]
    have haction := Action.remove (w := w) nodeId
    rw [hremove] at haction
    exact ⟨w₁, haction, w₁.eventPushResult_onlyPushes _⟩
  | requestRuntimeNodes =>
    rw [w.eventRequestRuntimeNodes_eq rfl]
    exact ⟨w, .nothing hanswered, w.pushResults_onlyPushes _⟩
  | _ => cases hanswered

/-- A command that is answered writes no part of the engine but the registry. -/
theorem Action.engine {w w₁ : World D} {data : CommandData D.limits} (h : w.Action data w₁)
    (hanswered : data.answered = true) : ∃ es, w₁.engine = { w.engine with loadedNodes := es } := by
  cases h with
  | quiet hdata hquiet =>
    rw [hanswered] at hdata
    cases hdata
  | nothing hdata => exact ⟨_, rfl⟩
  | load nodeType modulePath =>
    have houtcome := w.loadNodeDescriptorAs_outcome (CString.ofField modulePath) nodeType
    generalize w.loadNodeDescriptorAs (CString.ofField modulePath) nodeType = r at houtcome
    cases houtcome <;> exact ⟨_, rfl⟩
  | add nodeType nodeName =>
    have houtcome := (w.addNodeAs_outcome (CString.ofField nodeName) nodeType).1
    generalize w.addNodeAs (CString.ofField nodeName) nodeType = r at houtcome
    cases houtcome <;> exact ⟨_, rfl⟩
  | remove nodeId => cases D.removeNodeById w.runtime nodeId <;> exact ⟨_, rfl⟩

theorem dispatch_engine (w : World D) {m : CommandMessage D.limits}
    (hanswered : m.data.answered = true) :
    ∃ es, (w.dispatchCommand m).2.engine = { w.engine with loadedNodes := es } := by
  obtain ⟨w₁, haction, hpushes⟩ := w.dispatch_action m
  rw [hpushes.engine]
  exact haction.engine hanswered

theorem dispatch_flags (w : World D) (m : CommandMessage D.limits) :
    (w.dispatchCommand m).2.engine.flags = m.data.flags w.engine.flags := by
  cases hanswered : m.data.answered with
  | false => exact (w.dispatch_quiet hanswered).flags
  | true =>
    obtain ⟨es, hengine⟩ := w.dispatch_engine hanswered
    rw [hengine]
    obtain ⟨seq, data⟩ := m
    cases data <;> first | rfl | cases hanswered

/-- Only mask requests touch the subscription table. -/
theorem dispatch_subscriptions (w : World D) {m : CommandMessage D.limits}
    (hm : m.data.subscribes = false) :
    (w.dispatchCommand m).2.engine.telemetrySubscriptions = w.engine.telemetrySubscriptions := by
  cases hanswered : m.data.answered with
  | false => exact (w.dispatch_quiet hanswered).subscriptions hm
  | true =>
    obtain ⟨es, hengine⟩ := w.dispatch_engine hanswered
    rw [hengine]

theorem dispatch_commands (w : World D) (m : CommandMessage D.limits) :
    (w.dispatchCommand m).2.commands = w.commands := by
  obtain ⟨w₁, haction, hpushes⟩ := w.dispatch_action m
  rw [hpushes.commands]
  generalize m.data = data at haction
  cases haction with
  | quiet hdata hquiet => exact hquiet.commands
  | nothing hdata => rfl
  | load nodeType modulePath =>
    have houtcome := w.loadNodeDescriptorAs_outcome (CString.ofField modulePath) nodeType
    generalize w.loadNodeDescriptorAs (CString.ofField modulePath) nodeType = r at houtcome
    cases houtcome <;> rfl
  | add nodeType nodeName =>
    have houtcome := (w.addNodeAs_outcome (CString.ofField nodeName) nodeType).1
    generalize w.addNodeAs (CString.ofField nodeName) nodeType = r at houtcome
    cases houtcome <;> rfl
  | remove nodeId => cases D.removeNodeById w.runtime nodeId <;> rfl

end World

/-- An event of a command's handler: a pushed result or an unloaded module. -/
def Event.ofHandler {L : Limits} : Event L → Prop
  | .resultPush _ _ | .loaderDestroy _ _ _ => True
  | _ => False

/-- What no command changes of an engine: its budget, its queues, its cycle and its telemetry
counters. -/
structure EngineKept {L : Limits} (e e' : Engine L) : Prop where
  config : ∃ rtThread deadlineToleranceNs,
    e'.config = { e.config with rtThread, deadlineToleranceNs }
  cycleId : e'.cycleId = e.cycleId
  telemetrySeq : e'.telemetrySeq = e.telemetrySeq
  droppedTelemetryEvents : e'.droppedTelemetryEvents = e.droppedTelemetryEvents
  droppedTelemetryValues : e'.droppedTelemetryValues = e.droppedTelemetryValues

theorem EngineKept.refl {L : Limits} (e : Engine L) : EngineKept e e :=
  ⟨⟨_, _, rfl⟩, rfl, rfl, rfl, rfl⟩

namespace World

theorem dispatch_kept (w : World D) (m : CommandMessage D.limits) :
    EngineKept w.engine (w.dispatchCommand m).2.engine := by
  cases hanswered : m.data.answered with
  | true =>
    obtain ⟨es, hengine⟩ := w.dispatch_engine hanswered
    rw [hengine]
    exact ⟨⟨_, _, rfl⟩, rfl, rfl, rfl, rfl⟩
  | false =>
    have hmove := w.dispatch_move hanswered
    generalize m.data = data, (w.dispatchCommand m).2 = w' at hmove
    cases hmove <;> exact ⟨⟨_, _, rfl⟩, rfl, rfl, rfl, rfl⟩

theorem unloadEvents_ofHandler (es : List LoadedNode) (nodes : List (Node D.limits)) :
    ∀ e ∈ unloadEvents es nodes, e.ofHandler := by
  intro event hevent
  obtain ⟨entry, -, rfl⟩ := List.mem_map.mp hevent
  trivial

theorem LoadOutcome.trace {w : World D} {nodeType : NodeType}
    {r : Option (Pointer NodeDescriptor) × World D} (h : w.LoadOutcome nodeType r) :
    ∃ events, r.2.trace = w.trace ++ events ∧ ∀ e ∈ events, e.ofHandler := by
  cases h with
  | rejected env => exact ⟨[], (List.append_nil _).symm, List.forall_mem_nil _⟩
  | unloaded env loader =>
    refine ⟨[.loaderDestroy loader false (D.nodes w.runtime)], rfl, fun event hevent => ?_⟩
    rw [List.mem_singleton.mp hevent]
    trivial
  | lost env e name hname =>
    let runtime := D.removeNodesByName w.runtime name
    refine ⟨unloadEvents (w.engine.loadedNodes.filter (cmpByName · (some name)))
      (D.nodes runtime) ++ [.loaderDestroy e.loader false (D.nodes runtime)],
      ?_, fun event hevent => ?_⟩
    · rw [← List.append_assoc]
      rfl
    rcases List.mem_append.mp hevent with hmem | hmem
    · exact unloadEvents_ofHandler _ _ event hmem
    · rw [List.mem_singleton.mp hmem]
      trivial
  | registered env e name hname htype =>
    let runtime := D.removeNodesByName w.runtime name
    exact ⟨unloadEvents (w.engine.loadedNodes.filter (cmpByName · (some name)))
      (D.nodes runtime), rfl, unloadEvents_ofHandler _ _⟩

theorem Action.trace {w w₁ : World D} {data : CommandData D.limits} (h : w.Action data w₁) :
    ∃ events, w₁.trace = w.trace ++ events ∧ ∀ e ∈ events, e.ofHandler := by
  have hsame : ∃ events, w.trace = w.trace ++ events ∧ ∀ e ∈ events, e.ofHandler :=
    ⟨[], (List.append_nil _).symm, List.forall_mem_nil _⟩
  cases h with
  | quiet hdata hquiet =>
    rw [hquiet.trace]
    exact hsame
  | nothing hdata => exact hsame
  | load nodeType modulePath => exact (w.loadNodeDescriptorAs_outcome _ nodeType).trace
  | add nodeType nodeName =>
    have houtcome := (w.addNodeAs_outcome (CString.ofField nodeName) nodeType).1
    generalize w.addNodeAs (CString.ofField nodeName) nodeType = r at houtcome
    cases houtcome <;> exact hsame
  | remove nodeId => cases D.removeNodeById w.runtime nodeId <;> exact hsame

theorem dispatch_trace (w : World D) (m : CommandMessage D.limits) :
    ∃ events, (w.dispatchCommand m).2.trace = w.trace ++ events ∧ ∀ e ∈ events, e.ofHandler := by
  obtain ⟨w₁, haction, hpushes⟩ := w.dispatch_action m
  obtain ⟨events, htrace, hevents⟩ := haction.trace
  obtain ⟨pushes, hpushed⟩ := hpushes.trace
  refine ⟨events ++ pushes.map fun p => .resultPush p.1 p.2, ?_, fun e he => ?_⟩
  · rw [hpushed, htrace, List.append_assoc]
  · rcases List.mem_append.mp he with hmem | hmem
    · exact hevents e hmem
    · obtain ⟨p, -, rfl⟩ := List.mem_map.mp hmem
      trivial

end World

end RtsynEngine
