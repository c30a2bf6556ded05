import RtsynEngine.Lib.Simulation
import RtsynEngine.Proof.Clock
import RtsynEngine.Proof.Effects
import RtsynEngine.Proof.Sampling

/-! Observation is passive: whatever is subscribed to, whichever of the optional queues there are
and whatever their consumers take or refuse, the engine's threads take the same steps and do the
same to the runtime, the modules and the clock. -/

namespace RtsynEngine

open Transition

variable {D : Deps} {L : Limits}

/-- An event that is more than a push to a queue. -/
def Event.isControl : Event L → Bool
  | .resultPush _ _ | .telemetryPush _ _ | .valuesPublish _ _ _ => false
  | _ => true

/-- What the engine has done but for its pushes. -/
def controls (trace : List (Event L)) : List (Event L) := trace.filter Event.isControl

theorem controls_append (trace trace' : List (Event L)) :
    controls (trace ++ trace') = controls trace ++ controls trace' :=
  List.filter_append ..

theorem controls_of_telemetry {events : List (Event L)}
    (h : ∀ e ∈ events, ∃ m, e.telemetry = some m) : controls events = [] := by
  apply List.filter_eq_nil_iff.mpr
  intro e he
  obtain ⟨m, hm⟩ := h e he
  cases e with
  | telemetryPush | valuesPublish => simp [Event.isControl]
  | _ => cases hm

/-- What the consumers of the results and of the telemetry see and change: whether there are queues,
the queues, the subscriptions, the telemetry counters and the trace. -/
structure Observation (D : Deps) where
  resultQueue : Bool
  telemetryQueue : Bool
  telemetryValues : Bool
  telemetrySeq : UInt64
  droppedTelemetryEvents : UInt64
  droppedTelemetryValues : UInt64
  telemetrySubscriptions : Vector Subscription D.limits.subscriptionCapacity
  results : D.ResultQueue
  telemetry : D.TelemetryQueue
  trace : List (Event D.limits)

namespace World

variable {w v u : World D}

/-- The same engine under another observation. -/
def observedBy (w : World D) (o : Observation D) : World D :=
  { w with
    engine := { w.engine with
      config := { w.engine.config with
        resultQueue := o.resultQueue
        telemetryQueue := o.telemetryQueue
        telemetryValues := o.telemetryValues }
      telemetrySeq := o.telemetrySeq
      droppedTelemetryEvents := o.droppedTelemetryEvents
      droppedTelemetryValues := o.droppedTelemetryValues
      telemetrySubscriptions := o.telemetrySubscriptions }
    results := o.results
    telemetry := o.telemetry
    trace := o.trace }

/-- The worlds differ only in their observation. -/
structure Alike (w v : World D) : Prop where
  rtThread : v.engine.config.rtThread = w.engine.config.rtThread
  waitThread : v.engine.config.waitThread = w.engine.config.waitThread
  deadlineToleranceNs : v.engine.config.deadlineToleranceNs = w.engine.config.deadlineToleranceNs
  maxCommandsPerCycle : v.engine.config.maxCommandsPerCycle = w.engine.config.maxCommandsPerCycle
  loadedNodes : v.engine.loadedNodes = w.engine.loadedNodes
  flags : v.engine.flags = w.engine.flags
  cycleId : v.engine.cycleId = w.engine.cycleId
  runtime : v.runtime = w.runtime
  env : v.env = w.env
  commands : v.commands = w.commands
  trace : controls v.trace = controls w.trace

theorem Alike.refl (w : World D) : w.Alike w :=
  ⟨rfl, rfl, rfl, rfl, rfl, rfl, rfl, rfl, rfl, rfl, rfl⟩

theorem Alike.symm (h : w.Alike v) : v.Alike w :=
  ⟨h.rtThread.symm, h.waitThread.symm, h.deadlineToleranceNs.symm, h.maxCommandsPerCycle.symm,
    h.loadedNodes.symm, h.flags.symm, h.cycleId.symm, h.runtime.symm, h.env.symm, h.commands.symm,
    h.trace.symm⟩

theorem Alike.trans (h : w.Alike v) (h' : v.Alike u) : w.Alike u :=
  ⟨h'.rtThread.trans h.rtThread, h'.waitThread.trans h.waitThread,
    h'.deadlineToleranceNs.trans h.deadlineToleranceNs,
    h'.maxCommandsPerCycle.trans h.maxCommandsPerCycle, h'.loadedNodes.trans h.loadedNodes,
    h'.flags.trans h.flags, h'.cycleId.trans h.cycleId, h'.runtime.trans h.runtime,
    h'.env.trans h.env, h'.commands.trans h.commands, h'.trace.trans h.trace⟩

theorem alike_observedBy (w : World D) {o : Observation D}
    (htrace : controls o.trace = controls w.trace) : w.Alike (w.observedBy o) :=
  ⟨rfl, rfl, rfl, rfl, rfl, rfl, rfl, rfl, rfl, rfl, htrace⟩

theorem Alike.exists_observation (h : w.Alike v) :
    ∃ o : Observation D, v = w.observedBy o ∧ controls o.trace = controls w.trace := by
  refine ⟨⟨v.engine.config.resultQueue, v.engine.config.telemetryQueue,
    v.engine.config.telemetryValues, v.engine.telemetrySeq, v.engine.droppedTelemetryEvents,
    v.engine.droppedTelemetryValues, v.engine.telemetrySubscriptions, v.results, v.telemetry,
    v.trace⟩, ?_, h.trace⟩
  obtain ⟨⟨⟨resultQueue, telemetryQueue, telemetryValues, rtThread, waitThread, tolerance, budget⟩,
    loadedNodes, flags, cycleId, seq, events, values, table⟩, runtime, env, results, telemetry,
    commands, trace⟩ := v
  obtain ⟨rfl, rfl, rfl, rfl, rfl, rfl, rfl, rfl, rfl, rfl, -⟩ := h
  rfl

/-! ### What the observation does not reach -/

theorem publish_alike (w : World D) (call : PublisherCall D.limits) : w.Alike (w.publish call) := by
  have hpublishes : Publishes (fun _ => True) w (w.publish call) :=
    w.publish_publishes call fun _ _ => trivial
  obtain ⟨events, htrace, -, hevents⟩ := w.publish_trace call
  have hcontrols : controls events = [] := by
    apply controls_of_telemetry
    intro e he
    obtain ⟨m, hm, -⟩ := hevents e he
    exact ⟨m, hm⟩
  constructor
  case runtime => exact hpublishes.runtime
  case env => exact hpublishes.env
  case commands => exact hpublishes.commands
  case trace => rw [htrace, controls_append, hcontrols, List.append_nil]
  all_goals rw [hpublishes.engine]

theorem publishCycle_alike (w : World D) (startedAtNs finishedAtNs : UInt64) :
    w.Alike (w.publishCycle startedAtNs finishedAtNs) :=
  ((w.publish_alike (.requestedValues finishedAtNs)).trans
    (publish_alike _ (.cycleEnd startedAtNs finishedAtNs))).trans
      (publish_alike _ (.dropped finishedAtNs))

theorem alike_of_pushes (h : OnlyPushes w v) (henv : v.env = w.env) : w.Alike v := by
  obtain ⟨pushes, htrace⟩ := h.trace
  have hcontrols : controls (pushes.map fun p => (.resultPush p.1 p.2 : Event D.limits)) = [] := by
    apply List.filter_eq_nil_iff.mpr
    intro e he
    obtain ⟨p, -, rfl⟩ := List.mem_map.mp he
    simp [Event.isControl]
  constructor
  case runtime => exact h.runtime
  case env => exact henv
  case commands => exact h.commands
  case trace => rw [htrace, controls_append, hcontrols, List.append_nil]
  all_goals rw [h.engine]

/-- The replacement of a loaded node reads nothing of the observation; it adds to the trace. -/
theorem replaceLoadedNode_observedBy (w : World D) (o : Observation D) (e : LoadedNode)
    (name : CString) : ∃ events,
      (w.replaceLoadedNode e name).2.trace = w.trace ++ events ∧
      (w.observedBy o).replaceLoadedNode e name = ((w.replaceLoadedNode e name).1,
        (w.replaceLoadedNode e name).2.observedBy { o with trace := o.trace ++ events }) := by
  have hremoved :
      let unloads := unloadEvents (w.engine.loadedNodes.filter (cmpByName · (some name)))
        (D.nodes (D.removeNodesByName w.runtime name))
      (w.observedBy o).removedByName name =
        (w.removedByName name).observedBy { o with trace := o.trace ++ unloads } := rfl
  have hsame : (w.observedBy o).env = w.env := rfl
  rw [replaceLoadedNode_eq, replaceLoadedNode_eq, hremoved, hsame]
  rcases D.collectionAdd w.env with ⟨added, env⟩
  cases added with
  | true => exact ⟨_, rfl, rfl⟩
  | false =>
    refine ⟨unloadEvents (w.engine.loadedNodes.filter (cmpByName · (some name)))
      (D.nodes (D.removeNodesByName w.runtime name)) ++
      [.loaderDestroy e.loader false (D.nodes (D.removeNodesByName w.runtime name))], ?_, ?_⟩
    · rw [← List.append_assoc]
      rfl
    · rw [← List.append_assoc]
      rfl

/-- A load reads nothing of the observation; it adds to the trace. -/
theorem load_observedBy (w : World D) (o : Observation D) (modulePath : CString)
    (nodeType : NodeType) : ∃ events,
      (w.loadNodeDescriptorAs modulePath nodeType).2.trace = w.trace ++ events ∧
      (w.observedBy o).loadNodeDescriptorAs modulePath nodeType =
        ((w.loadNodeDescriptorAs modulePath nodeType).1,
          (w.loadNodeDescriptorAs modulePath nodeType).2.observedBy
            { o with trace := o.trace ++ events }) := by
  have hsame : (w.observedBy o).env = w.env := rfl
  unfold loadNodeDescriptorAs
  rw [hsame]
  split
  · exact ⟨[], (List.append_nil _).symm, by rw [List.append_nil]; rfl⟩
  · next loader env hcreate =>
    dsimp only
    split
    · exact ⟨[.loaderDestroy loader false (D.nodes w.runtime)], rfl, rfl⟩
    · next descriptor hexported =>
      split
      · exact ⟨[.loaderDestroy loader false (D.nodes w.runtime)], rfl, rfl⟩
      · next name hname =>
        split
        · exact ⟨[.loaderDestroy loader false (D.nodes w.runtime)], rfl, rfl⟩
        · split
          · exact ⟨[.loaderDestroy loader false (D.nodes w.runtime)], rfl, rfl⟩
          · next env' hmalloc =>
            exact replaceLoadedNode_observedBy { w with env := env' } o
              ⟨loader, descriptor, hexported⟩ name

/-- A command that is not answered and not about subscriptions reads and writes nothing of the
observation. -/
theorem quiet_observedBy (w : World D) (o : Observation D) {m : CommandMessage D.limits}
    (hanswered : m.data.answered = false) (hsubscribes : m.data.subscribes = false) :
    (w.observedBy o).dispatchCommand m =
      ((w.dispatchCommand m).1, (w.dispatchCommand m).2.observedBy o) := by
  have hruntime : ∀ runtime : Option D.Runtime, (w.observedBy o).ofRuntime runtime =
      ((w.ofRuntime runtime).1, (w.ofRuntime runtime).2.observedBy o) := by
    intro runtime
    cases runtime <;> rfl
  obtain ⟨seq, data⟩ := m
  cases data with
  | loadNode | addNode | removeNode | requestRuntimeNodes => cases hanswered
  | requestPortValues | requestPortVariables => cases hsubscribes
  | none | setRuntimeDeadlineTolerance | unknown => rfl
  | globalCommand command =>
    dsimp only [dispatchCommand, eventGlobalCommand]
    split <;> rfl
  | pluginUpdate | setRuntimePeriod => exact hruntime _
  | addConnection | removeConnection =>
    dsimp only [dispatchCommand, eventAddConnection, eventRemoveConnection]
    split
    · rfl
    · exact hruntime _
  | setParam nodeId paramId valueType value =>
    dsimp only [dispatchCommand, eventSetParam]
    split
    · rfl
    · split
      · exact hruntime _
      · rfl
  | setRuntimePriority priority =>
    dsimp only [dispatchCommand, setRtThreadPriority]
    split <;> rfl

/-- A request for values changes at most the subscription table. -/
theorem subscribes_alike (w : World D) {m : CommandMessage D.limits}
    (hsubscribes : m.data.subscribes = true) : w.Alike (w.dispatchCommand m).2 := by
  have hanswered : m.data.answered = false := by
    obtain ⟨seq, data⟩ := m
    cases data <;> first | rfl | cases hsubscribes
  have hmove := w.dispatch_move hanswered
  obtain ⟨seq, data⟩ := m
  generalize (w.dispatchCommand ⟨seq, data⟩).2 = w' at hmove
  cases hmove with
  | nothing hflags => exact .refl w
  | subscribe hsubscribes hflags table =>
    exact ⟨rfl, rfl, rfl, rfl, rfl, rfl, rfl, rfl, rfl, rfl, rfl⟩
  | _ => cases hsubscribes

theorem addNode_observedBy (w : World D) (o : Observation D) (name : CString) :
    (w.observedBy o).addNode name = ((w.addNode name).1, (w.addNode name).2.observedBy o) := by
  cases hfound : collectionGet w.engine.loadedNodes (some name) with
  | none =>
    have hfound' : collectionGet (w.observedBy o).engine.loadedNodes (some name) = none := hfound
    simp only [addNode, hfound, hfound']
  | some e =>
    have hfound' : collectionGet (w.observedBy o).engine.loadedNodes (some name) = some e := hfound
    have hcreates : (w.observedBy o).createNodeFromDescriptor e.descriptor =
        ((w.createNodeFromDescriptor e.descriptor).1,
          (w.createNodeFromDescriptor e.descriptor).2.observedBy o) := by
      unfold createNodeFromDescriptor
      split <;> rfl
    simp only [addNode, hfound, hfound', hcreates]
    rcases w.createNodeFromDescriptor e.descriptor with ⟨_ | node, w₁⟩
    · rfl
    · have hruntime : (w₁.observedBy o).runtime = w₁.runtime := rfl
      dsimp only
      rw [hruntime]
      cases D.addNode w₁.runtime node <;> rfl

theorem addNodeAs_observedBy (w : World D) (o : Observation D) (name : CString)
    (nodeType : NodeType) : (w.observedBy o).addNodeAs name nodeType =
      ((w.addNodeAs name nodeType).1, (w.addNodeAs name nodeType).2.observedBy o) := by
  have hnodes : (w.observedBy o).engine.loadedNodes = w.engine.loadedNodes := rfl
  unfold addNodeAs
  rw [hnodes, addNode_observedBy]
  split
  · rfl
  · split
    · rfl
    · split <;> rfl

/-- Each command does the same to worlds that are alike. -/
theorem Alike.dispatch (h : w.Alike v) (m : CommandMessage D.limits) :
    (w.dispatchCommand m).2.Alike (v.dispatchCommand m).2 := by
  cases hsubscribes : m.data.subscribes with
  | true =>
    exact (w.subscribes_alike hsubscribes).symm.trans (h.trans (v.subscribes_alike hsubscribes))
  | false =>
    obtain ⟨o, rfl, htrace⟩ := h.exists_observation
    cases hanswered : m.data.answered with
    | false =>
      rw [w.quiet_observedBy o hanswered hsubscribes]
      apply alike_observedBy
      rw [(w.dispatch_quiet hanswered).trace]
      exact htrace
    | true =>
      by_cases hmalformed : m.data.malformed D = true
      · rw [w.dispatch_malformed hmalformed, dispatch_malformed _ hmalformed]
        exact alike_observedBy w htrace
      rw [Bool.not_eq_true] at hmalformed
      have hpushed : ∀ {w₁ v₁ : World D} (r r' : ResultMessage D.limits), w₁.Alike v₁ →
          (w₁.eventPushResult r).2.Alike (v₁.eventPushResult r').2 := fun {w₁ v₁} r r' h₁ =>
        (alike_of_pushes (w₁.eventPushResult_onlyPushes r) (w₁.eventPushResult_env r)).symm.trans
          (h₁.trans
            (alike_of_pushes (v₁.eventPushResult_onlyPushes r') (v₁.eventPushResult_env r')))
      obtain ⟨seq, data⟩ := m
      cases data with
      | loadNode nodeType modulePath =>
        obtain ⟨descriptor, w₁, hload, hw⟩ := w.dispatch_loadNode seq hmalformed
        obtain ⟨descriptor', v₁, hload', hv⟩ := (w.observedBy o).dispatch_loadNode seq hmalformed
        obtain ⟨events, hevents, hsame⟩ := w.load_observedBy o (CString.ofField modulePath) nodeType
        rw [hload] at hevents hsame
        rw [hload'] at hsame
        cases hsame
        rw [hw, hv]
        apply hpushed
        apply alike_observedBy
        rw [controls_append, htrace, hevents, controls_append]
      | addNode nodeType nodeName =>
        obtain ⟨node, w₁, hadd, hw⟩ := w.dispatch_addNode seq hmalformed
        obtain ⟨node', v₁, hadd', hv⟩ := (w.observedBy o).dispatch_addNode seq hmalformed
        have hsame := w.addNodeAs_observedBy o (CString.ofField nodeName) nodeType
        rw [hadd, hadd'] at hsame
        cases hsame
        rw [hw, hv]
        apply hpushed
        apply alike_observedBy
        have houtcome := (w.addNodeAs_outcome (CString.ofField nodeName) nodeType).1
        rw [hadd] at houtcome
        cases houtcome <;> exact htrace
      | removeNode nodeId =>
        obtain ⟨removed, w₁, hremove, hw⟩ := w.dispatch_removeNode seq hmalformed
        obtain ⟨removed', v₁, hremove', hv⟩ := (w.observedBy o).dispatch_removeNode seq hmalformed
        rw [hw, hv]
        apply hpushed
        have hruntime : (w.observedBy o).runtime = w.runtime := rfl
        rw [hruntime] at hremove'
        cases hremoved : D.removeNodeById w.runtime nodeId with
        | none =>
          rw [hremoved] at hremove hremove'
          cases hremove
          cases hremove'
          exact alike_observedBy w htrace
        | some runtime =>
          rw [hremoved] at hremove hremove'
          cases hremove
          cases hremove'
          exact alike_observedBy { w with runtime } htrace
      | requestRuntimeNodes =>
        rw [w.eventRequestRuntimeNodes_eq rfl, eventRequestRuntimeNodes_eq _ rfl]
        exact (alike_of_pushes (w.pushResults_onlyPushes _) (w.pushResults_env _)).symm.trans
          ((alike_observedBy w htrace).trans
            (alike_of_pushes (pushResults_onlyPushes _ _) (pushResults_env _ _)))
      | _ => cases hanswered

theorem Alike.env_eq (h : w.Alike v) (env : D.Env) :
    World.Alike { w with env } { v with env } := by
  obtain ⟨o, rfl, htrace⟩ := h.exists_observation
  exact alike_observedBy { w with env } htrace

theorem Alike.emit (h : w.Alike v) (e : Event D.limits) : (w.emit e).Alike (v.emit e) := by
  obtain ⟨o, rfl, htrace⟩ := h.exists_observation
  have hcontrols : controls (o.trace ++ [e]) = controls (w.trace ++ [e]) := by
    rw [controls_append, htrace, controls_append]
  exact ⟨rfl, rfl, rfl, rfl, rfl, rfl, rfl, rfl, rfl, rfl, hcontrols⟩

theorem Alike.getTime (h : w.Alike v) :
    v.getTime.1 = w.getTime.1 ∧ w.getTime.2.Alike v.getTime.2 := by
  obtain ⟨o, rfl, htrace⟩ := h.exists_observation
  exact ⟨rfl, alike_observedBy w.getTime.2 htrace⟩

theorem Alike.commandTryPop (h : w.Alike v) :
    v.commandTryPop.1 = w.commandTryPop.1 ∧ w.commandTryPop.2.Alike v.commandTryPop.2 := by
  obtain ⟨o, rfl, htrace⟩ := h.exists_observation
  have hcommands : (w.observedBy o).commands = w.commands := rfl
  unfold World.commandTryPop
  rw [hcommands]
  split
  · exact ⟨rfl, alike_observedBy w htrace⟩
  · next m commands hm => exact ⟨rfl, alike_observedBy { w with commands } htrace⟩

theorem Alike.runtimeStep (h : w.Alike v) : w.runtimeStep.Alike v.runtimeStep := by
  obtain ⟨o, rfl, htrace⟩ := h.exists_observation
  apply Alike.emit
  exact alike_observedBy
    { w with runtime := (D.step w.runtime w.env).1, env := (D.step w.runtime w.env).2 } htrace

theorem Alike.collectionDestroy (h : w.Alike v) :
    w.collectionDestroy.Alike v.collectionDestroy := by
  obtain ⟨o, rfl, htrace⟩ := h.exists_observation
  have hnodes : (w.observedBy o).engine.loadedNodes = w.engine.loadedNodes := rfl
  have hruntime : (w.observedBy o).runtime = w.runtime := rfl
  unfold World.collectionDestroy
  rw [destroyElements_eq, destroyElements_eq, hnodes, hruntime]
  have hcontrols : controls (o.trace ++ unloadEvents w.engine.loadedNodes (D.nodes w.runtime)) =
      controls (w.trace ++ unloadEvents w.engine.loadedNodes (D.nodes w.runtime)) := by
    rw [controls_append, htrace, controls_append]
  exact ⟨rfl, rfl, rfl, rfl, rfl, rfl, rfl, rfl, rfl, rfl, hcontrols⟩

theorem Alike.sleepUntil (h : w.Alike v) (deadlineNs : UInt64) :
    (w.sleepUntil deadlineNs).Alike (v.sleepUntil deadlineNs) := by
  have henv : D.threadSleepUntil v.env deadlineNs = D.threadSleepUntil w.env deadlineNs := by
    rw [h.env]
  unfold World.sleepUntil
  rw [henv]
  exact (h.env_eq _).emit _

theorem Alike.publishCycle (h : w.Alike v) (startedAtNs finishedAtNs : UInt64) :
    (w.publishCycle startedAtNs finishedAtNs).Alike (v.publishCycle startedAtNs finishedAtNs) :=
  (w.publishCycle_alike startedAtNs finishedAtNs).symm.trans
    (h.trans (v.publishCycle_alike startedAtNs finishedAtNs))

theorem measureCycle_alike (w : World D) (deadline started completed period : UInt64) :
    World.Alike { w with env := (D.calculateCycle w.env period started completed).2 }
      (w.measureCycle deadline started completed period) := by
  unfold measureCycle
  split
  · next env hcycle =>
    rw [hcycle]
    exact .refl _
  · next metrics env hcycle =>
    rw [hcycle]
    exact publish_alike _ (.measurement completed _)

theorem Alike.measureCycle (h : w.Alike v) (deadline started completed period : UInt64) :
    (w.measureCycle deadline started completed period).Alike
      (v.measureCycle deadline started completed period) := by
  have hmeasured := v.measureCycle_alike deadline started completed period
  rw [h.env] at hmeasured
  exact (w.measureCycle_alike deadline started completed period).symm.trans
    ((h.env_eq _).trans hmeasured)

theorem Alike.nextCycle (h : w.Alike v) : w.nextCycle.Alike v.nextCycle := by
  obtain ⟨o, rfl, htrace⟩ := h.exists_observation
  exact alike_observedBy w.nextCycle htrace

/-- An RT thread takes the same step in worlds that are alike. -/
theorem Alike.rtThreadStep (h : w.Alike v) {state state' : RtState D.limits} {w' : World D}
    (hstep : w.rtThreadStep state = some (state', w')) :
    ∃ v', v.rtThreadStep state = some (state', v') ∧ w'.Alike v' := by
  have hflags : v.engine.flags = w.engine.flags := h.flags
  cases state with
  | enter =>
    obtain ⟨htime, halike⟩ := h.getTime
    dsimp only [World.rtThreadStep] at hstep ⊢
    cases hstep
    exact ⟨_, by rw [htime], halike⟩
  | test deadline =>
    dsimp only [World.rtThreadStep] at hstep ⊢
    rw [hflags]
    split at hstep
    · next hstop =>
      rw [if_pos hstop]
      cases hstep
      exact ⟨v, rfl, h⟩
    · next hgo =>
      rw [if_neg hgo]
      cases hstep
      exact ⟨v, rfl, h⟩
  | cycleBegin deadline =>
    obtain ⟨htime, halike⟩ := h.getTime
    dsimp only [World.rtThreadStep] at hstep ⊢
    cases hstep
    refine ⟨_, by rw [htime], ?_⟩
    exact (publish_alike _ (.cycleBegin _)).symm.trans
      (halike.trans (publish_alike _ (.cycleBegin _)))
  | drain deadline started i =>
    have hpop := h.commandTryPop
    dsimp only [World.rtThreadStep] at hstep ⊢
    rw [h.maxCommandsPerCycle]
    split at hstep
    · next hbudget =>
      rw [if_pos hbudget]
      rcases hw : w.commandTryPop with ⟨popped, w₁⟩
      rcases hv : v.commandTryPop with ⟨popped', v₁⟩
      rw [hw, hv] at hpop
      rw [hw] at hstep
      obtain ⟨hpopped, halike⟩ := hpop
      cases hpopped
      cases popped with
      | none =>
        cases hstep
        exact ⟨v₁, rfl, halike⟩
      | some m =>
        cases hstep
        exact ⟨v₁, rfl, halike⟩
    · next hspent =>
      rw [if_neg hspent]
      cases hstep
      exact ⟨v, rfl, h⟩
  | dispatch deadline started i m =>
    cases hstep
    exact ⟨_, rfl, (h.emit (.dispatched m)).dispatch m⟩
  | pauseTest deadline started =>
    dsimp only [World.rtThreadStep] at hstep ⊢
    rw [hflags]
    split at hstep
    · next hpaused =>
      rw [if_pos hpaused]
      cases hstep
      exact ⟨v, rfl, h⟩
    · next hactive =>
      rw [if_neg hactive]
      cases hstep
      exact ⟨v, rfl, h⟩
  | step deadline started =>
    cases hstep
    exact ⟨_, rfl, h.runtimeStep⟩
  | finish deadline started =>
    obtain ⟨htime, halike⟩ := h.getTime
    dsimp only [World.rtThreadStep] at hstep ⊢
    cases hstep
    exact ⟨_, by rw [htime, halike.runtime], halike.publishCycle started _⟩
  | sleep deadline started finished period =>
    obtain ⟨htime, halike⟩ := (h.sleepUntil (deadline + period)).getTime
    dsimp only [World.rtThreadStep] at hstep ⊢
    split at hstep
    · next hpositive =>
      rw [if_pos hpositive]
      cases hstep
      exact ⟨_, by rw [htime], halike⟩
    · next hzero =>
      rw [if_neg hzero]
      cases hstep
      exact ⟨v, rfl, h⟩
  | measure deadline started completed period =>
    cases hstep
    exact ⟨_, rfl, (h.measureCycle deadline started completed period).nextCycle⟩
  | returned => cases hstep

end World

namespace System

variable {s s' t : System D}

/-- The same engine and the same threads under another observation. -/
def observedBy (s : System D) (o : Observation D) : System D :=
  { s with world := s.world.observedBy o }

/-- The systems differ only in their observation. -/
structure Alike (s t : System D) : Prop where
  world : s.world.Alike t.world
  controller : t.controller = s.controller
  rtThreads : t.rtThreads = s.rtThreads
  waitThreads : t.waitThreads = s.waitThreads
  log : t.log = s.log

theorem alike_observedBy (s : System D) {o : Observation D}
    (htrace : controls o.trace = controls s.world.trace) : s.Alike (s.observedBy o) :=
  ⟨s.world.alike_observedBy htrace, rfl, rfl, rfl, rfl⟩

theorem Alike.exists_observation (h : s.Alike t) :
    ∃ o : Observation D, t = s.observedBy o ∧ controls o.trace = controls s.world.trace := by
  obtain ⟨o, hworld, htrace⟩ := h.world.exists_observation
  refine ⟨o, ?_, htrace⟩
  obtain ⟨world, controller, rtThreads, waitThreads, log⟩ := t
  obtain ⟨-, rfl, rfl, rfl, rfl⟩ := h
  cases hworld
  rfl

theorem keepsFlags_observedBy (o : Observation D) :
    KeepsFlags (fun w : World D => w.observedBy o) :=
  ⟨fun _ => rfl, fun _ _ => rfl⟩

theorem ControllerMove.trace {outcome : Bool} (h : ControllerMove s outcome s')
    (hfree : s.controller ≠ .destroyFree) : s'.world.trace = s.world.trace := by
  cases h with
  | start pc hc hmove => cases hmove <;> rfl
  | join pc hc hmove => cases hmove <;> rfl
  | destroyJoin pc hc hmove => cases hmove <;> rfl
  | destroyFree hc => exact absurd hc hfree
  | _ => rfl

theorem Alike.controllerStep (h : s.Alike t) {outcome : Bool} {s' : System D}
    (hstep : s.controllerStep outcome = some s') :
    ∃ t', t.controllerStep outcome = some t' ∧ s'.Alike t' := by
  obtain ⟨o, rfl, htrace⟩ := h.exists_observation
  by_cases hfree : s.controller = .destroyFree
  · have hsame : (s.observedBy o).controller = s.controller := rfl
    unfold System.controllerStep at hstep ⊢
    rw [hsame, hfree]
    rw [hfree] at hstep
    cases hstep
    exact ⟨_, rfl, h.world.collectionDestroy, rfl, rfl, rfl, rfl⟩
  · refine ⟨(s'.observedBy o), ?_, ?_⟩
    · have hsame := (keepsFlags_observedBy o).controllerStep s outcome hfree
      rw [hstep] at hsame
      exact hsame
    · apply alike_observedBy
      rw [ControllerMove.trace (controllerStep_cases hstep) hfree]
      exact htrace

theorem Alike.waitStep (h : s.Alike t) {outcome : Bool} {state state' : WaitState}
    (hstep : s.waitStep outcome state = some (state', s')) :
    ∃ t', t.waitStep outcome state = some (state', t') ∧ s'.Alike t' := by
  obtain ⟨o, rfl, htrace⟩ := h.exists_observation
  refine ⟨s'.observedBy o, ?_, ?_⟩
  · have hsame := (keepsFlags_observedBy o).waitStep s outcome state
    rw [hstep] at hsame
    exact hsame
  · apply alike_observedBy
    cases waitStep_cases hstep <;> exact htrace

/-- Systems that are alike take the same acts, to systems that are alike. -/
theorem alike_lockStep : LockStep (act (D := D)) act Alike := by
  constructor
  intro s s' t a h hact
  cases a with
  | requestStop =>
    obtain ⟨o, rfl, htrace⟩ := h.exists_observation
    cases hact
    exact ⟨_, rfl, alike_observedBy (s.setFlags { s.flags with stopRequested := true }) htrace⟩
  | step a =>
    have hstep : s.step a = some s' := hact
    cases a with
    | call call =>
      obtain ⟨hidle, rfl⟩ := call_step hstep
      have hidle' : t.controller = .idle := h.controller.trans hidle
      exact ⟨t.goto (callState call), if_pos hidle', h.world, rfl, h.rtThreads, h.waitThreads,
        h.log⟩
    | controller outcome => exact h.controllerStep hstep
    | rt i =>
      obtain ⟨thread, state, world, hi, hthread, rfl⟩ := rt_step hstep
      obtain ⟨world', hthread', hworld⟩ := h.world.rtThreadStep hthread
      have hi' : t.rtThreads[i]? = some thread := by rw [h.rtThreads, hi]
      refine ⟨{ t with world := world', rtThreads := t.rtThreads.set i { thread with state } },
        ?_, hworld, h.controller, ?_, h.waitThreads, h.log⟩
      · dsimp only [act, step]
        rw [hi', Option.bind_some, hthread', Option.map_some]
      · dsimp only
        rw [h.rtThreads]
    | wait i outcome =>
      obtain ⟨thread, hi, hrest⟩ := Option.bind_eq_some_iff.mp hstep
      obtain ⟨⟨state, s₁⟩, hthread, rfl⟩ := Option.map_eq_some_iff.mp hrest
      obtain ⟨t₁, hthread', h₁⟩ := h.waitStep hthread
      have hi' : t.waitThreads[i]? = some thread := by rw [h.waitThreads, hi]
      refine ⟨{ t₁ with waitThreads := t₁.waitThreads.set i { thread with state } },
        ?_, h₁.world, h₁.controller, h₁.rtThreads, ?_, h₁.log⟩
      · dsimp only [act, step]
        rw [hi', Option.bind_some, hthread', Option.map_some]
      · dsimp only
        rw [h₁.waitThreads]
    | pushCommand m =>
      cases hstep
      obtain ⟨o, rfl, htrace⟩ := h.exists_observation
      exact ⟨_, rfl, alike_observedBy
        { s with world := { s.world with commands := s.world.commands ++ [m] } } htrace⟩

/-- Whichever of the optional queues an engine has, whatever their consumers take or refuse and
whatever is subscribed to, its threads take the same steps, and a run ends in the same state but for
what its consumers see. -/
theorem observation_passive (s : System D) (o : Observation D)
    (htrace : controls o.trace = controls s.world.trace) {acts : List (Act D.limits)}
    (hrun : run act s acts = some s') :
    ∃ o' : Observation D, run act (s.observedBy o) acts = some (s'.observedBy o') ∧
      controls o'.trace = controls s'.world.trace := by
  obtain ⟨t', hrun', halike⟩ := alike_lockStep.run (s.alike_observedBy htrace) hrun
  obtain ⟨o', rfl, htrace'⟩ := halike.exists_observation
  exact ⟨o', hrun', htrace'⟩

end System

namespace Reference

/-- No queues for the results and the telemetry. -/
def unobserved : Observation deps where
  resultQueue := false
  telemetryQueue := false
  telemetryValues := false
  telemetrySeq := 0
  droppedTelemetryEvents := 0
  droppedTelemetryValues := 0
  telemetrySubscriptions := created.world.engine.telemetrySubscriptions
  results := created.world.results
  telemetry := []
  trace := []

/-- Acts by which the engine is started, loads its module and completes a cycle. -/
def loadingActs : List (Act limits) :=
  .step (.pushCommand ⟨1, .loadNode .plugin (nameField 109)⟩) :: .step (.call .start) ::
    List.replicate 9 (.step (.controller true)) ++ List.replicate 10 (.step (.rt 0))

def loading : System deps := (Transition.run System.act created loadingActs).get (by decide)

end Reference

/-- The observed engine answers the load and publishes its cycle; the other loads all the same. -/
theorem observation_passive_reference :
    (∃ o, run System.act (Reference.created.observedBy Reference.unobserved)
        Reference.loadingActs = some (Reference.loading.observedBy o) ∧
      controls o.trace = controls Reference.loading.world.trace) ∧
    Reference.loading.world.engine.loadedNodes.length = 1 ∧
    Reference.loading.world.trace.length = 5 ∧
    (controls Reference.loading.world.trace).length = 2 :=
  ⟨System.observation_passive Reference.created Reference.unobserved rfl
    (Option.some_get _).symm, rfl, rfl, rfl⟩

end RtsynEngine
