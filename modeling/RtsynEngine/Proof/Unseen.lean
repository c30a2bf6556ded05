import RtsynEngine.Proof.Handlers

/-! Changes of the world that the handlers of modules, nodes and results do not notice: these do the
same to the world with the change as without it. -/

namespace RtsynEngine

variable {D : Deps}

/-- A command whose handler touches nothing of modules, nodes, results and the environment. -/
def CommandData.aside {L : Limits} : CommandData L → Bool
  | .globalCommand _ | .requestPortValues _ _ _ | .requestPortVariables _ _ _
  | .setRuntimeDeadlineTolerance _ => true
  | _ => false

/-- A change of the world that leaves the modules, the runtime, the environment, the results and the
RT thread's priority to those who read and write them. -/
structure KeepsGraph (f : World D → World D) : Prop where
  runtime (w : World D) : (f w).runtime = w.runtime
  env (w : World D) : (f w).env = w.env
  results (w : World D) : (f w).results = w.results
  loadedNodes (w : World D) : (f w).engine.loadedNodes = w.engine.loadedNodes
  resultQueue (w : World D) : (f w).engine.config.resultQueue = w.engine.config.resultQueue
  setRuntime (w : World D) (runtime : D.Runtime) : f { w with runtime } = { f w with runtime }
  setEnv (w : World D) (env : D.Env) : f { w with env } = { f w with env }
  setResults (w : World D) (results : D.ResultQueue) :
    f { w with results } = { f w with results }
  emit (w : World D) (e : Event D.limits) : f (w.emit e) = (f w).emit e
  setLoadedNodes (w : World D) (es : List LoadedNode) :
    f (w.setLoadedNodes es) = (f w).setLoadedNodes es
  setRtThreadPriority (w : World D) (priority : Int32) : (f w).setRtThreadPriority priority =
    ((w.setRtThreadPriority priority).1, f (w.setRtThreadPriority priority).2)

namespace KeepsGraph

variable {f : World D → World D} (hf : KeepsGraph f)
include hf

theorem ofRuntime (w : World D) (runtime : Option D.Runtime) :
    (f w).ofRuntime runtime = ((w.ofRuntime runtime).1, f (w.ofRuntime runtime).2) := by
  cases runtime with
  | none => rfl
  | some runtime => exact congrArg (Prod.mk true) (hf.setRuntime w runtime).symm

theorem eventPushResult (w : World D) (r : ResultMessage D.limits) :
    (f w).eventPushResult r = ((w.eventPushResult r).1, f (w.eventPushResult r).2) := by
  have hqueue := hf.resultQueue w
  cases h : w.engine.config.resultQueue with
  | true =>
    rw [World.eventPushResult_eq (hqueue.trans h), World.eventPushResult_eq h, hf.results,
      ← hf.setResults, ← hf.emit]
  | false =>
    unfold World.eventPushResult
    rw [hqueue, h]
    rfl

theorem pushResults (w : World D) (rs : List (ResultMessage D.limits)) :
    (f w).pushResults rs = ((w.pushResults rs).1, f (w.pushResults rs).2) := by
  induction rs generalizing w with
  | nil => rfl
  | cons r rs ih =>
    unfold World.pushResults
    rw [hf.eventPushResult]
    dsimp only
    rw [ih]

theorem moduleLoaderDestroy (w : World D) (loader : ModuleLoader) (registered : Bool) :
    (f w).moduleLoaderDestroy loader registered = f (w.moduleLoaderDestroy loader registered) := by
  unfold World.moduleLoaderDestroy
  rw [hf.emit, hf.runtime]

theorem destroyElements (w : World D) (es : List LoadedNode) :
    (f w).destroyElements es = f (w.destroyElements es) := by
  induction es generalizing w with
  | nil => rfl
  | cons e es ih =>
    show ((f w).moduleLoaderDestroy e.loader true).destroyElements es =
      f ((w.moduleLoaderDestroy e.loader true).destroyElements es)
    rw [hf.moduleLoaderDestroy, ih]

theorem removedByName (w : World D) (name : CString) :
    (f w).removedByName name = f (w.removedByName name) := by
  have hremoved : ∀ w₁ : World D, w₁.removedByName name =
      (({ w₁ with runtime := D.removeNodesByName w₁.runtime name } : World D).destroyElements
        (w₁.engine.loadedNodes.filter (cmpByName · (some name)))).setLoadedNodes
          (w₁.engine.loadedNodes.filter fun e => !cmpByName e (some name)) := by
    intro w₁
    rw [World.destroyElements_eq]
    rfl
  rw [hremoved, hremoved, hf.runtime, hf.loadedNodes, ← hf.setRuntime, hf.destroyElements,
    ← hf.setLoadedNodes]

theorem replaceLoadedNode (w : World D) (e : LoadedNode) (name : CString) :
    (f w).replaceLoadedNode e name =
      ((w.replaceLoadedNode e name).1, f (w.replaceLoadedNode e name).2) := by
  rw [World.replaceLoadedNode_eq, World.replaceLoadedNode_eq, hf.removedByName, hf.env]
  rcases D.collectionAdd w.env with ⟨added, env⟩
  cases added with
  | true =>
    dsimp only
    rw [← hf.setEnv, hf.loadedNodes, ← hf.setLoadedNodes]
  | false =>
    dsimp only
    rw [← hf.setEnv]
    exact congrArg (Prod.mk none) (hf.moduleLoaderDestroy _ e.loader false)

theorem load (w : World D) (modulePath : CString) (nodeType : NodeType) :
    (f w).loadNodeDescriptorAs modulePath nodeType =
      ((w.loadNodeDescriptorAs modulePath nodeType).1,
        f (w.loadNodeDescriptorAs modulePath nodeType).2) := by
  have hunload : ∀ env loader, { f w with env }.moduleLoaderDestroy loader false =
      f ({ w with env }.moduleLoaderDestroy loader false) := by
    intro env loader
    rw [← hf.setEnv, hf.moduleLoaderDestroy]
  unfold World.loadNodeDescriptorAs
  rw [hf.env]
  split
  · exact congrArg (Prod.mk none) (hf.setEnv w _).symm
  · next loader env hcreate =>
    dsimp only
    split
    · exact congrArg (Prod.mk none) (hunload env loader)
    · next descriptor hexported =>
      split
      · exact congrArg (Prod.mk none) (hunload env loader)
      · next name hname =>
        split
        · exact congrArg (Prod.mk none) (hunload env loader)
        · split
          · next env' hmalloc => exact congrArg (Prod.mk none) (hunload env' loader)
          · next env' hmalloc =>
            have hreplace := hf.replaceLoadedNode { w with env := env' }
              ⟨loader, descriptor, hexported⟩ name
            rw [hf.setEnv] at hreplace
            exact hreplace

theorem createNodeFromDescriptor (w : World D) (descriptor : Pointer NodeDescriptor) :
    (f w).createNodeFromDescriptor descriptor = ((w.createNodeFromDescriptor descriptor).1,
      f (w.createNodeFromDescriptor descriptor).2) := by
  unfold World.createNodeFromDescriptor
  rw [hf.env]
  split
  · exact congrArg (Prod.mk _) (hf.setEnv w _).symm
  · exact congrArg (Prod.mk _) (hf.setEnv w _).symm
  · rfl

theorem addNode (w : World D) (name : CString) :
    (f w).addNode name = ((w.addNode name).1, f (w.addNode name).2) := by
  unfold World.addNode
  rw [hf.loadedNodes]
  split
  · rfl
  · next e hfound =>
    rw [hf.createNodeFromDescriptor]
    rcases w.createNodeFromDescriptor e.descriptor with ⟨_ | node, w₁⟩
    · rfl
    · have hadd : D.addNode (f w₁).runtime node = D.addNode w₁.runtime node := by rw [hf.runtime]
      have hdestroy : D.nodeDestroy (f w₁).env node = D.nodeDestroy w₁.env node := by rw [hf.env]
      dsimp only
      rw [hadd, hdestroy]
      cases D.addNode w₁.runtime node with
      | none => exact congrArg (Prod.mk none) (hf.setEnv w₁ _).symm
      | some runtime => exact congrArg (Prod.mk (some node)) (hf.setRuntime w₁ runtime).symm

theorem addNodeAs (w : World D) (name : CString) (nodeType : NodeType) :
    (f w).addNodeAs name nodeType =
      ((w.addNodeAs name nodeType).1, f (w.addNodeAs name nodeType).2) := by
  unfold World.addNodeAs
  rw [hf.loadedNodes, hf.addNode]
  split
  · rfl
  · split
    · rfl
    · split <;> rfl

theorem snapshotRecords (w : World D) (seq : UInt64) :
    (f w).snapshotRecords seq = w.snapshotRecords seq := by
  unfold World.snapshotRecords World.nodeRecord
  rw [hf.runtime, hf.loadedNodes]

/-- The handlers of modules, nodes and results, and those that call the runtime. -/
theorem dispatchCommand (w : World D) (m : CommandMessage D.limits) (hm : m.data.aside = false) :
    (f w).dispatchCommand m = ((w.dispatchCommand m).1, f (w.dispatchCommand m).2) := by
  have hpushes : ∀ (w₁ : World D) (done : Bool) r, (done, ((f w₁).eventPushResult r).2) =
      (done, f (w₁.eventPushResult r).2) := by
    intro w₁ done r
    rw [hf.eventPushResult]
  have hruntime : ∀ call : D.Runtime → Option D.Runtime, (f w).ofRuntime (call (f w).runtime) =
      ((w.ofRuntime (call w.runtime)).1, f (w.ofRuntime (call w.runtime)).2) := by
    intro call
    rw [hf.runtime, hf.ofRuntime]
  obtain ⟨seq, data⟩ := m
  cases data with
  | globalCommand | requestPortValues | requestPortVariables | setRuntimeDeadlineTolerance =>
    cases hm
  | none | unknown => rfl
  | pluginUpdate pluginId pluginState => exact hruntime (D.transitionNode · pluginId pluginState)
  | setRuntimePeriod periodNs => exact hruntime (D.setPeriod · periodNs)
  | setRuntimePriority priority => exact hf.setRtThreadPriority w priority
  | loadNode nodeType modulePath =>
    dsimp only [World.dispatchCommand, World.eventLoadNode]
    split
    · rfl
    · rw [hf.load]
      rcases w.loadNodeDescriptorAs (CString.ofField modulePath) nodeType with ⟨_ | descriptor, w₁⟩
      · exact hpushes w₁ false _
      · exact hpushes w₁ true _
  | addNode nodeType nodeName =>
    dsimp only [World.dispatchCommand, World.eventAddNode]
    split
    · rfl
    · rw [hf.addNodeAs]
      rcases w.addNodeAs (CString.ofField nodeName) nodeType with ⟨node, w₁⟩
      have hadded : (f w₁).addedDescriptor = w₁.addedDescriptor := by
        unfold World.addedDescriptor
        rw [hf.loadedNodes]
      dsimp only
      rw [hadded]
      exact hpushes w₁ node.isSome _
  | removeNode nodeId =>
    dsimp only [World.dispatchCommand, World.eventRemoveNode]
    split
    · rfl
    · rw [hruntime (D.removeNodeById · nodeId)]
      exact hpushes _ _ _
  | addConnection connectionId sourceNodeId sourcePortId destinationNodeId destinationPortId =>
    dsimp only [World.dispatchCommand, World.eventAddConnection]
    split
    · rfl
    · exact hruntime (D.addConnectionBetween · connectionId sourceNodeId sourcePortId
        destinationNodeId destinationPortId)
  | removeConnection connectionId =>
    dsimp only [World.dispatchCommand, World.eventRemoveConnection]
    split
    · rfl
    · exact hruntime (D.removeConnection · connectionId)
  | setParam nodeId paramId valueType value =>
    dsimp only [World.dispatchCommand, World.eventSetParam]
    split
    · rfl
    · split
      · next pointer hpointer => exact hruntime (D.setNodeParam · nodeId paramId pointer)
      · rfl
  | requestRuntimeNodes =>
    rw [w.eventRequestRuntimeNodes_eq rfl, World.eventRequestRuntimeNodes_eq _ rfl]
    dsimp only
    rw [hf.snapshotRecords, hf.pushResults]

end KeepsGraph

end RtsynEngine
