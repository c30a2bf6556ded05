import RtsynEngine.Proof.Handlers

/-! The registry of loaded nodes and the nodes of the runtime, over runs of operations: they stay
coherent, and a module is unloaded in use only by the engine's end. -/

namespace RtsynEngine

variable {D : Deps}

/-- A registered module is unloaded while no node of the runtime is of its descriptor. -/
def Event.SafeUnload {L : Limits} : Event L → Prop
  | .loaderDestroy loader true nodes => ∀ n ∈ nodes, loader.descriptor ≠ some n.descriptor
  | _ => True

/-- What an operation can do to the registry and the runtime's nodes: take nodes away, replace
what has one name, or add a node of a registered descriptor. -/
inductive RegistryStep (w w' : World D) : Prop
  | shrink (hes : w'.engine.loadedNodes = w.engine.loadedNodes)
      (hnodes : D.nodes w'.runtime ⊆ D.nodes w.runtime)
  | replace (name : CString) (added : Option LoadedNode)
      (hadded : ∀ e ∈ added.toList, e.name = some name)
      (hes : w'.engine.loadedNodes =
        w.engine.loadedNodes.filter (fun e => !cmpByName e (some name)) ++ added.toList)
      (hnodes : ∀ n, n ∈ D.nodes w'.runtime ↔ n ∈ D.nodes w.runtime ∧ n.name ≠ some name)
  | add (node : Node D.limits) (e : LoadedNode) (name : CString)
      (hfound : collectionGet w.engine.loadedNodes (some name) = some e)
      (hdescriptor : node.descriptor = e.descriptor)
      (hes : w'.engine.loadedNodes = w.engine.loadedNodes)
      (hnodes : ∀ n, n ∈ D.nodes w'.runtime ↔ n ∈ D.nodes w.runtime ∨ n = node)

theorem RegistryStep.refl (w : World D) : RegistryStep w w := .shrink rfl (List.Subset.refl _)

theorem RegistryStep.onlyPushes {w w' w'' : World D} (h : RegistryStep w w')
    (hpush : OnlyPushes w' w'') : RegistryStep w w'' := by
  cases h with
  | shrink hes hnodes => exact .shrink (by rw [hpush.engine, hes]) (by rwa [hpush.runtime])
  | replace name added hadded hes hnodes =>
    exact .replace name added hadded (by rw [hpush.engine, hes]) (by rwa [hpush.runtime])
  | add node e name hfound hdescriptor hes hnodes =>
    exact .add node e name hfound hdescriptor (by rw [hpush.engine, hes]) (by rwa [hpush.runtime])

namespace World

theorem load_registryStep (laws : D.RuntimeLaws) (w : World D) (modulePath : CString)
    (nodeType : NodeType) :
    RegistryStep w (w.loadNodeDescriptorAs modulePath nodeType).2 := by
  have houtcome := w.loadNodeDescriptorAs_outcome modulePath nodeType
  generalize w.loadNodeDescriptorAs modulePath nodeType = r at houtcome
  cases houtcome with
  | rejected env => exact .shrink rfl (List.Subset.refl _)
  | unloaded env loader => exact .shrink rfl (List.Subset.refl _)
  | lost env e name hname =>
    exact .replace name none (fun e he => nomatch he) (List.append_nil _).symm
      (laws.removeNodesByName w.runtime name)
  | registered env e name hname htype =>
    exact .replace name (some e) (fun e' he' => List.mem_singleton.mp he' ▸ hname) rfl
      (laws.removeNodesByName w.runtime name)

theorem AddOutcome.registryStep (laws : D.RuntimeLaws) (nodeLaws : D.NodeLaws) {w : World D}
    {name : CString} {r : Option (Node D.limits) × World D} (h : AddOutcome w name r) :
    RegistryStep w r.2 := by
  cases h with
  | rejected env => exact .shrink rfl (List.Subset.refl _)
  | added env e node runtime hfound hcreated hadd =>
    exact .add node e name hfound (createNodeFromDescriptor_spec nodeLaws hcreated).1 rfl
      (laws.addNode hadd)

theorem remove_registryStep (laws : D.RuntimeLaws) (w : World D) (nodeId : UInt32) :
    RegistryStep w (w.ofRuntime (D.removeNodeById w.runtime nodeId)).2 := by
  cases hremove : D.removeNodeById w.runtime nodeId with
  | none => exact .refl w
  | some runtime =>
    exact .shrink rfl fun n hn => ((laws.removeNodeById hremove n).mp hn).1

theorem dispatch_registryStep (laws : D.RuntimeLaws) (nodeLaws : D.NodeLaws) (w : World D)
    (m : CommandMessage D.limits) : RegistryStep w (w.dispatchCommand m).2 := by
  obtain ⟨w₁, haction, hpushes⟩ := w.dispatch_action m
  refine RegistryStep.onlyPushes ?_ hpushes
  generalize m.data = data at haction
  cases haction with
  | quiet hdata hquiet =>
    exact .shrink hquiet.loadedNodes ((hquiet.runtime.nodes laws) ▸ List.Subset.refl _)
  | nothing hdata => exact .refl w
  | load nodeType modulePath => exact w.load_registryStep laws _ nodeType
  | add nodeType nodeName => exact (w.addNodeAs_outcome _ nodeType).1.registryStep laws nodeLaws
  | remove nodeId => exact w.remove_registryStep laws nodeId

theorem perform_registryStep (laws : D.RuntimeLaws) (nodeLaws : D.NodeLaws) (w : World D)
    (op : Operation D.limits) : RegistryStep w (w.perform op) := by
  cases op with
  | loadNode modulePath => exact w.load_registryStep laws modulePath .invalid
  | loadNodeAs modulePath nodeType => exact w.load_registryStep laws modulePath nodeType
  | addNode nodeName => exact (w.addNode_outcome nodeName).registryStep laws nodeLaws
  | addNodeAs nodeName nodeType =>
    exact (w.addNodeAs_outcome nodeName nodeType).1.registryStep laws nodeLaws
  | command m => exact w.dispatch_registryStep laws nodeLaws m

end World

/-- No two entries have one name, and each node of the runtime is of the descriptor that is
registered under its name. -/
structure Coherent (w : World D) : Prop where
  distinct : (w.engine.loadedNodes.map LoadedNode.name).Nodup
  registered : ∀ n ∈ D.nodes w.runtime,
    (collectionGet w.engine.loadedNodes n.name).map LoadedNode.descriptor = some n.descriptor

namespace Coherent

theorem fresh {w : World D} (hes : w.engine.loadedNodes = []) (hempty : D.nodes w.runtime = []) :
    Coherent w where
  distinct := by simp [hes]
  registered n hn := by simp [hempty] at hn

theorem step {w w' : World D} (h : Coherent w) (hstep : RegistryStep w w') : Coherent w' := by
  cases hstep with
  | shrink hes hnodes =>
    refine ⟨hes ▸ h.distinct, fun n hn => ?_⟩
    rw [hes]
    exact h.registered n (hnodes hn)
  | replace name added hadded hes hnodes =>
    refine ⟨?_, fun n hn => ?_⟩
    · rw [hes, List.map_append, List.nodup_append]
      refine ⟨h.distinct.sublist (List.filter_sublist.map _), ?_, fun a ha b hb => ?_⟩
      · cases added <;> simp
      · obtain ⟨e, he, rfl⟩ := List.mem_map.mp ha
        obtain ⟨e', he', rfl⟩ := List.mem_map.mp hb
        rw [hadded e' he']
        intro hname
        have hkept := (List.mem_filter.mp he).2
        rw [Bool.not_eq_true', Bool.eq_false_iff, Ne, cmpByName_iff] at hkept
        exact hkept ⟨hname, rfl⟩
    · obtain ⟨hold, hname⟩ := (hnodes n).mp hn
      rw [hes, collectionGet_append_of_ne fun e he => hadded e he ▸ hname.symm,
        collectionGet_filter_of_ne hname]
      exact h.registered n hold
  | add node e name hfound hdescriptor hes hnodes =>
    refine ⟨hes ▸ h.distinct, fun n hn => ?_⟩
    rw [hes]
    rcases (hnodes n).mp hn with hold | rfl
    · exact h.registered n hold
    · have hname : n.name = some name := by
        rw [Node.name, hdescriptor]
        exact (collectionGet_name hfound).2
      rw [hname, hfound, hdescriptor]
      rfl

theorem nodeRecord {w : World D} (h : Coherent w) (seq : UInt64) {n : Node D.limits}
    (hn : n ∈ D.nodes w.runtime) : ∃ r, w.nodeRecord seq n = some r := by
  obtain ⟨e, he, -⟩ := Option.map_eq_some_iff.mp (h.registered n hn)
  unfold World.nodeRecord
  rw [he]
  exact ⟨_, rfl⟩

theorem run (laws : D.RuntimeLaws) (nodeLaws : D.NodeLaws) {w : World D} (h : Coherent w)
    (ops : List (Operation D.limits)) : Coherent (w.performAll ops) := by
  induction ops generalizing w with
  | nil => exact h
  | cons op ops ih => exact ih (h.step (w.perform_registryStep laws nodeLaws op))

end Coherent

/-- After any operations on a fresh engine with an empty runtime, the registry has one entry for
each name and every node of the runtime is of the entry under its name; a snapshot then pushes a
record of every node. -/
theorem registry_stays_coherent (laws : D.RuntimeLaws) (nodeLaws : D.NodeLaws) (w : World D)
    (config : Config) (hcreate : Engine.create D.limits config = some w.engine)
    (hempty : D.nodes w.runtime = []) (ops : List (Operation D.limits)) :
    let w' := w.performAll ops
    Coherent w' ∧ (w'.engine.config.resultQueue = true → ∀ seq, ∃ rs,
      (w'.dispatchCommand ⟨seq, .requestRuntimeNodes⟩).2.attempted = w'.attempted ++ rs ∧
        ∀ n ∈ D.nodes w'.runtime, ∃ r ∈ rs, w'.nodeRecord seq n = some r) := by
  intro w'
  have hes := (Engine.create_fresh hcreate).loadedNodes
  have hcoherent : Coherent w' := (Coherent.fresh hes hempty).run laws nodeLaws ops
  refine ⟨hcoherent, fun hqueue seq =>
    ⟨w'.snapshotRecords seq ++ [World.terminatorRecord D.limits seq], ?_, fun n hn => ?_⟩⟩
  · rw [w'.eventRequestRuntimeNodes_eq rfl]
    exact w'.pushResults_attempted hqueue _
  · obtain ⟨r, hr⟩ := hcoherent.nodeRecord seq hn
    have hmem : r ∈ (D.nodes w'.runtime).filterMap (w'.nodeRecord seq) :=
      List.mem_filterMap.mpr ⟨n, hn, hr⟩
    exact ⟨r, List.mem_append_left _ (List.mem_append_left _ hmem), hr⟩

theorem registry_stays_coherent_reference :
    Coherent (Reference.loadedWorld.perform (.loadNode Reference.modulePath)) :=
  (registry_stays_coherent Reference.runtimeLaws Reference.nodeLaws Reference.world
    Reference.config rfl rfl [.loadNode Reference.modulePath, .addNode ⟨[110], by decide⟩,
      .loadNode Reference.modulePath]).1

/-- Every registered module unloaded so far was unloaded when no node of the runtime was of its
descriptor. -/
def UnloadsSafe (w : World D) : Prop := ∀ e ∈ w.trace, e.SafeUnload

/-- No node of the runtime is of a registered descriptor. -/
def NoneRegistered (w : World D) : Prop :=
  ∀ e ∈ w.engine.loadedNodes, ∀ n ∈ D.nodes w.runtime, n.descriptor ≠ e.descriptor

namespace UnloadsSafe

theorem onlyPushes {w w' : World D} (h : UnloadsSafe w) (hpushes : OnlyPushes w w') :
    UnloadsSafe w' := by
  obtain ⟨pushes, htrace⟩ := hpushes.trace
  intro e he
  rw [htrace] at he
  rcases List.mem_append.mp he with hold | hnew
  · exact h e hold
  · obtain ⟨p, -, rfl⟩ := List.mem_map.mp hnew
    trivial

theorem removedByName (laws : D.RuntimeLaws) {w : World D} (h : UnloadsSafe w)
    (name : CString) : UnloadsSafe (w.removedByName name) := by
  intro e he
  rcases List.mem_append.mp he with hold | hnew
  · exact h e hold
  · obtain ⟨entry, hentry, rfl⟩ := List.mem_map.mp hnew
    have hname := (cmpByName_iff.mp (List.mem_filter.mp hentry).2).1
    intro n hn hdescriptor
    rw [entry.exported] at hdescriptor
    refine ((laws.removeNodesByName w.runtime name n).mp hn).2 ?_
    rw [Node.name, ← Option.some.inj hdescriptor]
    exact hname

theorem load (laws : D.RuntimeLaws) {w : World D} (h : UnloadsSafe w) (modulePath : CString)
    (nodeType : NodeType) : UnloadsSafe (w.loadNodeDescriptorAs modulePath nodeType).2 := by
  have houtcome := w.loadNodeDescriptorAs_outcome modulePath nodeType
  generalize w.loadNodeDescriptorAs modulePath nodeType = r at houtcome
  cases houtcome with
  | rejected env => exact h
  | unloaded env loader => exact List.forall_mem_append.mpr ⟨h, by simp [Event.SafeUnload]⟩
  | lost env e name hname =>
    exact List.forall_mem_append.mpr ⟨h.removedByName laws name, by simp [Event.SafeUnload]⟩
  | registered env e name hname htype => exact h.removedByName laws name

theorem addOutcome {w : World D} (h : UnloadsSafe w) {name : CString}
    {r : Option (Node D.limits) × World D} (houtcome : w.AddOutcome name r) :
    UnloadsSafe r.2 := by
  cases houtcome with
  | rejected env => exact h
  | added env e node runtime hfound hcreated hadd => exact h

theorem dispatch (laws : D.RuntimeLaws) {w : World D}
    (h : UnloadsSafe w) (m : CommandMessage D.limits) : UnloadsSafe (w.dispatchCommand m).2 := by
  obtain ⟨w₁, haction, hpushes⟩ := w.dispatch_action m
  refine UnloadsSafe.onlyPushes ?_ hpushes
  generalize m.data = data at haction
  cases haction with
  | quiet hdata hquiet =>
    unfold UnloadsSafe
    rwa [hquiet.trace]
  | nothing hdata => exact h
  | load nodeType modulePath => exact h.load laws _ nodeType
  | add nodeType nodeName => exact h.addOutcome (w.addNodeAs_outcome _ nodeType).1
  | remove nodeId => cases D.removeNodeById w.runtime nodeId <;> exact h

theorem perform (laws : D.RuntimeLaws) {w : World D}
    (h : UnloadsSafe w) (op : Operation D.limits) : UnloadsSafe (w.perform op) := by
  cases op with
  | loadNode modulePath => exact h.load laws modulePath .invalid
  | loadNodeAs modulePath nodeType => exact h.load laws modulePath nodeType
  | addNode nodeName => exact h.addOutcome (w.addNode_outcome nodeName)
  | addNodeAs nodeName nodeType =>
    exact h.addOutcome (w.addNodeAs_outcome nodeName nodeType).1
  | command m => exact h.dispatch laws m

theorem run (laws : D.RuntimeLaws) {w : World D} (h : UnloadsSafe w)
    (ops : List (Operation D.limits)) : UnloadsSafe (w.performAll ops) := by
  induction ops generalizing w with
  | nil => exact h
  | cons op ops ih => exact ih (h.perform laws op)

/-- The engine's end unloads every registered module and leaves the runtime's nodes where they
are. -/
theorem destroy_iff {w : World D} (h : UnloadsSafe w) :
    UnloadsSafe w.destroy ↔ NoneRegistered w := by
  have htrace : w.destroy.trace =
      w.trace ++ World.unloadEvents w.engine.loadedNodes (D.nodes w.runtime) := by
    unfold World.destroy World.collectionDestroy
    rw [World.destroyElements_eq]
    rfl
  unfold UnloadsSafe
  rw [htrace, List.forall_mem_append]
  refine ⟨fun hsafe e he n hn hdescriptor => ?_, fun hnone => ⟨h, fun event hevent => ?_⟩⟩
  · refine hsafe.2 _ (List.mem_map_of_mem he) n hn ?_
    rw [e.exported, hdescriptor]
  · obtain ⟨e, he, rfl⟩ := List.mem_map.mp hevent
    intro n hn hdescriptor
    rw [e.exported] at hdescriptor
    exact hnone e he n hn (Option.some.inj hdescriptor).symm

end UnloadsSafe

/-- Over any operations, no module in use is unloaded; the engine's end after them unloads none
in use exactly when the runtime holds no node of a registered descriptor then. -/
theorem unloads_safe_iff (laws : D.RuntimeLaws) (w : World D)
    (hstart : w.trace = []) (ops : List (Operation D.limits)) :
    UnloadsSafe (w.performAll ops) ∧
      (UnloadsSafe (w.performAll ops).destroy ↔ NoneRegistered (w.performAll ops)) := by
  have hsafe : UnloadsSafe w := by
    unfold UnloadsSafe
    simp [hstart]
  have hrun := hsafe.run laws ops
  exact ⟨hrun, hrun.destroy_iff⟩

/-- A load, a node of it, and a reload that removes the node. -/
def Reference.reloading : List (Operation limits) :=
  [.loadNode modulePath, .addNode (CString.ofField (nameField 110)), .loadNode modulePath]

/-- The reload and the end of the engine unload a module each. -/
theorem unloads_safe_reference :
    UnloadsSafe (Reference.world.performAll Reference.reloading).destroy ∧
      (Reference.world.performAll Reference.reloading).destroy.trace =
        [.loaderDestroy ⟨0, some Reference.descriptor⟩ true [],
          .loaderDestroy ⟨1, some Reference.descriptor⟩ true []] :=
  ⟨(unloads_safe_iff Reference.runtimeLaws Reference.world rfl Reference.reloading).2.mpr
    fun _ _ _ hn => (nomatch hn), rfl⟩

theorem unloads_unsafe :
    ¬ UnloadsSafe (Reference.world.performAll
      [.loadNode Reference.modulePath, .addNode ⟨[110], by decide⟩]).destroy := by
  intro h
  exact h (.loaderDestroy ⟨0, some Reference.descriptor⟩ true
    [⟨0, .plugin, Reference.descriptor, by decide⟩]) (List.mem_singleton_self _)
    ⟨0, .plugin, Reference.descriptor, by decide⟩ (List.mem_singleton_self _) rfl

end RtsynEngine
