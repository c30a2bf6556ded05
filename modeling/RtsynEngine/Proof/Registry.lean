import RtsynEngine.Operation

/-! What loading a module and adding a node can do to the world: one lemma for each function. -/

namespace RtsynEngine

theorem cmpByName_iff {e : LoadedNode} {name : Option CString} :
    cmpByName e name = true ↔ e.name = name ∧ name.isSome := by
  unfold cmpByName
  cases e.name <;> cases name <;> simp

theorem collectionGet_name {es : List LoadedNode} {name : Option CString} {e : LoadedNode}
    (h : collectionGet es name = some e) : e ∈ es ∧ e.name = name := by
  have hfound := List.find?_some h
  exact ⟨List.mem_of_find?_eq_some h, (cmpByName_iff.mp hfound).1⟩

theorem collectionGet_append_of_ne {es added : List LoadedNode} {name : Option CString}
    (hne : ∀ e ∈ added, e.name ≠ name) :
    collectionGet (es ++ added) name = collectionGet es name := by
  have hnone : added.find? (cmpByName · name) = none := by
    rw [List.find?_eq_none]
    exact fun e he hcmp => hne e he (cmpByName_iff.mp hcmp).1
  rw [collectionGet, List.find?_append, hnone, Option.or_none, collectionGet]

theorem collectionGet_filter_of_ne {es : List LoadedNode} {name removed : Option CString}
    (hne : name ≠ removed) :
    collectionGet (es.filter fun e => !cmpByName e removed) name = collectionGet es name := by
  unfold collectionGet
  rw [List.find?_filter]
  congr 1
  funext e
  by_cases h : cmpByName e name = true
  · have hother : cmpByName e removed = false := by
      rw [Bool.eq_false_iff, Ne, cmpByName_iff]
      exact fun h' => hne ((cmpByName_iff.mp h).1.symm.trans h'.1)
    simp [h, hother]
  · simp [h]

theorem collectionGet_replaced {es : List LoadedNode} {e : LoadedNode} {name : CString}
    (hname : e.name = some name) :
    collectionGet (es.filter (fun e => !cmpByName e (some name)) ++ [e]) e.name = some e := by
  have hself : cmpByName e (some name) = true := cmpByName_iff.mpr ⟨hname, rfl⟩
  have hothers : (es.filter fun e => !cmpByName e (some name)).find?
      (cmpByName · (some name)) = none := by
    rw [List.find?_eq_none]
    intro e' he'
    simpa using (List.mem_filter.mp he').2
  rw [hname, collectionGet, List.find?_append, hothers, Option.none_or, List.find?_singleton]
  exact if_pos hself

namespace World

variable {D : Deps}

/-- The unloads of registered modules, as events at which the runtime holds `nodes`. -/
def unloadEvents (es : List LoadedNode) (nodes : List (Node D.limits)) :
    List (Event D.limits) :=
  es.map fun e => .loaderDestroy e.loader true nodes

theorem destroyElements_eq (w : World D) (es : List LoadedNode) :
    w.destroyElements es =
      { w with trace := w.trace ++ unloadEvents es (D.nodes w.runtime) } := by
  induction es generalizing w with
  | nil => simp [destroyElements, unloadEvents]
  | cons e es ih =>
    have hstep : w.destroyElements (e :: es) =
        (w.loadedNodeDestroy e true).destroyElements es := rfl
    rw [hstep, ih]
    simp [loadedNodeDestroy, moduleLoaderDestroy, unloadEvents, emit]

theorem collectionRemove_of_not_contains {w : World D} {name : Option CString}
    (h : collectionContains w.engine.loadedNodes name = false) : w.collectionRemove name = w := by
  have hnone : ∀ e ∈ w.engine.loadedNodes, cmpByName e name = false := by
    simpa [collectionContains] using h
  have hremoved : w.engine.loadedNodes.filter (cmpByName · name) = [] := by
    rw [List.filter_eq_nil_iff]
    simpa using hnone
  have hkept : w.engine.loadedNodes.filter (fun e => !cmpByName e name) =
      w.engine.loadedNodes := by
    rw [List.filter_eq_self]
    simpa using hnone
  rw [collectionRemove, hremoved, hkept]
  rfl

/-- The world after the nodes and the loaded nodes of a name are gone. -/
def removedByName (w : World D) (name : CString) : World D :=
  let runtime := D.removeNodesByName w.runtime name
  { w with
    runtime
    engine := { w.engine with
      loadedNodes := w.engine.loadedNodes.filter fun e => !cmpByName e (some name) }
    trace := w.trace ++
      unloadEvents (w.engine.loadedNodes.filter (cmpByName · (some name))) (D.nodes runtime) }

/-- What a load can end in: it is rejected with at most an unregistered module unloaded, or it
replaces what has the name of the new descriptor, and then either loses the new one or registers
it. -/
inductive LoadOutcome (w : World D) (nodeType : NodeType) :
    Option (Pointer NodeDescriptor) × World D → Prop
  | rejected (env : D.Env) : LoadOutcome w nodeType (none, { w with env })
  | unloaded (env : D.Env) (loader : ModuleLoader) :
    LoadOutcome w nodeType (none, { w with env }.moduleLoaderDestroy loader false)
  | lost (env : D.Env) (e : LoadedNode) (name : CString) (hname : e.name = some name) :
    LoadOutcome w nodeType
      (none, { w.removedByName name with env }.loadedNodeDestroy e false)
  | registered (env : D.Env) (e : LoadedNode) (name : CString) (hname : e.name = some name)
      (htype : nodeType ≠ .invalid → e.descriptor.target.nodeType = nodeType) :
    LoadOutcome w nodeType (some e.descriptor,
      { w.removedByName name with env }.setLoadedNodes
        ((w.removedByName name).engine.loadedNodes ++ [e]))

/-- Replacing takes away what has the name before it asks for the memory of the new entry. -/
theorem replaceLoadedNode_eq (w : World D) (loadedNode : LoadedNode) (name : CString) :
    w.replaceLoadedNode loadedNode name =
      match D.collectionAdd w.env with
      | (false, env) =>
        (none, { w.removedByName name with env }.loadedNodeDestroy loadedNode false)
      | (true, env) => (some loadedNode.descriptor,
          { w.removedByName name with env }.setLoadedNodes
            ((w.removedByName name).engine.loadedNodes ++ [loadedNode])) := by
  have hremove : ∀ w' : World D, w'.collectionRemove (some name) =
      { w' with
        engine := { w'.engine with
          loadedNodes := w'.engine.loadedNodes.filter fun e => !cmpByName e (some name) }
        trace := w'.trace ++ unloadEvents
          (w'.engine.loadedNodes.filter (cmpByName · (some name))) (D.nodes w'.runtime) } := by
    intro w'
    rw [collectionRemove, destroyElements_eq]
    rfl
  have hremoved : (if collectionContains w.engine.loadedNodes (some name) = true then
      { w with runtime := D.removeNodesByName w.runtime name }.collectionRemove (some name)
      else { w with runtime := D.removeNodesByName w.runtime name }) = w.removedByName name := by
    split
    · rw [hremove]
      rfl
    · next hnot =>
      rw [← collectionRemove_of_not_contains
        (w := { w with runtime := D.removeNodesByName w.runtime name })
        (Bool.eq_false_iff.mpr hnot), hremove]
      rfl
  unfold replaceLoadedNode
  simp only [hremoved]
  rfl

theorem replaceLoadedNode_outcome (w : World D) (env : D.Env) (nodeType : NodeType)
    {e : LoadedNode} {name : CString} (hname : e.name = some name)
    (htype : nodeType ≠ .invalid → e.descriptor.target.nodeType = nodeType) :
    LoadOutcome w nodeType ({ w with env }.replaceLoadedNode e name) := by
  rw [replaceLoadedNode_eq]
  split
  · next env' _ => exact .lost env' e name hname
  · next env' _ => exact .registered env' e name hname htype

theorem loadNodeDescriptorAs_outcome (w : World D) (modulePath : CString) (nodeType : NodeType) :
    LoadOutcome w nodeType (w.loadNodeDescriptorAs modulePath nodeType) := by
  unfold loadNodeDescriptorAs
  split
  · next env _ => exact .rejected env
  · next loader env _ =>
    dsimp only
    split
    · exact .unloaded env loader
    · next descriptor hexported =>
      split
      · exact .unloaded env loader
      · next name hname =>
        split
        · exact .unloaded env loader
        · next htype =>
          split
          · next env' _ => exact .unloaded env' loader
          · next env' _ =>
            refine replaceLoadedNode_outcome w env' nodeType hname fun hvalid => ?_
            simpa [hvalid] using htype

/-- What adding a node can end in: nothing but the environment changes, or the runtime has a node
created from the loaded descriptor of that name. -/
inductive AddOutcome (w : World D) (name : CString) :
    Option (Node D.limits) × World D → Prop
  | rejected (env : D.Env) : AddOutcome w name (none, { w with env })
  | added (env : D.Env) (e : LoadedNode) (node : Node D.limits) (runtime : D.Runtime)
      (hfound : collectionGet w.engine.loadedNodes (some name) = some e)
      (hcreated : (w.createNodeFromDescriptor e.descriptor).1 = some node)
      (hadd : D.addNode w.runtime node = some runtime) :
    AddOutcome w name (some node, { w with env, runtime })

theorem createNodeFromDescriptor_env (w : World D) (descriptor : Pointer NodeDescriptor) :
    ∃ env, (w.createNodeFromDescriptor descriptor).2 = { w with env } := by
  unfold createNodeFromDescriptor
  split <;> exact ⟨_, rfl⟩

theorem createNodeFromDescriptor_spec (laws : D.NodeLaws) {w : World D}
    {descriptor : Pointer NodeDescriptor} {node : Node D.limits}
    (h : (w.createNodeFromDescriptor descriptor).1 = some node) :
    node.descriptor = descriptor ∧ node.nodeType = descriptor.target.nodeType := by
  unfold createNodeFromDescriptor at h
  split at h
  · next htype =>
    rw [htype]
    exact laws.nodeCreatePlugin (Prod.ext h rfl)
  · next htype =>
    rw [htype]
    exact laws.nodeCreateDevice (Prod.ext h rfl)
  · cases h

theorem addNode_outcome (w : World D) (name : CString) :
    AddOutcome w name (w.addNode name) := by
  unfold addNode
  split
  · exact .rejected w.env
  · next e hfound =>
    obtain ⟨env, henv⟩ := w.createNodeFromDescriptor_env e.descriptor
    rcases hcreate : w.createNodeFromDescriptor e.descriptor with ⟨_ | n, w₁⟩
    · rw [hcreate] at henv
      rw [show w₁ = _ from henv]
      exact .rejected env
    · rw [hcreate] at henv
      rw [show w₁ = _ from henv]
      cases hadd : D.addNode w.runtime n with
      | none =>
        dsimp only
        rw [hadd]
        exact .rejected (D.nodeDestroy env n)
      | some runtime =>
        dsimp only
        rw [hadd]
        exact .added env e n runtime hfound (by rw [hcreate]) hadd

theorem addNodeAs_outcome (w : World D) (name : CString) (nodeType : NodeType) :
    AddOutcome w name (w.addNodeAs name nodeType) ∧
      ((w.addNodeAs name nodeType).1.isSome → ∀ e,
        collectionGet w.engine.loadedNodes (some name) = some e →
          e.descriptor.target.nodeType = nodeType) := by
  unfold addNodeAs
  split
  · exact ⟨.rejected w.env, fun h => nomatch h⟩
  · split
    · exact ⟨.rejected w.env, fun h => nomatch h⟩
    · next e hfound =>
      split
      · exact ⟨.rejected w.env, fun h => nomatch h⟩
      · next htype =>
        refine ⟨w.addNode_outcome name, fun _ e' hfound' => ?_⟩
        rw [hfound] at hfound'
        cases hfound'
        simpa using htype

end World

end RtsynEngine
