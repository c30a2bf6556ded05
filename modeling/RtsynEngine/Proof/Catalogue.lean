import RtsynEngine.Lib.Catalogue
import RtsynEngine.Proof.Graph
import RtsynEngine.Proof.Loading

/-! The registry and the nodes of the runtime as a catalogue: names stand for descriptors, and nodes
are made of them.  The loads, additions and removals that the loop dispatches are the changes of the
catalogue, and what it holds is what their outcomes say. -/

namespace RtsynEngine

open Transition

variable {D : Deps} {L : Limits}

def descriptorName (d : Pointer NodeDescriptor) : Option CString := d.target.name

abbrev GraphChange (L : Limits) : Type :=
  Catalogue.Change (Option CString) (Pointer NodeDescriptor) (Node L) UInt32

/-- What the name leads to in `loaded_nodes`. -/
def descriptorOf (es : List LoadedNode) (name : Option CString) : Option (Pointer NodeDescriptor) :=
  (collectionGet es name).map LoadedNode.descriptor

theorem descriptorOf_replaced {es : List LoadedNode} {name : CString} {added : Option LoadedNode}
    (hadded : ∀ e ∈ added.toList, e.name = some name) :
    descriptorOf (es.filter (fun e => !cmpByName e (some name)) ++ added.toList) =
      Function.update (descriptorOf es) (some name) (added.map LoadedNode.descriptor) := by
  funext n
  by_cases hn : n = some name
  · subst hn
    rw [Function.update_self]
    cases added with
    | none =>
      have hnone : collectionGet (es.filter fun e => !cmpByName e (some name)) (some name) =
          none := by
        rw [collectionGet, List.find?_eq_none]
        intro e he
        simpa using (List.mem_filter.mp he).2
      rw [descriptorOf, Option.toList_none, List.append_nil, hnone,
        Option.map_none]
    | some e =>
      have hname : e.name = some name := hadded e (by simp)
      have hfound : collectionGet (es.filter (fun e => !cmpByName e (some name)) ++ [e])
          (some name) = some e :=
        (congrArg _ hname.symm).trans (collectionGet_replaced hname)
      rw [descriptorOf, Option.toList_some, hfound]
  · rw [Function.update_of_ne hn, descriptorOf,
      collectionGet_append_of_ne fun e he => hadded e he ▸ Ne.symm hn,
      collectionGet_filter_of_ne hn]
    rfl

namespace World

/-- What the clients can name and address. -/
def catalogue (w : World D) (h : Coherent w) :
    Catalogue descriptorName (Node.descriptor (L := D.limits)) where
  bound := descriptorOf w.engine.loadedNodes
  instances := {n | n ∈ D.nodes w.runtime}
  named h := by
    obtain ⟨e, hfound, rfl⟩ := Option.map_eq_some_iff.mp h
    exact (collectionGet_name hfound).2
  made {n} hn := h.registered n hn

variable {w w' : World D}

theorem catalogue_congr (h : Coherent w) (h' : Coherent w')
    (hes : w'.engine.loadedNodes = w.engine.loadedNodes)
    (hnodes : ∀ n, n ∈ D.nodes w'.runtime ↔ n ∈ D.nodes w.runtime) :
    w'.catalogue h' = w.catalogue h :=
  Catalogue.ext (congrArg descriptorOf hes) (Set.ext hnodes)

/-- The name that a load takes from what has it although the load then fails. -/
def displaced (w : World D) (modulePath : CString) (nodeType : NodeType) : Option CString :=
  match D.moduleLoaderCreate w.env modulePath with
  | (none, _) => none
  | (some loader, env) =>
    match loader.descriptor, D.mallocLoadedNode env with
    | some descriptor, (true, env) =>
      if (nodeType == .invalid || descriptor.target.nodeType == nodeType) &&
          !(D.collectionAdd env).1 then descriptor.target.name else none
    | _, _ => none

theorem displaced_eq_some_iff {modulePath name : CString} {nodeType : NodeType} :
    w.displaced modulePath nodeType = some name ↔ w.FailsLate modulePath nodeType name := by
  constructor
  · intro h
    unfold displaced at h
    split at h
    · cases h
    · next loader env hcreate =>
      split at h
      · next descriptor env' hexported hmalloc =>
        split at h
        · next hlate =>
          rw [Bool.and_eq_true, Bool.or_eq_true, beq_iff_eq, beq_iff_eq,
            Bool.not_eq_true'] at hlate
          exact ⟨hcreate, hexported, h, hlate.1, hmalloc, hlate.2⟩
        · cases h
      · cases h
  · rintro ⟨hcreate, hexported, hname, htype, hmalloc, hadd⟩
    simp [displaced, hcreate, hexported, hmalloc, hadd, htype, hname]

/-- What a load does to the catalogue. -/
def loadChanges (w : World D) (modulePath : CString) (nodeType : NodeType) :
    List (GraphChange D.limits) :=
  match (w.loadNodeDescriptorAs modulePath nodeType).1, w.displaced modulePath nodeType with
  | some descriptor, _ => [.bind descriptor]
  | none, some name => [.unbind (some name)]
  | none, none => []

/-- What a command does to the catalogue, by its outcome. -/
def changes (w : World D) (data : CommandData D.limits) : List (GraphChange D.limits) :=
  if data.malformed D then []
  else
    match data with
    | .loadNode nodeType modulePath => w.loadChanges (CString.ofField modulePath) nodeType
    | .addNode nodeType nodeName =>
      match (w.addNodeAs (CString.ofField nodeName) nodeType).1 with
      | some node => [.make node]
      | none => []
    | .removeNode nodeId =>
      if (D.removeNodeById w.runtime nodeId).isSome then [.discard nodeId] else []
    | _ => []

/-- `w'` has the catalogue of `w` after the changes. -/
def Changes (w w' : World D) (cs : List (GraphChange D.limits)) : Prop :=
  ∀ (h : Coherent w) (h' : Coherent w'),
    run (Catalogue.step Node.id) (w.catalogue h) cs = some (w'.catalogue h')

namespace Changes

theorem same (hes : w'.engine.loadedNodes = w.engine.loadedNodes)
    (hnodes : ∀ n, n ∈ D.nodes w'.runtime ↔ n ∈ D.nodes w.runtime) : Changes w w' [] :=
  fun h h' => congrArg some (catalogue_congr h h' hes hnodes).symm

theorem single {change : GraphChange D.limits}
    (hchange : ∀ (h : Coherent w) (h' : Coherent w'),
      Catalogue.step Node.id (w.catalogue h) change = some (w'.catalogue h')) :
    Changes w w' [change] := by
  intro h h'
  rw [run, List.foldlM_cons, hchange h h']
  rfl

theorem onlyPushes {w'' : World D} {cs : List (GraphChange D.limits)} (h : Changes w w' cs)
    (hpushes : OnlyPushes w' w'') : Changes w w'' cs := by
  intro hw hw''
  have hw' : Coherent w' := by
    refine ⟨by rw [← hpushes.engine]; exact hw''.distinct, fun n hn => ?_⟩
    rw [← hpushes.engine]
    exact hw''.registered n (by rw [hpushes.runtime]; exact hn)
  rw [h hw hw', catalogue_congr hw' hw'' (by rw [hpushes.engine])
    fun n => by rw [hpushes.runtime]]

/-- What has the name is gone, and the name stands for another module or for none. -/
theorem replaced (laws : D.RuntimeLaws) {name : CString} {added : Option LoadedNode}
    {n : Option CString} (hn : n = some name) (hadded : ∀ e ∈ added.toList, e.name = some name)
    (hes : w'.engine.loadedNodes =
      w.engine.loadedNodes.filter (fun e => !cmpByName e (some name)) ++ added.toList)
    (hruntime : w'.runtime = D.removeNodesByName w.runtime name)
    (ht : ∀ d ∈ added.map LoadedNode.descriptor, descriptorName d = n)
    (h : Coherent w) (h' : Coherent w') :
    (w.catalogue h).rebind n (added.map LoadedNode.descriptor) ht = w'.catalogue h' := by
  subst hn
  refine Catalogue.ext ?_ (Set.ext fun n => ?_)
  · show _ = descriptorOf w'.engine.loadedNodes
    rw [hes, descriptorOf_replaced hadded]
    rfl
  · show _ ↔ n ∈ D.nodes w'.runtime
    rw [hruntime]
    exact (laws.removeNodesByName w.runtime name n).symm

end Changes

theorem load_changes (laws : D.RuntimeLaws) (w : World D) (modulePath : CString)
    (nodeType : NodeType) : Changes w (w.loadNodeDescriptorAs modulePath nodeType).2
      (w.loadChanges modulePath nodeType) := by
  have houtcome := w.loadNodeDescriptorAs_outcome modulePath nodeType
  have hcase := w.loadNodeDescriptorAs_case modulePath nodeType
  unfold loadChanges
  generalize w.loadNodeDescriptorAs modulePath nodeType = r at houtcome hcase
  obtain ⟨_ | descriptor, w'⟩ := r
  · cases hcase with
    | intact hnot hsame =>
      have hnone : w.displaced modulePath nodeType = none :=
        Option.eq_none_iff_forall_ne_some.mpr fun name hname =>
          hnot name (displaced_eq_some_iff.mp hname)
      rw [hnone]
      exact .same (hsame rfl).loadedNodes (hsame rfl).nodes
    | late name hlate hentries hruntime =>
      rw [displaced_eq_some_iff.mpr hlate]
      have hes : w'.engine.loadedNodes = w.engine.loadedNodes.filter
          (fun e => !cmpByName e (some name)) ++ (none : Option LoadedNode).toList := by
        rw [hentries, Option.toList_none, List.append_nil]
        rfl
      have hadded : ∀ e ∈ (none : Option LoadedNode).toList, e.name = some name := nofun
      have hunbound : ∀ d ∈ (none : Option LoadedNode).map LoadedNode.descriptor,
          descriptorName d = some name := nofun
      refine .single fun h h' => congrArg some ?_
      exact Changes.replaced laws rfl hadded hes hruntime hunbound h h'
  · cases houtcome with
    | registered env e name hname htype =>
      have hadded : ∀ e' ∈ (some e).toList, e'.name = some name := fun e' he' =>
        List.mem_singleton.mp he' ▸ hname
      have hbound : ∀ d ∈ (some e).map LoadedNode.descriptor, descriptorName d = e.name :=
        fun d hd => by cases hd; rfl
      refine .single fun h h' => congrArg some ?_
      exact Changes.replaced laws hname hadded rfl rfl hbound h h'

theorem add_changes (laws : D.RuntimeLaws) (nodeLaws : D.NodeLaws) {name : CString}
    {r : Option (Node D.limits) × World D} (houtcome : w.AddOutcome name r) :
    Changes w r.2 (match r.1 with
      | some node => [.make node]
      | none => []) := by
  cases houtcome with
  | rejected env => exact .same rfl fun _ => .rfl
  | added env e node runtime hfound hcreated hadd =>
    refine .single fun h h' => ?_
    have hdescriptor := (createNodeFromDescriptor_spec nodeLaws hcreated).1
    have hname : descriptorName node.descriptor = some name := by
      rw [hdescriptor]
      exact (collectionGet_name hfound).2
    have hbound : (w.catalogue h).bound (descriptorName node.descriptor) =
        some node.descriptor := by
      rw [hname, hdescriptor]
      exact congrArg (Option.map LoadedNode.descriptor) hfound
    rw [Catalogue.step, dif_pos hbound]
    refine congrArg some (Catalogue.ext rfl (Set.ext fun n => ?_))
    exact Or.comm.trans (laws.addNode hadd n).symm

theorem remove_changes (laws : D.RuntimeLaws) (w : World D) (nodeId : UInt32) :
    Changes w (w.ofRuntime (D.removeNodeById w.runtime nodeId)).2
      (if (D.removeNodeById w.runtime nodeId).isSome then [.discard nodeId] else []) := by
  cases hremove : D.removeNodeById w.runtime nodeId with
  | none => exact .same rfl fun _ => .rfl
  | some runtime =>
    refine .single fun h h' => congrArg some (Catalogue.ext rfl (Set.ext fun n => ?_))
    exact (laws.removeNodeById hremove n).symm

/-- Each command changes the catalogue as its outcome says. -/
theorem dispatch_changes (laws : D.RuntimeLaws) (nodeLaws : D.NodeLaws) (w : World D)
    (m : CommandMessage D.limits) : Changes w (w.dispatchCommand m).2 (w.changes m.data) := by
  obtain ⟨seq, data⟩ := m
  unfold changes
  by_cases hmalformed : data.malformed D = true
  · rw [w.dispatch_malformed (m := ⟨seq, data⟩) hmalformed, if_pos hmalformed]
    exact .same rfl fun _ => .rfl
  · rw [if_neg hmalformed]
    rw [Bool.not_eq_true] at hmalformed
    by_cases hanswered : data.answered = false
    · have hquiet := w.dispatch_quiet (m := ⟨seq, data⟩) hanswered
      have hnodes := hquiet.runtime.nodes laws
      cases data <;> first
        | exact .same hquiet.loadedNodes fun n => by rw [hnodes]
        | cases hanswered
    rw [Bool.not_eq_false] at hanswered
    cases data with
    | loadNode nodeType modulePath =>
      obtain ⟨descriptor, w₁, hload, hw⟩ := w.dispatch_loadNode seq hmalformed
      have hchanges := w.load_changes laws (CString.ofField modulePath) nodeType
      rw [hload] at hchanges
      rw [hw]
      exact hchanges.onlyPushes (w₁.eventPushResult_onlyPushes _)
    | addNode nodeType nodeName =>
      obtain ⟨node, w₁, hadd, hw⟩ := w.dispatch_addNode seq hmalformed
      have hchanges := add_changes laws nodeLaws
        (w.addNodeAs_outcome (CString.ofField nodeName) nodeType).1
      rw [hadd] at hchanges
      dsimp only
      rw [hw, hadd]
      exact hchanges.onlyPushes (w₁.eventPushResult_onlyPushes _)
    | removeNode nodeId =>
      obtain ⟨removed, w₁, hremove, hw⟩ := w.dispatch_removeNode seq hmalformed
      have hchanges := w.remove_changes laws nodeId
      rw [hremove] at hchanges
      rw [hw]
      exact hchanges.onlyPushes (w₁.eventPushResult_onlyPushes _)
    | requestRuntimeNodes =>
      rw [w.eventRequestRuntimeNodes_eq rfl]
      exact (Changes.same rfl fun _ => .rfl).onlyPushes (w.pushResults_onlyPushes _)
    | _ => cases hanswered

/-- The changes that a dispatch makes. -/
def loopChanges (w : World D) : RtState D.limits → List (GraphChange D.limits)
  | .dispatch _ _ _ m => (w.emit (.dispatched m)).changes m.data
  | _ => []

variable {state state' : RtState D.limits}

theorem rtThreadStep_changes (laws : D.RuntimeLaws) (nodeLaws : D.NodeLaws)
    (stepLaw : D.StepLaw)
    (h : w.rtThreadStep state = some (state', w')) : Changes w w' (w.loopChanges state) := by
  cases hdispatch : state.inFlight with
  | nil =>
    have hgraph := rtThreadStep_sameGraph stepLaw h hdispatch
    have hnone : w.loopChanges state = [] := by
      cases state with
      | dispatch => cases hdispatch
      | _ => rfl
    rw [hnone]
    exact .same hgraph.loadedNodes fun n => by rw [hgraph.nodes]
  | cons m ms =>
    obtain ⟨nextDeadlineNs, startedAtNs, i, message, rfl⟩ := state.dispatch_of_inFlight hdispatch
    cases h
    intro hw hw'
    have hemitted : Coherent (w.emit (.dispatched message)) := ⟨hw.distinct, hw.registered⟩
    exact (w.emit (.dispatched message)).dispatch_changes laws nodeLaws message hemitted hw'

end World

namespace System

variable {s s' : System D}

def changes (s : System D) : Act D.limits → List (GraphChange D.limits)
  | .step (.rt i) =>
    match s.rtThreads[i]? with
    | some t => s.world.loopChanges t.state
    | none => []
  | _ => []

/-- The history of the catalogue. -/
def recordChanges (s : System D) (a : Act D.limits) (history : List (GraphChange D.limits)) :
    List (GraphChange D.limits) :=
  history ++ s.changes a

theorem act_changes (laws : D.RuntimeLaws) (nodeLaws : D.NodeLaws)
    (stepLaw : D.StepLaw) {a : Act D.limits}
    (hact : s.act a = some s') (hlive : s'.controller ≠ .destroyed) :
    s.world.Changes s'.world (s.changes a) := by
  by_cases hrt : ∃ i, a = .step (.rt i)
  · obtain ⟨i, rfl⟩ := hrt
    obtain ⟨t, state, world, hi, hthread, rfl⟩ := rt_step hact
    have hloop : s.changes (.step (.rt i)) = s.world.loopChanges t.state := by
      simp only [changes, hi]
    rw [hloop]
    exact World.rtThreadStep_changes laws nodeLaws stepLaw hthread
  · have hnone : s.changes a = [] := by
      unfold changes
      split
      · next i => exact absurd ⟨i, rfl⟩ hrt
      · rfl
    have hgraph := act_sameGraph hact (not_exists.mp hrt) hlive
    rw [hnone]
    exact .same hgraph.loadedNodes fun n => by rw [hgraph.nodes]

/-- In every run the catalogue takes the changes that are recorded. -/
theorem run_changes (laws : D.RuntimeLaws) (nodeLaws : D.NodeLaws)
    (stepLaw : D.StepLaw) {s₀ : System D}
    {history : List (GraphChange D.limits)} (hstarts : s₀.Starts)
    (h : Transition.Reachable (fun r => r = (s₀, [])) (recording act recordChanges)
      (s, history)) (hlive : s.controller ≠ .destroyed) :
    ∃ hcoherent : Coherent s.world, run (Catalogue.step Node.id)
      (s₀.world.catalogue hstarts.coherent) history = some (s.world.catalogue hcoherent) := by
  have hrun : s.Coheres ∧ (s.controller ≠ .destroyed → ∃ hcoherent : Coherent s.world,
      run (Catalogue.step Node.id) (s₀.world.catalogue hstarts.coherent) history =
        some (s.world.catalogue hcoherent)) := by
    refine h.invariant (P := fun r => r.1.Coheres ∧
      (r.1.controller ≠ .destroyed → ∃ hcoherent : Coherent r.1.world,
        run (Catalogue.step Node.id) (s₀.world.catalogue hstarts.coherent) r.2 =
          some (r.1.world.catalogue hcoherent))) ?_ ?_
    · rintro r rfl
      exact ⟨⟨covered_of_initial hstarts.initial, .inr hstarts.coherent⟩,
        fun _ => ⟨hstarts.coherent, rfl⟩⟩
    · rintro ⟨s, history⟩ a r ⟨hcoheres, hhistory⟩ hstep
      obtain ⟨s', hact, rfl⟩ := Option.map_eq_some_iff.mp hstep
      have hcoheres' := hcoheres.act laws nodeLaws stepLaw hact
      refine ⟨hcoheres', fun hlive' => ?_⟩
      obtain ⟨hcoherent, hbefore⟩ := hhistory (act_live hact hlive')
      have hcoherent' := hcoheres'.coherent.resolve_left hlive'
      have hchanges := act_changes laws nodeLaws stepLaw hact hlive' hcoherent hcoherent'
      refine ⟨hcoherent', ?_⟩
      rw [recordChanges, run, List.foldlM_append]
      exact Option.bind_eq_some_iff.mpr ⟨_, hbefore, hchanges⟩
  exact hrun.2 hlive

end System

/-- In every run, what the clients can name and address is what the outcomes of their commands say:
a name leads to the module that the last load of that name has registered, and to none if that load
has failed; and the nodes are those that were added after the last load of their name and the last
removal of their id. -/
theorem catalogue_follows_history (laws : D.RuntimeLaws) (nodeLaws : D.NodeLaws)
    (stepLaw : D.StepLaw) {s₀ s : System D}
    {history : List (GraphChange D.limits)} (hstarts : s₀.Starts)
    (h : Transition.Reachable (fun r => r = (s₀, []))
      (recording System.act System.recordChanges) (s, history))
    (hlive : s.controller ≠ .destroyed) :
    (∃ hcoherent : Coherent s.world, run (Catalogue.step Node.id)
      (s₀.world.catalogue hstarts.coherent) history = some (s.world.catalogue hcoherent)) ∧
    (∀ name, descriptorOf s.world.engine.loadedNodes name =
      (history.reverse.findSome? (Catalogue.Change.binds descriptorName name)).getD
        (descriptorOf s₀.world.engine.loadedNodes name)) ∧
    ∀ n, n ∈ D.nodes s.world.runtime ↔
      (∃ before after, history = before ++ .make n :: after ∧
        ∀ c ∈ after, c.Leaves descriptorName Node.descriptor Node.id n) ∨
      n ∈ D.nodes s₀.world.runtime ∧
        ∀ c ∈ history, c.Leaves descriptorName Node.descriptor Node.id n := by
  obtain ⟨hcoherent, hrun⟩ := System.run_changes laws nodeLaws stepLaw hstarts h hlive
  exact ⟨⟨hcoherent, hrun⟩, fun name => Catalogue.run_bound hrun name,
    fun n => Catalogue.mem_run hrun n⟩

namespace Reference

/-- A run whose first cycle loads the module, adds a node, removes it and adds another. -/
def loadAndAdd : List (Step limits) :=
  [.pushCommand ⟨1, .loadNode .plugin (nameField 109)⟩,
      .pushCommand ⟨2, .addNode .plugin (nameField 110)⟩, .pushCommand ⟨3, .removeNode 0⟩,
      .pushCommand ⟨4, .addNode .plugin (nameField 110)⟩, .call .start] ++
    List.replicate 9 (.controller true) ++ List.replicate 11 (.rt 0)

def catalogued : System deps × List (GraphChange limits) :=
  (Transition.run (recording System.act System.recordChanges) (created, [])
    (loadAndAdd.map Act.step)).get (by decide)

/-- The node of that id which `rtsyn_node_create_plugin` returns. -/
def pluginNode (id : UInt32) (valid : id ≠ limits.nodeIdInvalid) : Node limits :=
  ⟨id, .plugin, descriptor, valid⟩

end Reference

theorem catalogue_follows_history_reference :
    Reference.catalogued.2 = [.bind Reference.descriptor,
        .make (Reference.pluginNode 0 (by decide)), .discard 0,
        .make (Reference.pluginNode 1 (by decide))] ∧
      descriptorOf Reference.catalogued.1.world.engine.loadedNodes
        Reference.descriptor.target.name = some Reference.descriptor ∧
      Reference.pluginNode 1 (by decide) ∈
        Reference.deps.nodes Reference.catalogued.1.world.runtime := by
  have hstarts : Reference.created.Starts := ⟨⟨rfl, rfl, rfl, rfl, rfl⟩, .fresh rfl rfl⟩
  have hstart : Transition.Reachable (fun r => r = (Reference.created, []))
      (recording System.act System.recordChanges) (Reference.created, []) := .start rfl
  have hreach : Transition.Reachable (fun r => r = (Reference.created, []))
      (recording System.act System.recordChanges) Reference.catalogued :=
    hstart.run (Option.some_get _).symm
  obtain ⟨-, hbound, hnodes⟩ := catalogue_follows_history (s := Reference.catalogued.1)
    Reference.runtimeLaws Reference.nodeLaws Reference.stepLaw hstarts hreach nofun
  exact ⟨rfl, (hbound _).trans rfl, (hnodes _).mpr (.inl ⟨[_, _, _], [], rfl, nofun⟩)⟩

end RtsynEngine
