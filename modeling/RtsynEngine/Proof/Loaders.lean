import Mathlib.Data.List.Perm.Basic
import RtsynEngine.Proof.Graph
import RtsynEngine.Proof.Lifetime

/-! Every module loader that the engine creates is registered or destroyed, and destroyed once: over
all operations of a host and its clients, and over all runs of the engine's threads. -/

namespace RtsynEngine

open Transition

variable {D : Deps} {L : Limits}

/-- The loader that an event destroys. -/
def Event.unloads : Event L → Option ModuleLoader
  | .loaderDestroy loader _ _ => some loader
  | _ => none

/-- The loaders destroyed in a history. -/
def unloaded (trace : List (Event L)) : List ModuleLoader := trace.filterMap Event.unloads

theorem unloaded_append (trace trace' : List (Event L)) :
    unloaded (trace ++ trace') = unloaded trace ++ unloaded trace' :=
  List.filterMap_append

theorem unloaded_of_telemetry {events : List (Event L)}
    (h : ∀ e ∈ events, ∃ m, e.telemetry = some m) : unloaded events = [] := by
  apply List.filterMap_eq_nil_iff.mpr
  intro e he
  obtain ⟨m, hm⟩ := h e he
  cases e <;> first | rfl | cases hm

namespace World

/-- The loaders in `loaded_nodes` and those that have been destroyed. -/
def accounted (w : World D) : List ModuleLoader :=
  w.engine.loadedNodes.map LoadedNode.loader ++ unloaded w.trace

/-- The loader that a load of a module creates. -/
def creates (w : World D) (modulePath : CString) : List ModuleLoader :=
  (D.moduleLoaderCreate w.env modulePath).1.toList

theorem accounted_congr {w w' : World D} (hnodes : w'.engine.loadedNodes = w.engine.loadedNodes)
    (htrace : unloaded w'.trace = unloaded w.trace) : w'.accounted = w.accounted := by
  rw [accounted, accounted, hnodes, htrace]

theorem accounted_of_pushes {w w' : World D} (h : OnlyPushes w w') :
    w'.accounted = w.accounted := by
  apply accounted_congr
  · rw [h.engine]
  · obtain ⟨pushes, htrace⟩ := h.trace
    have hnone : unloaded (pushes.map fun p => (.resultPush p.1 p.2 : Event D.limits)) = [] := by
      apply List.filterMap_eq_nil_iff.mpr
      intro e he
      obtain ⟨p, -, rfl⟩ := List.mem_map.mp he
      rfl
    rw [htrace, unloaded_append, hnone, List.append_nil]

theorem moduleLoaderDestroy_accounted (w : World D) (loader : ModuleLoader) (registered : Bool) :
    (w.moduleLoaderDestroy loader registered).accounted = w.accounted ++ [loader] := by
  simp [accounted, moduleLoaderDestroy, emit, unloaded, Event.unloads]

theorem unloaded_unloadEvents (es : List LoadedNode) (nodes : List (Node D.limits)) :
    unloaded (unloadEvents es nodes) = es.map LoadedNode.loader := by
  induction es with
  | nil => rfl
  | cons e es ih =>
    show e.loader :: unloaded (unloadEvents es nodes) = _
    rw [ih, List.map_cons]

/-- What is removed by name goes from the registry to the destroyed. -/
theorem removedByName_accounted (w : World D) (name : CString) :
    (w.removedByName name).accounted.Perm w.accounted := by
  have hsplit := (List.filter_append_perm (fun e => cmpByName e (some name))
    w.engine.loadedNodes).map LoadedNode.loader
  rw [List.map_append] at hsplit
  show (List.map LoadedNode.loader
    (w.engine.loadedNodes.filter fun e => !cmpByName e (some name)) ++
      unloaded (w.trace ++ _)).Perm _
  rw [unloaded_append, unloaded_unloadEvents, ← List.append_assoc]
  exact List.perm_append_comm.trans
    ((List.append_assoc ..).symm ▸ hsplit.append_right (unloaded w.trace))

/-- A load registers the loader that it creates or destroys it. -/
theorem load_accounted (w : World D) (modulePath : CString) (nodeType : NodeType) :
    (w.loadNodeDescriptorAs modulePath nodeType).2.accounted.Perm
      (w.accounted ++ w.creates modulePath) := by
  unfold loadNodeDescriptorAs creates
  split
  · next env hcreate =>
    rw [hcreate]
    exact .of_eq (List.append_nil _).symm
  · next loader env hcreate =>
    rw [hcreate]
    have hdestroyed : ∀ env' : D.Env,
        (({ w with env := env' } : World D).moduleLoaderDestroy loader false).accounted.Perm
          (w.accounted ++ [loader]) := by
      intro env'
      rw [moduleLoaderDestroy_accounted]
      exact .refl _
    dsimp only
    split
    · exact hdestroyed env
    · next descriptor hexported =>
      split
      · exact hdestroyed env
      · next name hname =>
        split
        · exact hdestroyed env
        · split
          · next env' _ => exact hdestroyed env'
          · next env' _ =>
            rw [replaceLoadedNode_eq]
            have hremoved := removedByName_accounted ({ w with env := env' } : World D) name
            split
            · show (moduleLoaderDestroy _ loader false).accounted.Perm _
              rw [moduleLoaderDestroy_accounted]
              exact hremoved.append_right [loader]
            · show (List.map LoadedNode.loader (_ ++ [_]) ++ unloaded _).Perm _
              rw [List.map_append, List.append_assoc]
              have hcomm : ∀ loaders : List ModuleLoader,
                  ([loader] ++ loaders).Perm (loaders ++ [loader]) :=
                fun _ => List.perm_append_comm
              exact (List.perm_append_comm_assoc ..).trans
                ((hcomm _).trans (hremoved.append_right [loader]))

end World

/-- The loader that a command creates. -/
def CommandData.creates (data : CommandData D.limits) (w : World D) : List ModuleLoader :=
  match data with
  | .loadNode nodeType modulePath =>
    if (CommandData.loadNode nodeType modulePath).malformed D then []
    else w.creates (CString.ofField modulePath)
  | _ => []

namespace World

/-- Only a load creates or destroys loaders. -/
theorem Action.accounted {w w₁ : World D} {data : CommandData D.limits} (h : w.Action data w₁)
    (hdata : ∀ nodeType modulePath, data ≠ .loadNode nodeType modulePath) :
    w₁.accounted = w.accounted := by
  cases h with
  | quiet hanswered hquiet => exact accounted_congr hquiet.loadedNodes (by rw [hquiet.trace])
  | nothing hanswered => rfl
  | load nodeType modulePath => exact absurd rfl (hdata nodeType modulePath)
  | add nodeType nodeName =>
    have houtcome := (w.addNodeAs_outcome (CString.ofField nodeName) nodeType).1
    generalize w.addNodeAs (CString.ofField nodeName) nodeType = r at houtcome
    cases houtcome <;> rfl
  | remove nodeId => cases D.removeNodeById w.runtime nodeId <;> rfl

theorem dispatch_accounted (w : World D) (m : CommandMessage D.limits) :
    (w.dispatchCommand m).2.accounted.Perm (w.accounted ++ m.data.creates w) := by
  by_cases hload : ∃ nodeType modulePath, m.data = .loadNode nodeType modulePath
  · obtain ⟨seq, data⟩ := m
    obtain ⟨nodeType, modulePath, rfl⟩ := hload
    by_cases hmalformed : (CommandData.loadNode nodeType modulePath).malformed D = true
    · rw [w.dispatch_malformed hmalformed]
      simp [CommandData.creates, hmalformed]
    · rw [Bool.not_eq_true] at hmalformed
      obtain ⟨descriptor, w₁, heq, hw⟩ := w.dispatch_loadNode seq hmalformed
      rw [hw, accounted_of_pushes (w₁.eventPushResult_onlyPushes _)]
      have haccounted := w.load_accounted (CString.ofField modulePath) nodeType
      rw [heq] at haccounted
      simpa [CommandData.creates, hmalformed] using haccounted
  · obtain ⟨w₁, haction, hpushes⟩ := w.dispatch_action m
    have hdata : ∀ nodeType modulePath, m.data ≠ .loadNode nodeType modulePath :=
      fun nodeType modulePath heq => hload ⟨nodeType, modulePath, heq⟩
    have hnone : m.data.creates w = [] := by
      unfold CommandData.creates
      split
      · next nodeType modulePath heq => exact absurd heq (hdata nodeType modulePath)
      · rfl
    rw [accounted_of_pushes hpushes, haction.accounted hdata, hnone, List.append_nil]

/-- The loader that an operation creates. -/
def performs (w : World D) : Operation D.limits → List ModuleLoader
  | .loadNode modulePath | .loadNodeAs modulePath _ => w.creates modulePath
  | .command m => m.data.creates w
  | .addNode _ | .addNodeAs _ _ => []

/-- The loaders that a sequence of operations creates. -/
def createdBy (w : World D) : List (Operation D.limits) → List ModuleLoader
  | [] => []
  | op :: ops => w.performs op ++ (w.perform op).createdBy ops

theorem perform_accounted (w : World D) (op : Operation D.limits) :
    (w.perform op).accounted.Perm (w.accounted ++ w.performs op) := by
  have hadd : ∀ {name : CString} {r : Option (Node D.limits) × World D}, w.AddOutcome name r →
      r.2.accounted.Perm (w.accounted ++ []) := by
    intro name r houtcome
    rw [List.append_nil]
    cases houtcome <;> exact .refl _
  cases op with
  | loadNode modulePath => exact w.load_accounted modulePath .invalid
  | loadNodeAs modulePath nodeType => exact w.load_accounted modulePath nodeType
  | addNode nodeName => exact hadd (w.addNode_outcome nodeName)
  | addNodeAs nodeName nodeType => exact hadd (w.addNodeAs_outcome nodeName nodeType).1
  | command m => exact w.dispatch_accounted m

theorem performAll_accounted (w : World D) (ops : List (Operation D.limits)) :
    (w.performAll ops).accounted.Perm (w.accounted ++ w.createdBy ops) := by
  induction ops generalizing w with
  | nil => simp [performAll, createdBy]
  | cons op ops ih =>
    have hfirst := (w.perform_accounted op).append_right ((w.perform op).createdBy ops)
    rw [createdBy, ← List.append_assoc]
    exact (ih (w.perform op)).trans hfirst

/-- The end of the engine destroys all loaders that are registered. -/
theorem collectionDestroy_accounted (w : World D) :
    w.collectionDestroy.engine.loadedNodes = [] ∧
      w.collectionDestroy.accounted.Perm w.accounted := by
  refine ⟨rfl, ?_⟩
  show (unloaded (w.destroyElements w.engine.loadedNodes).trace).Perm w.accounted
  rw [destroyElements_eq, unloaded_append, unloaded_unloadEvents]
  exact List.perm_append_comm

end World

/-- Whatever operations are performed on an engine in whatever state, each loader that was
registered or that a load created is registered or has been destroyed, as often as it was created;
the end of the engine leaves none registered.  So if the loaders are distinct, none is destroyed
twice and none that is registered has been destroyed. -/
theorem loaders_conserved (w : World D) (ops : List (Operation D.limits)) :
    (w.performAll ops).accounted.Perm (w.accounted ++ w.createdBy ops) ∧
      (unloaded (w.performAll ops).destroy.trace).Perm (w.accounted ++ w.createdBy ops) ∧
      ((w.accounted ++ w.createdBy ops).Nodup →
        (unloaded (w.performAll ops).trace).Nodup ∧
          ∀ e ∈ (w.performAll ops).engine.loadedNodes,
            e.loader ∉ unloaded (w.performAll ops).trace) := by
  have hall := w.performAll_accounted ops
  obtain ⟨hempty, hend⟩ := (w.performAll ops).requestStop.collectionDestroy_accounted
  refine ⟨hall, ?_, fun hnodup => ?_⟩
  · have haccounted : (w.performAll ops).destroy.accounted =
        unloaded (w.performAll ops).destroy.trace := by
      show List.map _ (w.performAll ops).requestStop.collectionDestroy.engine.loadedNodes ++ _ = _
      rw [hempty]
      rfl
    exact haccounted ▸ hend.trans hall
  · obtain ⟨-, htrace, hdisjoint⟩ := List.nodup_append.mp (hall.nodup_iff.mpr hnodup)
    refine ⟨htrace, fun e he hmem => ?_⟩
    exact hdisjoint _ (List.mem_map_of_mem he) _ hmem rfl

namespace Reference

/-- Two loads of the same module. -/
def loadTwice : List (Operation limits) := [.loadNode modulePath, .loadNode modulePath]

end Reference

theorem loaders_conserved_reference :
    (Reference.world.createdBy Reference.loadTwice).length = 2 ∧
      (unloaded (Reference.world.performAll Reference.loadTwice).trace).Nodup ∧
      (unloaded (Reference.world.performAll Reference.loadTwice).destroy.trace).Perm
        (Reference.world.createdBy Reference.loadTwice) := by
  obtain ⟨-, hend, hdistinct⟩ := loaders_conserved Reference.world Reference.loadTwice
  exact ⟨rfl, (hdistinct (by decide)).1, hend⟩

/-! ### Runs of the threads -/

/-- The loader that the next step of an RT thread creates. -/
def RtState.creates (state : RtState D.limits) (w : World D) : List ModuleLoader :=
  match state with
  | .dispatch _ _ _ m => m.data.creates w
  | _ => []

namespace World

theorem publish_accounted (w : World D) (call : PublisherCall D.limits) :
    (w.publish call).accounted = w.accounted := by
  have hpublishes : Publishes (fun _ => True) w (w.publish call) :=
    w.publish_publishes call fun _ _ => trivial
  obtain ⟨events, htrace, -, hevents⟩ := w.publish_trace call
  apply accounted_congr
  · rw [hpublishes.engine]
  · have hnone : unloaded events = [] := by
      apply unloaded_of_telemetry
      intro e he
      obtain ⟨m, hm, -⟩ := hevents e he
      exact ⟨m, hm⟩
    rw [htrace, unloaded_append, hnone, List.append_nil]

theorem publishCycle_accounted (w : World D) (startedAtNs finishedAtNs : UInt64) :
    (w.publishCycle startedAtNs finishedAtNs).accounted = w.accounted :=
  (publish_accounted _ (.dropped finishedAtNs)).trans
    ((publish_accounted _ (.cycleEnd startedAtNs finishedAtNs)).trans
      (w.publish_accounted (.requestedValues finishedAtNs)))

theorem measureCycle_accounted (w : World D)
    (nextDeadlineNs startedAtNs cycleCompletedAtNs periodNs : UInt64) :
    (w.measureCycle nextDeadlineNs startedAtNs cycleCompletedAtNs periodNs).accounted =
      w.accounted := by
  unfold measureCycle
  split
  · rfl
  · exact publish_accounted _ (.measurement cycleCompletedAtNs (some _))

theorem emit_accounted (w : World D) {e : Event D.limits} (he : e.unloads = none) :
    (w.emit e).accounted = w.accounted := by
  apply accounted_congr
  · rfl
  · rw [emit_trace, unloaded_append]
    simp [unloaded, he]

theorem rtThreadStep_accounted {w w' : World D} {state state' : RtState D.limits}
    (h : w.rtThreadStep state = some (state', w')) :
    w'.accounted.Perm (w.accounted ++ state.creates w) := by
  have hsame : ∀ {w' : World D}, w'.accounted = w.accounted →
      w'.accounted.Perm (w.accounted ++ []) := by
    intro w' heq
    rw [heq, List.append_nil]
  cases rtThreadStep_cases h with
  | dispatch nextDeadlineNs startedAtNs i message =>
    have hdispatch := (w.emit (.dispatched message)).dispatch_accounted message
    rw [emit_accounted w rfl] at hdispatch
    exact hdispatch
  | cycleBegin nextDeadlineNs => exact hsame (publish_accounted w.getTime.2 _)
  | finish nextDeadlineNs startedAtNs => exact hsame (publishCycle_accounted w.getTime.2 _ _)
  | measure nextDeadlineNs startedAtNs cycleCompletedAtNs periodNs =>
    exact hsame (w.measureCycle_accounted _ _ _ _)
  | step nextDeadlineNs startedAtNs =>
    exact hsame (emit_accounted
      ({ w with runtime := (D.step w.runtime w.env).1, env := (D.step w.runtime w.env).2 } :
        World D) rfl)
  | sleep nextDeadlineNs startedAtNs finishedAtNs periodNs hperiod =>
    exact hsame (emit_accounted
      ({ w with env := D.threadSleepUntil w.env (nextDeadlineNs + periodNs) } : World D) rfl)
  | _ => exact hsame rfl

end World

namespace System

variable {s s' : System D} {a : Act D.limits}

/-- The loader that an act creates. -/
def loads (s : System D) : Act D.limits → List ModuleLoader
  | .step (.rt i) =>
    match s.rtThreads[i]? with
    | some t => t.state.creates s.world
    | none => []
  | _ => []

/-- The history of the loaders that have been created. -/
def recordLoaders (s : System D) (a : Act D.limits) (created : List ModuleLoader) :
    List ModuleLoader :=
  created ++ s.loads a

theorem act_accounted (h : s.Covered) (hstep : s.act a = some s') :
    s'.world.accounted.Perm (s.world.accounted ++ s.loads a) := by
  by_cases hrt : ∃ i, a = .step (.rt i)
  · obtain ⟨i, rfl⟩ := hrt
    obtain ⟨t, state, world, hi, hthread, rfl⟩ := rt_step hstep
    have haccounted := World.rtThreadStep_accounted hthread
    simpa [loads, hi] using haccounted
  · have hnone : s.loads a = [] := by
      unfold loads
      split
      · next i => exact absurd ⟨i, rfl⟩ hrt
      · rfl
    rw [hnone, List.append_nil]
    cases act_effect h hstep with
    | loop => exact absurd ⟨0, rfl⟩ hrt
    | launch ha hbefore hafter hworld => rw [hworld]
    | store ha hloop hworld =>
      apply List.Perm.of_eq
      apply World.accounted_congr <;> (rw [hworld]; rfl)
    | push m hloop hworld =>
      apply List.Perm.of_eq
      apply World.accounted_congr <;> rw [hworld]
    | free ha hbefore hloop hworld =>
      rw [hworld]
      exact s.world.collectionDestroy_accounted.2

/-- Nothing is registered once the engine is destroyed. -/
theorem act_unregistered (h : s.Covered)
    (hempty : s.controller = .destroyed → s.world.engine.loadedNodes = [])
    (hstep : s.act a = some s') (hdestroyed : s'.controller = .destroyed) :
    s'.world.engine.loadedNodes = [] := by
  cases a with
  | requestStop =>
    cases hstep
    exact hempty hdestroyed
  | step a =>
    rcases (step_destroyed hstep).mp hdestroyed with hbefore | ⟨hfree, outcome, rfl⟩
    · have hnodes := hempty hbefore
      have hdetached := h.detached (h.coverage.quiet (by rw [hbefore]; rfl))
      cases a with
      | call call =>
        obtain ⟨hidle, -⟩ := call_step hstep
        rw [hbefore] at hidle
        cases hidle
      | controller outcome =>
        have hnone : s.controllerStep outcome = none := by
          unfold controllerStep
          rw [hbefore]
        cases hnone.symm.trans hstep
      | rt i => cases (hdetached.rt_step i).symm.trans hstep
      | wait i outcome =>
        obtain ⟨waitThreads, rfl⟩ := hdetached.wait_step hstep
        exact hnodes
      | pushCommand m =>
        cases hstep
        exact hnodes
    · have hend : s.controllerStep outcome =
          some { s with world := s.world.collectionDestroy, controller := .destroyed } := by
        unfold controllerStep
        rw [hfree]
      cases hend.symm.trans hstep
      exact s.world.collectionDestroy_accounted.1

/-- Every loader is accounted for in every run, and none is registered once the engine is
destroyed. -/
theorem run_accounted {s₀ : System D} {created : List ModuleLoader} (hinit : s₀.Initial)
    (h : Transition.Reachable (fun r => r = (s₀, [])) (recording act recordLoaders) (s, created)) :
    s.Covered ∧ s.world.accounted.Perm (s₀.world.accounted ++ created) ∧
      (s.controller = .destroyed → s.world.engine.loadedNodes = []) := by
  refine h.invariant (P := fun r => r.1.Covered ∧
    r.1.world.accounted.Perm (s₀.world.accounted ++ r.2) ∧
    (r.1.controller = .destroyed → r.1.world.engine.loadedNodes = [])) ?_ ?_
  · rintro r rfl
    refine ⟨covered_of_initial hinit, by simp, fun hdestroyed => ?_⟩
    rw [hinit.2.1] at hdestroyed
    cases hdestroyed
  · rintro ⟨s, created⟩ a r ⟨hcovered, haccounted, hempty⟩ hstep
    obtain ⟨s', hact, rfl⟩ := Option.map_eq_some_iff.mp hstep
    refine ⟨hcovered.act hact, ?_, act_unregistered hcovered hempty hact⟩
    show s'.world.accounted.Perm (s₀.world.accounted ++ (created ++ s.loads a))
    rw [← List.append_assoc]
    exact (act_accounted hcovered hact).trans (haccounted.append_right _)

end System

/-- In every run of a created engine, with the commands of any clients: each loader that was there
or that a dispatched `LOAD_NODE` created is registered or has been destroyed, as often as it was
created; and once `rtsyn_engine_destroy` has returned all have been destroyed. -/
theorem loaders_destroyed_once {s₀ s : System D} {created : List ModuleLoader}
    (hinit : s₀.Initial)
    (h : Transition.Reachable (fun r => r = (s₀, [])) (recording System.act System.recordLoaders)
      (s, created)) :
    s.world.accounted.Perm (s₀.world.accounted ++ created) ∧
      (s.controller = .destroyed → s.world.engine.loadedNodes = [] ∧
        (unloaded s.world.trace).Perm (s₀.world.accounted ++ created)) := by
  obtain ⟨-, haccounted, hempty⟩ := System.run_accounted hinit h
  refine ⟨haccounted, fun hdestroyed => ⟨hempty hdestroyed, ?_⟩⟩
  have htrace : s.world.accounted = unloaded s.world.trace := by
    rw [World.accounted, hempty hdestroyed]
    rfl
  exact htrace ▸ haccounted

namespace Reference

/-- A run in which the engine loads its module and is destroyed. -/
def loadAndDestroy : List (Step limits) :=
  [.pushCommand ⟨1, .loadNode .plugin (nameField 109)⟩, .call .start] ++
    List.replicate 9 (.controller true) ++ List.replicate 5 (.rt 0) ++
    [.call .requestStop, .controller true] ++ List.replicate 7 (.rt 0) ++
    List.replicate 4 (.wait 0 true) ++ .call .destroy :: List.replicate 9 (.controller true)

/-- The engine at the end of that run, with the loaders that it has created. -/
def loadedAndDestroyed : System deps × List ModuleLoader :=
  (Transition.run (recording System.act System.recordLoaders) (created, [])
    (loadAndDestroy.map Act.step)).get (by decide)

end Reference

theorem loaders_destroyed_once_reference :
    Reference.loadedAndDestroyed.1.controller = .destroyed ∧
      (unloaded Reference.loadedAndDestroyed.1.world.trace).Perm
        Reference.loadedAndDestroyed.2 ∧
      Reference.loadedAndDestroyed.2.length = 1 := by
  have hstart : Transition.Reachable (fun r => r = (Reference.created, []))
      (recording System.act System.recordLoaders) (Reference.created, []) := .start rfl
  have hreach : Transition.Reachable (fun r => r = (Reference.created, []))
      (recording System.act System.recordLoaders) Reference.loadedAndDestroyed :=
    hstart.run (Option.some_get _).symm
  exact ⟨rfl, ((loaders_destroyed_once ⟨rfl, rfl, rfl, rfl, rfl⟩ hreach).2 rfl).2, rfl⟩

/-- In every run, as long as the RT loop has not returned, each node of the runtime is of the
descriptor of a registered module, whose loader has been destroyed less often than it was created:
no step of the loop runs the code of a module that is not loaded. -/
theorem nodes_stay_loaded (laws : D.RuntimeLaws) (nodeLaws : D.NodeLaws)
    (stepLaw : D.StepLaw) {s₀ s : System D}
    {created : List ModuleLoader} (hstarts : s₀.Starts)
    (h : Transition.Reachable (fun r => r = (s₀, [])) (recording System.act System.recordLoaders)
      (s, created)) (hlive : s.loop ≠ .returned) :
    ∀ n ∈ D.nodes s.world.runtime, ∃ e ∈ s.world.engine.loadedNodes,
      e.descriptor = n.descriptor ∧
        (unloaded s.world.trace).count e.loader <
          (s₀.world.accounted ++ created).count e.loader := by
  have hreach : Transition.Reachable System.Starts System.act s := by
    refine h.of_recording ?_
    rintro r rfl
    exact hstarts
  have hcoherent := (System.coheres_of_reachable laws nodeLaws stepLaw hreach).live hlive
  obtain ⟨-, haccounted, -⟩ := System.run_accounted hstarts.initial h
  intro n hn
  obtain ⟨e, hfound, hdescriptor⟩ := Option.map_eq_some_iff.mp (hcoherent.registered n hn)
  have he : e ∈ s.world.engine.loadedNodes := (collectionGet_name hfound).1
  refine ⟨e, he, hdescriptor, ?_⟩
  have hregistered : 0 < (s.world.engine.loadedNodes.map LoadedNode.loader).count e.loader :=
    List.count_pos_iff.mpr (List.mem_map_of_mem he)
  rw [← haccounted.count_eq, World.accounted, List.count_append]
  omega

namespace Reference

/-- A run up to the step of the runtime, in a cycle that loads the module and adds a node. -/
def loadAndStep : List (Step limits) :=
  [.pushCommand ⟨1, .loadNode .plugin (nameField 109)⟩,
      .pushCommand ⟨2, .addNode .plugin (nameField 110)⟩, .call .start] ++
    List.replicate 9 (.controller true) ++ List.replicate 9 (.rt 0)

def steppingLoaded : System deps × List ModuleLoader :=
  (Transition.run (recording System.act System.recordLoaders) (created, [])
    (loadAndStep.map Act.step)).get (by decide)

end Reference

theorem nodes_stay_loaded_reference :
    Reference.steppingLoaded.1.loop = .step 0 0 ∧
      (Reference.deps.nodes Reference.steppingLoaded.1.world.runtime).length = 1 ∧
      ∀ n ∈ Reference.deps.nodes Reference.steppingLoaded.1.world.runtime,
        ∃ e ∈ Reference.steppingLoaded.1.world.engine.loadedNodes, e.descriptor = n.descriptor ∧
          (unloaded Reference.steppingLoaded.1.world.trace).count e.loader <
            (Reference.created.world.accounted ++ Reference.steppingLoaded.2).count e.loader := by
  have hstarts : Reference.created.Starts := ⟨⟨rfl, rfl, rfl, rfl, rfl⟩, .fresh rfl rfl⟩
  have hloop : Reference.steppingLoaded.1.loop = .step 0 0 := rfl
  have hstart : Transition.Reachable (fun r => r = (Reference.created, []))
      (recording System.act System.recordLoaders) (Reference.created, []) := .start rfl
  have hreach : Transition.Reachable (fun r => r = (Reference.created, []))
      (recording System.act System.recordLoaders) Reference.steppingLoaded :=
    hstart.run (Option.some_get _).symm
  refine ⟨hloop, rfl, ?_⟩
  exact nodes_stay_loaded Reference.runtimeLaws Reference.nodeLaws Reference.stepLaw hstarts hreach
    (by rw [hloop]; nofun)

end RtsynEngine
