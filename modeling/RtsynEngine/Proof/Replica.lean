import RtsynEngine.Proof.Descriptor
import RtsynEngine.Proof.Graph
import RtsynEngine.Proof.Loading
import RtsynEngine.Proof.Replies

/-! A client that takes the answer to one `REQUEST_RUNTIME_NODES` and then follows the results has
the nodes of the runtime, as long as what the engine does to them is told. -/

namespace RtsynEngine

open Transition

variable {D : Deps} {L : Limits}

/-! ### The client -/

/-- A node as the results show it: its id and the record of its descriptor. -/
abbrev NodeView (L : Limits) : Type := UInt32 × ResultNodeDescriptor L

def Node.view (n : Node L) : NodeView L :=
  (n.id, resultCopyDescriptor (ResultNodeDescriptor.zero L) n.descriptor.target)

/-- What a client does to its nodes on a result of status OK: it adds one that was added or is
listed, removes one that was removed, and removes those of a module that has been replaced. -/
def followResult (views : List (NodeView L)) (r : ResultMessage L) : List (NodeView L) :=
  match r.status, r.commandType with
  | .ok, .loadNode => views.filter fun v => v.2.name ≠ r.node.name
  | .ok, .addNode => (r.nodeId, r.node) :: views
  | .ok, .removeNode => views.filter fun v => v.1 ≠ r.nodeId
  | .ok, .requestRuntimeNodes =>
    if r.nodeId = L.nodeIdInvalid then views else (r.nodeId, r.node) :: views
  | _, _ => views

def followResults (views : List (NodeView L)) (rs : List (ResultMessage L)) : List (NodeView L) :=
  rs.foldl followResult views

theorem followResults_append (views : List (NodeView L)) (rs rs' : List (ResultMessage L)) :
    followResults views (rs ++ rs') = followResults (followResults views rs) rs' :=
  List.foldl_append

/-- The records of a snapshot only add nodes. -/
theorem mem_followResults {views : List (NodeView L)} {rs : List (ResultMessage L)}
    (h : ∀ r ∈ rs, r.status = .ok ∧ r.commandType = .requestRuntimeNodes) (v : NodeView L) :
    v ∈ followResults views rs ↔
      v ∈ views ∨ ∃ r ∈ rs, r.nodeId ≠ L.nodeIdInvalid ∧ v = (r.nodeId, r.node) := by
  induction rs generalizing views with
  | nil => simp [followResults]
  | cons r rs ih =>
    obtain ⟨hr, hrs⟩ := List.forall_mem_cons.mp h
    have hfirst : v ∈ followResult views r ↔
        v ∈ views ∨ r.nodeId ≠ L.nodeIdInvalid ∧ v = (r.nodeId, r.node) := by
      unfold followResult
      rw [hr.1, hr.2]
      by_cases hid : r.nodeId = L.nodeIdInvalid
      · simp [hid]
      · simp [hid, or_comm]
    show v ∈ followResults (followResult views r) rs ↔ _
    rw [ih hrs, hfirst, List.exists_mem_cons_iff, or_assoc]

namespace World

/-- All that the client has are nodes of the runtime. -/
def ShowsOnly (w : World D) (views : List (NodeView D.limits)) : Prop :=
  ∀ v ∈ views, ∃ n ∈ D.nodes w.runtime, n.view = v

/-- The client has the nodes of the runtime and no others. -/
def Shows (w : World D) (views : List (NodeView D.limits)) : Prop :=
  ∀ v, v ∈ views ↔ ∃ n ∈ D.nodes w.runtime, n.view = v

theorem Shows.only {w : World D} {views : List (NodeView D.limits)} (h : w.Shows views) :
    w.ShowsOnly views := fun v hv => (h v).mp hv

theorem Shows.congr {w w' : World D} {views : List (NodeView D.limits)} (h : w.Shows views)
    (hnodes : ∀ n, n ∈ D.nodes w'.runtime ↔ n ∈ D.nodes w.runtime) : w'.Shows views := by
  intro v
  rw [h v]
  simp only [hnodes]

/-- What a command does to the nodes can be told from its answers: they all find room, a load that
fails has not displaced anything, and one that succeeds does not report the name of another node. -/
structure Tells (w : World D) (m : CommandMessage D.limits) : Prop where
  room : HasRoom D (w.recordCount m) w.results
  intact : ∀ nodeType modulePath, m.data = .loadNode nodeType modulePath →
    ¬w.DisplacesInVain (CString.ofField modulePath) nodeType
  named : ∀ nodeType modulePath d, m.data = .loadNode nodeType modulePath →
    (w.loadNodeDescriptorAs (CString.ofField modulePath) nodeType).1 = some d →
    ∀ n ∈ D.nodes w.runtime,
      n.view.2.name = (resultCopyDescriptor (ResultNodeDescriptor.zero D.limits) d.target).name →
      n.name = d.target.name

/-! ### One command -/

/-- The answer to a command that pushes one record. -/
theorem answers_single {w w₁ : World D} {m : CommandMessage D.limits} {done : Bool}
    {r : ResultMessage D.limits} (hqueue : w.engine.config.resultQueue = true)
    (hroom : HasRoom D 1 w.results)
    (hpushed : w.dispatchCommand m = (done, (w₁.eventPushResult r).2))
    (haccepted : w₁.accepted = w.accepted) (hresults : w₁.results = w.results)
    (hconfig : w₁.engine.config = w.engine.config) : w.answers m = [r] := by
  have hpush : (w₁.eventPushResult r).1 = true := by
    rw [eventPushResult_eq (by rw [hconfig, hqueue]), hresults]
    exact (hroom r).1
  refine answers_eq ?_
  rw [congrArg Prod.snd hpushed, eventPushResult_accepted, hpush, haccepted]
  rfl

variable {w : World D} {views : List (NodeView D.limits)}

theorem loadNode_shows (laws : D.RuntimeLaws) (hqueue : w.engine.config.resultQueue = true)
    {seq : UInt64} {nodeType : NodeType} {modulePath : Vector UInt8 D.limits.modulePathSize}
    (htells : w.Tells ⟨seq, .loadNode nodeType modulePath⟩)
    (hm : (CommandData.loadNode nodeType modulePath).malformed D = false) (h : w.Shows views) :
    (w.dispatchCommand ⟨seq, .loadNode nodeType modulePath⟩).2.Shows
      (followResults views (w.answers ⟨seq, .loadNode nodeType modulePath⟩)) := by
  obtain ⟨descriptor, w₁, hload, hw⟩ := w.dispatch_loadNode seq hm
  have haccepted := w.loadNodeDescriptorAs_accepted (CString.ofField modulePath) nodeType
  have houtcome := w.loadNodeDescriptorAs_outcome (CString.ofField modulePath) nodeType
  have hcase := w.loadNodeDescriptorAs_case (CString.ofField modulePath) nodeType
  have hintact := htells.intact _ _ rfl
  have hnamed := htells.named nodeType modulePath
  rw [hload] at haccepted houtcome hcase hnamed
  have hkept : w₁.results = w.results ∧ w₁.engine.config = w.engine.config := by
    cases houtcome <;> exact ⟨rfl, rfl⟩
  rw [answers_single hqueue htells.room hw haccepted hkept.1 hkept.2]
  have hpushes := w₁.eventPushResult_onlyPushes
    { statusResult ⟨seq, .loadNode nodeType modulePath⟩ descriptor.isSome with
      node := loadedDescriptor descriptor }
  rw [hw]
  apply Shows.congr (w := w₁) ?_ (fun n => by rw [hpushes.runtime])
  cases descriptor with
  | none =>
    have hsame : SameNodes w w₁ := by
      cases hcase with
      | intact hnot hsame => exact hsame rfl
      | late name hlate hentries hruntime =>
        exact (sameNodes_removed_iff laws hentries hruntime).mpr fun hheld =>
          hintact ⟨name, hlate, hheld⟩
    exact h.congr hsame.nodes
  | some d =>
    have hname := hnamed d rfl rfl
    cases houtcome with
    | registered env e name hregistered htype =>
      intro v
      show v ∈ views.filter (fun v => v.2.name ≠ (loadedDescriptor (some e.descriptor)).name) ↔ _
      have hnodes := laws.removeNodesByName w.runtime name
      rw [List.mem_filter, h v, decide_eq_true_eq]
      constructor
      · rintro ⟨⟨n, hn, rfl⟩, hother⟩
        refine ⟨n, (hnodes n).mpr ⟨hn, fun hsame => hother ?_⟩, rfl⟩
        have hnames : n.descriptor.target.name = e.descriptor.target.name :=
          hsame.trans hregistered.symm
        simp only [Node.view, loadedDescriptor, resultCopyDescriptor, hnames]
      · rintro ⟨n, hn, rfl⟩
        obtain ⟨hold, hother⟩ := (hnodes n).mp hn
        refine ⟨⟨n, hold, rfl⟩, fun hsame => hother ?_⟩
        exact (hname n hold hsame).trans hregistered

theorem addNode_shows (laws : D.RuntimeLaws) (nodeLaws : D.NodeLaws)
    (hqueue : w.engine.config.resultQueue = true)
    {seq : UInt64} {nodeType : NodeType} {nodeName : Vector UInt8 D.limits.nodeNameSize}
    (htells : w.Tells ⟨seq, .addNode nodeType nodeName⟩)
    (hm : (CommandData.addNode nodeType nodeName).malformed D = false) (h : w.Shows views) :
    (w.dispatchCommand ⟨seq, .addNode nodeType nodeName⟩).2.Shows
      (followResults views (w.answers ⟨seq, .addNode nodeType nodeName⟩)) := by
  obtain ⟨node, w₁, hadd, hw⟩ := w.dispatch_addNode seq hm
  have houtcome := (w.addNodeAs_outcome (CString.ofField nodeName) nodeType).1
  rw [hadd] at houtcome
  have hkept : w₁.accepted = w.accepted ∧ w₁.results = w.results ∧ w₁.engine = w.engine := by
    cases houtcome <;> exact ⟨rfl, rfl, rfl⟩
  rw [answers_single hqueue htells.room hw hkept.1 hkept.2.1 (by rw [hkept.2.2])]
  have hpushes := w₁.eventPushResult_onlyPushes { statusResult
    ⟨seq, .addNode nodeType nodeName⟩ node.isSome with
      nodeId := (node.map Node.id).getD D.limits.nodeIdInvalid
      node := w₁.addedDescriptor (CString.ofField nodeName) }
  rw [hw]
  apply Shows.congr (w := w₁) ?_ (fun n => by rw [hpushes.runtime])
  cases houtcome with
  | rejected env => exact h
  | added env e n runtime hfound hcreated hcall =>
    have hview : n.view = (n.id, w.addedDescriptor (CString.ofField nodeName)) := by
      rw [Node.view, (createNodeFromDescriptor_spec nodeLaws hcreated).1, addedDescriptor, hfound]
    intro v
    show v ∈ (n.id, w.addedDescriptor (CString.ofField nodeName)) :: views ↔ _
    rw [← hview, List.mem_cons, h v]
    simp only [laws.addNode hcall]
    constructor
    · rintro (rfl | ⟨n', hn', rfl⟩)
      · exact ⟨n, .inr rfl, rfl⟩
      · exact ⟨n', .inl hn', rfl⟩
    · rintro ⟨n', hn' | rfl, rfl⟩
      · exact .inr ⟨n', hn', rfl⟩
      · exact .inl rfl

theorem removeNode_shows (laws : D.RuntimeLaws) (hqueue : w.engine.config.resultQueue = true)
    {seq : UInt64} {nodeId : UInt32} (htells : w.Tells ⟨seq, .removeNode nodeId⟩)
    (hm : (CommandData.removeNode nodeId : CommandData D.limits).malformed D = false)
    (h : w.Shows views) :
    (w.dispatchCommand ⟨seq, .removeNode nodeId⟩).2.Shows
      (followResults views (w.answers ⟨seq, .removeNode nodeId⟩)) := by
  obtain ⟨removed, w₁, hremove, hw⟩ := w.dispatch_removeNode seq hm
  have hpushes := w₁.eventPushResult_onlyPushes
    { statusResult ⟨seq, .removeNode nodeId⟩ removed with nodeId }
  cases hcall : D.removeNodeById w.runtime nodeId with
  | none =>
    rw [hcall] at hremove
    cases hremove
    rw [answers_single hqueue htells.room hw rfl rfl rfl, hw]
    exact h.congr fun n => by rw [hpushes.runtime]
  | some runtime =>
    rw [hcall] at hremove
    cases hremove
    rw [answers_single hqueue htells.room hw rfl rfl rfl, hw]
    intro v
    rw [hpushes.runtime]
    show v ∈ views.filter (fun v => v.1 ≠ nodeId) ↔ _
    rw [List.mem_filter, h v, decide_eq_true_eq]
    simp only [laws.removeNodeById hcall]
    constructor
    · rintro ⟨⟨n, hn, rfl⟩, hother⟩
      exact ⟨n, ⟨hn, hother⟩, rfl⟩
    · rintro ⟨n, ⟨hn, hother⟩, rfl⟩
      exact ⟨⟨n, hn, rfl⟩, hother⟩

/-- The record of a node shows it. -/
theorem nodeRecord_view (hcoherent : Coherent w) (seq : UInt64) {n : Node D.limits}
    (hn : n ∈ D.nodes w.runtime) : ∃ r, w.nodeRecord seq n = some r ∧ r.status = .ok ∧
      r.commandType = .requestRuntimeNodes ∧ (r.nodeId, r.node) = n.view := by
  obtain ⟨e, hfound, hdescriptor⟩ := Option.map_eq_some_iff.mp (hcoherent.registered n hn)
  unfold nodeRecord
  rw [hfound]
  refine ⟨_, rfl, rfl, rfl, ?_⟩
  rw [Node.view, ← hdescriptor]
  rfl

theorem connectionRecord_request {seq : UInt64} {c : Connection} {r : ResultMessage L}
    (h : connectionRecord L seq c = some r) : r.status = .ok ∧
      r.commandType = .requestRuntimeNodes ∧ r.nodeId = L.nodeIdInvalid := by
  unfold connectionRecord at h
  split at h
  · cases h
    exact ⟨rfl, rfl, rfl⟩
  · cases h

/-- A snapshot shows all nodes to a client that has no others. -/
theorem snapshot_shows (hqueue : w.engine.config.resultQueue = true) (hcoherent : Coherent w)
    {m : CommandMessage D.limits} (hm : m.data = .requestRuntimeNodes) (htells : w.Tells m)
    (h : w.ShowsOnly views) :
    (w.dispatchCommand m).2.Shows (followResults views (w.answers m)) := by
  have hroom := htells.room
  rw [recordCount, hm] at hroom
  obtain ⟨hanswers, -⟩ := snapshot_delivered hm hqueue hroom
  have hrecords : ∀ r ∈ w.snapshotRecords m.seq ++ [terminatorRecord D.limits m.seq],
      r.status = .ok ∧ r.commandType = .requestRuntimeNodes ∧
        (r.nodeId = D.limits.nodeIdInvalid ∨
          ∃ n ∈ D.nodes w.runtime, (r.nodeId, r.node) = n.view) := by
    intro r hr
    simp only [snapshotRecords, List.mem_append, List.mem_filterMap, List.mem_singleton] at hr
    rcases hr with (⟨n, hn, hr⟩ | ⟨c, hc, hr⟩) | rfl
    · obtain ⟨r', hr', hstatus, htype, hview⟩ := nodeRecord_view hcoherent m.seq hn
      cases hr.symm.trans hr'
      exact ⟨hstatus, htype, .inr ⟨n, hn, hview⟩⟩
    · obtain ⟨hstatus, htype, hid⟩ := connectionRecord_request hr
      exact ⟨hstatus, htype, .inl hid⟩
    · exact ⟨rfl, rfl, .inl rfl⟩
  have hruntime : (w.dispatchCommand m).2.runtime = w.runtime := by
    rw [w.eventRequestRuntimeNodes_eq hm]
    exact (w.pushResults_onlyPushes _).runtime
  intro v
  rw [hanswers, mem_followResults fun r hr => ⟨(hrecords r hr).1, (hrecords r hr).2.1⟩, hruntime]
  constructor
  · rintro (hv | ⟨r, hr, hid, rfl⟩)
    · exact h v hv
    · obtain ⟨-, -, hinvalid | ⟨n, hn, hview⟩⟩ := hrecords r hr
      · exact absurd hinvalid hid
      · exact ⟨n, hn, hview.symm⟩
  · rintro ⟨n, hn, rfl⟩
    obtain ⟨r, hr, -, -, hview⟩ := nodeRecord_view hcoherent m.seq hn
    refine .inr ⟨r, ?_, ?_, hview.symm⟩
    · refine List.mem_append_left _ (List.mem_append_left _ ?_)
      exact List.mem_filterMap.mpr ⟨n, hn, hr⟩
    · have hid : r.nodeId = n.id := congrArg Prod.fst hview
      rw [hid]
      exact n.valid

/-- A client that has the nodes of the runtime has them after a command that tells what it does. -/
theorem dispatch_shows (laws : D.RuntimeLaws) (nodeLaws : D.NodeLaws)
    (hqueue : w.engine.config.resultQueue = true) (hcoherent : Coherent w)
    {m : CommandMessage D.limits} (htells : w.Tells m) (h : w.Shows views) :
    (w.dispatchCommand m).2.Shows (followResults views (w.answers m)) := by
  by_cases hanswered : m.data.answered = false
  · have hquiet := w.dispatch_quiet hanswered
    have hnone : w.answers m = [] := by
      refine answers_eq ?_
      rw [accepted, hquiet.trace, List.append_nil, accepted]
    rw [hnone]
    exact h.congr fun n => by rw [hquiet.runtime.nodes laws]
  rw [Bool.not_eq_false] at hanswered
  by_cases hmalformed : m.data.malformed D = true
  · have hnone : w.answers m = [] := by
      refine answers_eq ?_
      rw [w.dispatch_malformed hmalformed, List.append_nil]
    rw [hnone, w.dispatch_malformed hmalformed]
    exact h
  rw [Bool.not_eq_true] at hmalformed
  obtain ⟨seq, data⟩ := m
  cases data with
  | loadNode nodeType modulePath => exact loadNode_shows laws hqueue htells hmalformed h
  | addNode nodeType nodeName => exact addNode_shows laws nodeLaws hqueue htells hmalformed h
  | removeNode nodeId => exact removeNode_shows laws hqueue htells hmalformed h
  | requestRuntimeNodes => exact snapshot_shows hqueue hcoherent rfl htells h.only
  | _ => cases hanswered

/-! ### Whole runs -/

variable {w' : World D} {state' : RtState D.limits}

/-- The dispatch of a command, with the results that the queue takes meanwhile. -/
theorem rtThreadStep_dispatch (laws : D.RuntimeLaws) (nodeLaws : D.NodeLaws)
    {nextDeadlineNs startedAtNs : UInt64} {i : Nat} {m : CommandMessage D.limits}
    (h : w.rtThreadStep (.dispatch nextDeadlineNs startedAtNs i m) = some (state', w')) :
    w'.accepted = w.accepted ++ (w.emit (.dispatched m)).answers m ∧
      w' = ((w.emit (.dispatched m)).dispatchCommand m).2 := by
  have hemit : SameGraph w (w.emit (.dispatched m)) := .emit rfl
  obtain ⟨as, rs, hrecorded, -⟩ := (w.emit (.dispatched m)).dispatch_contribution laws nodeLaws m
  cases h
  rw [answers_eq hrecorded.accepted, ← hemit.accepted]
  exact ⟨hrecorded.accepted, rfl⟩

end World

namespace System

variable {s s' : System D}

/-- What the loop is about to do to the nodes can be told from the results. -/
def Tells (s : System D) (a : Act D.limits) : Prop :=
  a = .step (.rt 0) → ∀ nextDeadlineNs startedAtNs i m,
    s.loop = .dispatch nextDeadlineNs startedAtNs i m → (s.world.emit (.dispatched m)).Tells m

/-- What a client's replica rests on, in every reachable state. -/
structure Replicates (s : System D) : Prop where
  coheres : s.Coheres
  queue : s.world.engine.config.resultQueue = true

theorem Replicates.act (laws : D.RuntimeLaws) (nodeLaws : D.NodeLaws)
    (stepLaw : D.StepLaw) (h : s.Replicates)
    {a : Act D.limits} (hact : s.act a = some s') : s'.Replicates := by
  refine ⟨h.coheres.act laws nodeLaws stepLaw hact, ?_⟩
  rw [act_resultQueue h.coheres.covered hact]
  exact h.queue

/-- A client that has the nodes has them after an act that tells what it does to them. -/
theorem act_shows (laws : D.RuntimeLaws) (nodeLaws : D.NodeLaws)
    (stepLaw : D.StepLaw) (h : s.Replicates) {a : Act D.limits}
    (htells : s.Tells a) (hact : s.act a = some s') {views : List (NodeView D.limits)}
    (hviews : s.world.Shows views) : ∃ rs, s'.world.accepted = s.world.accepted ++ rs ∧
      s'.world.Shows (followResults views rs) := by
  have hsame : s'.world.accepted = s.world.accepted →
      D.nodes s'.world.runtime = D.nodes s.world.runtime → ∃ rs,
        s'.world.accepted = s.world.accepted ++ rs ∧ s'.world.Shows (followResults views rs) := by
    intro haccepted hnodes
    exact ⟨[], by rw [haccepted, List.append_nil], hviews.congr fun n => by rw [hnodes]⟩
  cases act_effect h.coheres.covered hact with
  | loop hstep =>
    cases hdispatch : s.loop.inFlight with
    | nil =>
      have hgraph := World.rtThreadStep_sameGraph stepLaw hstep hdispatch
      exact hsame hgraph.accepted hgraph.nodes
    | cons m ms =>
      obtain ⟨nextDeadlineNs, startedAtNs, i, message, hloop⟩ :=
        s.loop.dispatch_of_inFlight hdispatch
      have htold := htells rfl _ _ _ _ hloop
      have hcoherent := h.coheres.dispatch_coherent hloop
      rw [hloop] at hstep
      obtain ⟨haccepted, hworld⟩ := World.rtThreadStep_dispatch laws nodeLaws hstep
      refine ⟨_, haccepted, ?_⟩
      rw [hworld]
      exact World.dispatch_shows (w := s.world.emit (.dispatched message)) laws nodeLaws h.queue
        hcoherent htold hviews
  | free ha hbefore hloop hworld =>
    rw [World.collectionDestroy, World.destroyElements_eq] at hworld
    have haccepted : s'.world.accepted = s.world.accepted := by
      rw [hworld]
      simp [World.accepted, World.unloadEvents, World.setLoadedNodes, Event.acceptedResult]
    exact hsame haccepted (by rw [hworld]; rfl)
  | launch ha hbefore hafter hworld | store ha hloop hworld | push m hloop hworld =>
    refine hsame ?_ ?_ <;> rw [hworld] <;> rfl

/-- A client that has the nodes has them at the end of a run that tells what it does to them. -/
theorem path_shows (laws : D.RuntimeLaws) (nodeLaws : D.NodeLaws)
    (stepLaw : D.StepLaw) (h : s.Replicates)
    {as : List (Act D.limits)} (hpath : Path act Tells s as s') {views : List (NodeView D.limits)}
    (hviews : s.world.Shows views) : ∃ rs, s'.world.accepted = s.world.accepted ++ rs ∧
      s'.world.Shows (followResults views rs) := by
  have hrun : s'.Replicates ∧ ∃ rs, s'.world.accepted = s.world.accepted ++ rs ∧
      s'.world.Shows (followResults views rs) := by
    refine hpath.invariant (P := fun _ t => t.Replicates ∧ ∃ rs,
      t.world.accepted = s.world.accepted ++ rs ∧ t.world.Shows (followResults views rs)) ?_ ?_
    · exact ⟨h, [], (List.append_nil _).symm, hviews⟩
    · rintro as t a t' ⟨ht, rs, haccepted, hshows⟩ htells hact
      refine ⟨ht.act laws nodeLaws stepLaw hact, ?_⟩
      obtain ⟨rs', haccepted', hshows'⟩ :=
        act_shows laws nodeLaws stepLaw ht htells hact hshows
      refine ⟨rs ++ rs', by rw [haccepted', haccepted, List.append_assoc], ?_⟩
      rw [followResults_append]
      exact hshows'
  exact hrun.2

end System

/-- In every run, a client that asks for the nodes of the runtime and follows the results from the
answer on has the nodes of the runtime, whatever is dispatched later, as long as the results tell
what it does to them. -/
theorem replica_follows (laws : D.RuntimeLaws) (nodeLaws : D.NodeLaws)
    (stepLaw : D.StepLaw) {s s₁ s' : System D}
    (h : Transition.Reachable System.Starts System.act s)
    (hqueue : s.world.engine.config.resultQueue = true) {nextDeadlineNs startedAtNs : UInt64}
    {i : Nat} {m : CommandMessage D.limits}
    (hloop : s.loop = .dispatch nextDeadlineNs startedAtNs i m)
    (hm : m.data = .requestRuntimeNodes) (htells : s.Tells (.step (.rt 0)))
    (hact : s.act (.step (.rt 0)) = some s₁) {as : List (Act D.limits)}
    (hpath : Path System.act System.Tells s₁ as s') {views : List (NodeView D.limits)}
    (hviews : s.world.ShowsOnly views) :
    s'.world.Shows (followResults views (s'.world.accepted.drop s.world.accepted.length)) := by
  have hcoheres := System.coheres_of_reachable laws nodeLaws stepLaw h
  have hreplicates : s.Replicates := ⟨hcoheres, hqueue⟩
  have htold := htells rfl _ _ _ _ hloop
  have hcoherent := hcoheres.dispatch_coherent hloop
  have hfirst : ∃ rs, s₁.world.accepted = s.world.accepted ++ rs ∧
      s₁.world.Shows (followResults views rs) := by
    cases System.act_effect hcoheres.covered hact with
    | loop hstep =>
      rw [hloop] at hstep
      obtain ⟨haccepted, hworld⟩ := World.rtThreadStep_dispatch laws nodeLaws hstep
      refine ⟨_, haccepted, ?_⟩
      rw [hworld]
      exact World.snapshot_shows (w := s.world.emit (.dispatched m)) hqueue hcoherent hm htold
        hviews
    | launch ha | store ha | free ha => exact ha.elim
  obtain ⟨rs, haccepted, hshows⟩ := hfirst
  obtain ⟨rs', haccepted', hshows'⟩ := System.path_shows laws nodeLaws stepLaw
    (hreplicates.act laws nodeLaws stepLaw hact) hpath hshows
  rw [haccepted', haccepted, List.append_assoc, List.drop_left, followResults_append]
  exact hshows'

namespace Reference

/-- An engine with a node in its runtime and with the commands of a client in its queue. -/
def replicated : System deps where
  world :=
    { loadedWorld with
      commands := [⟨1, .requestRuntimeNodes⟩, ⟨2, .addNode .plugin (nameField 110)⟩] }
  controller := .idle
  rtThreads := []
  waitThreads := []
  log := []

/-- The start of the engine and the steps of its loop up to the first dispatch. -/
def upToDispatch : List (Act limits) :=
  .step (.call .start) :: List.replicate 9 (.step (.controller true)) ++
    List.replicate 4 (.step (.rt 0))

/-- The engine about to dispatch the request. -/
def asked : System deps :=
  (Transition.run System.act replicated upToDispatch).get (by decide)

/-- The engine after the request, before it takes the next command. -/
def answered : System deps := (asked.act (.step (.rt 0))).get (by decide)

/-- The engine about to dispatch the next command. -/
def adding : System deps := (answered.act (.step (.rt 0))).get (by decide)

def added : System deps := (adding.act (.step (.rt 0))).get (by decide)

theorem replicated_starts : replicated.Starts where
  initial := ⟨rfl, rfl, rfl, rfl, rfl⟩
  coherent := by
    have hfresh : Coherent world := .fresh rfl rfl
    have hloaded := hfresh.run runtimeLaws nodeLaws
      [.loadNode modulePath, .addNode ⟨[110], by decide⟩]
    exact ⟨hloaded.distinct, hloaded.registered⟩

end Reference

theorem replica_follows_reference :
    Reference.added.world.Shows
      (followResults [] (Reference.added.world.accepted.drop
        Reference.asked.world.accepted.length)) ∧
      followResults [] (Reference.added.world.accepted.drop
        Reference.asked.world.accepted.length) =
        [⟨1, resultCopyDescriptor (ResultNodeDescriptor.zero _) Reference.descriptor.target⟩,
          ⟨0, resultCopyDescriptor (ResultNodeDescriptor.zero _) Reference.descriptor.target⟩] := by
  have hreach : Transition.Reachable System.Starts System.act Reference.asked :=
    (Transition.Reachable.start Reference.replicated_starts).run (Option.some_get _).symm
  have hasked : Reference.asked.loop = .dispatch 0 0 0 ⟨1, .requestRuntimeNodes⟩ := rfl
  have hadding : Reference.adding.loop = .dispatch 0 0 1 ⟨2, .addNode .plugin #v[110, 0, 0, 0]⟩ :=
    rfl
  have htells : Reference.asked.Tells (.step (.rt 0)) := by
    intro _ _ _ _ _ hloop
    cases hasked.symm.trans hloop
    exact ⟨fun _ => ⟨rfl, fun _ => ⟨rfl, trivial⟩⟩, fun _ _ => nofun, fun _ _ _ => nofun⟩
  have htells' : Reference.adding.Tells (.step (.rt 0)) := by
    intro _ _ _ _ _ hloop
    cases hadding.symm.trans hloop
    exact ⟨fun _ => ⟨rfl, trivial⟩, fun _ _ => nofun, fun _ _ _ => nofun⟩
  have hdrains : Reference.answered.Tells (.step (.rt 0)) := by
    intro _ _ _ _ _ hloop
    have hdrain : Reference.answered.loop = .drain 0 0 1 := rfl
    cases hdrain.symm.trans hloop
  have hpath : Path System.act System.Tells Reference.answered
      [.step (.rt 0), .step (.rt 0)] Reference.added :=
    .tail (.tail .refl hdrains (Option.some_get _).symm) htells' (Option.some_get _).symm
  exact ⟨replica_follows Reference.runtimeLaws Reference.nodeLaws Reference.stepLaw hreach rfl
    hasked rfl htells (Option.some_get _).symm hpath fun _ hv => (nomatch hv), by decide⟩

end RtsynEngine
