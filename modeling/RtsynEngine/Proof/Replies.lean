import RtsynEngine.Proof.Handlers
import RtsynEngine.Reference

/-! The stream of results against the history of commands: which records a command contributes,
what they say, and which commands a client gets an answer to. -/

namespace RtsynEngine

variable {D : Deps}

/-- The commands answered by one record. -/
def CommandType.single : CommandType → Bool
  | .loadNode | .addNode | .removeNode => true
  | _ => false

theorem requestRuntimeNodes_of_answered {L : Limits} {m : CommandMessage L}
    (hanswered : m.data.answered = true) (hsingle : m.type.single = false) :
    m.data = .requestRuntimeNodes := by
  obtain ⟨seq, data⟩ := m
  cases data with
  | requestRuntimeNodes => rfl
  | loadNode => cases hsingle
  | addNode => cases hsingle
  | removeNode => cases hsingle
  | _ => cases hanswered

/-- What a record of status OK reports, of the registry and the nodes that its command leaves. -/
def Reported (es : List LoadedNode) (ns : List (Node D.limits)) (data : CommandData D.limits)
    (r : ResultMessage D.limits) : Prop :=
  match data with
  | .loadNode nodeType _ =>
    ∃ e, collectionGet es e.name = some e ∧ e.descriptor.target.nodeType = nodeType ∧
      r.node = resultCopyDescriptor (ResultNodeDescriptor.zero D.limits) e.descriptor.target
  | .addNode nodeType nodeName =>
    r.nodeId ≠ D.limits.nodeIdInvalid ∧
      ∃ n ∈ ns, n.id = r.nodeId ∧ n.nodeType = nodeType ∧
        ∃ e, collectionGet es (some (CString.ofField nodeName)) = some e ∧
          n.descriptor = e.descriptor
  | .removeNode nodeId => r.nodeId = nodeId ∧ ∀ n ∈ ns, n.id ≠ nodeId
  | _ => True

/-- The records `rs` that a command contributes. -/
structure Contribution (w : World D) (m : CommandMessage D.limits)
    (rs : List (ResultMessage D.limits)) : Prop where
  origin : ∀ r ∈ rs, r.seq = m.seq ∧ r.commandType = m.type
  unanswered : m.data.answered = false → rs = []
  single : m.type.single = true → rs.length ≤ 1
  terminator : ∀ before r after, rs = before ++ r :: after → r.isTerminator → after = []
  status : m.type.single = true → ∀ r ∈ rs,
    (r.status = .ok ↔ (w.dispatchCommand m).1 = true) ∧ (r.status = .ok → r.statusCode = 0)
  effect : m.type.single = true → (w.dispatchCommand m).1 = true → ∀ r ∈ rs,
    Reported (w.dispatchCommand m).2.engine.loadedNodes
      (D.nodes (w.dispatchCommand m).2.runtime) m.data r

/-- The answers to a run of commands: for each in its order, the records `as` that it pushes and
those of them, `rs`, that the queue takes. -/
inductive Answers : World D → List (CommandMessage D.limits) → List (ResultMessage D.limits) →
    List (ResultMessage D.limits) → Prop
  | nil (w : World D) : Answers w [] [] []
  | cons {w : World D} {m : CommandMessage D.limits} {ms : List (CommandMessage D.limits)}
      {as rs as' rs' : List (ResultMessage D.limits)} (hpushed : Contribution w m as)
      (htaken : Contribution w m rs) (hsublist : rs.Sublist as)
      (hrest : Answers (w.dispatchCommand m).2 ms as' rs') :
      Answers w (m :: ms) (as ++ as') (rs ++ rs')

theorem Contribution.none (w : World D) {m : CommandMessage D.limits} : Contribution w m [] where
  origin _ h := nomatch h
  unanswered _ := rfl
  single _ := Nat.zero_le _
  terminator before r after h := by simp at h
  status _ _ h := nomatch h
  effect _ _ _ h := nomatch h

theorem Contribution.sublist {w : World D} {m : CommandMessage D.limits}
    {as rs : List (ResultMessage D.limits)} (h : Contribution w m as) (hrs : rs.Sublist as) :
    Contribution w m rs where
  origin r hr := h.origin r (hrs.subset hr)
  unanswered hanswered := List.sublist_nil.mp (h.unanswered hanswered ▸ hrs)
  single hsingle := hrs.length_le.trans (h.single hsingle)
  terminator before r after heq hr := by
    rw [heq] at hrs
    obtain ⟨front, back, rfl, -, hback⟩ := List.append_sublist_iff.mp hrs
    obtain ⟨left, right, rfl, hmem, hafter⟩ := List.cons_sublist_iff.mp hback
    obtain ⟨earlier, later, rfl⟩ := List.append_of_mem hmem
    have hnil := h.terminator (front ++ earlier) r (later ++ right) (by simp) hr
    rw [(List.append_eq_nil_iff.mp hnil).2] at hafter
    exact List.sublist_nil.mp hafter
  status hsingle r hr := h.status hsingle r (hrs.subset hr)
  effect hsingle hdone r hr := h.effect hsingle hdone r (hrs.subset hr)

namespace World

/-- A reply: one push, whose record has the status of the outcome. -/
structure Replies (w : World D) (m : CommandMessage D.limits) (w₁ : World D)
    (r : ResultMessage D.limits) : Prop where
  pushed : (w.dispatchCommand m).2 = (w₁.eventPushResult r).2
  attempted : w₁.attempted = w.attempted
  before : w₁.accepted = w.accepted
  queue : w₁.results = w.results
  config : w₁.engine.config = w.engine.config
  seq : r.seq = m.seq
  type : r.commandType = m.type
  status : r.status = if (w.dispatchCommand m).1 then .ok else .error
  statusCode : (w.dispatchCommand m).1 = true → r.statusCode = 0
  effect : (w.dispatchCommand m).1 = true →
    Reported w₁.engine.loadedNodes (D.nodes w₁.runtime) m.data r

theorem Replies.answers {w w₁ : World D} {m : CommandMessage D.limits}
    {r : ResultMessage D.limits} (h : w.Replies m w₁ r) :
    (w.dispatchCommand m).2.accepted =
      w.accepted ++ if (w₁.eventPushResult r).1 then [r] else [] := by
  rw [h.pushed, eventPushResult_accepted, h.before]

theorem Replies.contribution {w w₁ : World D} {m : CommandMessage D.limits}
    {r : ResultMessage D.limits} (h : w.Replies m w₁ r) (hanswered : m.data.answered = true) :
    Contribution w m [r] := by
  have hpush := w₁.eventPushResult_onlyPushes r
  refine ⟨?_, fun hfalse => ?_, fun _ => Nat.le_refl _, fun before r' after hrs _ => ?_, ?_, ?_⟩
  · rintro _ (_ | ⟨_, ⟨⟩⟩)
    exact ⟨h.seq, h.type⟩
  · rw [hanswered] at hfalse
    cases hfalse
  · cases before with
    | nil => exact (List.cons.inj hrs).2.symm
    | cons a before => cases before <;> cases hrs
  · rintro - _ (_ | ⟨_, ⟨⟩⟩)
    refine ⟨?_, fun hok => h.statusCode ?_⟩
    · rw [h.status]
      cases (w.dispatchCommand m).1 <;> simp
    · rw [h.status] at hok
      cases hdone : (w.dispatchCommand m).1 with
      | true => rfl
      | false => rw [hdone] at hok; cases hok
  · rintro - hdone _ (_ | ⟨_, ⟨⟩⟩)
    rw [h.pushed, hpush.engine, hpush.runtime]
    exact h.effect hdone

theorem dispatch_loadNode_replies (nodeLaws : D.NodeLaws) (w : World D) (seq : UInt64)
    {nodeType : NodeType} {modulePath : Vector UInt8 D.limits.modulePathSize}
    (hm : (CommandData.loadNode nodeType modulePath).malformed D = false) :
    ∃ w₁ r, w.Replies ⟨seq, .loadNode nodeType modulePath⟩ w₁ r := by
  obtain ⟨descriptor, w₁, hload, hw⟩ := w.dispatch_loadNode seq hm
  have houtcome := w.loadNodeDescriptorAs_outcome (CString.ofField modulePath) nodeType
  rw [hload] at houtcome
  have hvalid : nodeType ≠ .invalid := by
    rintro rfl
    simp [CommandData.malformed, nodeLaws.invalid_not_valid] at hm
  refine ⟨w₁, _, (congrArg Prod.snd hw :), ?_, ?_, ?_, ?_, rfl, rfl, ?_, ?_, ?_⟩
  · cases houtcome <;>
      simp [attempted, Event.attemptedResult, moduleLoaderDestroy, loadedNodeDestroy,
        removedByName, unloadEvents, setLoadedNodes, emit]
  · cases houtcome <;>
      simp [accepted, Event.acceptedResult, moduleLoaderDestroy, loadedNodeDestroy,
        removedByName, unloadEvents, setLoadedNodes, emit]
  · cases houtcome <;> rfl
  · cases houtcome <;> rfl
  · rw [hw]
    rfl
  · rw [hw]
    intro hdone
    exact if_pos hdone
  · rw [hw]
    intro hdone
    cases houtcome with
    | rejected => cases hdone
    | unloaded => cases hdone
    | lost => cases hdone
    | registered env e name hname htype =>
      exact ⟨e, collectionGet_replaced hname, htype hvalid, rfl⟩

theorem dispatch_addNode_replies (laws : D.RuntimeLaws) (nodeLaws : D.NodeLaws) (w : World D)
    (seq : UInt64) {nodeType : NodeType} {nodeName : Vector UInt8 D.limits.nodeNameSize}
    (hm : (CommandData.addNode nodeType nodeName).malformed D = false) :
    ∃ w₁ r, w.Replies ⟨seq, .addNode nodeType nodeName⟩ w₁ r := by
  obtain ⟨node, w₁, hcall, hw⟩ := w.dispatch_addNode seq hm
  obtain ⟨houtcome, htype⟩ := w.addNodeAs_outcome (CString.ofField nodeName) nodeType
  rw [hcall] at houtcome htype
  refine ⟨w₁, _, (congrArg Prod.snd hw :), ?_, ?_, ?_, ?_, rfl, rfl, ?_, ?_, ?_⟩
  · cases houtcome <;> rfl
  · cases houtcome <;> rfl
  · cases houtcome <;> rfl
  · cases houtcome <;> rfl
  · rw [hw]
    rfl
  · rw [hw]
    intro hdone
    exact if_pos hdone
  · rw [hw]
    intro hdone
    cases houtcome with
    | rejected => cases hdone
    | added env e n runtime hfound hcreated hadd =>
      obtain ⟨hdescriptor, hnodeType⟩ := createNodeFromDescriptor_spec nodeLaws hcreated
      refine ⟨n.valid, n, (laws.addNode hadd n).mpr (.inr rfl), rfl, ?_, e, hfound, hdescriptor⟩
      rw [hnodeType]
      exact htype rfl e hfound

theorem dispatch_removeNode_replies (laws : D.RuntimeLaws) (w : World D) (seq : UInt64)
    {nodeId : UInt32}
    (hm : (CommandData.removeNode nodeId : CommandData D.limits).malformed D = false) :
    ∃ w₁ r, w.Replies ⟨seq, .removeNode nodeId⟩ w₁ r := by
  obtain ⟨removed, w₁, hremove, hw⟩ := w.dispatch_removeNode seq hm
  have houtcome : w₁ = w ∧ removed = false ∨ removed = true ∧ ∃ runtime,
      D.removeNodeById w.runtime nodeId = some runtime ∧ w₁ = { w with runtime } := by
    cases hcall : D.removeNodeById w.runtime nodeId with
    | none =>
      rw [hcall] at hremove
      cases hremove
      exact .inl ⟨rfl, rfl⟩
    | some runtime =>
      rw [hcall] at hremove
      cases hremove
      exact .inr ⟨rfl, runtime, rfl, rfl⟩
  refine ⟨w₁, _, (congrArg Prod.snd hw :), ?_, ?_, ?_, ?_, rfl, rfl, ?_, ?_, ?_⟩
  · rcases houtcome with ⟨rfl, -⟩ | ⟨-, runtime, -, rfl⟩ <;> rfl
  · rcases houtcome with ⟨rfl, -⟩ | ⟨-, runtime, -, rfl⟩ <;> rfl
  · rcases houtcome with ⟨rfl, -⟩ | ⟨-, runtime, -, rfl⟩ <;> rfl
  · rcases houtcome with ⟨rfl, -⟩ | ⟨-, runtime, -, rfl⟩ <;> rfl
  · rw [hw]
    rfl
  · rw [hw]
    intro hdone
    exact if_pos hdone
  · rw [hw]
    intro hdone
    rcases houtcome with ⟨-, rfl⟩ | ⟨-, runtime, hcall, rfl⟩
    · cases hdone
    · exact ⟨rfl, fun n hn => ((laws.removeNodeById hcall n).mp hn).2⟩

theorem exists_replies (laws : D.RuntimeLaws) (nodeLaws : D.NodeLaws) (w : World D)
    {m : CommandMessage D.limits} (hsingle : m.type.single = true)
    (hm : m.data.malformed D = false) : ∃ w₁ r, w.Replies m w₁ r := by
  obtain ⟨seq, data⟩ := m
  cases data with
  | loadNode nodeType modulePath => exact w.dispatch_loadNode_replies nodeLaws seq hm
  | addNode nodeType nodeName => exact w.dispatch_addNode_replies laws nodeLaws seq hm
  | removeNode nodeId => exact w.dispatch_removeNode_replies laws seq hm
  | _ => cases hsingle

theorem snapshot_contribution (w : World D) {m : CommandMessage D.limits}
    (hm : m.data = .requestRuntimeNodes) :
    Contribution w m (w.snapshotRecords m.seq ++ [terminatorRecord D.limits m.seq]) := by
  have htype : m.type = .requestRuntimeNodes := congrArg CommandData.type hm
  refine ⟨fun r hr => ?_, fun hfalse => ?_, fun hfalse => ?_, fun before r after hrs hr => ?_,
    fun hfalse => ?_, fun hfalse => ?_⟩
  · rw [htype]
    rcases List.mem_append.mp hr with hrecord | hlast
    · exact snapshotRecords_origin hrecord
    · rw [List.mem_singleton.mp hlast]
      exact ⟨rfl, rfl⟩
  · rw [hm] at hfalse
    cases hfalse
  · rw [htype] at hfalse
    cases hfalse
  · rcases after.eq_nil_or_concat with hnil | ⟨after', x, rfl⟩
    · exact hnil
    · -- what stands before the last record is a record of the graph
      rw [List.concat_eq_append, ← List.cons_append, ← List.append_assoc] at hrs
      have hmem : r ∈ w.snapshotRecords m.seq := by
        rw [(List.append_inj' hrs rfl).1]
        simp
      exact absurd hr (snapshotRecords_not_terminator hmem)
  · rw [htype] at hfalse
    cases hfalse
  · rw [htype] at hfalse
    cases hfalse

/-- The records that a dispatch pushes are a contribution of its command. -/
theorem dispatch_contribution (laws : D.RuntimeLaws) (nodeLaws : D.NodeLaws) (w : World D)
    (m : CommandMessage D.limits) :
    ∃ as rs, Recorded w (w.dispatchCommand m).2 as rs ∧ Contribution w m as := by
  obtain ⟨events, htrace, -⟩ := w.dispatch_trace m
  have hrecorded := Recorded.of_trace htrace
  suffices hpart : ∃ as records, (w.dispatchCommand m).2.attempted = w.attempted ++ as ∧
      as.Sublist records ∧ Contribution w m records by
    obtain ⟨as, records, has, hsublist, hcontribution⟩ := hpart
    obtain rfl := List.append_cancel_left (hrecorded.attempted.symm.trans has)
    exact ⟨_, _, hrecorded, hcontribution.sublist hsublist⟩
  by_cases hanswered : m.data.answered = false
  · refine ⟨[], [], ?_, .refl _, .none w⟩
    rw [attempted, (w.dispatch_quiet hanswered).trace, List.append_nil, attempted]
  rw [Bool.not_eq_false] at hanswered
  by_cases hmalformed : m.data.malformed D = true
  · refine ⟨[], [], ?_, .refl _, .none w⟩
    rw [w.dispatch_malformed hmalformed, List.append_nil]
  rw [Bool.not_eq_true] at hmalformed
  cases hsingle : m.type.single with
  | true =>
    obtain ⟨w₁, r, hreplies⟩ := w.exists_replies laws nodeLaws hsingle hmalformed
    obtain ⟨as, has, hsublist⟩ := w₁.eventPushResult_attempted r
    refine ⟨as, [r], ?_, hsublist, hreplies.contribution hanswered⟩
    rw [hreplies.pushed, has, hreplies.attempted]
  | false =>
    have hm := requestRuntimeNodes_of_answered hanswered hsingle
    obtain ⟨as, has, hsublist⟩ := w.pushResults_attempted_sublist
      (w.snapshotRecords m.seq ++ [terminatorRecord D.limits m.seq])
    refine ⟨as, _, ?_, hsublist, w.snapshot_contribution hm⟩
    rw [eventRequestRuntimeNodes_eq w hm, has]

end World

/-- From any state and with any pushes refused, the records that a run of commands pushes, and those
of them that get into the result queue, are contributions of its commands in their order. -/
theorem results_sound (laws : D.RuntimeLaws) (nodeLaws : D.NodeLaws) (w : World D)
    (ms : List (CommandMessage D.limits)) :
    ∃ as rs, World.Recorded w (w.dispatchAll ms) as rs ∧ Answers w ms as rs := by
  induction ms generalizing w with
  | nil =>
    have htrace : w.trace = w.trace ++ [] := (List.append_nil _).symm
    exact ⟨[], [], .of_trace htrace, .nil w⟩
  | cons m ms ih =>
    obtain ⟨as, rs, hrecorded, hfirst⟩ := w.dispatch_contribution laws nodeLaws m
    obtain ⟨as', rs', hrecorded', hrest⟩ := ih (w.dispatchCommand m).2
    refine ⟨as ++ as', rs ++ rs', ?_, .cons hfirst (hfirst.sublist hrecorded.taken)
      hrecorded.taken hrest⟩
    rw [World.dispatchAll_cons]
    exact hrecorded.trans hrecorded'

/-- A load, and two removals of a node that is not there, the last of which finds the queue full. -/
def Reference.commands : List (CommandMessage limits) :=
  [⟨1, .loadNode .plugin (nameField 109)⟩, ⟨2, .removeNode 5⟩, ⟨3, .removeNode 5⟩]

def Reference.narrowWorld : World deps := { world with results := ⟨2, [], []⟩ }

theorem results_sound_reference :
    (∃ as rs, World.Recorded Reference.narrowWorld
        (Reference.narrowWorld.dispatchAll Reference.commands) as rs ∧
      Answers Reference.narrowWorld Reference.commands as rs) ∧
      (Reference.narrowWorld.dispatchAll Reference.commands).attempted.map
        (fun r => (r.seq, r.commandType, r.status)) =
          [(1, .loadNode, .ok), (2, .removeNode, .error), (3, .removeNode, .error)] ∧
      (Reference.narrowWorld.dispatchAll Reference.commands).accepted.map
        (fun r => (r.seq, r.commandType, r.status)) =
          [(1, .loadNode, .ok), (2, .removeNode, .error)] :=
  ⟨results_sound Reference.runtimeLaws Reference.nodeLaws Reference.narrowWorld
    Reference.commands, rfl, rfl⟩

/-- The queue takes the next `n` records, whichever they are. -/
def HasRoom (D : Deps) : Nat → D.ResultQueue → Prop
  | 0, _ => True
  | n + 1, q => ∀ r, (D.resultTryPush q r).1 = true ∧ HasRoom D n (D.resultTryPush q r).2

/-- The number of records that a request pushes. -/
def World.recordCount (w : World D) (m : CommandMessage D.limits) : Nat :=
  match m.data with
  | .requestRuntimeNodes => (w.snapshotRecords m.seq).length + 1
  | _ => 1

/-- A record that tells the client of a command that it has been dealt with. -/
def IsFinal {L : Limits} (m : CommandMessage L) (r : ResultMessage L) : Prop :=
  r.seq = m.seq ∧ r.commandType = m.type ∧ (m.data = .requestRuntimeNodes → r.isTerminator)

/-- The command is answered: its last record and no other is final, with an ERROR status when the
command is not carried out. -/
def AnsweredOnce (w : World D) (m : CommandMessage D.limits) : Prop :=
  ∃ before last, w.answers m = before ++ [last] ∧ IsFinal m last ∧
    (∀ r ∈ before, ¬IsFinal m r) ∧
    (last.status = .error ↔ (w.dispatchCommand m).1 = false)

theorem World.pushResults_hasRoom {w : World D} (hqueue : w.engine.config.resultQueue = true)
    {rs : List (ResultMessage D.limits)} (hroom : HasRoom D rs.length w.results) :
    ∀ o ∈ (w.pushResults rs).1, o = true := by
  induction rs generalizing w with
  | nil => exact fun o ho => nomatch ho
  | cons r rs ih =>
    obtain ⟨haccepted, hrest⟩ := hroom r
    simp only [pushResults, List.forall_mem_cons]
    rw [eventPushResult_eq hqueue]
    exact ⟨haccepted, ih hqueue hrest⟩

theorem World.Replies.answeredOnce {w w₁ : World D} {m : CommandMessage D.limits}
    {r : ResultMessage D.limits} (h : w.Replies m w₁ r) (hsingle : m.type.single = true)
    (hqueue : w.engine.config.resultQueue = true) (hroom : HasRoom D 1 w.results) :
    AnsweredOnce w m := by
  have hpushed : (w₁.eventPushResult r).1 = true := by
    rw [World.eventPushResult, h.config, if_pos hqueue, h.queue]
    exact (hroom r).1
  have hanswers := h.answers
  rw [hpushed] at hanswers
  refine ⟨[], r, World.answers_eq hanswers, ⟨h.seq, h.type, fun hm => ?_⟩,
    fun r hr => absurd hr List.not_mem_nil, ?_⟩
  · have htype : m.type = .requestRuntimeNodes := congrArg CommandData.type hm
    rw [htype] at hsingle
    cases hsingle
  · rw [h.status]
    cases (w.dispatchCommand m).1 <;> simp

/-- With room for all of its records, a snapshot is delivered whole. -/
theorem World.snapshot_delivered {w : World D} {m : CommandMessage D.limits}
    (hm : m.data = .requestRuntimeNodes) (hqueue : w.engine.config.resultQueue = true)
    (hroom : HasRoom D ((w.snapshotRecords m.seq).length + 1) w.results) :
    w.answers m = w.snapshotRecords m.seq ++ [terminatorRecord D.limits m.seq] ∧
      (w.dispatchCommand m).1 = true := by
  have hlength : (w.snapshotRecords m.seq ++ [terminatorRecord D.limits m.seq]).length =
      (w.snapshotRecords m.seq).length + 1 := List.length_append
  have hall := pushResults_hasRoom hqueue (hlength ▸ hroom)
  have hanswers := w.answers_requestRuntimeNodes hm
  dsimp only at hanswers
  rw [(Channel.taken_eq_self_iff (w.pushResults_length _)).mpr hall] at hanswers
  refine ⟨hanswers, ?_⟩
  rw [eventRequestRuntimeNodes_eq w hm]
  simpa using hall

theorem World.snapshot_answeredOnce {w : World D} {m : CommandMessage D.limits}
    (hm : m.data = .requestRuntimeNodes) (hqueue : w.engine.config.resultQueue = true)
    (hroom : HasRoom D ((w.snapshotRecords m.seq).length + 1) w.results) :
    AnsweredOnce w m := by
  obtain ⟨hanswers, hdone⟩ := snapshot_delivered hm hqueue hroom
  refine ⟨_, _, hanswers, ⟨rfl, (congrArg CommandData.type hm).symm,
    fun _ => terminatorRecord_isTerminator ..⟩, fun r hr hfinal => ?_, ?_⟩
  · exact snapshotRecords_not_terminator hr (hfinal.2.2 hm)
  · rw [hdone]
    simp [terminatorRecord, resultMessage]

/-- A request is answered when it passes the checks that its handler makes first and the queue has
room for its records; one that does not pass them returns false and nothing is pushed. -/
theorem requests_answered (laws : D.RuntimeLaws) (nodeLaws : D.NodeLaws) (w : World D)
    (hqueue : w.engine.config.resultQueue = true) (m : CommandMessage D.limits)
    (hanswered : m.data.answered = true) (hroom : HasRoom D (w.recordCount m) w.results) :
    (m.data.malformed D = false → AnsweredOnce w m) ∧
      (m.data.malformed D = true → w.dispatchCommand m = (false, w)) := by
  refine ⟨fun hm => ?_, w.dispatch_malformed⟩
  cases hsingle : m.type.single with
  | true =>
    obtain ⟨w₁, r, hreplies⟩ := w.exists_replies laws nodeLaws hsingle hm
    refine hreplies.answeredOnce hsingle hqueue ?_
    obtain ⟨seq, data⟩ := m
    cases data with
    | requestRuntimeNodes => cases hsingle
    | _ => exact hroom
  | false =>
    have hdata := requestRuntimeNodes_of_answered hanswered hsingle
    rw [World.recordCount, hdata] at hroom
    exact World.snapshot_answeredOnce hdata hqueue hroom

/-- A load, a failing removal, and a request for a snapshot of one node. -/
theorem requests_answered_reference :
    AnsweredOnce Reference.world ⟨1, .loadNode .plugin #v[109, 0, 0, 0]⟩ ∧
      (Reference.world.dispatchCommand ⟨1, .loadNode .plugin #v[109, 0, 0, 0]⟩).1 = true ∧
      AnsweredOnce Reference.world ⟨2, .removeNode 5⟩ ∧
      (Reference.world.dispatchCommand ⟨2, .removeNode 5⟩).1 = false ∧
      AnsweredOnce Reference.loadedWorld ⟨3, .requestRuntimeNodes⟩ ∧
      (Reference.loadedWorld.answers ⟨3, .requestRuntimeNodes⟩).map
        (fun r => (r.nodeId, r.statusCode)) =
          [(0, Reference.limits.runtimeStateStop),
            (Reference.limits.nodeIdInvalid, terminatorCode)] :=
  ⟨(requests_answered Reference.runtimeLaws Reference.nodeLaws Reference.world rfl
      ⟨1, .loadNode .plugin #v[109, 0, 0, 0]⟩ rfl fun _ => ⟨rfl, trivial⟩).1 rfl, rfl,
    (requests_answered Reference.runtimeLaws Reference.nodeLaws Reference.world rfl
      ⟨2, .removeNode 5⟩ rfl fun _ => ⟨rfl, trivial⟩).1 rfl, rfl,
    (requests_answered Reference.runtimeLaws Reference.nodeLaws Reference.loadedWorld rfl
      ⟨3, .requestRuntimeNodes⟩ rfl fun _ => ⟨rfl, fun _ => ⟨rfl, trivial⟩⟩).1 rfl, rfl⟩

/-- An add of a node without a name is not answered, though the queue has room. -/
theorem malformed_not_answered :
    HasRoom Reference.deps 1 Reference.world.results ∧
      ¬AnsweredOnce Reference.world ⟨1, .addNode .plugin #v[0, 0, 0, 0]⟩ := by
  refine ⟨fun _ => ⟨rfl, trivial⟩, ?_⟩
  rintro ⟨before, last, hanswers, -⟩
  have hnone : Reference.world.answers ⟨1, .addNode .plugin #v[0, 0, 0, 0]⟩ = [] := rfl
  rw [hnone] at hanswers
  simp at hanswers

end RtsynEngine
