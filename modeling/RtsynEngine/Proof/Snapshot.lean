import RtsynEngine.Proof.Results
import RtsynEngine.Reference

/-! The runtime snapshot as one burst of pushes, and when its terminator tells that the consumer
has seen the whole graph. -/

namespace RtsynEngine

variable {D : Deps}

/-- A record that tells a client that the snapshot has ended. -/
def ResultMessage.isTerminator {L : Limits} (r : ResultMessage L) : Prop :=
  r.nodeId = L.nodeIdInvalid ∧ r.statusCode = terminatorCode

theorem terminatorRecord_isTerminator (L : Limits) (seq : UInt64) :
    (World.terminatorRecord L seq).isTerminator := ⟨rfl, rfl⟩

namespace World

/-- The records of a snapshot before its terminator. -/
def snapshotRecords (w : World D) (seq : UInt64) : List (ResultMessage D.limits) :=
  (D.nodes w.runtime).filterMap (w.nodeRecord seq) ++
    (D.connections w.runtime).filterMap (connectionRecord D.limits seq)

theorem nodeRecord_onlyPushes {w w' : World D} (h : OnlyPushes w w') (seq : UInt64)
    (n : Node D.limits) : w'.nodeRecord seq n = w.nodeRecord seq n := by
  unfold nodeRecord
  rw [h.engine, h.runtime]

theorem foldl_pushSnapshotRecord (context : SnapshotContext) (w : World D)
    (rs : List (ResultMessage D.limits)) :
    rs.foldl pushSnapshotRecord (context, w) =
      ({ context with ok := (w.pushResults rs).1.all id && context.ok },
        (w.pushResults rs).2) := by
  induction rs generalizing context w with
  | nil => rfl
  | cons r rs ih =>
    rw [List.foldl_cons, pushSnapshotRecord, ih]
    simp only [pushResults, List.all_cons, id]
    congr 2
    cases (w.eventPushResult r).1 <;> cases context.ok <;> simp

theorem foldl_eventPushNodeSnapshot (context : SnapshotContext) (w : World D)
    (ns : List (Node D.limits)) :
    ns.foldl eventPushNodeSnapshot (context, w) =
      (ns.filterMap (w.nodeRecord context.seq)).foldl pushSnapshotRecord (context, w) := by
  induction ns generalizing context w with
  | nil => rfl
  | cons n ns ih =>
    rw [List.foldl_cons, List.filterMap_cons, eventPushNodeSnapshot]
    cases w.nodeRecord context.seq n with
    | none => exact ih context w
    | some record =>
      have hsame := funext
        (nodeRecord_onlyPushes (w.eventPushResult_onlyPushes record) context.seq)
      dsimp only [pushSnapshotRecord, List.foldl_cons]
      rw [ih, hsame]

theorem foldl_eventPushConnectionSnapshot (context : SnapshotContext) (w : World D)
    (cs : List Connection) :
    cs.foldl eventPushConnectionSnapshot (context, w) =
      (cs.filterMap (connectionRecord D.limits context.seq)).foldl pushSnapshotRecord
        (context, w) := by
  induction cs generalizing context w with
  | nil => rfl
  | cons c cs ih =>
    rw [List.foldl_cons, List.filterMap_cons, eventPushConnectionSnapshot]
    cases connectionRecord D.limits context.seq c with
    | none => exact ih context w
    | some record =>
      dsimp only [pushSnapshotRecord, List.foldl_cons]
      rw [ih]

/-- The handler is one burst: the records, then the terminator. -/
theorem eventRequestRuntimeNodes_eq (w : World D) {m : CommandMessage D.limits}
    (hm : m.data = .requestRuntimeNodes) :
    let burst := w.pushResults (w.snapshotRecords m.seq ++ [terminatorRecord D.limits m.seq])
    w.dispatchCommand m = (burst.1.all id, burst.2) := by
  have hburst : pushSnapshotRecord
      ((w.snapshotRecords m.seq).foldl pushSnapshotRecord (⟨m.seq, true⟩, w))
      (terminatorRecord D.limits m.seq) =
      (w.snapshotRecords m.seq ++ [terminatorRecord D.limits m.seq]).foldl pushSnapshotRecord
        (⟨m.seq, true⟩, w) := by
    rw [List.foldl_append]
    rfl
  unfold dispatchCommand eventRequestRuntimeNodes
  rw [hm]
  dsimp only
  rw [foldl_eventPushNodeSnapshot, foldl_pushSnapshotRecord, foldl_eventPushConnectionSnapshot,
    ← foldl_pushSnapshotRecord, ← List.foldl_append, ← snapshotRecords, hburst,
    foldl_pushSnapshotRecord, Bool.and_true]

theorem pushResults_room {view : D.ResultQueue → Channel (ResultMessage D.limits)}
    (laws : D.ResultQueueLaws view) (w : World D) (hqueue : w.engine.config.resultQueue = true)
    (rs : List (ResultMessage D.limits)) :
    (w.pushResults rs).1 = (List.range rs.length).map (view w.results).room := by
  induction rs generalizing w with
  | nil => rfl
  | cons r rs ih =>
    have hshift : (view w.results).room ∘ Nat.succ =
        (view (D.resultTryPush w.results r).2).room := by
      funext k
      rw [Function.comp_apply, Channel.room_succ (view w.results) r, laws.pushed]
    rw [List.length_cons, List.range_succ_eq_map, List.map_cons, List.map_map, hshift,
      Channel.room_zero (view w.results) r, ← laws.accepted]
    dsimp only [pushResults]
    rw [eventPushResult_eq hqueue]
    exact congrArg _ (ih _ hqueue)

theorem snapshotRecords_not_terminator {w : World D} {seq : UInt64} {r : ResultMessage D.limits}
    (hr : r ∈ w.snapshotRecords seq) : ¬r.isTerminator := by
  rintro ⟨hid, hcode⟩
  rcases List.mem_append.mp hr with hnode | hconnection
  · obtain ⟨n, -, hn⟩ := List.mem_filterMap.mp hnode
    unfold nodeRecord at hn
    split at hn
    · cases hn
    · rw [← Option.some.inj hn] at hid
      exact n.valid hid
  · obtain ⟨c, -, hc⟩ := List.mem_filterMap.mp hconnection
    unfold connectionRecord at hc
    split at hc
    · rw [← Option.some.inj hc] at hcode
      exact absurd hcode (by decide : (0 : UInt32) ≠ terminatorCode)
    · cases hc

theorem snapshotRecords_origin {w : World D} {seq : UInt64} {r : ResultMessage D.limits}
    (hr : r ∈ w.snapshotRecords seq) : r.seq = seq ∧ r.commandType = .requestRuntimeNodes := by
  rcases List.mem_append.mp hr with hnode | hconnection
  · obtain ⟨n, -, hn⟩ := List.mem_filterMap.mp hnode
    unfold nodeRecord at hn
    split at hn
    · cases hn
    · rw [← Option.some.inj hn]
      exact ⟨rfl, rfl⟩
  · obtain ⟨c, -, hc⟩ := List.mem_filterMap.mp hconnection
    unfold connectionRecord at hc
    split at hc
    · rw [← Option.some.inj hc]
      exact ⟨rfl, rfl⟩
    · cases hc

theorem answers_requestRuntimeNodes (w : World D) {m : CommandMessage D.limits}
    (hm : m.data = .requestRuntimeNodes) :
    let rs := w.snapshotRecords m.seq ++ [terminatorRecord D.limits m.seq]
    w.answers m = Channel.taken rs (w.pushResults rs).1 := by
  intro rs
  refine answers_eq ?_
  rw [eventRequestRuntimeNodes_eq w hm, pushResults_accepted]

end World

/-- A consumer that reads the terminator of the snapshot has read every record of the graph. -/
def SnapshotComplete (w : World D) (m : CommandMessage D.limits) : Prop :=
  World.terminatorRecord D.limits m.seq ∈ w.answers m →
    w.answers m = w.snapshotRecords m.seq ++ [World.terminatorRecord D.limits m.seq]

/-- A snapshot that ends in a terminator is complete exactly when every push before it finds room,
or the terminator itself finds none: its status does not depend on the records. -/
theorem snapshot_complete_iff {view : D.ResultQueue → Channel (ResultMessage D.limits)}
    (laws : D.ResultQueueLaws view) (w : World D) (hqueue : w.engine.config.resultQueue = true)
    {m : CommandMessage D.limits} (hm : m.data = .requestRuntimeNodes) :
    SnapshotComplete w m ↔
      (∀ k < (w.snapshotRecords m.seq).length, (view w.results).room k = true) ∨
        (view w.results).room (w.snapshotRecords m.seq).length = false := by
  have houtcomes := w.pushResults_room laws hqueue
    (w.snapshotRecords m.seq ++ [World.terminatorRecord D.limits m.seq])
  have hanswers := w.answers_requestRuntimeNodes hm
  have hfresh : World.terminatorRecord D.limits m.seq ∉ w.snapshotRecords m.seq :=
    fun hmem => World.snapshotRecords_not_terminator hmem (terminatorRecord_isTerminator ..)
  unfold SnapshotComplete
  generalize w.snapshotRecords m.seq = rs at *
  generalize World.terminatorRecord D.limits m.seq = terminator at *
  generalize (view w.results).room = room at *
  have hlength : ((List.range rs.length).map room).length = rs.length := by simp
  rw [List.length_append, List.length_singleton, List.range_succ, List.map_append,
    List.map_singleton] at houtcomes
  dsimp only at hanswers
  rw [houtcomes, Channel.taken_append hlength] at hanswers
  cases hlast : room rs.length with
  | false =>
    rw [hlast] at hanswers
    have hnone : terminator ∉ w.answers m := by
      rw [hanswers]
      simpa [Channel.taken] using fun h => hfresh ((Channel.taken_sublist _ _).subset h)
    exact ⟨fun _ => .inr rfl, fun _ h => absurd h hnone⟩
  | true =>
    rw [hlast] at hanswers
    rw [hanswers]
    have hall : Channel.taken rs ((List.range rs.length).map room) = rs ↔
        ∀ k < rs.length, room k = true := by
      rw [Channel.taken_eq_self_iff hlength]
      simp
    simp [Channel.taken, hall]

theorem snapshot_complete_reference :
    SnapshotComplete Reference.loadedWorld ⟨7, .requestRuntimeNodes⟩ :=
  (snapshot_complete_iff Reference.resultQueueLaws Reference.loadedWorld rfl rfl).mpr
    (.inl (by decide +kernel))

/-- A full result queue: the record of the one node is lost, then the consumer pops and the
terminator finds room. -/
def fullQueueWorld : World Reference.deps :=
  { Reference.loadedWorld with
    results := ⟨1, [resultMessage _ 0 .none .ok 0], [0, 1]⟩ }

theorem snapshot_incomplete :
    ¬ SnapshotComplete fullQueueWorld ⟨7, .requestRuntimeNodes⟩ := by
  intro h
  have hanswers : fullQueueWorld.answers ⟨7, .requestRuntimeNodes⟩ =
      [World.terminatorRecord Reference.limits 7] := rfl
  have hrecords : (fullQueueWorld.snapshotRecords 7).length = 1 := rfl
  have hcomplete := h (hanswers ▸ List.mem_singleton_self _)
  have hlength := congrArg List.length hcomplete
  rw [hanswers, List.length_append, hrecords] at hlength
  cases hlength

end RtsynEngine
