import Mathlib.Data.List.Forall2
import RtsynEngine.Proof.Image
import RtsynEngine.Proof.Replies

/-! The client's reading of a snapshot: each record is a node, a connection or the terminator, and
the records of one request are read back as the runtime's graph. -/

namespace RtsynEngine

variable {D : Deps}

/-- What a client reads a snapshot record as. -/
inductive SnapshotItem (L : Limits)
  | node (id runtimeState : UInt32) (descriptor : ResultNodeDescriptor L)
  | connection (connection : Connection)
  | terminator
deriving DecidableEq

/-- A valid node id is a node with its runtime state in `status_code`; else the code of a
terminator, and any other code is a connection. -/
def ResultMessage.decode {L : Limits} (r : ResultMessage L) : SnapshotItem L :=
  if r.nodeId ≠ L.nodeIdInvalid then .node r.nodeId r.statusCode r.node
  else if r.statusCode = terminatorCode then .terminator
  else .connection {
    id := r.connection.connectionId
    sourceNodeId := r.connection.sourceNodeId
    sourcePort := some r.connection.sourcePortId
    destinationNodeId := r.connection.destinationNodeId
    destinationPort := some r.connection.destinationPortId
    timing := r.connection.timing }

namespace World

/-- The state of a node as a snapshot shows it. -/
def shownState (w : World D) (n : Node D.limits) : UInt32 :=
  if D.nodeRuntimeState w.runtime n = D.limits.runtimeStateInvalid then D.limits.runtimeStateStop
  else D.nodeRuntimeState w.runtime n

/-- An item shows a node of the descriptor `d`: its id, its state, and the image of `d`. -/
inductive ShowsNode (w : World D) (d : NodeDescriptor) (n : Node D.limits) :
    SnapshotItem D.limits → Prop
  | intro {descriptor : ResultNodeDescriptor D.limits} (himage : DescriptorImage d descriptor) :
    ShowsNode w d n (.node n.id (w.shownState n) descriptor)

/-- The descriptor of each node of the runtime in the registry. -/
def Registers (w : World D) (registered : Node D.limits → NodeDescriptor) : Prop :=
  ∀ n ∈ D.nodes w.runtime, ∃ e, collectionGet w.engine.loadedNodes n.name = some e ∧
    e.descriptor.target = registered n

theorem decode_nodeRecord {w : World D} {registered : Node D.limits → NodeDescriptor}
    (hregistered : w.Registers registered) (seq : UInt64) {n : Node D.limits}
    (hn : n ∈ D.nodes w.runtime) :
    ∃ r, w.nodeRecord seq n = some r ∧ w.ShowsNode (registered n) n r.decode := by
  obtain ⟨e, hfound, hdescriptor⟩ := hregistered n hn
  unfold nodeRecord
  rw [hfound, ← hdescriptor]
  refine ⟨_, rfl, ?_⟩
  rw [ResultMessage.decode, if_pos n.valid]
  simp only [resultMessage, beq_iff_eq]
  exact .intro (descriptorImage_copy _ _)

/-- The node records of a snapshot show the nodes in their order. -/
theorem decode_nodeRecords {w : World D} {registered : Node D.limits → NodeDescriptor}
    (hregistered : w.Registers registered) (seq : UInt64) {ns : List (Node D.limits)}
    (hns : ns ⊆ D.nodes w.runtime) :
    List.Forall₂ (fun n item => w.ShowsNode (registered n) n item) ns
      ((ns.filterMap (w.nodeRecord seq)).map ResultMessage.decode) := by
  induction ns with
  | nil => exact .nil
  | cons n ns ih =>
    obtain ⟨r, hrecord, hshows⟩ := decode_nodeRecord hregistered seq (hns (List.mem_cons_self ..))
    rw [List.filterMap_cons_some hrecord]
    exact .cons hshows (ih (List.subset_of_cons_subset hns))

theorem decode_connectionRecord (L : Limits) (seq : UInt64) {c : Connection}
    (hsource : c.sourcePort.isSome) (hdestination : c.destinationPort.isSome) :
    (connectionRecord L seq c).map ResultMessage.decode = some (.connection c) := by
  obtain ⟨id, sourceNodeId, sourcePort, destinationNodeId, destinationPort, timing⟩ := c
  obtain ⟨sourcePortId, rfl⟩ := Option.isSome_iff_exists.mp hsource
  obtain ⟨destinationPortId, rfl⟩ := Option.isSome_iff_exists.mp hdestination
  have hcode : (0 : UInt32) ≠ terminatorCode := by decide
  simp [connectionRecord, resultMessage, ResultMessage.decode, hcode]

theorem decode_terminatorRecord (L : Limits) (seq : UInt64) :
    (terminatorRecord L seq).decode = .terminator := by
  simp [terminatorRecord, ResultMessage.decode, resultMessage]

theorem decode_connectionRecords (L : Limits) (seq : UInt64) {cs : List Connection}
    (hports : ∀ c ∈ cs, c.sourcePort.isSome ∧ c.destinationPort.isSome) :
    (cs.filterMap (connectionRecord L seq)).map ResultMessage.decode =
      cs.map .connection := by
  rw [List.map_filterMap, List.filterMap_congr fun c hc =>
    decode_connectionRecord L seq (hports c hc).1 (hports c hc).2]
  exact congrFun List.filterMap_eq_map _

end World

/-- With room in the result queue, a client reads the answer to one request as the nodes of the
runtime in order, then its connections in order, and then the terminator. -/
theorem snapshot_decodes (w : World D) (hqueue : w.engine.config.resultQueue = true)
    (registered : Node D.limits → NodeDescriptor) (hregistered : w.Registers registered)
    (hports : ∀ c ∈ D.connections w.runtime, c.sourcePort.isSome ∧ c.destinationPort.isSome)
    (m : CommandMessage D.limits) (hm : m.data = .requestRuntimeNodes)
    (hroom : HasRoom D (w.recordCount m) w.results) :
    (∃ items, (w.answers m).map ResultMessage.decode =
        items ++ (D.connections w.runtime).map .connection ++ [.terminator] ∧
      List.Forall₂ (fun n item => w.ShowsNode (registered n) n item) (D.nodes w.runtime) items) ∧
      (∀ r ∈ w.answers m, r.seq = m.seq) ∧ (w.dispatchCommand m).1 = true := by
  rw [World.recordCount, hm] at hroom
  obtain ⟨hanswers, hdone⟩ := World.snapshot_delivered hm hqueue hroom
  refine ⟨⟨_, ?_, World.decode_nodeRecords hregistered m.seq (List.Subset.refl _)⟩,
    fun r hr => ((w.snapshot_contribution hm).origin r (hanswers ▸ hr)).1, hdone⟩
  rw [hanswers, World.snapshotRecords, List.map_append, List.map_append,
    World.decode_connectionRecords D.limits m.seq hports, List.map_singleton,
    World.decode_terminatorRecord]

/-- The loaded world with a connection of its node to itself. -/
def Reference.connectedWorld : World Reference.deps :=
  (loadedWorld.dispatchCommand ⟨1, .addConnection 4 0 1 0 2⟩).2

theorem snapshot_decodes_reference :
    (∃ descriptor, DescriptorImage Reference.descriptor.target descriptor ∧
      (Reference.connectedWorld.answers ⟨7, .requestRuntimeNodes⟩).map ResultMessage.decode =
        [.node 0 1 descriptor, .connection ⟨4, 0, some 1, 0, some 2, 0⟩, .terminator]) ∧
      (Reference.connectedWorld.dispatchCommand ⟨7, .requestRuntimeNodes⟩).1 = true := by
  have hregistered : Reference.connectedWorld.Registers fun _ => Reference.descriptor.target := by
    intro n hn
    rw [List.mem_singleton.mp hn]
    exact ⟨⟨⟨0, some Reference.descriptor⟩, Reference.descriptor, rfl⟩, rfl, rfl⟩
  have hports : ∀ c ∈ Reference.deps.connections Reference.connectedWorld.runtime,
      c.sourcePort.isSome ∧ c.destinationPort.isSome := by
    intro c hc
    rw [List.mem_singleton.mp hc]
    exact ⟨rfl, rfl⟩
  obtain ⟨⟨items, hdecoded, hshows⟩, -, hdone⟩ := snapshot_decodes Reference.connectedWorld rfl _
    hregistered hports ⟨7, .requestRuntimeNodes⟩ rfl fun _ =>
      ⟨rfl, fun _ => ⟨rfl, fun _ => ⟨rfl, trivial⟩⟩⟩
  obtain ⟨item, items, hnode, hrest, rfl⟩ := List.forall₂_cons_left_iff.mp hshows
  cases hrest
  obtain ⟨himage⟩ := hnode
  exact ⟨⟨_, himage, hdecoded⟩, hdone⟩

end RtsynEngine
