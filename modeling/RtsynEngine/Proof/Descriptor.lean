import RtsynEngine.Proof.Image
import RtsynEngine.Proof.Replies

/-! The descriptors in result records: which descriptor a record describes, and when a client may
loop up to the counts that it reports. -/

namespace RtsynEngine

variable {D : Deps} {L : Limits}

/-- A client may loop over the first `count` entries of a record's array: each is in the array, and
is the image of the descriptor's entry with that index. -/
def Iterable {α β : Type} {n : Nat} (Image : Nat → β → α → Prop) (count : UInt32)
    (entries : Vector α n) (source : List β) : Prop :=
  ∀ i < count.toNat, ∃ d a, source[i]? = some d ∧ entries[i]? = some a ∧ Image i d a

/-- A client may loop up to each of the counts of a record, whose entries then are those of the
descriptor. -/
structure SafeToIterate (r : ResultNodeDescriptor L) (d : NodeDescriptor) : Prop where
  ports : Iterable PortImage r.portCount r.ports d.ports
  params : Iterable ValueImage r.paramCount r.params d.params
  states : Iterable ValueImage r.stateCount r.states d.states

/-- The counts of a descriptor are within the capacities of a record. -/
structure NodeDescriptor.Fits (L : Limits) (d : NodeDescriptor) : Prop where
  ports : d.portCount.toNat ≤ L.portCapacity
  params : d.paramCount.toNat ≤ L.paramCapacity
  states : d.stateCount.toNat ≤ L.stateCapacity

/-- The image of an array may be looped over up to its count exactly when it holds so many. -/
theorem EntriesImage.iterable_iff {α β : Type} {n : Nat} {Image : Nat → β → α → Prop} {zero : α}
    {count : UInt32} {source : List β} {entries : Vector α n}
    (h : EntriesImage Image zero count source entries) :
    Iterable Image count entries source ↔ count.toNat ≤ n := by
  constructor
  · intro hiterable
    by_contra hexceeds
    obtain ⟨d, a, -, hentry, -⟩ := hiterable n (by omega)
    simp at hentry
  · intro hfits i hi
    obtain ⟨d, hd, himage⟩ := (h i (by omega)).1 hi
    exact ⟨d, _, hd, Vector.getElem?_eq_getElem (by omega), himage⟩

theorem DescriptorImage.safeToIterate_iff {r : ResultNodeDescriptor L} {d : NodeDescriptor}
    (h : DescriptorImage d r) : SafeToIterate r d ↔ d.Fits L := by
  have hports := h.ports.iterable_iff
  have hparams := h.params.iterable_iff
  have hstates := h.states.iterable_iff
  rw [← h.portCount] at hports
  rw [← h.paramCount] at hparams
  rw [← h.stateCount] at hstates
  constructor
  · rintro ⟨hp, hv, hs⟩
    exact ⟨h.portCount ▸ hports.mp hp, h.paramCount ▸ hparams.mp hv, h.stateCount ▸ hstates.mp hs⟩
  · rintro ⟨hp, hv, hs⟩
    exact ⟨hports.mpr (h.portCount ▸ hp), hparams.mpr (h.paramCount ▸ hv),
      hstates.mpr (h.stateCount ▸ hs)⟩

namespace World

/-- The descriptor that a record pushed for a command describes: the one just loaded, the one of the
requested name, or the one of the record's node. -/
inductive Describes (w : World D) (m : CommandMessage D.limits) (r : ResultMessage D.limits) :
    NodeDescriptor → Prop
  | load {nodeType : NodeType} {modulePath : Vector UInt8 D.limits.modulePathSize}
    {d : Pointer NodeDescriptor} (hm : m.data = .loadNode nodeType modulePath)
    (hloaded : (w.loadNodeDescriptorAs (CString.ofField modulePath) nodeType).1 = some d) :
    Describes w m r d.target
  | add {nodeType : NodeType} {nodeName : Vector UInt8 D.limits.nodeNameSize} {e : LoadedNode}
    (hm : m.data = .addNode nodeType nodeName)
    (hfound : collectionGet w.engine.loadedNodes (some (CString.ofField nodeName)) = some e) :
    Describes w m r e.descriptor.target
  | node {n : Node D.limits} {e : LoadedNode} (hm : m.data = .requestRuntimeNodes)
    (hn : n ∈ D.nodes w.runtime) (hr : w.nodeRecord m.seq n = some r)
    (hfound : collectionGet w.engine.loadedNodes n.name = some e) :
    Describes w m r e.descriptor.target

theorem eq_of_mem_answers {w w₁ : World D} {m : CommandMessage D.limits}
    {r r' : ResultMessage D.limits} {done : Bool}
    (hpushed : w.dispatchCommand m = (done, (w₁.eventPushResult r').2))
    (hbefore : w₁.accepted = w.accepted) (hr : r ∈ w.answers m) : r = r' := by
  have haccepted := w₁.eventPushResult_accepted r'
  rw [← congrArg Prod.snd hpushed, hbefore] at haccepted
  rw [answers_eq haccepted] at hr
  split at hr
  · exact List.mem_singleton.mp hr
  · cases hr

theorem loadNodeDescriptorAs_accepted (w : World D) (modulePath : CString) (nodeType : NodeType) :
    (w.loadNodeDescriptorAs modulePath nodeType).2.accepted = w.accepted := by
  have houtcome := w.loadNodeDescriptorAs_outcome modulePath nodeType
  generalize w.loadNodeDescriptorAs modulePath nodeType = r at houtcome
  cases houtcome <;>
    simp [accepted, Event.acceptedResult, moduleLoaderDestroy, loadedNodeDestroy, removedByName,
      unloadEvents, setLoadedNodes, emit]

/-- What the descriptor part of a command's records is made from. -/
theorem node_of_mem_answers {w : World D} {m : CommandMessage D.limits}
    {r : ResultMessage D.limits} (hr : r ∈ w.answers m) :
    match m.data with
    | .loadNode nodeType modulePath => r.node =
        loadedDescriptor (w.loadNodeDescriptorAs (CString.ofField modulePath) nodeType).1
    | .addNode _ nodeName => r.node = w.addedDescriptor (CString.ofField nodeName)
    | .requestRuntimeNodes =>
      r ∈ w.snapshotRecords m.seq ∨ r = terminatorRecord D.limits m.seq
    | _ => r.node = ResultNodeDescriptor.zero D.limits := by
  obtain ⟨seq, data⟩ := m
  have hanswered : data.answered = true := by
    by_contra hnot
    have hquiet := w.dispatch_quiet (m := ⟨seq, data⟩) (Bool.eq_false_iff.mpr hnot)
    have hsame : (w.dispatchCommand ⟨seq, data⟩).2.accepted = w.accepted := by
      rw [accepted, hquiet.trace, accepted]
    rw [answers, hsame, List.drop_length] at hr
    cases hr
  have hmalformed : data.malformed D = false := by
    rw [← Bool.not_eq_true]
    intro hm
    rw [answers, w.dispatch_malformed hm, List.drop_length] at hr
    cases hr
  cases data with
  | loadNode nodeType modulePath =>
    obtain ⟨descriptor, w₁, hload, hw⟩ := w.dispatch_loadNode seq hmalformed
    have hbefore := w.loadNodeDescriptorAs_accepted (CString.ofField modulePath) nodeType
    rw [hload] at hbefore
    rw [eq_of_mem_answers hw hbefore hr]
    dsimp only
    rw [hload]
  | addNode nodeType nodeName =>
    obtain ⟨node, w₁, hadd, hw⟩ := w.dispatch_addNode seq hmalformed
    have houtcome := (w.addNodeAs_outcome (CString.ofField nodeName) nodeType).1
    rw [hadd] at houtcome
    have hsame : w₁.accepted = w.accepted ∧ w₁.engine = w.engine := by
      cases houtcome <;> exact ⟨rfl, rfl⟩
    rw [eq_of_mem_answers hw hsame.1 hr]
    dsimp only
    rw [addedDescriptor, hsame.2, ← addedDescriptor]
  | removeNode nodeId =>
    obtain ⟨removed, w₁, hremove, hw⟩ := w.dispatch_removeNode seq hmalformed
    have hbefore : w₁.accepted = w.accepted := by
      cases hcall : D.removeNodeById w.runtime nodeId <;> rw [hcall] at hremove <;>
        cases hremove <;> rfl
    rw [eq_of_mem_answers hw hbefore hr]
    rfl
  | requestRuntimeNodes =>
    rw [w.answers_requestRuntimeNodes rfl] at hr
    simpa using (Channel.taken_sublist _ _).subset hr
  | _ => cases hanswered

theorem Describes.node_eq {w : World D} {m : CommandMessage D.limits}
    {r : ResultMessage D.limits} {d : NodeDescriptor} (hr : r ∈ w.answers m)
    (hd : w.Describes m r d) :
    r.node = resultCopyDescriptor (ResultNodeDescriptor.zero D.limits) d := by
  have hnode := node_of_mem_answers hr
  cases hd with
  | load hm hloaded =>
    rw [hm] at hnode
    rw [hnode, hloaded]
    rfl
  | add hm hfound =>
    rw [hm] at hnode
    rw [hnode, addedDescriptor, hfound]
  | node hm hn hrecord hfound =>
    unfold nodeRecord at hrecord
    rw [hfound] at hrecord
    rw [← Option.some.inj hrecord]
    rfl

theorem node_of_not_describes {w : World D} {m : CommandMessage D.limits}
    {r : ResultMessage D.limits} (hr : r ∈ w.answers m) (hnone : ∀ d, ¬w.Describes m r d) :
    r.node = ResultNodeDescriptor.zero D.limits := by
  have hnode := node_of_mem_answers hr
  obtain ⟨seq, data⟩ := m
  cases data with
  | loadNode nodeType modulePath =>
    cases hloaded : (w.loadNodeDescriptorAs (CString.ofField modulePath) nodeType).1 with
    | none =>
      dsimp only at hnode
      rw [hnode, hloaded]
      rfl
    | some d => exact absurd (.load rfl hloaded) (hnone d.target)
  | addNode nodeType nodeName =>
    cases hfound : collectionGet w.engine.loadedNodes (some (CString.ofField nodeName)) with
    | none =>
      dsimp only at hnode
      rw [hnode, addedDescriptor, hfound]
    | some e => exact absurd (.add rfl hfound) (hnone e.descriptor.target)
  | requestRuntimeNodes =>
    rcases hnode with hrecord | rfl
    · rcases List.mem_append.mp hrecord with hmem | hmem
      · obtain ⟨n, hn, hrecord⟩ := List.mem_filterMap.mp hmem
        cases hfound : collectionGet w.engine.loadedNodes n.name with
        | none =>
          rw [nodeRecord, hfound] at hrecord
          cases hrecord
        | some e => exact absurd (.node rfl hn hrecord hfound) (hnone e.descriptor.target)
      · obtain ⟨c, -, hrecord⟩ := List.mem_filterMap.mp hmem
        unfold connectionRecord at hrecord
        split at hrecord
        · rw [← Option.some.inj hrecord]
          rfl
        · cases hrecord
    · rfl
  | _ => exact hnode

end World

/-- A client may loop up to the counts of a record exactly when the counts of the descriptor it
describes fit the record's arrays; a record that describes none is zeroed. -/
theorem counts_safe_iff (w : World D) (m : CommandMessage D.limits) (r : ResultMessage D.limits)
    (hr : r ∈ w.answers m) :
    (∀ d, w.Describes m r d → (SafeToIterate r.node d ↔ d.Fits D.limits)) ∧
      ((∀ d, ¬w.Describes m r d) → r.node = ResultNodeDescriptor.zero D.limits) := by
  refine ⟨fun d hd => ?_, World.node_of_not_describes hr⟩
  rw [hd.node_eq hr]
  exact (descriptorImage_copy _ d).safeToIterate_iff

theorem counts_safe_reference :
    SafeToIterate (World.loadedDescriptor (D := Reference.deps) (some Reference.descriptor))
      Reference.descriptor.target :=
  ((counts_safe_iff Reference.world ⟨1, .loadNode .plugin #v[109, 0, 0, 0]⟩
    { World.statusResult ⟨1, .loadNode .plugin #v[109, 0, 0, 0]⟩ true with
      node := World.loadedDescriptor (some Reference.descriptor) }
    (List.mem_singleton_self _)).1 _ (.load rfl rfl)).mpr ⟨by decide, by decide, by decide⟩

/-- The reference world with another module at its path. -/
def Reference.exporting (d : Pointer NodeDescriptor) : World deps :=
  { world with env := { world.env with modules := [(modulePath, d)] } }

/-- A plugin with one port more than a record of the reference limits holds. -/
def Reference.threePorts : Pointer NodeDescriptor where
  address := 1
  target := { descriptor.target with
    portCount := 3
    ports := List.replicate 3 ⟨none, .f64, .input⟩
    portsHold := by decide }

/-- The record of a load reports three ports of which the array holds two. -/
theorem counts_exceed_arrays :
    ¬∀ (w : World Reference.deps) (m : CommandMessage Reference.limits),
      ∀ r ∈ w.answers m, ∀ d, w.Describes m r d → SafeToIterate r.node d := by
  intro h
  have hsafe := h (Reference.exporting Reference.threePorts)
    ⟨1, .loadNode .plugin #v[109, 0, 0, 0]⟩
    { World.statusResult ⟨1, .loadNode .plugin #v[109, 0, 0, 0]⟩ true with
      node := resultCopyDescriptor (ResultNodeDescriptor.zero _) Reference.threePorts.target }
    (List.mem_singleton_self _) Reference.threePorts.target (.load rfl rfl)
  have hfits := (descriptorImage_copy (ResultNodeDescriptor.zero _) _).safeToIterate_iff.mp hsafe
  exact absurd hfits.ports (by decide)

end RtsynEngine
