import RtsynEngine.Proof.Coherence
import RtsynEngine.Proof.Descriptor

/-! The name that the answer to a load reports, on its way through the record and the field of an
`ADD_NODE` command back to the registry. -/

namespace RtsynEngine

variable {D : Deps}

namespace CString

/-- The engine's local copy of a field is the field's string up to its last byte. -/
theorem ofField_bytes {n : Nat} (field : Vector UInt8 n) :
    (ofField field).bytes = (ofBytes field.toList).bytes.take (n - 1) := by
  rw [ofField, ofBytes_bytes, ofBytes_bytes, List.take_takeWhile]

theorem ofBytes_eq_nil_iff {n : Nat} {field : Vector UInt8 n} (hn : 0 < n) :
    (ofBytes field.toList).bytes = [] ↔ field[0]? = some 0 := by
  have hlength : field.toList.length = n := Vector.length_toList
  have hfirst : field[0]? = field.toList[0]? := by simp
  rw [ofBytes_bytes, hfirst]
  cases hbytes : field.toList with
  | nil =>
    rw [hbytes, List.length_nil] at hlength
    omega
  | cons b bytes =>
    rw [List.takeWhile_cons]
    by_cases hzero : b = 0 <;> simp [hzero]

end CString

/-- The field of a command carries a name: the name's bytes that fit, with or without room for a
terminator. -/
def Carries {n : Nat} (field : Vector UInt8 n) (name : CString) : Prop :=
  (CString.ofBytes field.toList).bytes = name.bytes.take (n - 1) ∨
    (CString.ofBytes field.toList).bytes = name.bytes.take n

theorem Carries.ofField_bytes {n : Nat} {field : Vector UInt8 n} {name : CString}
    (h : Carries field name) : (CString.ofField field).bytes = name.bytes.take (n - 1) := by
  rw [CString.ofField_bytes]
  rcases h with h | h <;> rw [h, List.take_take]
  · rw [Nat.min_self]
  · rw [Nat.min_eq_left (by omega)]

/-- A name that neither the record of a load nor the field of a command cuts, and that an `ADD_NODE`
command may ask for. -/
structure CString.Reportable (L : Limits) (name : CString) : Prop where
  nonempty : name.bytes ≠ []
  result : name.bytes.length < L.resultNameSize
  command : name.bytes.length < L.nodeNameSize

/-- An operation that loads a module. -/
def Operation.loads {L : Limits} : Operation L → Bool
  | .loadNode _ | .loadNodeAs _ _ => true
  | .command m => m.type = .loadNode
  | _ => false

namespace World

/-- An `ADD_NODE` command asks for the descriptor `d`: its lookup is reached and finds it, and the
node is created from it and added whenever that succeeds. -/
structure AddsFrom (w : World D) (m : CommandMessage D.limits)
    (nodeName : Vector UInt8 D.limits.nodeNameSize) (d : Pointer NodeDescriptor) : Prop where
  wellFormed : m.data.malformed D = false
  found : (collectionGet w.engine.loadedNodes (some (CString.ofField nodeName))).map
    LoadedNode.descriptor = some d
  succeeds : (w.dispatchCommand m).1 = true ↔ ∃ n runtime,
    (w.createNodeFromDescriptor d).1 = some n ∧ D.addNode w.runtime n = some runtime
  adds : ∀ n runtime, (w.createNodeFromDescriptor d).1 = some n →
    D.addNode w.runtime n = some runtime → (w.dispatchCommand m).2.runtime = runtime ∧
      n.descriptor = d

theorem addNodeAs_of_found {w : World D} {name : CString} {e : LoadedNode}
    (hfound : collectionGet w.engine.loadedNodes (some name) = some e)
    (htype : D.nodeTypeIsValid e.descriptor.target.nodeType = true) :
    ((w.addNodeAs name e.descriptor.target.nodeType).1.isSome ↔ ∃ n runtime,
      (w.createNodeFromDescriptor e.descriptor).1 = some n ∧
        D.addNode w.runtime n = some runtime) ∧
    ∀ n runtime, (w.createNodeFromDescriptor e.descriptor).1 = some n →
      D.addNode w.runtime n = some runtime →
        (w.addNodeAs name e.descriptor.target.nodeType).2.runtime = runtime := by
  obtain ⟨env, henv⟩ := w.createNodeFromDescriptor_env e.descriptor
  unfold addNodeAs addNode
  simp only [htype, hfound, bne_self_eq_false, Bool.not_true, Bool.false_eq_true, ↓reduceIte]
  rcases hcreate : w.createNodeFromDescriptor e.descriptor with ⟨_ | n, w₁⟩
  · simp
  · rw [hcreate] at henv
    rw [show w₁ = _ from henv]
    cases hadd : D.addNode w.runtime n with
    | none =>
      simp only [hadd]
      constructor
      · simp [hadd]
      · rintro n' runtime ⟨⟩ hadd'
        rw [hadd] at hadd'
        cases hadd'
    | some runtime =>
      simp only [hadd]
      constructor
      · simp [hadd]
      · rintro n' runtime' ⟨⟩ hadd'
        exact Option.some.inj (hadd.symm.trans hadd')

/-- Only a load changes the registry. -/
theorem perform_loadedNodes {w : World D} {op : Operation D.limits} (hop : op.loads = false) :
    (w.perform op).engine.loadedNodes = w.engine.loadedNodes := by
  cases op with
  | loadNode => cases hop
  | loadNodeAs => cases hop
  | addNode nodeName =>
    have houtcome := w.addNode_outcome nodeName
    dsimp only [perform]
    generalize w.addNode nodeName = r at houtcome
    cases houtcome <;> rfl
  | addNodeAs nodeName nodeType =>
    have houtcome := (w.addNodeAs_outcome nodeName nodeType).1
    dsimp only [perform]
    generalize w.addNodeAs nodeName nodeType = r at houtcome
    cases houtcome <;> rfl
  | command m =>
    obtain ⟨w₁, haction, hpushes⟩ := w.dispatch_action m
    dsimp only [perform]
    rw [hpushes.engine]
    obtain ⟨seq, data⟩ := m
    cases haction with
    | quiet hdata hquiet => exact hquiet.loadedNodes
    | nothing => rfl
    | load => simp [Operation.loads, CommandMessage.type, CommandData.type] at hop
    | add nodeType nodeName =>
      have houtcome := (w.addNodeAs_outcome (CString.ofField nodeName) nodeType).1
      generalize w.addNodeAs (CString.ofField nodeName) nodeType = r at houtcome
      cases houtcome <;> rfl
    | remove nodeId => cases D.removeNodeById w.runtime nodeId <;> rfl

theorem performAll_loadedNodes {w : World D} {ops : List (Operation D.limits)}
    (hops : ∀ op ∈ ops, op.loads = false) :
    (w.performAll ops).engine.loadedNodes = w.engine.loadedNodes := by
  induction ops generalizing w with
  | nil => rfl
  | cons op ops ih =>
    have hrest := ih (w := w.perform op) fun op' hop' => hops op' (List.mem_cons_of_mem op hop')
    exact hrest.trans (perform_loadedNodes (hops op (List.mem_cons_self ..)))

/-- A load that is answered with status OK has registered its descriptor, and the answer has the
descriptor's type and name. -/
theorem load_answered (nodeLaws : D.NodeLaws) {w : World D} {seq : UInt64} {nodeType : NodeType}
    {modulePath : Vector UInt8 D.limits.modulePathSize} {r : ResultMessage D.limits}
    (hr : r ∈ w.answers ⟨seq, .loadNode nodeType modulePath⟩) (hok : r.status = .ok) :
    ∃ e name,
      (w.loadNodeDescriptorAs (CString.ofField modulePath) nodeType).1 = some e.descriptor ∧
      e.descriptor.target.name = some name ∧
      collectionGet (w.dispatchCommand ⟨seq, .loadNode nodeType modulePath⟩).2.engine.loadedNodes
        (some name) = some e ∧
      D.nodeTypeIsValid r.node.nodeType = true ∧
      r.node = resultCopyDescriptor (ResultNodeDescriptor.zero D.limits) e.descriptor.target := by
  have hmalformed : (CommandData.loadNode nodeType modulePath).malformed D = false := by
    rw [← Bool.not_eq_true]
    intro hm
    rw [answers, w.dispatch_malformed hm, List.drop_length] at hr
    cases hr
  obtain ⟨descriptor, w₁, hload, hw⟩ := w.dispatch_loadNode seq hmalformed
  have hbefore := w.loadNodeDescriptorAs_accepted (CString.ofField modulePath) nodeType
  have houtcome := w.loadNodeDescriptorAs_outcome (CString.ofField modulePath) nodeType
  rw [hload] at hbefore houtcome
  have hrecord := eq_of_mem_answers hw hbefore hr
  rw [hw, hload, (w₁.eventPushResult_onlyPushes _).engine]
  have hvalid : D.nodeTypeIsValid nodeType = true := by
    simp only [CommandData.malformed, Bool.or_eq_false_iff, Bool.not_eq_false'] at hmalformed
    exact hmalformed.1
  cases houtcome with
  | registered env e name hname htype =>
    have hne : nodeType ≠ .invalid := by
      rintro rfl
      rw [nodeLaws.invalid_not_valid] at hvalid
      cases hvalid
    refine ⟨e, name, rfl, hname, ?_, ?_, ?_⟩
    · rw [← hname]
      exact collectionGet_replaced hname
    · rw [hrecord]
      exact (congrArg D.nodeTypeIsValid (htype hne)).trans hvalid
    · rw [hrecord]
      rfl
  | _ =>
    rw [hrecord] at hok
    cases hok

theorem addsFrom_of_found (nodeLaws : D.NodeLaws) {w : World D} {seq : UInt64}
    {nodeName : Vector UInt8 D.limits.nodeNameSize} {e : LoadedNode}
    (hfound : collectionGet w.engine.loadedNodes (some (CString.ofField nodeName)) = some e)
    (htype : D.nodeTypeIsValid e.descriptor.target.nodeType = true)
    (hname : nodeName[0]? ≠ some 0) :
    AddsFrom w ⟨seq, .addNode e.descriptor.target.nodeType nodeName⟩ nodeName e.descriptor := by
  have hmalformed : (CommandData.addNode e.descriptor.target.nodeType nodeName).malformed D =
      false := by
    simp [CommandData.malformed, htype, hname]
  obtain ⟨node, w₁, hadd, hw⟩ := w.dispatch_addNode seq hmalformed
  obtain ⟨hsucceeds, hadds⟩ := addNodeAs_of_found hfound htype
  rw [hadd] at hsucceeds hadds
  refine ⟨hmalformed, ?_, ?_, fun n runtime hcreate hruntime => ⟨?_, ?_⟩⟩
  · rw [hfound]
    rfl
  · rw [hw]
    exact hsucceeds
  · rw [hw, (w₁.eventPushResult_onlyPushes _).runtime]
    exact hadds n runtime hcreate hruntime
  · exact (createNodeFromDescriptor_spec nodeLaws hcreate).1

end World

/-- The name that a load reports with status OK finds exactly the descriptor just loaded, whatever
other names are registered and whatever comes between but another load, if and only if it is not
empty and neither the record nor the command's field cuts it. -/
theorem reported_name_adds_iff (nodeLaws : D.NodeLaws) (hsize : 0 < D.limits.nodeNameSize)
    (w : World D) (seq seq' : UInt64) (nodeType : NodeType)
    (modulePath : Vector UInt8 D.limits.modulePathSize) (r : ResultMessage D.limits)
    (hr : r ∈ w.answers ⟨seq, .loadNode nodeType modulePath⟩) (hok : r.status = .ok)
    (ops : List (Operation D.limits)) (hops : ∀ op ∈ ops, op.loads = false)
    (nodeName : Vector UInt8 D.limits.nodeNameSize)
    (hcarries : Carries nodeName (CString.ofBytes r.node.name.toList)) :
    ∃ d name, (w.loadNodeDescriptorAs (CString.ofField modulePath) nodeType).1 = some d ∧
      d.target.name = some name ∧
      (World.AddsFrom
          ((w.dispatchCommand ⟨seq, .loadNode nodeType modulePath⟩).2.performAll ops)
          ⟨seq', .addNode r.node.nodeType nodeName⟩ nodeName d ↔
        name.Reportable D.limits) := by
  obtain ⟨e, name, hloaded, hname, hfound, htype, hnode⟩ := World.load_answered nodeLaws hr hok
  refine ⟨e.descriptor, name, hloaded, hname, ?_⟩
  rw [← World.performAll_loadedNodes hops] at hfound
  have hreported : (CString.ofBytes r.node.name.toList).bytes =
      name.bytes.take (D.limits.resultNameSize - 1) := by
    rw [hnode]
    dsimp only [resultCopyDescriptor, ResultNodeDescriptor.zero]
    rw [hname, CString.ofBytes_copyString]
  have hasked := hcarries.ofField_bytes
  rw [hreported, List.take_take] at hasked
  constructor
  · intro hadds
    obtain ⟨e', hfound', hdescriptor⟩ := Option.map_eq_some_iff.mp hadds.found
    have hsame : some (CString.ofField nodeName) = some name := by
      rw [← (collectionGet_name hfound').2, LoadedNode.name, hdescriptor, hname]
    rw [Option.some.inj hsame] at hasked
    have hlength := congrArg List.length hasked
    rw [List.length_take] at hlength
    have hnonempty : name.bytes ≠ [] := by
      intro hempty
      have hfield : (CString.ofBytes nodeName.toList).bytes = [] := by
        rcases hcarries with h | h <;> rw [h, hreported, hempty] <;> simp
      have hmalformed := hadds.wellFormed
      rw [CString.ofBytes_eq_nil_iff hsize] at hfield
      simp [CommandData.malformed, hfield] at hmalformed
    have hpositive := List.length_pos_iff.mpr hnonempty
    exact ⟨hnonempty, by omega, by omega⟩
  · rintro ⟨hnonempty, hresult, hcommand⟩
    have hsame : CString.ofField nodeName = name := by
      refine CString.ext (hasked.trans (List.take_of_length_le ?_))
      omega
    rw [← hsame] at hfound
    rw [hnode] at htype ⊢
    refine World.addsFrom_of_found nodeLaws hfound htype fun hfirst => hnonempty ?_
    rw [← CString.ofBytes_eq_nil_iff hsize] at hfirst
    rw [← hsame, CString.ofField_bytes, hfirst]
    simp

/-- The answer of status OK to the load of a module that exports `d`. -/
def Reference.loadAnswer (d : Pointer NodeDescriptor) : ResultMessage limits :=
  { World.statusResult (D := deps) ⟨1, .loadNode .plugin #v[109, 0, 0, 0]⟩ true with
    node := resultCopyDescriptor (ResultNodeDescriptor.zero _) d.target }

theorem reported_name_adds_reference :
    ∃ d name, (Reference.world.loadNodeDescriptorAs (CString.ofField #v[109, 0, 0, 0])
        .plugin).1 = some d ∧ d.target.name = some name ∧
      (World.AddsFrom ((Reference.world.dispatchCommand
          ⟨1, .loadNode .plugin #v[109, 0, 0, 0]⟩).2.performAll
            [.command ⟨2, .requestRuntimeNodes⟩])
        ⟨3, .addNode .plugin #v[110, 0, 0, 0]⟩ #v[110, 0, 0, 0] d ↔
        name.Reportable Reference.limits) :=
  reported_name_adds_iff Reference.nodeLaws (by decide) Reference.world 1 3 .plugin
    #v[109, 0, 0, 0] (Reference.loadAnswer Reference.descriptor) (List.mem_singleton_self _) rfl
    [.command ⟨2, .requestRuntimeNodes⟩] (by decide) #v[110, 0, 0, 0] (.inl rfl)

/-- A plugin whose name has as many bytes as the field of a command. -/
def Reference.longName : Pointer NodeDescriptor where
  address := 1
  target := { descriptor.target with name := some ⟨[110, 110, 110, 110], by decide⟩ }

/-- The name that is reported for it is cut, and nothing is registered under what is left. -/
theorem cut_name_not_found :
    ¬∀ (w : World Reference.deps) (seq seq' : UInt64) (nodeType : NodeType)
      (modulePath : Vector UInt8 4), ∀ r ∈ w.answers ⟨seq, .loadNode nodeType modulePath⟩,
      r.status = .ok → ∀ nodeName : Vector UInt8 4,
        Carries nodeName (CString.ofBytes r.node.name.toList) → ∀ d,
          (w.loadNodeDescriptorAs (CString.ofField modulePath) nodeType).1 = some d →
            World.AddsFrom (w.dispatchCommand ⟨seq, .loadNode nodeType modulePath⟩).2
              ⟨seq', .addNode r.node.nodeType nodeName⟩ nodeName d := by
  intro h
  have hadds := h (Reference.exporting Reference.longName) 1 2 .plugin #v[109, 0, 0, 0]
    (Reference.loadAnswer Reference.longName) (List.mem_singleton_self _) rfl #v[110, 110, 110, 0]
    (.inl rfl) Reference.longName rfl
  exact absurd hadds.found nofun

end RtsynEngine
