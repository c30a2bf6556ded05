import RtsynEngine.Proof.Handlers

/-! Rejected commands: which of them leave the engine and the runtime as they are. -/

namespace RtsynEngine

variable {D : Deps}

/-- A new priority that is in range and that the RT thread refuses. -/
def RefusedPriority (w : World D) : CommandData D.limits → Prop
  | .setRuntimePriority priority =>
    0 ≤ priority ∧ priority ≤ 99 ∧ priority ≠ w.engine.config.rtThread.priority ∧
      (D.threadSetPriority w.env priority).1 ≠ 0
  | _ => False

/-- An outcome that returns true, or else the world as it was. -/
def DoneOrSame (w : World D) (r : Bool × World D) : Prop := r.1 = false → r.2 = w

theorem updateMask_false {L : Limits} {n : Nat} {table : Vector Subscription n} {nodeId : UInt32}
    {mask : UInt64} {send vars : Bool} (h : (updateMask L table nodeId mask send vars).1 = false) :
    (updateMask L table nodeId mask send vars).2 = table := by
  unfold updateMask at h ⊢
  split at h
  · next hreject => rw [if_pos hreject]
  · next hreject =>
    rw [if_neg hreject]
    dsimp only at h ⊢
    split at h
    · rfl
    · split at h <;> cases h

namespace World

theorem ofRuntime_doneOrSame (w : World D) (runtime : Option D.Runtime) :
    DoneOrSame w (w.ofRuntime runtime) := by
  cases runtime with
  | none => exact fun _ => rfl
  | some r => exact fun h => nomatch h

theorem updateSubscriptionMask_doneOrSame (w : World D) (nodeId : UInt32) (mask : UInt64)
    (send vars : Bool) : DoneOrSame w (w.updateSubscriptionMask nodeId mask send vars) := fun h =>
  congrArg w.setSubscriptions (updateMask_false h)

theorem eventGlobalCommand_doneOrSame (w : World D) (m : CommandMessage D.limits) :
    DoneOrSame w (w.eventGlobalCommand m) := by
  unfold eventGlobalCommand
  split
  · split <;> first | exact fun _ => rfl | exact fun h => nomatch h
  · exact fun _ => rfl

theorem eventSetParam_doneOrSame (w : World D) (m : CommandMessage D.limits) :
    DoneOrSame w (w.eventSetParam m) := by
  unfold eventSetParam
  split
  · split
    · exact fun _ => rfl
    · split
      · exact w.ofRuntime_doneOrSame _
      · exact fun _ => rfl
  · exact fun _ => rfl

/-- A priority is stored before the thread is asked for it, so a refused one stays stored. -/
theorem setRtThreadPriority_doneOrPushes_iff (w : World D) (priority : Int32) :
    ((w.setRtThreadPriority priority).1 = false →
        OnlyPushes w (w.setRtThreadPriority priority).2) ↔
      ¬RefusedPriority w (.setRuntimePriority priority) := by
  unfold setRtThreadPriority RefusedPriority
  split
  · next hrange =>
    refine ⟨fun _ hrefused => ?_, fun _ _ => .refl w⟩
    rw [Bool.or_eq_true, decide_eq_true_eq, decide_eq_true_eq] at hrange
    rcases hrange with hneg | hbig
    · exact absurd hrefused.1 (Int32.not_le.mpr hneg)
    · exact absurd hrefused.2.1 (Int32.not_le.mpr hbig)
  · next hrange =>
    rw [Bool.or_eq_true, decide_eq_true_eq, decide_eq_true_eq, not_or, Int32.not_lt,
      Int32.not_lt] at hrange
    dsimp only
    rw [beq_eq_false_iff_ne]
    refine ⟨fun hsame hrefused => ?_, fun haccepted hcode => ?_⟩
    · have hengine := (hsame hrefused.2.2.2).engine
      exact hrefused.2.2.1 (congrArg (fun e => e.config.rtThread.priority) hengine)
    · have hpriority : priority = w.engine.config.rtThread.priority :=
        Decidable.not_not.mp fun hne => haccepted ⟨hrange.1, hrange.2, hne, hcode⟩
      subst hpriority
      exact ⟨rfl, rfl, rfl, rfl, [], by simp⟩

theorem dispatch_addNode_false (w : World D) {seq : UInt64} {nodeType : NodeType}
    {nodeName : Vector UInt8 D.limits.nodeNameSize}
    (hmalformed : (CommandData.addNode nodeType nodeName).malformed D = false)
    (h : (w.dispatchCommand ⟨seq, .addNode nodeType nodeName⟩).1 = false) :
    OnlyPushes w (w.dispatchCommand ⟨seq, .addNode nodeType nodeName⟩).2 := by
  obtain ⟨node, w₁, hadd, hw⟩ := w.dispatch_addNode seq hmalformed
  have houtcome := (w.addNodeAs_outcome (CString.ofField nodeName) nodeType).1
  rw [hadd] at houtcome
  rw [hw] at h ⊢
  cases houtcome with
  | rejected env =>
    have hpush := eventPushResult_onlyPushes { w with env }
    exact ⟨(hpush _).engine, (hpush _).runtime, (hpush _).telemetry, (hpush _).commands,
      (hpush _).trace⟩
  | added => cases h

theorem dispatch_removeNode_false (w : World D) {seq : UInt64} {nodeId : UInt32}
    (hmalformed : (CommandData.removeNode nodeId : CommandData D.limits).malformed D = false)
    (h : (w.dispatchCommand ⟨seq, .removeNode nodeId⟩).1 = false) :
    OnlyPushes w (w.dispatchCommand ⟨seq, .removeNode nodeId⟩).2 := by
  obtain ⟨removed, w₁, hremove, hw⟩ := w.dispatch_removeNode seq hmalformed
  have hsame := w.ofRuntime_doneOrSame (D.removeNodeById w.runtime nodeId)
  rw [hremove] at hsame
  rw [hw] at h ⊢
  have hw₁ : w₁ = w := hsame h
  rw [hw₁]
  exact w.eventPushResult_onlyPushes _

theorem dispatch_false (w : World D) {m : CommandMessage D.limits} (hload : m.type ≠ .loadNode)
    (hpriority : m.type ≠ .setRuntimePriority) (h : (w.dispatchCommand m).1 = false) :
    OnlyPushes w (w.dispatchCommand m).2 := by
  by_cases hmalformed : m.data.malformed D = true
  · rw [w.dispatch_malformed hmalformed]
    exact .refl w
  rw [Bool.not_eq_true] at hmalformed
  have hclean : ∀ r, w.dispatchCommand m = r → DoneOrSame w r →
      OnlyPushes w (w.dispatchCommand m).2 := by
    intro r hr hdone
    rw [hr] at h ⊢
    rw [hdone h]
    exact .refl w
  obtain ⟨seq, data⟩ := m
  cases data with
  | none => exact .refl w
  | globalCommand => exact hclean _ rfl (w.eventGlobalCommand_doneOrSame _)
  | pluginUpdate => exact hclean _ rfl (w.ofRuntime_doneOrSame _)
  | requestPortValues => exact hclean _ rfl (w.updateSubscriptionMask_doneOrSame _ _ _ _)
  | requestPortVariables => exact hclean _ rfl (w.updateSubscriptionMask_doneOrSame _ _ _ _)
  | loadNode => exact absurd rfl hload
  | addNode => exact w.dispatch_addNode_false hmalformed h
  | removeNode => exact w.dispatch_removeNode_false hmalformed h
  | addConnection =>
    refine hclean _ rfl ?_
    dsimp only [dispatchCommand, eventAddConnection]
    split
    · exact fun _ => rfl
    · exact w.ofRuntime_doneOrSame _
  | removeConnection =>
    refine hclean _ rfl ?_
    dsimp only [dispatchCommand, eventRemoveConnection]
    split
    · exact fun _ => rfl
    · exact w.ofRuntime_doneOrSame _
  | setParam => exact hclean _ rfl (w.eventSetParam_doneOrSame _)
  | setRuntimePeriod => exact hclean _ rfl (w.ofRuntime_doneOrSame _)
  | setRuntimePriority => exact absurd rfl hpriority
  | setRuntimeDeadlineTolerance => cases h
  | requestRuntimeNodes =>
    rw [w.eventRequestRuntimeNodes_eq rfl]
    exact w.pushResults_onlyPushes _
  | unknown => exact .refl w

end World

/-- A command that is not `LOAD_NODE` and is rejected leaves the engine and the runtime as they are
exactly when it is not a priority in range that the RT thread refuses. -/
theorem rejected_unchanged_iff (w : World D) (m : CommandMessage D.limits)
    (hload : m.type ≠ .loadNode) :
    ((w.dispatchCommand m).1 = false → OnlyPushes w (w.dispatchCommand m).2) ↔
      ¬RefusedPriority w m.data := by
  by_cases hpriority : m.type = .setRuntimePriority
  · obtain ⟨seq, data⟩ := m
    cases data with
    | setRuntimePriority priority => exact w.setRtThreadPriority_doneOrPushes_iff priority
    | _ => cases hpriority
  · refine iff_of_true (w.dispatch_false hload hpriority) fun hrefused => ?_
    obtain ⟨seq, data⟩ := m
    cases data with
    | setRuntimePriority priority => exact hpriority rfl
    | _ => exact hrefused

theorem rejected_unchanged_reference :
    OnlyPushes Reference.world (Reference.world.dispatchCommand ⟨1, .removeNode 5⟩).2 :=
  (rejected_unchanged_iff Reference.world ⟨1, .removeNode 5⟩ (by decide)).mpr (fun h => h) rfl

/-- The thread refuses the priority 50, which the configuration keeps. -/
theorem rejected_priority_stays :
    let w : World Reference.deps :=
      { Reference.world with env := { Reference.world.env with priorityCode := 1 } }
    (w.dispatchCommand ⟨1, .setRuntimePriority 50⟩).1 = false ∧
      ¬OnlyPushes w (w.dispatchCommand ⟨1, .setRuntimePriority 50⟩).2 := by
  refine ⟨rfl, fun h => ?_⟩
  have hpriority := congrArg (fun e => e.config.rtThread.priority) h.engine
  exact absurd hpriority (by decide)

end RtsynEngine
