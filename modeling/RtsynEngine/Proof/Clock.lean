import RtsynEngine.Proof.Loop
import RtsynEngine.Proof.Snapshot

/-! What takes time in a cycle: the clock never goes back in the dispatch of a command and in a
step of the runtime, and it stands still in the measurement. -/

namespace RtsynEngine

variable {D : Deps}

namespace World

theorem eventPushResult_env (w : World D) (m : ResultMessage D.limits) :
    (w.eventPushResult m).2.env = w.env := by
  unfold eventPushResult
  split <;> rfl

theorem pushResults_env (w : World D) (rs : List (ResultMessage D.limits)) :
    (w.pushResults rs).2.env = w.env := by
  induction rs generalizing w with
  | nil => rfl
  | cons r rs ih =>
    have hfirst := w.eventPushResult_env r
    exact (ih (w.eventPushResult r).2).trans hfirst

theorem ofRuntime_env (w : World D) (runtime : Option D.Runtime) :
    (w.ofRuntime runtime).2.env = w.env := by
  cases runtime <;> rfl

section Clock

variable {now : D.Env → UInt64} (laws : D.ClockLaws now)
include laws

theorem measureCycle_now (w : World D)
    (nextDeadlineNs startedAtNs cycleCompletedAtNs periodNs : UInt64) :
    now (w.measureCycle nextDeadlineNs startedAtNs cycleCompletedAtNs periodNs).env =
      now w.env := by
  have hcalculate := laws.calculateCycle w.env periodNs startedAtNs cycleCompletedAtNs
  unfold measureCycle
  split
  · next env heq =>
    rw [heq] at hcalculate
    exact hcalculate
  · next metrics env heq =>
    rw [heq] at hcalculate
    have hpublish := publish_env { w with env } (.measurement cycleCompletedAtNs
      (some (D.calculateDeadline periodNs cycleCompletedAtNs nextDeadlineNs
        w.engine.config.deadlineToleranceNs metrics)))
    exact (congrArg now hpublish).trans hcalculate

theorem replaceLoadedNode_now (w : World D) (loadedNode : LoadedNode) (name : CString) :
    now w.env ≤ now (w.replaceLoadedNode loadedNode name).2.env := by
  have hadd := laws.collectionAdd w.env
  rw [replaceLoadedNode_eq]
  split
  · next env heq =>
    rw [heq] at hadd
    exact hadd
  · next env heq =>
    rw [heq] at hadd
    exact hadd

theorem loadNodeDescriptorAs_now (w : World D) (modulePath : CString) (nodeType : NodeType) :
    now w.env ≤ now (w.loadNodeDescriptorAs modulePath nodeType).2.env := by
  have hcreate := laws.moduleLoaderCreate w.env modulePath
  unfold loadNodeDescriptorAs
  split
  · next env heq =>
    rw [heq] at hcreate
    exact hcreate
  · next loader env heq =>
    rw [heq] at hcreate
    have hmalloc := laws.mallocLoadedNode env
    dsimp only
    split
    · exact hcreate
    · split
      · exact hcreate
      · split
        · exact hcreate
        · split
          · next env' heq' =>
            rw [heq'] at hmalloc
            exact UInt64.le_trans hcreate hmalloc
          · next env' heq' =>
            rw [heq'] at hmalloc
            exact UInt64.le_trans (UInt64.le_trans hcreate hmalloc)
              (replaceLoadedNode_now laws { w with env := env' } _ _)

theorem createNodeFromDescriptor_now (w : World D) (descriptor : Pointer NodeDescriptor) :
    now w.env ≤ now (w.createNodeFromDescriptor descriptor).2.env := by
  unfold createNodeFromDescriptor
  split
  · exact laws.nodeCreatePlugin w.env descriptor
  · exact laws.nodeCreateDevice w.env descriptor
  · exact UInt64.le_refl _

theorem addNode_now (w : World D) (nodeName : CString) :
    now w.env ≤ now (w.addNode nodeName).2.env := by
  unfold addNode
  split
  · exact UInt64.le_refl _
  · next loadedNode _ =>
    have hcreate := createNodeFromDescriptor_now laws w loadedNode.descriptor
    split
    · next w₁ heq =>
      rw [heq] at hcreate
      exact hcreate
    · next node w₁ heq =>
      rw [heq] at hcreate
      split
      · exact UInt64.le_trans hcreate (laws.nodeDestroy w₁.env node)
      · exact hcreate

theorem addNodeAs_now (w : World D) (nodeName : CString) (nodeType : NodeType) :
    now w.env ≤ now (w.addNodeAs nodeName nodeType).2.env := by
  unfold addNodeAs
  split
  · exact UInt64.le_refl _
  · split
    · exact UInt64.le_refl _
    · split
      · exact UInt64.le_refl _
      · exact addNode_now laws w nodeName

/-- The clock does not go back while a command is dispatched. -/
theorem dispatch_now (w : World D) (m : CommandMessage D.limits) :
    now w.env ≤ now (w.dispatchCommand m).2.env := by
  cases hanswered : m.data.answered with
  | false =>
    have hmove := w.dispatch_move hanswered
    generalize m.data = data, (w.dispatchCommand m).2 = w' at hmove
    cases hmove with
    | setPriority priority => exact laws.threadSetPriority w.env priority
    | _ => exact UInt64.le_refl _
  | true =>
    by_cases hmalformed : m.data.malformed D = true
    · rw [w.dispatch_malformed hmalformed]
      exact UInt64.le_refl _
    rw [Bool.not_eq_true] at hmalformed
    obtain ⟨seq, data⟩ := m
    cases data with
    | loadNode nodeType modulePath =>
      obtain ⟨descriptor, w₁, hload, hw⟩ := w.dispatch_loadNode seq hmalformed
      have hnow := loadNodeDescriptorAs_now laws w (CString.ofField modulePath) nodeType
      rw [hload] at hnow
      rw [hw, eventPushResult_env]
      exact hnow
    | addNode nodeType nodeName =>
      obtain ⟨node, w₁, hadd, hw⟩ := w.dispatch_addNode seq hmalformed
      have hnow := addNodeAs_now laws w (CString.ofField nodeName) nodeType
      rw [hadd] at hnow
      rw [hw, eventPushResult_env]
      exact hnow
    | removeNode nodeId =>
      obtain ⟨removed, w₁, hremove, hw⟩ := w.dispatch_removeNode seq hmalformed
      have henv := ofRuntime_env w (D.removeNodeById w.runtime nodeId)
      rw [hremove] at henv
      rw [hw, eventPushResult_env, henv]
      exact UInt64.le_refl _
    | requestRuntimeNodes =>
      rw [w.eventRequestRuntimeNodes_eq rfl]
      dsimp only
      rw [pushResults_env]
      exact UInt64.le_refl _
    | _ => cases hanswered

end Clock

end World

end RtsynEngine
