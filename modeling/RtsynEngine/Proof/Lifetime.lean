import RtsynEngine.Proof.Handlers
import RtsynEngine.Proof.Subscriptions

/-! Subscriptions and the nodes they name.  The table is kept apart from the runtime: a slot stays
in use when its node is removed, and the publisher passes over it. -/

namespace RtsynEngine

open Function SlotTable

variable {D : Deps}

/-- A node of that id is in the runtime. -/
def Live (w : World D) (id : UInt32) : Prop := ∃ n ∈ D.nodes w.runtime, n.id = id

/-- The node that a command subscribes to. -/
def CommandData.target {L : Limits} : CommandData L → Option UInt32
  | .requestPortValues id _ true | .requestPortVariables id _ true => some id
  | _ => Option.none

/-- The commands that may take nodes out of the runtime. -/
def CommandMessage.removes {L : Limits} (m : CommandMessage L) : Prop :=
  m.type = .removeNode ∨ m.type = .loadNode

/-- Each subscription of a run is to a node that is in the runtime when it is dispatched. -/
def LiveRequests : World D → List (CommandMessage D.limits) → Prop
  | _, [] => True
  | w, m :: ms =>
    (∀ id, m.data.target = some id → Live w id) ∧ LiveRequests (w.dispatchCommand m).2 ms

/-- The node was in the runtime, and a `REMOVE_NODE` or `LOAD_NODE` of the run took it out. -/
def RemovedIn (w : World D) (ms : List (CommandMessage D.limits)) (id : UInt32) : Prop :=
  ∃ pre m post, ms = pre ++ m :: post ∧ m.removes ∧ Live (w.dispatchAll pre) id ∧
    ¬Live (w.dispatchAll (pre ++ [m])) id

theorem liveRequests_append {w : World D} {ms ms' : List (CommandMessage D.limits)} :
    LiveRequests w (ms ++ ms') ↔ LiveRequests w ms ∧ LiveRequests (w.dispatchAll ms) ms' := by
  induction ms generalizing w with
  | nil => simp [LiveRequests]
  | cons m ms ih =>
    simp only [List.cons_append, LiveRequests, World.dispatchAll_cons]
    rw [ih, and_assoc]

theorem RemovedIn.append {w : World D} {ms : List (CommandMessage D.limits)} {id : UInt32}
    (h : RemovedIn w ms id) (ms' : List (CommandMessage D.limits)) :
    RemovedIn w (ms ++ ms') id := by
  obtain ⟨pre, m, post, rfl, hremoves, hlive, hgone⟩ := h
  exact ⟨pre, m, post ++ ms', by simp, hremoves, hlive, hgone⟩

namespace World

theorem live_dispatch (laws : D.RuntimeLaws) {w : World D} {m : CommandMessage D.limits}
    {id : UInt32} (hlive : Live w id) : Live (w.dispatchCommand m).2 id ∨ m.removes := by
  obtain ⟨w₁, haction, hpushes⟩ := w.dispatch_action m
  unfold Live
  rw [hpushes.runtime]
  unfold CommandMessage.removes CommandMessage.type
  generalize m.data = data at haction
  cases haction with
  | quiet hdata hquiet =>
    rw [hquiet.runtime.nodes laws]
    exact .inl hlive
  | nothing hdata => exact .inl hlive
  | load nodeType modulePath => exact .inr (.inr rfl)
  | add nodeType nodeName =>
    have houtcome := (w.addNodeAs_outcome (CString.ofField nodeName) nodeType).1
    generalize w.addNodeAs (CString.ofField nodeName) nodeType = r at houtcome
    obtain ⟨n, hn, hid⟩ := hlive
    cases houtcome with
    | rejected env => exact .inl ⟨n, hn, hid⟩
    | added env e node runtime hfound hcreated hadd =>
      exact .inl ⟨n, (laws.addNode hadd n).mpr (.inl hn), hid⟩
  | remove nodeId => exact .inr (.inl rfl)

end World

theorem exists_maskRequest {L : Limits} {m : CommandMessage L} (hm : m.data.subscribes = true) :
    ∃ r : MaskRequest, m = r.message L := by
  obtain ⟨seq, data⟩ := m
  cases data with
  | requestPortValues id mask send => exact ⟨⟨seq, id, mask, send, false⟩, rfl⟩
  | requestPortVariables id mask send => exact ⟨⟨seq, id, mask, send, true⟩, rfl⟩
  | _ => cases hm

theorem MaskRequest.target {L : Limits} (r : MaskRequest) (hsend : r.send = true) :
    (r.message L).data.target = some r.nodeId := by
  obtain ⟨seq, nodeId, mask, send, vars⟩ := r
  cases vars <;> cases hsend <;> rfl

theorem MaskRequest.apply_ne_zero {L : Limits} {r : MaskRequest} {f : UInt32 → Masks}
    {id : UInt32} (h : (r.apply L f).2 id ≠ 0) : f id ≠ 0 ∨ r.send = true ∧ id = r.nodeId := by
  unfold MaskRequest.apply at h
  split at h
  · exact .inl h
  · split at h
    · next hsend =>
      split at h
      · exact .inl h
      · by_cases hid : id = r.nodeId
        · exact .inr ⟨hsend, hid⟩
        · dsimp only at h
          rw [update_of_ne hid] at h
          exact .inl h
    · dsimp only at h
      by_cases hid : id = r.nodeId
      · subst hid
        rw [update_self] at h
        refine .inl fun hzero => h ?_
        rw [hzero]
        cases r.vars <;> simp [Masks.update, Prod.ext_iff]
      · rw [update_of_ne hid] at h
        exact .inl h

/-- The map that the table represents after a run has masks for nodes only that are live or were
removed in the run. -/
theorem subscribed_live_or_removed (laws : D.RuntimeLaws) (w : World D)
    (hzero : w.engine.telemetrySubscriptions = Vector.replicate _ Subscription.zero)
    {ms : List (CommandMessage D.limits)} (hrequests : LiveRequests w ms) :
    ∃ f, TableMatches D.limits (w.dispatchAll ms).engine.telemetrySubscriptions f ∧
      ∀ id, f id ≠ 0 → Live (w.dispatchAll ms) id ∨ RemovedIn w ms id := by
  induction ms using List.reverseRecOn with
  | nil => exact ⟨fun _ => 0, hzero ▸ tableMatches_zero D.limits, fun id h => absurd rfl h⟩
  | append_singleton ms m ih =>
    rw [liveRequests_append] at hrequests
    obtain ⟨f, htable, hf⟩ := ih hrequests.1
    have hstep : ∀ id, Live (w.dispatchAll ms) id ∨ RemovedIn w ms id →
        Live (w.dispatchAll (ms ++ [m])) id ∨ RemovedIn w (ms ++ [m]) id := by
      rintro id (hlive | hremoved)
      · by_cases hlive' : Live (w.dispatchAll (ms ++ [m])) id
        · exact .inl hlive'
        · rw [World.dispatchAll_append] at hlive'
          rcases World.live_dispatch laws (m := m) hlive with hstill | hremoves
          · exact absurd hstill hlive'
          · refine .inr ⟨ms, m, [], rfl, hremoves, hlive, ?_⟩
            rwa [World.dispatchAll_append]
      · exact .inr (hremoved.append [m])
    have hlast : w.dispatchAll (ms ++ [m]) = ((w.dispatchAll ms).dispatchCommand m).2 :=
      World.dispatchAll_append ..
    cases hm : m.data.subscribes with
    | false =>
      refine ⟨f, ?_, fun id hid => hstep id (hf id hid)⟩
      rw [hlast, World.dispatch_subscriptions _ hm]
      exact htable
    | true =>
      obtain ⟨r, rfl⟩ := exists_maskRequest hm
      obtain ⟨-, ⟨table, hw, htable'⟩, -⟩ := (w.dispatchAll ms).maskRequest_refines r htable
      refine ⟨(r.apply D.limits f).2, ?_, fun id hid => hstep id ?_⟩
      · rw [hlast, hw]
        exact htable'
      · rcases MaskRequest.apply_ne_zero hid with hold | ⟨hsend, rfl⟩
        · exact hf id hold
        · exact .inl (hrequests.2.1 _ (r.target hsend))

/-- The table is kept apart from the runtime.  In a run from a fresh engine that subscribes only to
live nodes: a slot in use is that of a live node, or of one that a `REMOVE_NODE` or `LOAD_NODE` of
the run took out; these commands leave the table as it is; and a subscription to a live node is
refused only when other nodes have all the slots. -/
theorem subscriptions_of_live_or_removed (laws : D.RuntimeLaws) (w : World D) (config : Config)
    (hcreate : Engine.create D.limits config = some w.engine)
    (ms : List (CommandMessage D.limits)) (hrequests : LiveRequests w ms) :
    let w' := w.dispatchAll ms
    let table := w'.engine.telemetrySubscriptions
    (∀ i : Fin D.limits.subscriptionCapacity, table[i].used = true →
      Live w' table[i].nodeId ∨ RemovedIn w ms table[i].nodeId) ∧
    (∀ m : CommandMessage D.limits, m.removes →
      (w'.dispatchCommand m).2.engine.telemetrySubscriptions = table) ∧
    (∀ r : MaskRequest, r.send = true → r.mask ≠ 0 → Live w' r.nodeId →
      (w'.dispatchCommand (r.message D.limits)).1 = false →
      (∀ i : Fin D.limits.subscriptionCapacity,
        table[i].used = true ∧ table[i].nodeId ≠ r.nodeId) ∧
      ∀ i j : Fin D.limits.subscriptionCapacity, table[i].nodeId = table[j].nodeId → i = j) := by
  intro w' table
  have hzero := (Engine.create_fresh hcreate).telemetrySubscriptions
  obtain ⟨f, htable, hf⟩ := subscribed_live_or_removed laws w hzero hrequests
  have hreads := htable.readsAs
  have hnonzero : ∀ i : Fin D.limits.subscriptionCapacity, table[i].used = true →
      f table[i].nodeId ≠ 0 := by
    intro i hi
    obtain ⟨hmasks, hne⟩ := (hreads.inUse _ _).mp ⟨i, hi, rfl, rfl⟩
    rw [hmasks]
    exact hne
  refine ⟨fun i hi => hf _ (hnonzero i hi), fun m hm => ?_, fun r hsend hmask hlive hfalse => ?_⟩
  · refine w'.dispatch_subscriptions ?_
    obtain ⟨seq, data⟩ := m
    rcases hm with hm | hm <;> cases data <;> first | rfl | cases hm
  · obtain ⟨n, -, hid⟩ := hlive
    have hvalid : ¬(r.nodeId = D.limits.nodeIdInvalid ∨ r.mask = 0) :=
      not_or.mpr ⟨hid ▸ n.valid, hmask⟩
    have hrefused := (w'.maskRequest_refines r htable).1.symm.trans hfalse
    rw [MaskRequest.apply, if_neg hvalid, if_pos hsend] at hrefused
    split at hrefused
    · next hfull =>
      have hcard := htable.represents.full_iff
      rw [Nat.card_fin] at hcard
      have hused : ∀ i : Fin D.limits.subscriptionCapacity, table[i].used = true := by
        intro i
        have hslot := hcard.mpr hfull.2 i
        rwa [Ne, slots, Subscription.entry_eq_none, Bool.not_eq_false] at hslot
      refine ⟨fun i => ⟨hused i, fun hsame => hnonzero i (hused i) ?_⟩, fun i j hij => ?_⟩
      · rw [hsame]
        exact hfull.1
      · exact hreads.distinct i j (hused i) (hused j) hij
    · cases hrefused

/-- Load a module, add a node from it, subscribe to the node. -/
def subscribeRun : List (CommandMessage Reference.limits) :=
  [⟨1, .loadNode .plugin (Reference.nameField 109)⟩,
    ⟨2, .addNode .plugin (Reference.nameField 110)⟩, ⟨3, .requestPortValues 0 1 true⟩]

theorem subscribeRun_live : LiveRequests Reference.world subscribeRun := by
  refine ⟨fun id h => (nomatch h), fun id h => (nomatch h), fun id h => ?_, trivial⟩
  cases h
  exact ⟨⟨0, .plugin, Reference.descriptor, by decide⟩, List.mem_singleton_self _, rfl⟩

theorem subscriptions_of_live_or_removed_reference :
    let w' := Reference.world.dispatchAll subscribeRun
    Live w' w'.engine.telemetrySubscriptions[0].nodeId ∨
      RemovedIn Reference.world subscribeRun w'.engine.telemetrySubscriptions[0].nodeId :=
  (subscriptions_of_live_or_removed Reference.runtimeLaws Reference.world Reference.config rfl
    subscribeRun subscribeRun_live).1 ⟨0, by decide⟩ (by decide +kernel)

/-- The slot of a removed node stays in use. -/
theorem subscription_outlives_node :
    let ms := subscribeRun ++ [⟨4, .removeNode 0⟩]
    let w' := Reference.world.dispatchAll ms
    LiveRequests Reference.world ms ∧ w'.engine.telemetrySubscriptions[0].used = true ∧
      ¬Live w' w'.engine.telemetrySubscriptions[0].nodeId := by
  refine ⟨liveRequests_append.mpr ⟨subscribeRun_live, fun id h => (nomatch h), trivial⟩,
    by decide +kernel, ?_⟩
  rintro ⟨n, hn, -⟩
  cases hn

end RtsynEngine
