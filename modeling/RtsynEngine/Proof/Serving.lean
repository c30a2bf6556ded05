import RtsynEngine.Proof.Framing
import RtsynEngine.Proof.Sampling

/-! What the clients have asked for is what each cycle publishes: over any starts and stops, the
requests among the commands dispatched so far make a map from nodes to masks, and the batches that a
cycle attempts to send are those of that map, one for each node, and no step sends others. -/

namespace RtsynEngine

open Handle Transition

variable {D : Deps} {L : Limits}

/-- The request for values that a command makes. -/
def CommandMessage.maskRequest (m : CommandMessage L) : Option MaskRequest :=
  match m.data with
  | .requestPortValues pluginId portsynMask send =>
    some ⟨m.seq, pluginId, portsynMask, send, false⟩
  | .requestPortVariables pluginId variableMask send =>
    some ⟨m.seq, pluginId, variableMask, send, true⟩
  | _ => none

theorem CommandMessage.maskRequest_none {m : CommandMessage L} (hm : m.data.subscribes = false) :
    m.maskRequest = none := by
  obtain ⟨seq, data⟩ := m
  cases data with
  | requestPortValues | requestPortVariables => cases hm
  | _ => rfl

theorem MaskRequest.maskRequest_message (r : MaskRequest) :
    (r.message L).maskRequest = some r := by
  obtain ⟨seq, nodeId, mask, send, vars⟩ := r
  cases vars <;> rfl

/-- The masks that the commands dispatched in a history ask for. -/
noncomputable def askedFor (trace : List (Event L)) : UInt32 → Masks :=
  masksAfter L ((dispatchedCommands trace).filterMap CommandMessage.maskRequest)

theorem askedFor_silent {trace events : List (Event L)} (h : dispatchedCommands events = []) :
    askedFor (trace ++ events) = askedFor trace := by
  unfold askedFor
  rw [dispatchedCommands, List.filterMap_append, ← dispatchedCommands, ← dispatchedCommands, h,
    List.append_nil]

theorem askedFor_dispatched (trace : List (Event L)) (m : CommandMessage L) :
    askedFor (trace ++ [.dispatched m]) =
      m.maskRequest.toList.foldl (fun f r => (r.apply L f).2) (askedFor trace) := by
  have hlast : dispatchedCommands (trace ++ [.dispatched m]) = dispatchedCommands trace ++ [m] := by
    rw [dispatchedCommands, List.filterMap_append]
    rfl
  have hrequest : [m].filterMap CommandMessage.maskRequest = m.maskRequest.toList := by
    cases h : m.maskRequest <;> simp [h]
  rw [askedFor, hlast, List.filterMap_append, hrequest, masksAfter, List.foldl_append]
  rfl

/-- An attempt to send a batch of values. -/
def Event.sendsValues (e : Event L) : Bool :=
  match e.telemetry with
  | some ⟨_, _, _, .valuesWritten _ _ _⟩ => true
  | _ => false

theorem Event.sendsValues_of_telemetry {e : Event L} {m : TelemetryMessage}
    (hm : e.telemetry = some m) (hdata : ∀ cycleId nodeId source,
      m.data ≠ .valuesWritten cycleId nodeId source) : e.sendsValues = false := by
  obtain ⟨seq, timestampNs, dropped, data⟩ := m
  unfold sendsValues
  rw [hm]
  cases data with
  | valuesWritten cycleId nodeId source => exact absurd rfl (hdata cycleId nodeId source)
  | _ => rfl

theorem Event.sendsValues_of_handler {e : Event L} (h : e.ofHandler) : e.sendsValues = false := by
  unfold sendsValues
  rw [telemetry_of_handler h]

/-- A step that adds to the trace and sends no values. -/
def AddsNoValues (w w' : World D) : Prop :=
  ∃ events, w'.trace = w.trace ++ events ∧ ∀ e ∈ events, e.sendsValues = false

namespace AddsNoValues

variable {w w' w'' : World D}

theorem of_eq (h : w'.trace = w.trace) : AddsNoValues w w' :=
  ⟨[], by rw [h, List.append_nil], List.forall_mem_nil _⟩

theorem trans (h : AddsNoValues w w') (h' : AddsNoValues w' w'') : AddsNoValues w w'' := by
  obtain ⟨events, htrace, hevents⟩ := h
  obtain ⟨events', htrace', hevents'⟩ := h'
  refine ⟨events ++ events', by rw [htrace', htrace, List.append_assoc], ?_⟩
  exact List.forall_mem_append.mpr ⟨hevents, hevents'⟩

end AddsNoValues

namespace World

variable {w w' : World D} {state state' : RtState D.limits}

/-- Only the publishers of values send values. -/
theorem publish_addsNoValues (w : World D) {call : PublisherCall D.limits}
    (hcall : ∀ data, call.Sends w.engine.cycleId data → ∀ cycleId nodeId source,
      data ≠ .valuesWritten cycleId nodeId source) : AddsNoValues w (w.publish call) := by
  obtain ⟨events, htrace, -, hevents⟩ := w.publish_trace call
  refine ⟨events, htrace, fun e he => ?_⟩
  obtain ⟨m, hm, hsends⟩ := hevents e he
  exact Event.sendsValues_of_telemetry hm (hcall m.data hsends)

theorem cycleBegin_addsNoValues (w : World D) (timestampNs : UInt64) :
    AddsNoValues w (w.publish (.cycleBegin timestampNs)) := by
  apply publish_addsNoValues
  rintro data rfl
  exact fun _ _ _ => nofun

theorem cycleEnd_addsNoValues (w : World D) (startedAtNs finishedAtNs : UInt64) :
    AddsNoValues w (w.publish (.cycleEnd startedAtNs finishedAtNs)) := by
  apply publish_addsNoValues
  rintro data rfl
  exact fun _ _ _ => nofun

theorem dropped_addsNoValues (w : World D) (timestampNs : UInt64) :
    AddsNoValues w (w.publish (.dropped timestampNs)) := by
  apply publish_addsNoValues
  rintro data ⟨events, values, rfl⟩
  exact fun _ _ _ => nofun

theorem measureCycle_addsNoValues (w : World D)
    (nextDeadlineNs startedAtNs cycleCompletedAtNs periodNs : UInt64) :
    AddsNoValues w (w.measureCycle nextDeadlineNs startedAtNs cycleCompletedAtNs periodNs) := by
  unfold measureCycle
  split
  · exact .of_eq rfl
  · next metrics env hcycle =>
    have hmeasured : ∀ m, AddsNoValues { w with env }
        (World.publish { w with env } (.measurement cycleCompletedAtNs (some m))) := by
      intro m
      apply publish_addsNoValues
      rintro data hsends cycleId nodeId source rfl
      exact hsends
    exact hmeasured _

/-- Outside its `finish` step the loop sends no values. -/
theorem rtThreadStep_addsNoValues (h : w.rtThreadStep state = some (state', w'))
    (hfinish : ∀ nextDeadlineNs startedAtNs, state ≠ .finish nextDeadlineNs startedAtNs) :
    AddsNoValues w w' := by
  cases rtThreadStep_cases h with
  | cycleBegin nextDeadlineNs => exact w.getTime.2.cycleBegin_addsNoValues w.getTime.1
  | dispatch nextDeadlineNs startedAtNs i m =>
    obtain ⟨events, htrace, hhandler⟩ := (w.emit (.dispatched m)).dispatch_trace m
    have hemit : AddsNoValues w (w.emit (.dispatched m)) :=
      ⟨[.dispatched m], rfl, List.forall_mem_singleton.mpr rfl⟩
    exact hemit.trans ⟨events, htrace, fun e he => Event.sendsValues_of_handler (hhandler e he)⟩
  | step nextDeadlineNs startedAtNs =>
    exact ⟨[.runtimeStep], rfl, List.forall_mem_singleton.mpr rfl⟩
  | finish nextDeadlineNs startedAtNs => exact absurd rfl (hfinish _ _)
  | sleep nextDeadlineNs startedAtNs finishedAtNs periodNs hperiod =>
    exact ⟨[.sleepUntil _], rfl, List.forall_mem_singleton.mpr rfl⟩
  | measure nextDeadlineNs startedAtNs cycleCompletedAtNs periodNs =>
    exact w.measureCycle_addsNoValues nextDeadlineNs startedAtNs cycleCompletedAtNs periodNs
  | _ => exact .of_eq rfl

theorem publish_subscriptions (w : World D) (call : PublisherCall D.limits) :
    (w.publish call).engine.telemetrySubscriptions = w.engine.telemetrySubscriptions := by
  have hpublishes : Publishes (fun _ => True) w (w.publish call) :=
    w.publish_publishes call fun _ _ => trivial
  rw [hpublishes.engine]

/-- Only the dispatch of a command touches the subscription table. -/
theorem rtThreadStep_subscriptions (h : w.rtThreadStep state = some (state', w'))
    (hdispatch : state.inFlight = []) :
    w'.engine.telemetrySubscriptions = w.engine.telemetrySubscriptions := by
  cases rtThreadStep_cases h with
  | cycleBegin nextDeadlineNs => exact publish_subscriptions w.getTime.2 (.cycleBegin w.getTime.1)
  | dispatch nextDeadlineNs startedAtNs i m => cases hdispatch
  | finish nextDeadlineNs startedAtNs =>
    let now := w.getTime.1
    let w₁ := w.getTime.2.publish (.requestedValues now)
    have hvalues := publish_subscriptions w.getTime.2 (.requestedValues now)
    have hend := publish_subscriptions w₁ (.cycleEnd startedAtNs now)
    exact (publish_subscriptions (w₁.publish (.cycleEnd startedAtNs now)) (.dropped now)).trans
      (hend.trans hvalues)
  | measure nextDeadlineNs startedAtNs cycleCompletedAtNs periodNs =>
    show (w.measureCycle _ _ _ _).engine.telemetrySubscriptions = _
    unfold measureCycle
    split
    · rfl
    · exact publish_subscriptions _ (.measurement cycleCompletedAtNs (some _))
  | _ => rfl

end World

/-- The table holds what the clients have asked for, and there is a queue for the values. -/
structure World.Serving (w : World D) : Prop where
  queue : w.engine.config.telemetryQueue = true
  values : w.engine.config.telemetryValues = true
  table : TableMatches D.limits w.engine.telemetrySubscriptions (askedFor w.trace)

namespace World.Serving

variable {w w' : World D} {state state' : RtState D.limits}

/-- What dispatches nothing and touches neither the table nor the queue keeps it. -/
theorem keeps (h : w.Serving) {events : List (Event D.limits)}
    (htrace : w'.trace = w.trace ++ events) (hsilent : dispatchedCommands events = [])
    (hconfig : ∃ rtThread deadlineToleranceNs,
      w'.engine.config = { w.engine.config with rtThread, deadlineToleranceNs })
    (htable : w'.engine.telemetrySubscriptions = w.engine.telemetrySubscriptions) : w'.Serving := by
  obtain ⟨rtThread, deadlineToleranceNs, hconfig⟩ := hconfig
  refine ⟨by rw [hconfig]; exact h.queue, by rw [hconfig]; exact h.values, ?_⟩
  rw [htable, htrace, askedFor_silent hsilent]
  exact h.table

/-- A dispatched command changes the table as it changes what is asked for. -/
theorem dispatch (h : w.Serving) (m : CommandMessage D.limits) :
    ((w.emit (.dispatched m)).dispatchCommand m).2.Serving := by
  let w₁ := w.emit (.dispatched m)
  obtain ⟨events, htrace, hhandler⟩ := w₁.dispatch_trace m
  obtain ⟨rtThread, deadlineToleranceNs, hconfig⟩ := (w₁.dispatch_kept m).config
  refine ⟨by rw [hconfig]; exact h.queue, by rw [hconfig]; exact h.values, ?_⟩
  have hsilent : dispatchedCommands events = [] :=
    List.filterMap_eq_nil_iff.mpr fun e he => (Event.silent_of_handler (hhandler e he)).2.2
  have hasked : askedFor (w₁.dispatchCommand m).2.trace =
      m.maskRequest.toList.foldl (fun f r => (r.apply D.limits f).2) (askedFor w.trace) := by
    rw [htrace, askedFor_silent hsilent]
    exact askedFor_dispatched w.trace m
  rw [hasked]
  cases hm : m.data.subscribes with
  | false =>
    rw [w₁.dispatch_subscriptions hm, m.maskRequest_none hm]
    exact h.table
  | true =>
    obtain ⟨r, rfl⟩ := exists_maskRequest hm
    obtain ⟨-, ⟨table, hw, htable⟩, -⟩ := w₁.maskRequest_refines r h.table
    rw [hw, r.maskRequest_message]
    exact htable

theorem rtThreadStep (h : w.Serving) (hstep : w.rtThreadStep state = some (state', w')) :
    w'.Serving := by
  cases hdispatch : state.inFlight with
  | nil =>
    have hloop := World.rtThreadStep_loopStep hstep
    obtain ⟨events, htrace, hemits⟩ := hloop.trace
    rw [hdispatch] at hemits
    exact h.keeps htrace hemits.commands hloop.config
      (World.rtThreadStep_subscriptions hstep hdispatch)
  | cons m ms =>
    cases state with
    | dispatch nextDeadlineNs startedAtNs i message =>
      cases hstep
      exact h.dispatch message
    | _ => cases hdispatch

end World.Serving

namespace System

variable {s s' : System D}

theorem effect_serving {a : Act D.limits} (heffect : Effect s s' a) (h : s.world.Serving) :
    s'.world.Serving := by
  cases heffect with
  | loop hstep => exact h.rtThreadStep hstep
  | launch ha hbefore hafter hworld => rwa [hworld]
  | store ha hloop hworld hstop =>
    rw [hworld]
    exact ⟨h.queue, h.values, h.table⟩
  | push m hloop hworld =>
    rw [hworld]
    exact ⟨h.queue, h.values, h.table⟩
  | free ha hbefore hloop hworld =>
    rw [World.collectionDestroy, World.destroyElements_eq] at hworld
    rw [hworld]
    refine h.keeps rfl ?_ ⟨_, _, rfl⟩ rfl
    exact List.filterMap_eq_nil_iff.mpr fun e he =>
      (Event.silent_of_handler (World.unloadEvents_ofHandler _ _ e he)).2.2

theorem serving {config : Config} (hqueue : config.telemetryQueue = true)
    (hvalues : config.telemetryValues = true)
    (h : Transition.Reachable (Unused config) act s) : s.Covered ∧ s.world.Serving := by
  refine Transition.Reachable.invariant (P := fun s : System D => s.Covered ∧ s.world.Serving)
    ?_ ?_ h
  · rintro s ⟨⟨hinitial, hcreate⟩, hstart⟩
    have hfresh := Engine.create_fresh hcreate
    have hconfig := hfresh.config
    refine ⟨covered_of_initial hinitial, ?_, ?_, ?_⟩
    · rw [← hqueue, ← congrArg Config.telemetryQueue hconfig]
    · rw [← hvalues, ← congrArg Config.telemetryValues hconfig]
    · rw [hfresh.telemetrySubscriptions, hstart]
      exact tableMatches_zero D.limits
  · rintro s a s' ⟨hcovered, hserving⟩ hact
    exact ⟨hcovered.act hact, effect_serving (act_effect hcovered hact) hserving⟩

end System

namespace World

variable {w w' : World D}

/-- The call for the masks that are asked for of a node. -/
def requestedCall (w : World D) (timestampNs : UInt64) (nodeId : UInt32) (masks : Masks) :
    Option (ValuesCall D.limits) :=
  w.slotCall timestampNs ⟨true, nodeId, masks.1, masks.2⟩

theorem slotCall_nodeId {timestampNs : UInt64} {s : Subscription} {c : ValuesCall D.limits}
    (h : w.slotCall timestampNs s = some c) : s.used = true ∧ c.nodeId = s.nodeId := by
  obtain ⟨source, -, h⟩ := Option.bind_eq_some_iff.mp h
  dsimp only at h
  split at h
  · next hused =>
    cases h
    exact ⟨hused.1, rfl⟩
  · cases h

theorem requestedCall_slot {s : Subscription} (hused : s.used = true) (timestampNs : UInt64) :
    w.requestedCall timestampNs s.nodeId s.masks = w.slotCall timestampNs s := by
  obtain ⟨used, nodeId, portValuesMask, variableMask⟩ := s
  cases hused
  rfl

/-- The calls for the slots are those for what is asked for, one for each node. -/
theorem slotCalls_asked {f : UInt32 → Masks}
    (h : ReadsAs D.limits w.engine.telemetrySubscriptions f) (timestampNs : UInt64) :
    ((w.slotCalls timestampNs).map (·.nodeId)).Nodup ∧
      ∀ c, c ∈ w.slotCalls timestampNs ↔
        ∃ nodeId, f nodeId ≠ 0 ∧ w.requestedCall timestampNs nodeId (f nodeId) = some c := by
  constructor
  · unfold slotCalls
    rw [List.Nodup, List.pairwise_map, List.pairwise_filterMap]
    refine (List.nodup_finRange _).imp fun {i j} hne c hc c' hc' hsame => ?_
    obtain ⟨hi, hci⟩ := slotCall_nodeId hc
    obtain ⟨hj, hcj⟩ := slotCall_nodeId hc'
    apply hne
    exact h.distinct i j hi hj (hci.symm.trans (hsame.trans hcj))
  · intro c
    constructor
    · intro hc
      obtain ⟨i, -, hi⟩ := List.mem_filterMap.mp hc
      have hused : w.engine.telemetrySubscriptions[i].used = true := (slotCall_nodeId hi).1
      obtain ⟨hmasks, hne⟩ := (h.inUse _ _).mp ⟨i, hused, rfl, rfl⟩
      refine ⟨w.engine.telemetrySubscriptions[i].nodeId, by rw [hmasks]; exact hne, ?_⟩
      rw [hmasks, requestedCall_slot hused]
      exact hi
    · rintro ⟨nodeId, hne, hc⟩
      obtain ⟨i, hused, hnode, hmasks⟩ := (h.inUse nodeId (f nodeId)).mpr ⟨rfl, hne⟩
      refine List.mem_filterMap.mpr ⟨i, List.mem_finRange i, ?_⟩
      rw [← hmasks, ← hnode, requestedCall_slot hused] at hc
      exact hc

theorem publishCycle_serves (h : w.Serving) (startedAtNs finishedAtNs : UInt64) :
    ∃ calls values rest, (w.publishCycle startedAtNs finishedAtNs).trace =
        w.trace ++ values ++ rest ∧
      List.Forall₂ (ValuesCall.SentAs finishedAtNs w.engine.cycleId) calls values ∧
      (∀ e ∈ rest, e.sendsValues = false) ∧ (calls.map (·.nodeId)).Nodup ∧
      ∀ c, c ∈ calls ↔ ∃ nodeId, askedFor w.trace nodeId ≠ 0 ∧
        w.requestedCall finishedAtNs nodeId (askedFor w.trace nodeId) = some c := by
  let w₁ := w.publish (.requestedValues finishedAtNs)
  let w₂ := w₁.publish (.cycleEnd startedAtNs finishedAtNs)
  obtain ⟨values, hvalues, hsent, -⟩ :=
    w.eventPublishRequestedValues_sent h.queue h.values finishedAtNs
  obtain ⟨hnodup, hcalls⟩ := slotCalls_asked h.table.readsAs finishedAtNs
  obtain ⟨rest, hrest, hnone⟩ := (w₁.cycleEnd_addsNoValues startedAtNs finishedAtNs).trans
    (w₂.dropped_addsNoValues finishedAtNs)
  refine ⟨w.slotCalls finishedAtNs, values, rest, ?_, hsent, hnone, hnodup, hcalls⟩
  have htrace : (w.publishCycle startedAtNs finishedAtNs).trace = w₁.trace ++ rest := hrest
  rw [htrace]
  exact congrArg (· ++ rest) hvalues

end World

/-- What the clients have asked for is what they are sent.  Over any starts and stops and whatever
else is done, the masks that the dispatched commands ask for decide the batches of each cycle: at
its end it attempts to send one for each node that is asked for, there and readable, with exactly
the readable values that are asked for, and no other; and nothing else that the engine does sends
values. -/
theorem requests_served {config : Config} (hqueue : config.telemetryQueue = true)
    (hvalues : config.telemetryValues = true) {s s' : System D}
    (h : Transition.Reachable (System.Unused config) System.act s) {a : Act D.limits}
    (hact : s.act a = some s') :
    (∀ i nextDeadlineNs startedAtNs, a = .step (.rt i) →
      s.loop = .finish nextDeadlineNs startedAtNs →
      ∃ calls values rest, s'.world.trace = s.world.trace ++ values ++ rest ∧
        List.Forall₂ (ValuesCall.SentAs (D.threadGetTime s.world.env).1 s.world.engine.cycleId)
          calls values ∧
        (∀ e ∈ rest, e.sendsValues = false) ∧ (calls.map (·.nodeId)).Nodup ∧
        ∀ c, c ∈ calls ↔ ∃ nodeId, askedFor s.world.trace nodeId ≠ 0 ∧
          s.world.requestedCall (D.threadGetTime s.world.env).1 nodeId
            (askedFor s.world.trace nodeId) = some c) ∧
    ((∀ i nextDeadlineNs startedAtNs, a = .step (.rt i) →
      s.loop ≠ .finish nextDeadlineNs startedAtNs) → AddsNoValues s.world s'.world) := by
  obtain ⟨hcovered, hserving⟩ := System.serving hqueue hvalues h
  constructor
  · rintro i nextDeadlineNs startedAtNs rfl hloop
    cases System.act_effect hcovered hact with
    | loop hstep =>
      rw [hloop] at hstep
      have hworld : s.world.getTime.2.publishCycle startedAtNs s.world.getTime.1 = s'.world :=
        Option.some.inj (congrArg (Option.map Prod.snd) hstep)
      have hread : s.world.getTime.2.Serving := ⟨hserving.queue, hserving.values, hserving.table⟩
      rw [← hworld]
      exact World.publishCycle_serves hread startedAtNs s.world.getTime.1
    | launch ha | store ha | free ha => exact ha.elim
  · intro hother
    cases System.act_effect hcovered hact with
    | loop hstep =>
      exact World.rtThreadStep_addsNoValues hstep fun nextDeadlineNs startedAtNs hloop =>
        hother 0 nextDeadlineNs startedAtNs rfl hloop
    | launch ha hbefore hafter hworld => exact .of_eq (by rw [hworld])
    | store ha hloop hworld => exact .of_eq (by rw [hworld]; rfl)
    | push m hloop hworld => exact .of_eq (by rw [hworld])
    | free ha hbefore hloop hworld =>
      rw [World.collectionDestroy, World.destroyElements_eq] at hworld
      rw [hworld]
      refine ⟨_, rfl, fun e he => ?_⟩
      exact Event.sendsValues_of_handler (World.unloadEvents_ofHandler _ _ e he)

namespace Reference

/-- A created engine on a runtime whose first node will show two ports and a state. -/
def showing : System deps where
  world := { world with
    runtime := { world.runtime with
      outputValues := [((0, 0), 7)]
      inputValues := [((0, 0), 1), ((0, 1), 8)]
      stateValues := [((0, 2), 9)] } }
  controller := .idle
  rtThreads := []
  waitThreads := []
  log := []

/-- A node is loaded, added and subscribed to, up to the end of the cycle's work. -/
def servingActs : List (Act limits) :=
  [.step (.pushCommand ⟨1, .loadNode .plugin (nameField 109)⟩),
    .step (.pushCommand ⟨2, .addNode .plugin (nameField 110)⟩),
    .step (.pushCommand ⟨3, .requestPortValues 0 3 true⟩),
    .step (.pushCommand ⟨4, .requestPortVariables 0 5 true⟩), .step (.call .start)] ++
    List.replicate 9 (.step (.controller true)) ++ List.replicate 14 (.step (.rt 0))

def serving : System deps :=
  (Transition.run System.act showing servingActs).get (by decide)

def served : System deps := (serving.act (.step (.rt 0))).get (by decide)

/-- The batch of the node: its ports 0 and 1, then its state 2. -/
def servedSamples : List (Sample limits) :=
  [⟨0, 0, 0, 0, 0, .port, .plugin, .u64, .u64 7⟩, ⟨0, 0, 0, 1, 1, .port, .plugin, .u64, .u64 8⟩,
    ⟨0, 0, 0, 2, 2, .state, .plugin, .u64, .u64 9⟩]

end Reference

theorem requests_served_reference :
    Reference.serving.loop = .finish 0 0 ∧
      ∃ calls values rest, Reference.served.world.trace =
          Reference.serving.world.trace ++ values ++ rest ∧
        List.Forall₂ (ValuesCall.SentAs 0 0) calls values ∧
        (∀ e ∈ rest, e.sendsValues = false) ∧ (calls.map (·.nodeId)).Nodup ∧
        (∀ c, c ∈ calls ↔ ∃ nodeId, askedFor Reference.serving.world.trace nodeId ≠ 0 ∧
          Reference.serving.world.requestedCall 0 nodeId
            (askedFor Reference.serving.world.trace nodeId) = some c) ∧
        ⟨0, .plugin, Reference.servedSamples⟩ ∈ calls := by
  have hunused : System.Unused Reference.config Reference.showing :=
    ⟨⟨⟨rfl, rfl, rfl, rfl, rfl⟩, rfl⟩, rfl⟩
  have hstart : Transition.Reachable (System.Unused Reference.config) System.act
      Reference.showing := .start hunused
  have hserving : Transition.Reachable (System.Unused Reference.config) System.act
      Reference.serving := hstart.run (Option.some_get _).symm
  have hact : Reference.serving.act (.step (.rt 0)) = some Reference.served :=
    (Option.some_get _).symm
  -- The first slot of the table is what the dispatched commands ask for.
  have hasked : askedFor Reference.serving.world.trace 0 = (3, 5) ∧ ((3, 5) : Masks) ≠ 0 :=
    ((System.serving rfl rfl hserving).2.table.readsAs.inUse 0 (3, 5)).mp
      ⟨⟨0, by decide⟩, rfl, rfl, rfl⟩
  obtain ⟨calls, values, rest, htrace, hsent, hrest, hnodup, hcalls⟩ :=
    (requests_served rfl rfl hserving hact).1 0 0 0 rfl rfl
  refine ⟨rfl, calls, values, rest, htrace, hsent, hrest, hnodup, hcalls, ?_⟩
  refine (hcalls _).mpr ⟨0, ?_, ?_⟩
  · rw [hasked.1]
    exact hasked.2
  · rw [hasked.1]
    rfl

end RtsynEngine
