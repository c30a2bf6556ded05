import RtsynEngine.Proof.Coherence
import RtsynEngine.Proof.Effects
import RtsynEngine.Proof.Results

/-! The registry and the nodes of the runtime over interleaved runs: they stay coherent until the
engine is destroyed. -/

namespace RtsynEngine

variable {D : Deps} {L : Limits}

namespace World

variable {w : World D}

/-- No results are pushed, and the nodes and the registry stay as they are. -/
structure SameGraph (w w' : World D) : Prop where
  accepted : w'.accepted = w.accepted
  nodes : D.nodes w'.runtime = D.nodes w.runtime
  loadedNodes : w'.engine.loadedNodes = w.engine.loadedNodes

namespace SameGraph

variable {w' w'' : World D}

theorem refl (w : World D) : SameGraph w w := ⟨rfl, rfl, rfl⟩

theorem trans (h : SameGraph w w') (h' : SameGraph w' w'') : SameGraph w w'' :=
  ⟨h'.accepted.trans h.accepted, h'.nodes.trans h.nodes, h'.loadedNodes.trans h.loadedNodes⟩

theorem coherent (h : SameGraph w w') (hcoherent : Coherent w) : Coherent w' := by
  refine ⟨by rw [h.loadedNodes]; exact hcoherent.distinct, fun n hn => ?_⟩
  rw [h.nodes] at hn
  rw [h.loadedNodes]
  exact hcoherent.registered n hn

theorem emit {e : Event D.limits} (he : e.acceptedResult = none) : SameGraph w (w.emit e) := by
  refine ⟨?_, rfl, rfl⟩
  simp [World.accepted, he]

theorem of_publishes {pushed : TelemetryData → Prop} (h : Publishes pushed w w') :
    SameGraph w w' := by
  induction h with
  | refl => exact .refl w
  | tail _ hattempt ih =>
    refine ih.trans ?_
    cases hattempt <;> refine ⟨?_, rfl, rfl⟩ <;>
      simp [World.accepted, Event.acceptedResult]

theorem publish (w : World D) (call : PublisherCall D.limits) : SameGraph w (w.publish call) := by
  have hpublishes : Publishes (fun _ => True) w (w.publish call) :=
    w.publish_publishes call fun _ _ => trivial
  exact .of_publishes hpublishes

end SameGraph

variable {w' : World D} {state state' : RtState D.limits}

/-- Only the dispatch of a command pushes results and touches the registry; what else touches the
runtime is its step. -/
theorem rtThreadStep_sameButStep (h : w.rtThreadStep state = some (state', w'))
    (hdispatch : state.inFlight = []) :
    ∃ runtime, (runtime = w.runtime ∨ runtime = (D.step w.runtime w.env).1) ∧
      SameGraph { w with runtime } w' := by
  cases rtThreadStep_cases h with
  | dispatch nextDeadlineNs startedAtNs i m => cases hdispatch
  | cycleBegin nextDeadlineNs =>
    have hpublish := SameGraph.publish w.getTime.2 (.cycleBegin w.getTime.1)
    exact ⟨w.runtime, .inl rfl, hpublish.accepted, hpublish.nodes, hpublish.loadedNodes⟩
  | step nextDeadlineNs startedAtNs =>
    have hstepped : SameGraph { w with runtime := (D.step w.runtime w.env).1 }
        { w with runtime := (D.step w.runtime w.env).1, env := (D.step w.runtime w.env).2 } :=
      ⟨rfl, rfl, rfl⟩
    exact ⟨_, .inr rfl, hstepped.trans (.emit rfl)⟩
  | finish nextDeadlineNs startedAtNs =>
    have hvalues := SameGraph.publish w.getTime.2 (.requestedValues w.getTime.1)
    have hend := hvalues.trans (.publish _ (.cycleEnd startedAtNs w.getTime.1))
    have hpublish := hend.trans (.publish _ (.dropped w.getTime.1))
    exact ⟨w.runtime, .inl rfl, hpublish.accepted, hpublish.nodes, hpublish.loadedNodes⟩
  | sleep nextDeadlineNs startedAtNs finishedAtNs periodNs hperiod =>
    have hslept : SameGraph w
        { w with env := D.threadSleepUntil w.env (nextDeadlineNs + periodNs) } :=
      ⟨rfl, rfl, rfl⟩
    have hsleep := hslept.trans (.emit (e := .sleepUntil (nextDeadlineNs + periodNs)) rfl)
    exact ⟨w.runtime, .inl rfl, hsleep.accepted, hsleep.nodes, hsleep.loadedNodes⟩
  | measure nextDeadlineNs startedAtNs cycleCompletedAtNs periodNs =>
    have hmeasure : SameGraph w
        (w.measureCycle nextDeadlineNs startedAtNs cycleCompletedAtNs periodNs) := by
      unfold measureCycle
      split
      · exact ⟨rfl, rfl, rfl⟩
      · next metrics env hcycle =>
        have htool : SameGraph w { w with env } := ⟨rfl, rfl, rfl⟩
        exact htool.trans (.publish _ (.measurement cycleCompletedAtNs (some _)))
    exact ⟨w.runtime, .inl rfl, hmeasure.accepted, hmeasure.nodes, hmeasure.loadedNodes⟩
  | _ => exact ⟨w.runtime, .inl rfl, rfl, rfl, rfl⟩

theorem rtThreadStep_sameGraph (stepLaw : D.StepLaw)
    (h : w.rtThreadStep state = some (state', w')) (hdispatch : state.inFlight = []) :
    SameGraph w w' := by
  obtain ⟨runtime, hstepped, haccepted, hnodes, hloaded⟩ := rtThreadStep_sameButStep h hdispatch
  refine ⟨haccepted, hnodes.trans ?_, hloaded⟩
  rcases hstepped with rfl | rfl
  · rfl
  · exact stepLaw.nodes _ _

/-- A step of the loop keeps the registry and the nodes coherent. -/
theorem rtThreadStep_coherent (laws : D.RuntimeLaws) (nodeLaws : D.NodeLaws)
    (stepLaw : D.StepLaw)
    (h : w.rtThreadStep state = some (state', w')) (hcoherent : Coherent w) : Coherent w' := by
  cases hdispatch : state.inFlight with
  | nil => exact (rtThreadStep_sameGraph stepLaw h hdispatch).coherent hcoherent
  | cons m ms =>
    cases state with
    | dispatch nextDeadlineNs startedAtNs i message =>
      cases h
      have hemit : SameGraph w (w.emit (.dispatched message)) := .emit rfl
      exact (hemit.coherent hcoherent).step (dispatch_registryStep laws nodeLaws _ message)
    | _ => cases hdispatch

end World

theorem RtState.dispatch_of_inFlight (state : RtState L) {m : CommandMessage L}
    {ms : List (CommandMessage L)} (h : state.inFlight = m :: ms) :
    ∃ nextDeadlineNs startedAtNs i message,
      state = .dispatch nextDeadlineNs startedAtNs i message := by
  cases state with
  | dispatch nextDeadlineNs startedAtNs i message => exact ⟨_, _, _, _, rfl⟩
  | _ => cases h

namespace System

variable {s s' : System D}

/-- The controller changes nothing of the world but the flags, until it destroys the engine. -/
theorem controllerStep_world {outcome : Bool} (h : s.controllerStep outcome = some s')
    (hfree : s.controller ≠ .destroyFree) : s'.world = s.world.setFlags s'.flags := by
  let f : World D → World D := fun w => s.world.setFlags w.engine.flags
  have hf : KeepsFlags f := ⟨fun _ => rfl, fun _ _ => rfl⟩
  have hsame : s.onWorld f = s := rfl
  have hstep := hf.controllerStep s outcome hfree
  rw [hsame, h] at hstep
  exact congrArg System.world (Option.some.inj hstep)

/-- But for the steps of the loop, an act leaves the nodes and the registry as they are, until the
engine is destroyed. -/
theorem act_sameGraph {a : Act D.limits} (hact : s.act a = some s')
    (hrt : ∀ i, a ≠ .step (.rt i)) (hlive : s'.controller ≠ .destroyed) :
    World.SameGraph s.world s'.world := by
  have hflags : ∀ flags, World.SameGraph s.world (s.world.setFlags flags) :=
    fun _ => ⟨rfl, rfl, rfl⟩
  cases a with
  | requestStop =>
    cases hact
    exact hflags _
  | step a =>
    have hdestroyed := step_destroyed hact
    cases a with
    | call call =>
      obtain ⟨-, rfl⟩ := call_step hact
      exact .refl _
    | controller outcome =>
      have hfree : s.controller ≠ .destroyFree := fun hfree =>
        hlive (hdestroyed.mpr (.inr ⟨hfree, outcome, rfl⟩))
      rw [controllerStep_world hact hfree]
      exact hflags _
    | rt i => exact absurd rfl (hrt i)
    | wait i outcome =>
      obtain ⟨⟨wait, joins⟩, state, s₁, -, hmove, rfl⟩ := wait_step hact
      cases hmove <;> first | exact .refl _ | exact hflags _
    | pushCommand m =>
      cases hact
      exact ⟨rfl, rfl, rfl⟩

/-- Whether there is a result queue is never changed. -/
theorem act_resultQueue (h : s.Covered) {a : Act D.limits} (hact : s.act a = some s') :
    s'.world.engine.config.resultQueue = s.world.engine.config.resultQueue := by
  cases act_effect h hact with
  | loop hstep =>
    obtain ⟨rtThread, deadlineToleranceNs, hconfig⟩ := (World.rtThreadStep_loopStep hstep).config
    rw [hconfig]
  | free ha hbefore hloop hworld =>
    rw [hworld, World.collectionDestroy, World.destroyElements_eq]
    rfl
  | launch ha hbefore hafter hworld | push m hloop hworld => rw [hworld]
  | store ha hloop hworld =>
    rw [hworld]
    rfl

/-- A destroyed engine stays destroyed. -/
theorem act_live {a : Act D.limits} (hact : s.act a = some s')
    (hlive : s'.controller ≠ .destroyed) : s.controller ≠ .destroyed := by
  cases a with
  | requestStop =>
    cases hact
    exact hlive
  | step a =>
    have hdestroyed := step_destroyed hact
    exact fun hbefore => hlive (hdestroyed.mpr (.inl hbefore))

/-- The registry and the nodes are coherent until the engine is destroyed. -/
theorem act_coherent (laws : D.RuntimeLaws) (nodeLaws : D.NodeLaws)
    (stepLaw : D.StepLaw) {a : Act D.limits}
    (h : s.controller = .destroyed ∨ Coherent s.world) (hact : s.act a = some s') :
    s'.controller = .destroyed ∨ Coherent s'.world := by
  rw [or_iff_not_imp_left]
  intro hlive
  have hcoherent := h.resolve_left (act_live hact hlive)
  by_cases hrt : ∃ i, a = .step (.rt i)
  · obtain ⟨i, rfl⟩ := hrt
    obtain ⟨t, state, world, -, hthread, rfl⟩ := rt_step hact
    exact World.rtThreadStep_coherent laws nodeLaws stepLaw hthread hcoherent
  · exact (act_sameGraph hact (not_exists.mp hrt) hlive).coherent hcoherent

/-- A created engine whose registry and nodes are coherent. -/
structure Starts (s : System D) : Prop where
  initial : s.Initial
  coherent : Coherent s.world

/-- The registry and the nodes are coherent as long as the engine is there. -/
structure Coheres (s : System D) : Prop where
  covered : s.Covered
  coherent : s.controller = .destroyed ∨ Coherent s.world

namespace Coheres

/-- Where the loop has not returned, the engine is there. -/
theorem live (h : s.Coheres) (hlive : s.loop ≠ .returned) : Coherent s.world := by
  rcases h.coherent with hdestroyed | hcoherent
  · exact absurd (h.covered.coverage.quiet (by rw [hdestroyed]; rfl)).1 hlive
  · exact hcoherent

theorem dispatch_coherent (h : s.Coheres) {nextDeadlineNs startedAtNs : UInt64} {i : Nat}
    {m : CommandMessage D.limits} (hloop : s.loop = .dispatch nextDeadlineNs startedAtNs i m) :
    Coherent (s.world.emit (.dispatched m)) := by
  have hcoherent := h.live (by rw [hloop]; nofun)
  exact ⟨hcoherent.distinct, hcoherent.registered⟩

theorem act (laws : D.RuntimeLaws) (nodeLaws : D.NodeLaws)
    (stepLaw : D.StepLaw) (h : s.Coheres)
    {a : Act D.limits} (hact : s.act a = some s') : s'.Coheres :=
  ⟨h.covered.act hact, act_coherent laws nodeLaws stepLaw h.coherent hact⟩

end Coheres

theorem coheres_of_reachable (laws : D.RuntimeLaws) (nodeLaws : D.NodeLaws)
    (stepLaw : D.StepLaw)
    (h : Transition.Reachable Starts act s) : s.Coheres := by
  refine h.invariant ?_ fun s a s' hs hact => hs.act laws nodeLaws stepLaw hact
  rintro s ⟨hinitial, hcoherent⟩
  exact ⟨covered_of_initial hinitial, .inr hcoherent⟩

end System

end RtsynEngine
