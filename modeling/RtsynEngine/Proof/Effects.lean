import RtsynEngine.Interleaving
import RtsynEngine.Proof.Emission
import RtsynEngine.Proof.Lifecycle

/-! What one act can do to the RT loop and the world: the loop takes a step, an RT thread is
launched where none runs, another thread stores flags, a client pushes a command, or the engine is
freed. -/

namespace RtsynEngine

open Handle

variable {D : Deps}

/-- An act of neither the RT threads nor the clients. -/
def Act.other {L : Limits} : Act L → Prop
  | .step (.rt _) | .step (.pushCommand _) => False
  | _ => True

theorem Act.other.pushed {L : Limits} {a : Act L} (h : a.other) : a.pushed = none := by
  cases a with
  | requestStop => rfl
  | step a => cases a <;> first | rfl | exact h.elim

/-- The act by which `start` takes back the request to stop. -/
def System.Restarts (s : System D) (a : Act D.limits) : Prop :=
  s.controller = .start .storeStopRequested ∧ ∃ outcome, a = .step (.controller outcome)

/-- What an act does to the loop and the world. -/
inductive Effect (s s' : System D) : Act D.limits → Prop
  | loop (hstep : s.world.rtThreadStep s.loop = some (s'.loop, s'.world)) :
    Effect s s' (.step (.rt 0))
  | launch {a : Act D.limits} (ha : a.other) (hbefore : s.loop = .returned)
    (hafter : s'.loop = .enter) (hworld : s'.world = s.world) : Effect s s' a
  | store {a : Act D.limits} {f : Flags} (ha : a.other) (hloop : s'.loop = s.loop)
    (hworld : s'.world = s.world.setFlags f)
    (hstop : s.flags.stopRequested = true → ¬s.Restarts a → f.stopRequested = true) :
    Effect s s' a
  | push (m : CommandMessage D.limits) (hloop : s'.loop = s.loop)
    (hworld : s'.world = { s.world with commands := s.world.commands ++ [m] }) :
    Effect s s' (.step (.pushCommand m))
  | free {a : Act D.limits} (ha : a.other) (hbefore : s.loop = .returned)
    (hloop : s'.loop = s.loop) (hworld : s'.world = s.world.collectionDestroy) : Effect s s' a

namespace Effect

variable {s s' : System D} {a : Act D.limits}

/-- The loop and the world stay as they are. -/
theorem none (ha : a.other) (hloop : s'.loop = s.loop) (hworld : s'.world = s.world) :
    Effect s s' a := by
  have hsame : s'.world = s.world.setFlags s.flags := hworld
  exact .store ha hloop hsame fun hstop _ => hstop

end Effect

theorem headState_threadJoin {State : Type} [DecidableEq State] {returned : State}
    {ts ts' : List (Thread State)} {outcome joined : Bool}
    (h : threadJoin returned ts outcome = some (joined, ts')) :
    headState returned ts' = headState returned ts := by
  cases ts with
  | nil =>
    cases h
    rfl
  | cons t ts =>
    dsimp only [threadJoin] at h
    split at h
    · split at h <;> cases h
      rfl
    · cases h
      rfl

namespace System

variable {s s' : System D}

theorem startStep_effect (h : s.Covered) {pc : StartState} (hc : s.controller = .start pc)
    {outcome : Bool} (hmove : StartMove s outcome pc s') :
    Effect s s' (.step (.controller outcome)) := by
  cases hmove with
  | found | begins | rtFailed | launchWait | waitFailed => exact .none trivial rfl rfl
  | storeStopRequested =>
    exact .store trivial rfl rfl fun _ hnot => absurd ⟨hc, outcome, rfl⟩ hnot
  | launchRt =>
    have hidle := h.coverage.quiet (by rw [hc]; rfl)
    exact .launch trivial hidle.1 rfl rfl
  | waitFailedStop => exact .store trivial rfl rfl fun _ _ => rfl
  | waitFailedJoin hjoin => exact .none trivial (headState_threadJoin hjoin) rfl
  | _ => exact .store trivial rfl rfl fun hstop _ => hstop

theorem joinStep_effect {pc : JoinState → Controller} {ret : System D → Bool → System D}
    {j : JoinState} {outcome : Bool} (hmove : JoinMove s pc ret j s')
    (hret : ∀ (s : System D) result, (ret s result).loop = s.loop ∧
      (ret s result).world = s.world) :
    Effect s s' (.step (.controller outcome)) := by
  cases hmove with
  | started | unjoined | joins => exact .none trivial rfl rfl
  | unstarted => exact .none trivial (hret s false).1 (hret s false).2
  | alreadyJoined => exact .none trivial (hret s true).1 (hret s true).2
  | fails => exact .none trivial (hret _ false).1 (hret _ false).2
  | storeWaitJoined => exact .store trivial rfl rfl fun hstop _ => hstop
  | storeStarted =>
    obtain ⟨hloop, hworld⟩ := hret (s.setFlags { s.flags with started := false }) true
    exact .store trivial hloop hworld fun hstop _ => hstop

theorem controllerStep_effect (h : s.Covered) {outcome : Bool}
    (hmove : ControllerMove s outcome s') : Effect s s' (.step (.controller outcome)) := by
  cases hmove with
  | start pc hc hmove => exact startStep_effect h hc hmove
  | join pc hc hmove => exact joinStep_effect hmove fun _ _ => ⟨rfl, rfl⟩
  | destroyJoin pc hc hmove => exact joinStep_effect hmove fun _ _ => ⟨rfl, rfl⟩
  | requestStop | destroyStop => exact .store trivial rfl rfl fun _ _ => rfl
  | destroyFree hc =>
    have hidle := h.coverage.quiet (by rw [hc]; rfl)
    exact .free trivial hidle.1 rfl rfl
  | _ => exact .none trivial rfl rfl

theorem rtStep_effect (h : s.Covered) {i : Nat} (hstep : s.step (.rt i) = some s') :
    Effect s s' (.step (.rt i)) := by
  obtain ⟨t, state, world, hi, hthread, rfl⟩ := rt_step hstep
  have hlive : t.state ≠ .returned := by
    intro hreturned
    rw [hreturned] at hthread
    cases hthread
  obtain ⟨rfl, hhead⟩ := h.rt.newest hi hlive
  refine .loop ?_
  have hloop : s.loop = t.state := hhead
  rw [hloop, hthread, loop, headState_set hi, if_pos rfl]

theorem waitStep_effect {i : Nat} {outcome : Bool} (hstep : s.step (.wait i outcome) = some s') :
    Effect s s' (.step (.wait i outcome)) := by
  obtain ⟨⟨wait, joins⟩, state, s₁, hi, hmove, rfl⟩ := wait_step hstep
  cases hmove with
  | join hjoin => exact .none trivial (headState_threadJoin hjoin) rfl
  | returning => exact .none trivial rfl rfl
  | storeRtJoined => exact .store trivial rfl rfl fun hstop _ => hstop
  | storeRunning => exact .store trivial rfl rfl fun hstop _ => hstop

theorem act_effect (h : s.Covered) {a : Act D.limits} (hstep : s.act a = some s') :
    Effect s s' a := by
  cases a with
  | requestStop =>
    cases hstep
    exact .store trivial rfl rfl fun _ _ => rfl
  | step a =>
    cases a with
    | call call =>
      obtain ⟨-, rfl⟩ := call_step hstep
      exact .none trivial rfl rfl
    | controller outcome => exact controllerStep_effect h (controllerStep_cases hstep)
    | rt i => exact rtStep_effect h hstep
    | wait i outcome => exact waitStep_effect hstep
    | pushCommand m =>
      cases hstep
      exact .push m rfl rfl

theorem Covered.act (h : s.Covered) {a : Act D.limits} (hstep : s.act a = some s') :
    s'.Covered := by
  cases a with
  | step a => exact h.step hstep
  | requestStop =>
    cases hstep
    exact ⟨h.rt, h.wait, h.coverage.keep rfl ⟨rfl, rfl, rfl, rfl⟩ h.coverage.stored fun h => h⟩

theorem SharedReachable.covered (h : s.SharedReachable) : s.Covered :=
  Transition.Reachable.invariant (fun _ => covered_of_initial) (fun _ _ _ hs => hs.act) h

end System

/-- What an act of neither the RT loop nor a client leaves: the loop does not move but at its
launch, and all that the loop adds to or takes from stays. -/
structure Idles (s s' : System D) (a : Act D.limits) : Prop where
  other : a.other
  trace : ∃ events, s'.world.trace = s.world.trace ++ events ∧ Emits 0 0 [] events
  commands : s'.world.commands = s.world.commands
  config : s'.world.engine.config = s.world.engine.config
  cycleId : s'.world.engine.cycleId = s.world.engine.cycleId
  env : s'.world.env = s.world.env
  loop : s'.loop = s.loop ∨ s.loop = .returned ∧ s'.loop = .enter

/-- An act is a step of the loop, a push, or leaves the loop's share as it is. -/
inductive Share (s s' : System D) : Act D.limits → Prop
  | loop (hstep : s.world.rtThreadStep s.loop = some (s'.loop, s'.world)) :
    Share s s' (.step (.rt 0))
  | push (m : CommandMessage D.limits) (hloop : s'.loop = s.loop)
    (hworld : s'.world = { s.world with commands := s.world.commands ++ [m] }) :
    Share s s' (.step (.pushCommand m))
  | idle {a : Act D.limits} (h : Idles s s' a) : Share s s' a

theorem Effect.share {s s' : System D} {a : Act D.limits} (h : Effect s s' a) : Share s s' a := by
  cases h with
  | loop hstep => exact .loop hstep
  | push m hloop hworld => exact .push m hloop hworld
  | launch ha hbefore hafter hworld =>
    have htrace : s'.world.trace = s.world.trace ++ [] := by rw [hworld, List.append_nil]
    exact .idle ⟨ha, ⟨[], htrace, .nil⟩, by rw [hworld], by rw [hworld], by rw [hworld],
      by rw [hworld], .inr ⟨hbefore, hafter⟩⟩
  | store ha hloop hworld _ =>
    have htrace : s'.world.trace = s.world.trace ++ [] := by
      rw [hworld, List.append_nil]
      rfl
    exact .idle ⟨ha, ⟨[], htrace, .nil⟩, by rw [hworld]; rfl, by rw [hworld]; rfl,
      by rw [hworld]; rfl, by rw [hworld]; rfl, .inl hloop⟩
  | free ha hbefore hloop hworld =>
    rw [World.collectionDestroy, World.destroyElements_eq] at hworld
    have htrace : s'.world.trace = s.world.trace ++
        World.unloadEvents s.world.engine.loadedNodes (D.nodes s.world.runtime) := by
      rw [hworld]
      rfl
    have hsilent : Emits 0 0 [] (World.unloadEvents s.world.engine.loadedNodes
        (D.nodes s.world.runtime)) :=
      .silent fun e he => Event.silent_of_handler (World.unloadEvents_ofHandler _ _ e he)
    exact .idle ⟨ha, ⟨_, htrace, hsilent⟩, by rw [hworld]; rfl, by rw [hworld]; rfl,
      by rw [hworld]; rfl, by rw [hworld]; rfl, .inl hloop⟩

def System.budget (s : System D) : Nat := s.world.engine.config.maxCommandsPerCycle.toNat

theorem Share.budget {s s' : System D} {a : Act D.limits} (h : Share s s' a) :
    s'.budget = s.budget := by
  cases h with
  | loop hstep =>
    obtain ⟨-, -, ⟨rtThread, tolerance, hconfig⟩, -⟩ := World.rtThreadStep_loopStep hstep
    rw [System.budget, hconfig, System.budget]
  | push m hloop hworld => rw [System.budget, hworld, System.budget]
  | idle h => rw [System.budget, h.config, System.budget]

end RtsynEngine
