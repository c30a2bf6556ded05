import RtsynEngine.Proof.Stopping

/-! How the RT loop consumes the command queue, over any number of starts and stops: a history of
its cycles tells what each has dispatched and whether it found the queue empty. -/

namespace RtsynEngine

open Transition

variable {D : Deps} {L : Limits}

/-- What a cycle has done with the command queue. -/
structure Cycle (L : Limits) where
  /-- The commands passed to the dispatcher, oldest first. -/
  dispatched : List (CommandMessage L)
  /-- Whether an attempt to pop has failed. -/
  foundEmpty : Bool

/-- The history of cycles, newest first, after the act `a` in `s`. -/
def System.recordCycle (s : System D) (a : Act D.limits) (cycles : List (Cycle D.limits)) :
    List (Cycle D.limits) :=
  match a, s.loop with
  | .step (.rt _), .cycleBegin _ => ⟨[], false⟩ :: cycles
  | .step (.rt _), .drain _ _ i =>
    if i < s.budget ∧ s.world.commandTryPop.1 = none then
      cycles.modifyHead fun c => { c with foundEmpty := true }
    else cycles
  | .step (.rt _), .dispatch _ _ _ m =>
    cycles.modifyHead fun c => { c with dispatched := c.dispatched ++ [m] }
  | _, _ => cycles

/-- The commands that the cycles of a history dispatched, oldest first. -/
def consumed (cycles : List (Cycle L)) : List (CommandMessage L) :=
  cycles.reverse.flatMap Cycle.dispatched

theorem consumed_cons (c : Cycle L) (cycles : List (Cycle L)) :
    consumed (c :: cycles) = consumed cycles ++ c.dispatched := by
  simp [consumed]

/-- What a cycle has done once its drain is over. -/
structure Cycle.Drained (budget : Nat) (c : Cycle L) : Prop where
  within : c.dispatched.length ≤ budget
  starved : c.dispatched.length < budget → c.foundEmpty = true

/-- The commands popped and dispatched since the cycle's drain began; `none` outside a drain. -/
def RtState.drained : RtState L → Option Nat
  | .drain _ _ i => some i
  | .dispatch _ _ i _ => some i
  | _ => none

theorem RtState.inFlight_of_drained {state : RtState L} (h : state.drained = none) :
    state.inFlight = [] := by
  cases state <;> first | rfl | cases h

/-- What a step of the loop does with the command queue and the history of cycles. -/
inductive ConsumeStep (s s' : System D) (before after : List (Cycle D.limits)) : Prop
  | other (hbefore : s.loop.drained = none) (hafter : s'.loop.drained = none)
    (hcycles : after = before)
  | begin (hbefore : s.loop.drained = none) (hafter : s'.loop.drained = some 0)
    (hcycles : after = ⟨[], false⟩ :: before)
  | pop {i : Nat} (hbefore : s.loop.drained = some i) (hafter : s'.loop.drained = some i)
    (hinFlight : s.loop.inFlight = []) (hcycles : after = before)
  | dispatch {i : Nat} {m : CommandMessage D.limits} (hbefore : s.loop.drained = some i)
    (hafter : s'.loop.drained = some (i + 1)) (hinFlight : s.loop.inFlight = [m])
    (hi : i < s.budget)
    (hcycles : after = before.modifyHead fun c => { c with dispatched := c.dispatched ++ [m] })
  | empty {i : Nat} (hbefore : s.loop.drained = some i) (hafter : s'.loop.drained = none)
    (hinFlight : s.loop.inFlight = []) (hi : i < s.budget) (hempty : s'.world.commands = [])
    (hcycles : after = before.modifyHead fun c => { c with foundEmpty := true })
  | spent {i : Nat} (hbefore : s.loop.drained = some i) (hafter : s'.loop.drained = none)
    (hinFlight : s.loop.inFlight = []) (hi : s.budget ≤ i) (hcycles : after = before)

theorem System.consumeStep {s s' : System D} (hwithin : s.loop.WithinBudget s.budget)
    (hstep : s.world.rtThreadStep s.loop = some (s'.loop, s'.world))
    (cycles : List (Cycle D.limits)) (i : Nat) :
    ConsumeStep s s' cycles (s.recordCycle (.step (.rt i)) cycles) := by
  have hcases := World.rtThreadStep_cases hstep
  generalize hloop : s.loop = state at hcases hwithin
  generalize hloop' : s'.loop = state' at hcases
  generalize hworld' : s'.world = w' at hcases
  have hbefore : s.loop.drained = state.drained := congrArg RtState.drained hloop
  have hafter : s'.loop.drained = state'.drained := congrArg RtState.drained hloop'
  have hinFlight : s.loop.inFlight = state.inFlight := congrArg RtState.inFlight hloop
  simp only [recordCycle, hloop]
  cases hcases with
  | cycleBegin nextDeadlineNs => exact .begin hbefore hafter rfl
  | pop nextDeadlineNs startedAtNs i message commands hi hcommands =>
    have hpopped : ¬(i < s.budget ∧ s.world.commandTryPop.1 = none) := by
      simp [World.commandTryPop, hcommands]
    exact .pop hbefore hafter hinFlight (if_neg hpopped)
  | empty nextDeadlineNs startedAtNs i hi hcommands =>
    have hfoundEmpty : i < s.budget ∧ s.world.commandTryPop.1 = none :=
      ⟨hi, by rw [World.commandTryPop, hcommands]⟩
    exact .empty hbefore hafter hinFlight hi (hworld' ▸ hcommands) (if_pos hfoundEmpty)
  | spent nextDeadlineNs startedAtNs i hi =>
    have hspent : ¬(i < s.budget ∧ s.world.commandTryPop.1 = none) := fun h =>
      absurd h.1 (Nat.not_lt.mpr hi)
    exact .spent hbefore hafter hinFlight hi (if_neg hspent)
  | dispatch nextDeadlineNs startedAtNs i message =>
    exact .dispatch hbefore hafter hinFlight hwithin rfl
  | _ => exact .other hbefore hafter rfl

/-- The cycles of a history in which the newest is in its drain, with `i` commands dispatched, or
no cycle is. -/
def Tally (budget : Nat) (cycles : List (Cycle L)) : Option Nat → Prop
  | none => ∀ c ∈ cycles, c.Drained budget
  | some i => ∃ c cs, cycles = c :: cs ∧ c.dispatched.length = i ∧ i ≤ budget ∧
    ∀ c ∈ cs, c.Drained budget

/-- The commands consumed from a queue of `queued` by the cycles of a history, if nothing is
pushed. -/
def Progress (budget queued : Nat) (cycles : List (Cycle L)) : Option Nat → Prop
  | none => (consumed cycles).length = min (cycles.length * budget) queued
  | some i => (consumed cycles).length = min ((cycles.length - 1) * budget) queued + i

namespace ConsumeStep

variable {s s' : System D} {before after : List (Cycle D.limits)}

theorem tally (h : ConsumeStep s s' before after) (htally : Tally s.budget before s.loop.drained) :
    Tally s.budget after s'.loop.drained := by
  cases h with
  | other hbefore hafter hcycles =>
    rw [hafter, hcycles]
    rwa [hbefore] at htally
  | begin hbefore hafter hcycles =>
    rw [hbefore] at htally
    rw [hafter, hcycles]
    exact ⟨_, _, rfl, rfl, Nat.zero_le _, htally⟩
  | pop hbefore hafter hinFlight hcycles =>
    rw [hafter, hcycles]
    rwa [hbefore] at htally
  | dispatch hbefore hafter hinFlight hi hcycles =>
    rw [hbefore] at htally
    obtain ⟨c, cs, rfl, hlength, -, hcs⟩ := htally
    rw [hafter, hcycles]
    exact ⟨_, _, rfl, by simp [hlength], hi, hcs⟩
  | empty hbefore hafter hinFlight hi hempty hcycles =>
    rw [hbefore] at htally
    obtain ⟨c, cs, rfl, hlength, hle, hcs⟩ := htally
    rw [hafter, hcycles]
    exact List.forall_mem_cons.mpr ⟨⟨hlength ▸ hle, fun _ => rfl⟩, hcs⟩
  | spent hbefore hafter hinFlight hi hcycles =>
    rw [hbefore] at htally
    obtain ⟨c, cs, rfl, hlength, hle, hcs⟩ := htally
    rw [hafter, hcycles]
    exact List.forall_mem_cons.mpr ⟨⟨hlength ▸ hle, fun h => by omega⟩, hcs⟩

/-- A command in flight is recorded with its dispatch. -/
theorem consumed_eq (h : ConsumeStep s s' before after)
    (htally : Tally s.budget before s.loop.drained) :
    consumed after = consumed before ++ s.loop.inFlight := by
  cases h with
  | other hbefore hafter hcycles =>
    rw [RtState.inFlight_of_drained hbefore, hcycles, List.append_nil]
  | begin hbefore hafter hcycles =>
    rw [RtState.inFlight_of_drained hbefore, hcycles, consumed_cons]
  | pop hbefore hafter hinFlight hcycles => rw [hinFlight, hcycles, List.append_nil]
  | dispatch hbefore hafter hinFlight hi hcycles =>
    rw [hbefore] at htally
    obtain ⟨c, cs, rfl, -⟩ := htally
    rw [hinFlight, hcycles, List.modifyHead_cons, consumed_cons, consumed_cons, List.append_assoc]
  | empty hbefore hafter hinFlight hi hempty hcycles =>
    rw [hbefore] at htally
    obtain ⟨c, cs, rfl, -⟩ := htally
    rw [hinFlight, hcycles, List.modifyHead_cons, consumed_cons, consumed_cons, List.append_nil]
  | spent hbefore hafter hinFlight hi hcycles => rw [hinFlight, hcycles, List.append_nil]

theorem progress (h : ConsumeStep s s' before after)
    (htally : Tally s.budget before s.loop.drained) {queued : Nat}
    (hqueued : queued = (consumed after).length + s'.loop.inFlight.length +
      s'.world.commands.length)
    (hprogress : Progress s.budget queued before s.loop.drained) :
    Progress s.budget queued after s'.loop.drained := by
  have hconsumed := congrArg List.length (h.consumed_eq htally)
  rw [List.length_append] at hconsumed
  cases h with
  | other hbefore hafter hcycles =>
    rw [hafter, hcycles]
    rwa [hbefore] at hprogress
  | begin hbefore hafter hcycles =>
    rw [hbefore] at hprogress
    rw [hafter, hcycles, Progress, consumed_cons]
    simpa [Progress] using hprogress
  | pop hbefore hafter hinFlight hcycles =>
    rw [hafter, hcycles]
    rwa [hbefore] at hprogress
  | dispatch hbefore hafter hinFlight hi hcycles =>
    rw [hbefore] at hprogress
    rw [hafter, Progress, hconsumed, hprogress, hinFlight, hcycles, List.length_modifyHead]
    rfl
  | empty hbefore hafter hinFlight hi hempty hcycles =>
    rw [hbefore] at htally hprogress
    obtain ⟨c, cs, rfl, hlength, hle, hcs⟩ := htally
    have hlast := RtState.inFlight_of_drained hafter
    rw [hlast, hempty] at hqueued
    rw [hafter, Progress, hcycles, List.length_modifyHead, List.length_cons, Nat.succ_mul]
    simp only [Progress, List.length_cons, Nat.add_sub_cancel] at hprogress
    rw [hinFlight] at hconsumed
    rw [hcycles] at hqueued hconsumed
    simp only [List.length_nil] at hqueued hconsumed
    omega
  | spent hbefore hafter hinFlight hi hcycles =>
    rw [hbefore] at htally hprogress
    obtain ⟨c, cs, rfl, hlength, hle, hcs⟩ := htally
    rw [hafter, Progress, hcycles, List.length_cons, Nat.succ_mul]
    simp only [Progress, List.length_cons, Nat.add_sub_cancel] at hprogress
    rw [hcycles] at hqueued
    omega

end ConsumeStep

namespace System

/-- The system with its history of cycles. -/
def recordedAct : System D × List (Cycle D.limits) → Act D.limits →
    Option (System D × List (Cycle D.limits)) :=
  recording act recordCycle

theorem recordCycle_other (s : System D) {a : Act D.limits} (h : a.other)
    (cycles : List (Cycle D.limits)) : s.recordCycle a cycles = cycles := by
  cases a with
  | requestStop => rfl
  | step a => cases a <;> first | rfl | exact h.elim

end System

/-- What the acts `as` from `s₀`, outside a drain, have done with the queue. -/
structure Consumes (s₀ : System D) (as : List (Act D.limits))
    (o : System D × List (Cycle D.limits)) : Prop where
  reachable : o.1.SharedReachable
  budget : o.1.budget = s₀.budget
  trace : dispatchedCommands o.1.world.trace =
    dispatchedCommands s₀.world.trace ++ consumed o.2
  queue : s₀.world.commands ++ as.filterMap Act.pushed =
    consumed o.2 ++ o.1.loop.inFlight ++ o.1.world.commands
  tally : Tally s₀.budget o.2 o.1.loop.drained
  progress : as.filterMap Act.pushed = [] →
    Progress s₀.budget s₀.world.commands.length o.2 o.1.loop.drained

namespace Consumes

variable {s₀ s s' : System D} {as : List (Act D.limits)} {cycles : List (Cycle D.limits)}

theorem refl (h : s₀.SharedReachable) (houtside : s₀.loop.drained = none) :
    Consumes s₀ [] (s₀, []) where
  reachable := h
  budget := rfl
  trace := (List.append_nil _).symm
  queue := by
    rw [RtState.inFlight_of_drained houtside]
    exact List.append_nil _
  tally := by
    rw [houtside]
    exact fun _ h => nomatch h
  progress _ := by
    rw [houtside]
    simp [Progress, consumed]

theorem loopStep (h : Consumes s₀ as (s, cycles)) (hreachable : s'.SharedReachable)
    (hstep : s.world.rtThreadStep s.loop = some (s'.loop, s'.world)) (i : Nat) :
    Consumes s₀ (as ++ [.step (.rt i)]) (s', s.recordCycle (.step (.rt i)) cycles) := by
  obtain ⟨⟨events, htrace, hemits⟩, hcommands, -, -⟩ := World.rtThreadStep_loopStep hstep
  have hbudget : s.budget = s₀.budget := h.budget
  have htally := h.tally
  rw [← hbudget] at htally
  have hconsume := System.consumeStep h.reachable.withinBudget hstep cycles i
  have hconsumed := hconsume.consumed_eq htally
  have hpushed : (as ++ [Act.step (.rt i)]).filterMap Act.pushed = as.filterMap Act.pushed := by
    rw [List.filterMap_append]
    exact List.append_nil _
  have hqueue : s₀.world.commands ++ as.filterMap Act.pushed =
      consumed (s.recordCycle (.step (.rt i)) cycles) ++ s'.loop.inFlight ++ s'.world.commands := by
    rw [hconsumed, List.append_assoc _ s'.loop.inFlight, ← hcommands]
    exact h.queue
  refine ⟨hreachable, ?_, ?_, ?_, ?_, ?_⟩
  · rw [Share.budget (.loop hstep), hbudget]
  · rw [htrace, dispatchedCommands, List.filterMap_append, ← dispatchedCommands,
      ← dispatchedCommands, hemits.commands, h.trace, hconsumed, List.append_assoc]
  · rw [hpushed, hqueue]
  · rw [← hbudget]
    exact hconsume.tally htally
  · intro hnone
    rw [hpushed] at hnone
    rw [hnone, List.append_nil] at hqueue
    rw [← hbudget]
    refine hconsume.progress htally ?_ ?_
    · rw [hqueue, List.length_append, List.length_append]
    · rw [hbudget]
      exact h.progress hnone

theorem idle (h : Consumes s₀ as (s, cycles)) (hreachable : s'.SharedReachable)
    {a : Act D.limits} (hidle : Idles s s' a) :
    Consumes s₀ (as ++ [a]) (s', s.recordCycle a cycles) := by
  obtain ⟨events, htrace, hemits⟩ := hidle.trace
  have hpushed : (as ++ [a]).filterMap Act.pushed = as.filterMap Act.pushed := by
    rw [List.filterMap_append, List.filterMap_cons, hidle.other.pushed]
    exact List.append_nil _
  have hloop : s'.loop.drained = s.loop.drained ∧ s'.loop.inFlight = s.loop.inFlight := by
    rcases hidle.loop with hsame | ⟨hbefore, hafter⟩
    · rw [hsame]
      exact ⟨rfl, rfl⟩
    · rw [hbefore, hafter]
      exact ⟨rfl, rfl⟩
  rw [s.recordCycle_other hidle.other]
  refine ⟨hreachable, ?_, ?_, ?_, ?_, ?_⟩
  · rw [Share.budget (.idle hidle)]
    exact h.budget
  · rw [htrace, dispatchedCommands, List.filterMap_append, ← dispatchedCommands,
      ← dispatchedCommands, hemits.commands, List.append_nil]
    exact h.trace
  · rw [hpushed, hloop.2, hidle.commands]
    exact h.queue
  · rw [hloop.1]
    exact h.tally
  · rw [hpushed, hloop.1]
    exact h.progress

theorem push (h : Consumes s₀ as (s, cycles)) (hreachable : s'.SharedReachable)
    (m : CommandMessage D.limits) (hloop : s'.loop = s.loop)
    (hworld : s'.world = { s.world with commands := s.world.commands ++ [m] }) :
    Consumes s₀ (as ++ [.step (.pushCommand m)]) (s', cycles) := by
  have hpushed : (as ++ [Act.step (.pushCommand m)]).filterMap Act.pushed =
      as.filterMap Act.pushed ++ [m] := by
    rw [List.filterMap_append]
    rfl
  refine ⟨hreachable, ?_, ?_, ?_, ?_, ?_⟩
  · rw [Share.budget (.push m hloop hworld)]
    exact h.budget
  · rw [hworld]
    exact h.trace
  · rw [hpushed, ← List.append_assoc, h.queue, hloop, hworld, List.append_assoc]
  · rw [hloop]
    exact h.tally
  · intro hnone
    rw [hpushed] at hnone
    exact absurd hnone (by simp)

theorem act {o o' : System D × List (Cycle D.limits)} (h : Consumes s₀ as o)
    {a : Act D.limits} (hstep : System.recordedAct o a = some o') :
    Consumes s₀ (as ++ [a]) o' := by
  obtain ⟨s, cycles⟩ := o
  obtain ⟨s', hact, rfl⟩ := Option.map_eq_some_iff.mp hstep
  have hreachable : s'.SharedReachable := h.reachable.next hact
  cases (System.act_effect h.reachable.covered hact).share with
  | loop hloop => exact h.loopStep hreachable hloop 0
  | push m hloop hworld => exact h.push hreachable m hloop hworld
  | idle hidle => exact h.idle hreachable hidle

theorem path {o : System D × List (Cycle D.limits)} (h : s₀.SharedReachable)
    (houtside : s₀.loop.drained = none)
    (hpath : Path System.recordedAct (fun _ _ => True) (s₀, []) as o) : Consumes s₀ as o :=
  hpath.invariant (.refl h houtside) fun _ _ _ _ hs _ => hs.act

end Consumes

/-- An engine that `rtsyn_engine_create` has made from `config`, before any call. -/
def System.Created (config : Config) (s : System D) : Prop :=
  s.Initial ∧ Engine.create D.limits config = some s.world.engine

/-- The normalised budget. -/
def Config.commandBudget (c : Config) (L : Limits) : Nat :=
  (if c.maxCommandsPerCycle = 0 then L.commandBudget else c.maxCommandsPerCycle).toNat

theorem Engine.create_budget {config : Config} {e : Engine L}
    (h : Engine.create L config = some e) :
    e.config.maxCommandsPerCycle.toNat = config.commandBudget L := by
  unfold create at h
  split at h
  · rw [← Option.some.inj h, Config.commandBudget]
    dsimp only
    by_cases hzero : config.maxCommandsPerCycle = 0
    · rw [if_pos hzero, if_pos (by rw [hzero]; rfl)]
    · rw [if_neg hzero, if_neg (by simpa using hzero)]
  · cases h

theorem Config.commandBudget_pos (c : Config) {L : Limits} (h : 0 < L.commandBudget) :
    0 < c.commandBudget L := by
  unfold commandBudget
  split
  · exact UInt32.lt_iff_toNat_lt.mp h
  · next hzero =>
    have hne : c.maxCommandsPerCycle.toNat ≠ 0 := fun h0 => hzero (UInt32.toNat_inj.mp h0)
    omega

theorem System.budget_of_created {config : Config} {s : System D}
    (h : Transition.Reachable (Created config) act s) :
    s.budget = config.commandBudget D.limits := by
  refine (Transition.Reachable.invariant (P := fun s : System D => s.SharedReachable ∧
    s.budget = config.commandBudget D.limits) ?_ ?_ h).2
  · intro s hs
    exact ⟨.start hs.1, Engine.create_budget hs.2⟩
  · intro s a s' hs hstep
    have hshare := (act_effect hs.1.covered hstep).share
    exact ⟨hs.1.next hstep, hshare.budget.trans hs.2⟩

/-- From any state outside a drain, and so from the start: the commands queued there and pushed
later are dispatched in order, each once; a cycle dispatches at most the budget, and less only if
it found the queue empty; and without pushes `n` cycles dispatch `n` times the budget, or all. -/
theorem commands_consumed (hdefault : 0 < D.limits.commandBudget) {config : Config}
    {s₀ : System D} (h : Reachable (System.Created config) System.act s₀)
    (houtside : s₀.loop.drained = none) {as : List (Act D.limits)} {s : System D}
    {cycles : List (Cycle D.limits)}
    (hpath : Path System.recordedAct (fun _ _ => True) (s₀, []) as (s, cycles)) :
    0 < config.commandBudget D.limits ∧
      (dispatchedCommands s.world.trace =
          dispatchedCommands s₀.world.trace ++ consumed cycles ∧
        s₀.world.commands ++ as.filterMap Act.pushed =
          consumed cycles ++ s.loop.inFlight ++ s.world.commands) ∧
      (∀ c ∈ cycles, c.dispatched.length ≤ config.commandBudget D.limits) ∧
      (∀ c ∈ if s.loop.drained = none then cycles else cycles.tail,
        c.dispatched.length < config.commandBudget D.limits → c.foundEmpty = true) ∧
      (as.filterMap Act.pushed = [] → s.loop.drained = none →
        (consumed cycles).length =
          min (cycles.length * config.commandBudget D.limits) s₀.world.commands.length) := by
  have hbudget := System.budget_of_created h
  have hconsumes := Consumes.path (h.mono fun _ hs => hs.1) houtside hpath
  obtain ⟨-, -, htrace, hqueue, htally, hprogress⟩ := hconsumes
  rw [hbudget] at htally hprogress
  refine ⟨config.commandBudget_pos hdefault, ⟨htrace, hqueue⟩, ?_, ?_, ?_⟩
  · intro c hc
    cases hdrained : s.loop.drained with
    | none =>
      rw [hdrained] at htally
      exact (htally c hc).within
    | some i =>
      rw [hdrained] at htally
      obtain ⟨newest, cs, rfl, hlength, hle, hcs⟩ := htally
      rcases List.mem_cons.mp hc with rfl | hold
      · exact hlength ▸ hle
      · exact (hcs c hold).within
  · intro c hc
    cases hdrained : s.loop.drained with
    | none =>
      rw [hdrained] at htally hc
      exact (htally c hc).starved
    | some i =>
      rw [hdrained] at htally hc
      obtain ⟨newest, cs, rfl, -, -, hcs⟩ := htally
      exact (hcs c hc).starved
  · intro hnone hdrained
    rw [hdrained] at hprogress
    exact hprogress hnone

namespace Reference

/-- The started engine with one command more in its queue than its budget. -/
def queued : System deps :=
  (Transition.run System.act started
    (List.replicate 5 (.step (.pushCommand stopMessage)))).get (by decide)

/-- That engine after one cycle, with the history of it. -/
def queuedCycle : System deps × List (Cycle limits) :=
  (Transition.run System.recordedAct (queued, [])
    (List.replicate 16 (.step (.rt 0)))).get (by decide)

end Reference

theorem commands_consumed_reference :
    (consumed Reference.queuedCycle.2).length = min (1 * 4) 5 ∧
      List.replicate 5 Reference.stopMessage ++ [] =
        consumed Reference.queuedCycle.2 ++ [] ++ [Reference.stopMessage] := by
  have hcreated : Transition.Reachable (System.Created Reference.config) System.act
      Reference.created := .start ⟨⟨rfl, rfl, rfl, rfl, rfl⟩, rfl⟩
  have hstarted : Transition.run System.act Reference.created
      (.step (.call .start) :: List.replicate 9 (.step (.controller true)) ++
        [.step (.rt 0)]) = some Reference.started := rfl
  have hqueued : Transition.Reachable (System.Created Reference.config) System.act
      Reference.queued := (hcreated.run hstarted).run (Option.some_get _).symm
  have hrun : Transition.run System.recordedAct (Reference.queued, [])
      (List.replicate 16 (.step (.rt 0))) = some Reference.queuedCycle :=
    (Option.some_get _).symm
  obtain ⟨-, ⟨-, hconsumed⟩, -, -, hprogress⟩ :=
    commands_consumed (by decide) hqueued rfl (.of_run (fun _ _ => trivial) hrun)
  exact ⟨hprogress rfl rfl, hconsumed⟩

end RtsynEngine
