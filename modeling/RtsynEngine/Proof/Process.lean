import RtsynEngine.Proof.Exit
import RtsynEngine.Proof.Resources

/-! What the process holds: in every run of the process, wherever main's creations fail, all that
the engine's threads may use is held while they may use it, and nothing is held when main has
returned. -/

namespace RtsynEngine

open Ledger Transition Resource

variable {D : Deps} {O : HostDeps}

/-- The shared memory that is mapped. -/
def Holdings.mappings (h : Holdings O) : Finset Resource :=
  ((Holdings.queues.filter h.mapped).map Resource.mapping).toFinset

theorem Holdings.mem_queues (q : SharedQueue) : q ∈ Holdings.queues := by
  cases q <;> simp [Holdings.queues]

@[simp] theorem Holdings.mem_mappings {h : Holdings O} {r : Resource} :
    r ∈ h.mappings ↔ ∃ q, h.mapped q = true ∧ r = .mapping q := by
  simp only [Holdings.mappings, List.mem_toFinset, List.mem_map, List.mem_filter, mem_queues,
    true_and]
  exact exists_congr fun q => and_congr_right fun _ => eq_comm

namespace Holdings

variable {h h' : Holdings O} {m : MainSetup}

/-- The names that are not main's stay as they are. -/
def LeavesOthers (m : MainSetup) (h h' : Holdings O) : Prop :=
  ∀ n, (∀ q, n ≠ m.name q) → h'.linked n = h.linked n

/-- The name of a queue is gone, if its last `unlink` succeeded. -/
def Unlinked (m : MainSetup) (h : Holdings O) (q : SharedQueue) : Prop :=
  h.unlinked q = true → h.linked (m.name q) = false

theorem Keeps.congr {held : Finset Resource} (hkeeps : h.Keeps held)
    (hledger : h'.ledger = h.ledger) (hprobe : h'.probe = h.probe) : h'.Keeps held :=
  ⟨by rw [hledger, hprobe]; exact hkeeps.sound, hkeeps.noProbe⟩

/-- What main holds before it creates the engine and after it has destroyed it: the runtime and the
queues that are mapped. -/
structure Bare (h : Holdings O) : Prop where
  keeps : h.Keeps (insert .runtime h.mappings)
  probe : h.probe = none

/-- Main holds nothing. -/
structure Gone (h : Holdings O) : Prop where
  keeps : h.Keeps ∅
  probe : h.probe = none
  mapped : ∀ q, h.mapped q = false

theorem Bare.congr (hbare : h.Bare) (hledger : h'.ledger = h.ledger) (hprobe : h'.probe = h.probe)
    (hmapped : h'.mapped = h.mapped) : h'.Bare := by
  refine ⟨?_, hprobe.trans hbare.probe⟩
  have hsame : h'.mappings = h.mappings := by rw [mappings, mappings, hmapped]
  rw [hsame]
  exact hbare.keeps.congr hledger hprobe

theorem Bare.releaseRuntime (hbare : h.Bare) (hunmapped : ∀ q, h.mapped q = false) :
    (h.release .runtime).Gone := by
  have hnone : h.mappings = ∅ := by
    ext r
    simp [hunmapped]
  have hruntime := hbare.keeps.release (r := .runtime) (by simp) (by simp [hnone, needs])
    (fun e hset => by simp [hbare.probe] at hset)
  rw [hnone, Finset.erase_insert (Finset.notMem_empty _)] at hruntime
  exact ⟨hruntime, hbare.probe, hunmapped⟩

/-! ### The ledger of the mappings -/

theorem setMemory_same {memory : O.Memory} (hmapped : O.mapped memory = h.mapped) :
    (h.setMemory memory).ledger = h.ledger := by
  simp [setMemory, hmapped]

theorem filter_queues (q : SharedQueue) {p : SharedQueue → Bool}
    (hp : ∀ q', p q' = true ↔ q' = q) : queues.filter p = [q] := by
  have hdecide : p = fun q' => decide (q' = q) := by
    funext q'
    rw [Bool.eq_iff_iff, hp, decide_eq_true_iff]
  rw [hdecide]
  cases q <;> rfl

/-- Of two sets of queues that differ in `q` alone. -/
theorem filter_changed {f g : SharedQueue → Bool} {q : SharedQueue} (hf : f q = false)
    (hg : ∀ q', g q' = if q' = q then true else f q') :
    queues.filter (fun q' => f q' && !g q') = [] ∧
      queues.filter (fun q' => !f q' && g q') = [q] := by
  constructor
  · rw [List.filter_eq_nil_iff]
    intro q' _
    rw [hg]
    by_cases hqq : q' = q <;> simp [hqq]
  · refine filter_queues q fun q' => ?_
    rw [hg]
    by_cases hqq : q' = q
    · simp [hqq, hf]
    · simp [hqq]

theorem setMemory_mapped {memory : O.Memory} {q : SharedQueue} (hunmapped : h.mapped q = false)
    (hmapped : ∀ q', O.mapped memory q' = if q' = q then true else h.mapped q') :
    (h.setMemory memory).ledger = h.ledger ++ [.acquire (.mapping q)] := by
  obtain ⟨hnone, hone⟩ := filter_changed hunmapped hmapped
  unfold setMemory
  dsimp only
  rw [hnone, hone]
  simp

theorem setMemory_unmapped {memory : O.Memory} {q : SharedQueue} (hwas : h.mapped q = true)
    (hmapped : ∀ q', O.mapped memory q' = if q' = q then false else h.mapped q') :
    (h.setMemory memory).ledger = h.ledger ++ [.release (.mapping q)] := by
  have hbefore : ∀ q', h.mapped q' = if q' = q then true else O.mapped memory q' := by
    intro q'
    rw [hmapped]
    by_cases hqq : q' = q <;> simp [hqq, hwas]
  obtain ⟨hnone, hone⟩ := filter_changed ((hmapped q).trans (if_pos rfl)) hbefore
  simp only [Bool.and_comm] at hnone hone
  unfold setMemory
  dsimp only
  rw [hnone, hone]
  simp

section Laws

variable (laws : O.SharedLaws)
include laws

/-! ### Names -/

theorem sharedUnlink_spec (h : Holdings O) (m : MainSetup) (q : SharedQueue) :
    (h.sharedUnlink m q).ledger = h.ledger ∧ (h.sharedUnlink m q).mapped = h.mapped ∧
      LeavesOthers m h (h.sharedUnlink m q) ∧ Unlinked m (h.sharedUnlink m q) q ∧
      ∀ q', Unlinked m h q' → Unlinked m (h.sharedUnlink m q) q' := by
  have hmapped : (h.sharedUnlink m q).mapped = h.mapped :=
    laws.unlink_mapped h.memory q (m.name q)
  have hlinked : ∀ n, (h.sharedUnlink m q).linked n =
      if (h.sharedUnlink m q).unlinked q = true ∧ n = m.name q then false else h.linked n := by
    have hanswer : (h.sharedUnlink m q).unlinked q =
        (O.sharedUnlink h.memory q (m.name q)).1 := if_pos rfl
    rw [hanswer]
    exact laws.unlink_linked rfl
  have hgone : Unlinked m (h.sharedUnlink m q) q := fun hunlinked =>
    (hlinked (m.name q)).trans (if_pos ⟨hunlinked, rfl⟩)
  refine ⟨setMemory_same hmapped, hmapped, fun n hn => ?_, hgone, fun q' hq' hunlinked => ?_⟩
  · exact (hlinked n).trans (if_neg fun heq => hn q heq.2)
  · by_cases hqq : q' = q
    · subst hqq
      exact hgone hunlinked
    · have hbefore : h.linked (m.name q') = false := hq' ((if_neg hqq).symm.trans hunlinked)
      rw [hlinked, hbefore, ite_self]

theorem unlinkAll_spec (h : Holdings O) (m : MainSetup) (qs : List SharedQueue) :
    (qs.foldl (fun h q => h.sharedUnlink m q) h).ledger = h.ledger ∧
      (qs.foldl (fun h q => h.sharedUnlink m q) h).probe = h.probe ∧
      (qs.foldl (fun h q => h.sharedUnlink m q) h).mapped = h.mapped ∧
      LeavesOthers m h (qs.foldl (fun h q => h.sharedUnlink m q) h) ∧
      ∀ q, q ∈ qs ∨ Unlinked m h q →
        Unlinked m (qs.foldl (fun h q => h.sharedUnlink m q) h) q := by
  induction qs generalizing h with
  | nil => exact ⟨rfl, rfl, rfl, fun _ _ => rfl, fun q hq => hq.resolve_left (by simp)⟩
  | cons q qs ih =>
    obtain ⟨hledger, hmapped, hothers, hgone, hkeeps⟩ := sharedUnlink_spec laws h m q
    obtain ⟨hledger', hprobe', hmapped', hothers', hgone'⟩ := ih (h.sharedUnlink m q)
    refine ⟨hledger'.trans hledger, hprobe', hmapped'.trans hmapped,
      fun n hn => (hothers' n hn).trans (hothers n hn), fun q' hq' => hgone' q' ?_⟩
    rcases hq' with hmem | hunlinked
    · rcases List.mem_cons.mp hmem with rfl | hmem
      · exact .inr hgone
      · exact .inl hmem
    · exact .inr (hkeeps q' hunlinked)

theorem mainUnlinkSharedQueues_spec (h : Holdings O) (m : MainSetup) :
    (h.mainUnlinkSharedQueues m).mapped = h.mapped ∧
      LeavesOthers m h (h.mainUnlinkSharedQueues m) ∧
      ∀ q, Unlinked m (h.mainUnlinkSharedQueues m) q := by
  obtain ⟨-, -, hmapped, hothers, hgone⟩ := unlinkAll_spec laws h m queues
  exact ⟨hmapped, hothers, fun q => hgone q (.inl (mem_queues q))⟩

theorem Bare.unlink (hbare : h.Bare) (m : MainSetup) : (h.mainUnlinkSharedQueues m).Bare := by
  obtain ⟨hledger, hprobe, hmapped, -⟩ := unlinkAll_spec laws h m queues
  exact hbare.congr hledger hprobe hmapped

/-! ### Mappings -/

theorem Bare.create (hbare : h.Bare) {q : SharedQueue} (hunmapped : h.mapped q = false)
    {created : Bool} (hcreate : h.sharedCreate m q = (created, h')) :
    h'.Bare ∧ LeavesOthers m h h' ∧
      ∀ q', h'.mapped q' = if created = true ∧ q' = q then true else h.mapped q' := by
  rcases hcall : O.sharedCreate h.memory q (m.name q) with ⟨ok, memory⟩
  rw [Holdings.sharedCreate, hcall] at hcreate
  cases hcreate
  have hmapped := laws.create_mapped hunmapped hcall
  refine ⟨?_, fun n hn => laws.create_linked hcall n (hn q), hmapped⟩
  cases created with
  | false =>
    have hsame : O.mapped memory = h.mapped := funext fun q' => (hmapped q').trans (by simp; rfl)
    exact hbare.congr (setMemory_same hsame) rfl hsame
  | true =>
    have hopened : ∀ q', O.mapped memory q' = if q' = q then true else h.mapped q' :=
      fun q' => (hmapped q').trans (by simp; rfl)
    refine ⟨?_, hbare.probe⟩
    have hnew : Resource.mapping q ∉ insert Resource.runtime h.mappings := by
      simp [hunmapped]
    have hkeeps := hbare.keeps.acquire hnew (by simp) (by simp [needs])
    have heq : insert (Resource.mapping q) (insert .runtime h.mappings) =
        insert .runtime (h.setMemory memory).mappings := by
      ext r
      simp only [Finset.mem_insert, mem_mappings,
        show (h.setMemory memory).mapped = O.mapped memory from rfl, hopened]
      constructor
      · rintro (rfl | hr | ⟨q', hq', rfl⟩)
        · exact .inr ⟨q, if_pos rfl, rfl⟩
        · exact .inl hr
        · exact .inr ⟨q', by simp [hq'], rfl⟩
      · rintro (hr | ⟨q', hq', rfl⟩)
        · exact .inr (.inl hr)
        · by_cases hqq : q' = q
          · exact .inl (hqq ▸ rfl)
          · exact .inr (.inr ⟨q', by simpa [hqq] using hq', rfl⟩)
    rw [heq] at hkeeps
    exact hkeeps.congr (setMemory_mapped hunmapped hopened) rfl

theorem Bare.createAll {qs : List SharedQueue} (hbare : h.Bare)
    (hunmapped : ∀ q ∈ qs, h.mapped q = false) (hnodup : qs.Nodup) {created : Bool}
    (hcreate : h.createSharedQueues m qs = (created, h')) :
    h'.Bare ∧ LeavesOthers m h h' ∧
      (created = true → ∀ q, h'.mapped q = true ↔ h.mapped q = true ∨ q ∈ qs) := by
  induction qs generalizing h with
  | nil =>
    cases hcreate
    exact ⟨hbare, fun _ _ => rfl, by simp⟩
  | cons q qs ih =>
    obtain ⟨hq, hqs⟩ := List.nodup_cons.mp hnodup
    rw [createSharedQueues] at hcreate
    rcases hfirst : h.sharedCreate m q with ⟨ok, h₁⟩
    rw [hfirst] at hcreate
    obtain ⟨hbare₁, hothers₁, hmapped₁⟩ := hbare.create laws (hunmapped q (by simp)) hfirst
    cases ok with
    | false =>
      cases hcreate
      exact ⟨hbare₁, hothers₁, by simp⟩
    | true =>
      have hunmapped₁ : ∀ q' ∈ qs, h₁.mapped q' = false := by
        intro q' hq'
        have hne : q' ≠ q := by
          rintro rfl
          exact hq hq'
        rw [hmapped₁, if_neg (by simp [hne])]
        exact hunmapped q' (by simp [hq'])
      obtain ⟨hbare', hothers', hmapped'⟩ := ih hbare₁ hunmapped₁ hqs hcreate
      refine ⟨hbare', fun n hn => (hothers' n hn).trans (hothers₁ n hn), fun hcreated q' => ?_⟩
      rw [hmapped' hcreated, hmapped₁]
      by_cases hqq : q' = q <;> simp [hqq]

theorem Bare.close (hbare : h.Bare) (q : SharedQueue) :
    (h.sharedClose q).Bare ∧ (h.sharedClose q).linked = h.linked ∧
      ∀ q', (h.sharedClose q).mapped q' = if q' = q then false else h.mapped q' := by
  have hmapped := laws.close_mapped h.memory q
  refine ⟨?_, laws.close_linked h.memory q, hmapped⟩
  cases hwas : h.mapped q with
  | false =>
    have hsame : O.mapped (O.sharedClose h.memory q) = h.mapped := by
      funext q'
      rw [hmapped]
      by_cases hqq : q' = q
      · rw [if_pos hqq, hqq, hwas]
      · exact if_neg hqq
    exact hbare.congr (setMemory_same hsame) rfl hsame
  | true =>
    refine ⟨?_, hbare.probe⟩
    have hkeeps := hbare.keeps.release (r := .mapping q) (by simp [hwas]) (fun s hs => ?_)
      (fun e hset => by simp [hbare.probe] at hset)
    · have heq : (insert Resource.runtime h.mappings).erase (.mapping q) =
          insert .runtime (h.sharedClose q).mappings := by
        ext r
        simp only [Finset.mem_erase, Finset.mem_insert, mem_mappings,
          show ∀ q', (h.sharedClose q).mapped q' = _ from hmapped]
        constructor
        · rintro ⟨hne, hr | ⟨q', hq', rfl⟩⟩
          · exact .inl hr
          · have hqq : q' ≠ q := fun heq => hne (heq ▸ rfl)
            exact .inr ⟨q', by rw [if_neg hqq]; exact hq', rfl⟩
        · rintro (rfl | ⟨q', hq', rfl⟩)
          · exact ⟨by simp, .inl rfl⟩
          · by_cases hqq : q' = q
            · simp [hqq] at hq'
            · rw [if_neg hqq] at hq'
              exact ⟨by simp [hqq], .inr ⟨q', hq', rfl⟩⟩
      rw [heq] at hkeeps
      exact hkeeps.congr (setMemory_unmapped hwas hmapped) rfl
    · rcases Finset.mem_insert.mp hs with rfl | hs
      · simp [needs]
      · obtain ⟨q', -, rfl⟩ := mem_mappings.mp hs
        simp [needs]

theorem Bare.closeAll (hbare : h.Bare) (qs : List SharedQueue) :
    (qs.foldl Holdings.sharedClose h).Bare ∧
      (qs.foldl Holdings.sharedClose h).linked = h.linked ∧
      ∀ q, q ∈ qs ∨ h.mapped q = false → (qs.foldl Holdings.sharedClose h).mapped q = false := by
  induction qs generalizing h with
  | nil => exact ⟨hbare, rfl, fun q hq => hq.resolve_left (by simp)⟩
  | cons q qs ih =>
    obtain ⟨hfirst, hlinked, hmapped⟩ := hbare.close laws q
    obtain ⟨hrest, hlinked', hunmapped⟩ := ih hfirst
    refine ⟨hrest, hlinked'.trans hlinked, fun q' hq' => hunmapped q' ?_⟩
    rw [hmapped]
    by_cases hqq : q' = q
    · exact .inr (if_pos hqq)
    · rw [if_neg hqq]
      exact hq'.imp_left fun hmem => (List.mem_cons.mp hmem).resolve_left hqq

theorem Bare.mainRelease (hbare : h.Bare) (m : MainSetup) :
    (h.mainRelease m).Gone ∧ LeavesOthers m h (h.mainRelease m) ∧
      ∀ q, Unlinked m (h.mainRelease m) q := by
  obtain ⟨hclosed, hlinked, hunmapped⟩ := hbare.closeAll laws queues
  rw [← mainCloseSharedQueues] at hclosed hlinked hunmapped
  obtain ⟨hkept, hothers, hnames⟩ := mainUnlinkSharedQueues_spec laws h.mainCloseSharedQueues m
  have hunlinked := hclosed.unlink laws m
  unfold Holdings.mainRelease
  generalize h.mainCloseSharedQueues.mainUnlinkSharedQueues m = h₁ at hkept hothers hnames hunlinked
  refine ⟨hunlinked.releaseRuntime fun q => ?_, fun n hn => ?_, hnames⟩
  · rw [hkept]
    exact hunmapped q (.inl (mem_queues q))
  · exact (hothers n hn).trans (congrFun hlinked n)

/-- Main's creations, when main goes on and when it does not. -/
theorem Gone.mainCreate (probeLaw : O.ProbeLaw) (hgone : h.Gone) {L : Limits}
    {answers : CreateAnswers} {created : Bool}
    (hcreate : h.mainCreate L m answers = (created, h')) :
    LeavesOthers m h h' ∧
      (created = true → h'.Keeps (ofEngines {0}) ∧ h'.probe = some 0 ∧ ∀ q, h'.mapped q = true) ∧
      (created = false → h'.Gone ∧ (h' = h ∨ ∀ q, Unlinked m h' q)) := by
  unfold Holdings.mainCreate at hcreate
  split at hcreate
  · cases hcreate
    exact ⟨fun _ _ => rfl, by simp, fun _ => ⟨hgone, .inl rfl⟩⟩
  · have hmappings : h.mappings = ∅ := by
      ext r
      simp [hgone.mapped]
    have hacquire := hgone.keeps.acquire (r := .runtime) (by simp) (by simp) (by simp [needs])
    have hruntime : (h.acquire .runtime).Bare :=
      ⟨by rw [show (h.acquire .runtime).mappings = h.mappings from rfl, hmappings]; exact hacquire,
        hgone.probe⟩
    obtain ⟨hkept, hothers, -⟩ := mainUnlinkSharedQueues_spec laws (h.acquire .runtime) m
    have hunlinked := hruntime.unlink laws m
    dsimp only at hcreate
    rcases hqueues : ((h.acquire .runtime).mainUnlinkSharedQueues m).createSharedQueues m
      queues with ⟨all, h₁⟩
    rw [hqueues] at hcreate
    obtain ⟨hbare₁, hothers₁, hmapped₁⟩ := hunlinked.createAll laws
      (fun q _ => (congrFun hkept q).trans (hgone.mapped q)) (by decide) hqueues
    have hleaves : LeavesOthers m h h₁ := fun n hn => (hothers₁ n hn).trans (hothers n hn)
    cases all with
    | false =>
      cases hcreate
      obtain ⟨hgone', hothers', hnames⟩ := hbare₁.mainRelease laws m
      exact ⟨fun n hn => (hothers' n hn).trans (hleaves n hn), by simp,
        fun _ => ⟨hgone', .inr hnames⟩⟩
    | true =>
      have hmapped : ∀ q, h₁.mapped q = true := fun q => (hmapped₁ rfl q).mpr (.inr (mem_queues q))
      have hall : insert Resource.runtime h₁.mappings = shared := by
        ext r
        simp only [Finset.mem_insert, mem_mappings, hmapped, true_and, shared,
          Finset.mem_singleton]
        cases r with
        | mapping q => cases q <;> simp
        | _ => simp
      have hshared : h₁.Keeps shared := hall ▸ hbare₁.keeps
      rcases hengine : h₁.createEngine L (m.engineConfig L) answers.engine 0 with ⟨engine, h₂⟩
      dsimp only at hcreate
      rw [hengine] at hcreate
      obtain ⟨hsome, hnone, hmemory⟩ := hshared.createEngine probeLaw (fun _ hr => hr)
        (fun r hr => by simp [engine_of_mem_shared hr]) (by simp [hbare₁.probe]) L _ _ hengine
      have hmapped₂ : h₂.mapped = h₁.mapped := congrArg O.mapped hmemory
      have hleaves₂ : LeavesOthers m h h₂ := fun n hn => by
        rw [show h₂.linked = h₁.linked from congrArg O.linked hmemory]
        exact hleaves n hn
      cases engine with
      | none =>
        cases hcreate
        obtain ⟨hkeeps, hset⟩ := hnone rfl
        have hbare₂ : h₂.Bare := by
          refine ⟨?_, hset.elim (fun heq => heq.trans hbare₁.probe) id⟩
          have hsame : h₂.mappings = h₁.mappings := by rw [mappings, mappings, hmapped₂]
          rw [hsame, hall]
          exact hkeeps
        obtain ⟨hgone', hothers', hnames⟩ := hbare₂.mainRelease laws m
        exact ⟨fun n hn => (hothers' n hn).trans (hleaves₂ n hn), by simp,
          fun _ => ⟨hgone', .inr hnames⟩⟩
      | some engine =>
        cases hcreate
        obtain ⟨hkeeps, hset⟩ := hsome rfl
        have honly : ofEngines {0} = shared ∪ parts 0 := by simp [ofEngines]
        exact ⟨hleaves₂,
          fun _ => ⟨honly ▸ hkeeps, hset, fun q => by rw [hmapped₂]; exact hmapped q⟩, by simp⟩

end Laws

end Holdings

/-! ### The process -/

namespace System

variable {s s' : System D}

/-- Some thread of the engine or some call of it may still use what the engine holds. -/
def InUse (s : System D) : Prop :=
  (∃ t ∈ s.rtThreads, t.state ≠ .returned) ∨ (∃ t ∈ s.waitThreads, ¬t.state.passive) ∨
    s.controller ≠ .idle ∧ s.controller ≠ .destroyed

end System

/-- How far main is with what it holds. -/
inductive Stage
  | early
  | running
  /-- The engine is destroyed. -/
  | freed
  | exited
deriving DecidableEq

def Host.stage (h : Host D) : Stage :=
  match h.main with
  | .blockProcessSignals | .installSignalHandlers | .create => .early
  | .exited _ => .exited
  | _ => if h.system.controller = .destroyed then .freed else .running

/-- Main is where it creates what it needs, or where it releases it. -/
def MainState.handles : MainState → Bool
  | .create | .destroy _ => true
  | _ => false

namespace Host

variable {h h' : Host D}

/-- Main's own steps but for those at which it creates or releases what it needs. -/
theorem mainStep_stage (hs : h.Orderly) (hhandles : h.main.handles = false) {outcome : Bool}
    (hstep : h.mainStep outcome = some h') :
    h'.stage = h.stage ∨ h.stage = .early ∧ h'.stage = .exited := by
  obtain ⟨-, -, hplaced⟩ := hs
  unfold Placed at hplaced
  unfold Host.mainStep at hstep
  cases hmain : h.main with
  | create | destroy => simp [hmain, MainState.handles] at hhandles
  | blockProcessSignals | installSignalHandlers =>
    rw [hmain] at hstep
    dsimp only at hstep
    split at hstep <;> cases hstep <;> simp [stage, hmain, goto]
  | start =>
    rw [hmain] at hstep
    dsimp only at hstep
    split at hstep
    · next hc _ =>
      cases hstep
      simp [stage, hmain, goto, hc]
    · next hc _ =>
      obtain ⟨-, rfl⟩ := call_eq hstep
      simp [stage, hmain, hc, System.goto, System.callState]
    · cases hstep
  | unblockStopSignals | test =>
    rw [hmain] at hplaced hstep
    dsimp only at hstep
    split at hstep
    all_goals
      first
      | obtain ⟨-, rfl⟩ := call_eq hstep
        simp [stage, hmain, hplaced.1, System.goto, System.callState]
      | cases hstep
        exact .inl (by cases h; cases hmain; rfl)
  | unblockFailed =>
    rw [hmain] at hstep
    dsimp only at hstep
    split at hstep <;> cases hstep
    exact .inl (by cases h; cases hmain; rfl)
  | pause =>
    rw [hmain] at hstep
    cases hstep
    exact .inl (by cases h; cases hmain; rfl)
  | suspended | exited =>
    rw [hmain] at hstep
    cases hstep
  | requestStop =>
    rw [hmain] at hstep
    obtain ⟨hidle, rfl⟩ := call_eq hstep
    simp [stage, hmain, hidle, System.goto, System.callState]
  | join =>
    rw [hmain] at hstep
    dsimp only at hstep
    split at hstep <;> cases hstep
    exact .inl (by cases h; cases hmain; rfl)
  | restoreMask joined =>
    rw [hmain] at hplaced hstep
    obtain ⟨-, rfl⟩ := call_eq hstep
    simp [stage, hmain, hplaced.1, System.goto, System.callState]

theorem signalHandler_stage (h : Host D) :
    h.signalHandler.stage = h.stage ∨ h.stage = .early ∧ h.signalHandler.stage = .exited := by
  unfold signalHandler
  split
  · next hmain => exact .inr (by simp [stage, hmain, goto])
  · next hmain => exact .inr (by simp [stage, hmain, goto])
  · next hmain => exact .inl (by cases h; cases hmain; rfl)
  · exact .inl rfl

/-- Before main has called the engine and once it has returned no call is made on it. -/
theorem not_destroyFree (hs : h.Orderly) (hstage : h.stage = .early ∨ h.stage = .exited) :
    h.system.controller ≠ .destroyFree := by
  obtain ⟨-, -, hplaced⟩ := hs
  intro hc
  unfold Placed at hplaced
  cases hmain : h.main with
  | blockProcessSignals | installSignalHandlers | create =>
    rw [hmain] at hplaced
    rw [hplaced.controller] at hc
    cases hc
  | exited success =>
    rw [hmain] at hplaced
    rcases hplaced.1 with hdestroyed | huntouched
    · rw [hdestroyed] at hc
      cases hc
    · rw [huntouched.controller] at hc
      cases hc
  | _ => simp [stage, hmain, hc] at hstage

/-- A step other than main's creations and releases keeps the stage, ends the process before main
has created anything, or is the end of `rtsyn_engine_destroy`. -/
theorem step_stage (hs : h.Orderly) {a : HostStep D.limits} (hstep : h.step a = some h')
    (hhandles : ∀ outcome, a = .main outcome → h.main.handles = false) :
    (∃ outcome, a = .engine (.controller outcome)) ∧ h.system.controller = .destroyFree ∧
        h.stage = .running ∧ h'.stage = .freed ∨
      (¬∃ outcome, a = .engine (.controller outcome) ∧ h.system.controller = .destroyFree) ∧
        (h'.stage = h.stage ∨ h.stage = .early ∧ h'.stage = .exited) := by
  cases a with
  | main outcome =>
    exact .inr ⟨by simp, mainStep_stage hs (hhandles outcome rfl) hstep⟩
  | raise signal =>
    cases hstep
    exact .inr ⟨by simp, .inl rfl⟩
  | deliver signal =>
    dsimp only [Host.step] at hstep
    split at hstep <;> cases hstep
    exact .inr ⟨by simp, signalHandler_stage (h.setPending signal false)⟩
  | engine a =>
    dsimp only [Host.step] at hstep
    split at hstep
    · cases hstep
    · obtain ⟨system, hthread, rfl⟩ := Option.map_eq_some_iff.mp hstep
      have hdestroyed := System.step_destroyed hthread
      by_cases hends : h.system.controller = .destroyFree ∧ ∃ outcome, a = .controller outcome
      · obtain ⟨hfree, outcome, rfl⟩ := hends
        have hnot := not_destroyFree hs
        have hafter : system.controller = .destroyed := hdestroyed.mpr (.inr ⟨hfree, outcome, rfl⟩)
        refine .inl ⟨⟨outcome, rfl⟩, hfree, ?_⟩
        cases hmain : h.main with
        | blockProcessSignals | installSignalHandlers | create | exited =>
          exact absurd hfree (hnot (by simp [stage, hmain]))
        | _ => simp [stage, hmain, hfree, hafter]
      · refine .inr ⟨?_, .inl ?_⟩
        · rintro ⟨outcome, heq, hfree⟩
          cases heq
          exact hends ⟨hfree, outcome, rfl⟩
        · have hsame : system.controller = .destroyed ↔ h.system.controller = .destroyed := by
            rw [hdestroyed]
            exact or_iff_left hends
          cases hmain : h.main <;> simp [stage, hmain, hsame]

end Host

namespace Process

variable {m : MainSetup} {memory : O.Memory} {p p' : Process D O}

/-- The engines `alive` with the runtime and all queues. -/
structure Furnished (h : Holdings O) (alive : Finset Nat) (probe : Option Nat) : Prop where
  keeps : h.Keeps (ofEngines alive)
  probe : h.probe = probe
  mapped : ∀ q, h.mapped q = true

/-- What the process holds at each stage of main. -/
structure Held (m : MainSetup) (memory : O.Memory) (p : Process D O) : Prop where
  orderly : p.host.Orderly
  early : p.host.stage = .early → p.holdings.Gone ∧ p.holdings.ledger = []
  running : p.host.stage = .running → Furnished p.holdings {0} (some 0)
  freed : p.host.stage = .freed → Furnished p.holdings ∅ none
  exited : p.host.stage = .exited →
    p.holdings.Gone ∧ (p.holdings.ledger = [] ∨ ∀ q, p.holdings.Unlinked m q)
  others : ∀ n, (∀ q, n ≠ m.name q) → p.holdings.linked n = O.linked memory n

/-- Where main keeps its stage, or ends before it has created anything, its holdings stay. -/
theorem Held.keep (hheld : Held m memory p) {host : Host D} (horderly : host.Orderly)
    (hstage : host.stage = p.host.stage ∨ p.host.stage = .early ∧ host.stage = .exited) :
    Held m memory ⟨host, p.holdings⟩ := by
  rcases hstage with hsame | ⟨hearly, hover⟩
  · exact ⟨horderly, fun hs => hheld.early (hsame.symm.trans hs),
      fun hs => hheld.running (hsame.symm.trans hs), fun hs => hheld.freed (hsame.symm.trans hs),
      fun hs => hheld.exited (hsame.symm.trans hs), hheld.others⟩
  · obtain ⟨hgone, hledger⟩ := hheld.early hearly
    exact ⟨horderly, by simp [hover], by simp [hover], by simp [hover],
      fun _ => ⟨hgone, .inl hledger⟩, hheld.others⟩

theorem Furnished.bare {h : Holdings O} (hfurnished : Furnished h ∅ none) : h.Bare := by
  refine ⟨?_, hfurnished.probe⟩
  have hall : ofEngines ∅ = insert .runtime h.mappings := by
    ext r
    simp only [mem_ofEngines, Finset.notMem_empty, false_and, exists_false, or_false, shared,
      Finset.mem_insert, Finset.mem_singleton, Holdings.mem_mappings, hfurnished.mapped, true_and]
    cases r with
    | mapping q => cases q <;> simp
    | _ => simp
  exact hall ▸ hfurnished.keeps

theorem Furnished.destroyEngine (probeLaw : O.ProbeLaw) {h : Holdings O}
    (hfurnished : Furnished h {0} (some 0)) :
    Furnished (h.destroyEngine 0) ∅ none ∧ (h.destroyEngine 0).linked = h.linked := by
  obtain ⟨hkeeps, hprobe, hmemory⟩ := hfurnished.keeps.destroyEngine probeLaw (e := 0)
    (show ∀ r, r ∈ ofEngines {0} ↔ r ∈ ofEngines ∅ ∨ r ∈ parts 0 by simp)
    (ofEngines_foreign (by simp))
  have hmapped : (h.destroyEngine 0).mapped = h.mapped := congrArg O.mapped hmemory
  exact ⟨⟨hkeeps, hprobe, fun q => by rw [hmapped]; exact hfurnished.mapped q⟩,
    congrArg O.linked hmemory⟩

theorem Held.step (probeLaw : O.ProbeLaw) (laws : O.SharedLaws) (hheld : Held m memory p)
    {a : HostStep D.limits × CreateAnswers} (hstep : p.step m a = some p') : Held m memory p' := by
  obtain ⟨a, answers⟩ := a
  unfold Process.step at hstep
  split at hstep
  · next outcome hmain ha =>
    -- main creates what it needs
    have hstage : p.host.stage = .early := by simp [Host.stage, hmain]
    obtain ⟨hgone, hledger⟩ := hheld.early hstage
    rcases hcreate : p.holdings.mainCreate D.limits m answers with ⟨created, holdings⟩
    rw [hcreate] at hstep
    obtain ⟨host, hhost, rfl⟩ := Option.map_eq_some_iff.mp hstep
    obtain ⟨hothers, hgoes, hfails⟩ := hgone.mainCreate laws probeLaw hcreate
    have horderly := hheld.orderly.step hhost
    have hlinked : ∀ n, (∀ q, n ≠ m.name q) → holdings.linked n = O.linked memory n :=
      fun n hn => (hothers n hn).trans (hheld.others n hn)
    dsimp only [Host.step, Host.mainStep] at hhost
    rw [hmain] at hhost
    cases created with
    | true =>
      obtain ⟨hidle, rfl⟩ := Host.call_eq hhost
      obtain ⟨hkeeps, hprobe, hmapped⟩ := hgoes rfl
      have hrunning : ({ p.host with
          system := p.host.system.goto (System.callState .start), main := .start } :
          Host D).stage = .running := by
        simp [Host.stage, System.goto, System.callState]
      exact ⟨horderly, by simp [hrunning], fun _ => ⟨hkeeps, hprobe, hmapped⟩, by simp [hrunning],
        by simp [hrunning], hlinked⟩
    | false =>
      cases hhost
      obtain ⟨hgone', hnames⟩ := hfails rfl
      have hover : (p.host.goto (.exited false)).stage = .exited := rfl
      refine ⟨horderly, by simp [hover], by simp [hover], by simp [hover], fun _ => ⟨hgone', ?_⟩,
        hlinked⟩
      exact hnames.imp_left fun hsame => by rw [hsame]; exact hledger
  · next joined outcome hmain ha =>
    -- main releases what it has created
    obtain ⟨host, hhost, rfl⟩ := Option.map_eq_some_iff.mp hstep
    have horderly := hheld.orderly.step hhost
    dsimp only [Host.step, Host.mainStep] at hhost
    rw [hmain] at hhost
    dsimp only at hhost
    split at hhost <;> cases hhost
    next hdestroyed =>
    have hstage : p.host.stage = .freed := by simp [Host.stage, hmain, hdestroyed]
    obtain ⟨hgone, hothers, hnames⟩ := (hheld.freed hstage).bare.mainRelease laws m
    have hover : (p.host.goto (.exited joined)).stage = .exited := rfl
    exact ⟨horderly, by simp [hover], by simp [hover], by simp [hover],
      fun _ => ⟨hgone, .inr hnames⟩, fun n hn => (hothers n hn).trans (hheld.others n hn)⟩
  · next hcreate hdestroy =>
    obtain ⟨host, hhost, rfl⟩ := Option.map_eq_some_iff.mp hstep
    have horderly := hheld.orderly.step hhost
    have hhandles : ∀ outcome, a = .main outcome → p.host.main.handles = false := by
      rintro outcome rfl
      cases hmain : p.host.main with
      | create => exact absurd rfl (hcreate outcome hmain)
      | destroy joined => exact absurd rfl (hdestroy joined outcome hmain)
      | _ => rfl
    rcases Host.step_stage hheld.orderly hhost hhandles with
      ⟨⟨outcome, rfl⟩, hfree, hrunning, hfreed⟩ | ⟨hnot, hstage⟩
    · have hdestroys : p.destroysEngine (.engine (.controller outcome)) = true := by
        simp [destroysEngine, hfree]
      obtain ⟨hfurnished, hlinked⟩ := (hheld.running hrunning).destroyEngine probeLaw
      rw [if_pos hdestroys]
      exact ⟨horderly, by simp [hfreed], by simp [hfreed], fun _ => hfurnished, by simp [hfreed],
        fun n hn => by rw [hlinked]; exact hheld.others n hn⟩
    · have hdestroys : ¬p.destroysEngine a = true := by
        intro hdestroys
        unfold destroysEngine at hdestroys
        split at hdestroys
        · exact hnot ⟨_, rfl, of_decide_eq_true hdestroys⟩
        · cases hdestroys
      rw [if_neg hdestroys]
      exact hheld.keep horderly hstage

theorem held_of_initial (h : p.Initial memory) : Held m memory p := by
  have hstage : p.host.stage = .early := by simp [Host.stage, h.host.1]
  refine ⟨Host.orderly_of_reachable (.start h.host), fun _ => ?_, by simp [hstage],
    by simp [hstage], by simp [hstage], fun n _ => congrArg (O.linked · n) h.memory⟩
  have hkeeps : p.holdings.Keeps ∅ := by
    refine ⟨?_, by simp⟩
    rw [h.ledger, h.probe]
    exact .nil
  exact ⟨⟨hkeeps, h.probe, h.mapped⟩, h.ledger⟩

/-- While the engine may be used main has not gone on past its destruction. -/
theorem Held.running_of_inUse (hheld : Held m memory p) (huse : p.host.system.InUse) :
    p.host.stage = .running := by
  have hquiet : (p.host.system.controller = .destroyed ∨ p.host.system.Untouched) → False := by
    rintro (hdestroyed | huntouched)
    · have hdetached := hheld.orderly.covered.detached
        (hheld.orderly.covered.coverage.quiet (by rw [hdestroyed]; rfl))
      rcases huse with ⟨t, ht, hlive⟩ | ⟨t, ht, hlive⟩ | ⟨-, hc⟩
      · exact hlive (hdetached.rt t ht)
      · exact hlive (hdetached.wait t ht)
      · exact hc hdestroyed
    · rcases huse with ⟨t, ht, -⟩ | ⟨t, ht, -⟩ | ⟨hc, -⟩
      · simp [huntouched.rt] at ht
      · simp [huntouched.wait] at ht
      · exact hc huntouched.controller
  have hplaced := hheld.orderly.placed
  unfold Host.Placed at hplaced
  cases hmain : p.host.main with
  | blockProcessSignals | installSignalHandlers | create =>
    rw [hmain] at hplaced
    exact absurd (.inr hplaced) hquiet
  | exited success =>
    rw [hmain] at hplaced
    exact absurd hplaced.1 hquiet
  | _ =>
    have hc : p.host.system.controller ≠ .destroyed := fun hc => hquiet (.inl hc)
    simp [Host.stage, hmain, hc]

end Process

/-- In every run of the process, wherever main's creations fail: the ledger is sound; as long as a
thread or a call of the engine may use them, the runtime, the queues, all parts of the engine and
its probe callback are held; and when main returns nothing is held, each thing has been released as
often as acquired, and each of main's names whose last `unlink` succeeded is gone from the system,
unless main has created nothing.  No other name is ever touched. -/
theorem process_holds (probeLaw : O.ProbeLaw) (laws : O.SharedLaws) {m : MainSetup}
    {memory : O.Memory} {p : Process D O}
    (h : Transition.Reachable (Process.Initial memory) (Process.step m) p) :
    (∃ held, Sound needs ∅ p.holdings.ledger held ∧
      (p.host.system.InUse → held = ofEngines {0} ∪ probes (some 0)) ∧
      ∀ success, p.host.main = .exited success → held = ∅) ∧
    (∀ success, p.host.main = .exited success →
      (∀ r, p.holdings.ledger.count (.acquire r) = p.holdings.ledger.count (.release r)) ∧
      (p.holdings.ledger = [] ∨
        ∀ q, p.holdings.unlinked q = true → O.linked p.holdings.memory (m.name q) = false)) ∧
    ∀ n, (∀ q, n ≠ m.name q) → O.linked p.holdings.memory n = O.linked memory n := by
  have hheld : Process.Held m memory p :=
    h.invariant (fun _ hinitial => Process.held_of_initial hinitial)
      fun _ _ _ hheld hstep => hheld.step probeLaw laws hstep
  have hover : ∀ success, p.host.main = .exited success → p.host.stage = .exited := by
    intro success hmain
    simp [Host.stage, hmain]
  have hempty : p.holdings.Gone → Sound needs ∅ p.holdings.ledger ∅ := by
    intro hgone
    have hsound := hgone.keeps.sound
    rw [hgone.probe] at hsound
    exact hsound
  refine ⟨?_, fun success hmain => ?_, hheld.others⟩
  · cases hstage : p.host.stage with
    | early =>
      refine ⟨∅, hempty (hheld.early hstage).1, fun huse => ?_, fun _ _ => rfl⟩
      simp [hheld.running_of_inUse huse] at hstage
    | running =>
      have hrunning := hheld.running hstage
      refine ⟨_, hrunning.keeps.sound, fun _ => by rw [hrunning.probe], fun success hmain => ?_⟩
      simp [hover success hmain] at hstage
    | freed =>
      refine ⟨_, (hheld.freed hstage).keeps.sound, fun huse => ?_, fun success hmain => ?_⟩
      · simp [hheld.running_of_inUse huse] at hstage
      · simp [hover success hmain] at hstage
    | exited =>
      refine ⟨∅, hempty (hheld.exited hstage).1, fun huse => ?_, fun _ _ => rfl⟩
      simp [hheld.running_of_inUse huse] at hstage
  · obtain ⟨hgone, hnames⟩ := hheld.exited (hover success hmain)
    refine ⟨fun r => ?_, hnames⟩
    have hcount := (hempty hgone).count r
    simpa using hcount

namespace Reference

def setup : MainSetup where
  env _ := none
  defaultName
    | .command => ⟨[99], by decide⟩
    | .result => ⟨[114], by decide⟩
    | .telemetry => ⟨[116], by decide⟩
    | .values => ⟨[118], by decide⟩
  threads := ⟨false, ⟨0, 0⟩, ⟨0, 0⟩⟩

def foreignName : CString := ⟨[120], by decide⟩

/-- Nothing is mapped, and a name is in the system that is not main's. -/
def foreignMemory : hostDeps.Memory := (⟨fun _ => false, fun n => n = foreignName⟩ : Memory)

def entry : Process deps hostDeps := ⟨host, ⟨none, foreignMemory, fun _ => false, []⟩⟩

/-- The process with main suspended and both threads of the engine launched. -/
def waitingProcess : Process deps hostDeps :=
  (Transition.run (Process.step setup) entry
    ((untilPause ++ [HostStep.main true]).map fun a => (a, ⟨true, fun _ => true⟩))).get
    (by decide)

/-- The process whose engine gets no wait thread. -/
def failedProcess : Process deps hostDeps :=
  (Transition.run (Process.step setup) entry
    (List.replicate 3 (.main true, ⟨true, fun p => p ≠ .waitThread⟩))).get (by decide)

end Reference

theorem process_holds_reference :
    Reference.waitingProcess.host.main = .suspended ∧
      Sound needs ∅ Reference.waitingProcess.holdings.ledger
        (ofEngines {0} ∪ probes (some 0)) ∧
      Reference.failedProcess.host.main = .exited false ∧
      Entry.acquire (.part 0 .rtThread) ∈ Reference.failedProcess.holdings.ledger ∧
      (∀ r, Reference.failedProcess.holdings.ledger.count (.acquire r) =
        Reference.failedProcess.holdings.ledger.count (.release r)) ∧
      (∀ q, Reference.failedProcess.holdings.linked (Reference.setup.name q) = false) ∧
      Reference.failedProcess.holdings.linked Reference.foreignName = true := by
  have hentry : Transition.Reachable (Process.Initial Reference.foreignMemory)
      (Process.step Reference.setup) Reference.entry :=
    .start ⟨⟨rfl, rfl, rfl, rfl, rfl, rfl, rfl⟩, rfl, fun _ => rfl, rfl, rfl⟩
  have hwaiting : Transition.Reachable (Process.Initial Reference.foreignMemory)
      (Process.step Reference.setup) Reference.waitingProcess :=
    hentry.run (Option.some_get _).symm
  have hfailed : Transition.Reachable (Process.Initial Reference.foreignMemory)
      (Process.step Reference.setup) Reference.failedProcess :=
    hentry.run (Option.some_get _).symm
  have hthreads : Reference.waitingProcess.host.system.rtThreads = [⟨.enter, 0⟩] := rfl
  have huse : Reference.waitingProcess.host.system.InUse :=
    .inl ⟨⟨.enter, 0⟩, by simp [hthreads], by decide⟩
  obtain ⟨⟨held, hsound, hall, -⟩, -⟩ :=
    process_holds Reference.probeLaw Reference.sharedLaws hwaiting
  obtain ⟨-, hexit, hothers⟩ := process_holds Reference.probeLaw Reference.sharedLaws hfailed
  obtain ⟨hcounts, hnames⟩ := hexit false rfl
  have hthread : Entry.acquire (.part 0 .rtThread) ∈ Reference.failedProcess.holdings.ledger := by
    decide
  have hforeign : ∀ q, Reference.foreignName ≠ Reference.setup.name q := by
    intro q
    cases q <;> decide
  refine ⟨rfl, hall huse ▸ hsound, rfl, hthread, hcounts, fun q => ?_,
    (hothers Reference.foreignName hforeign).trans rfl⟩
  have hunlinked : Reference.failedProcess.holdings.unlinked q = true := by
    cases q <;> rfl
  exact hnames.resolve_left (List.ne_nil_of_mem hthread) q hunlinked

end RtsynEngine
