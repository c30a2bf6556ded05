import Mathlib.Data.Finset.Union
import RtsynEngine.Reference
import RtsynEngine.Resources

/-! What engines hold: over all calls of `rtsyn_engine_create`, wherever it fails, and
`rtsyn_engine_destroy` the ledger of acquisitions and releases is sound. -/

namespace RtsynEngine

open Ledger Transition

namespace Resource

/-- The parts of an engine but the probe callback. -/
def parts (e : Nat) : Finset Resource :=
  {.part e .memory, .part e .loadedNodes, .part e .measurementTool, .part e .rtThread,
    .part e .waitThread}

/-- The probe callback that is set. -/
def probes : Option Nat → Finset Resource
  | some e => {.part e .probe}
  | none => ∅

@[simp] theorem mem_probes {probe : Option Nat} {r : Resource} :
    r ∈ probes probe ↔ ∃ e, probe = some e ∧ r = .part e .probe := by
  cases probe <;> simp [probes]

/-- The engine that a resource is a part of. -/
def engine : Resource → Option Nat
  | .part e _ => some e
  | _ => none

/-- Only an engine's own parts need a part of it. -/
theorem part_not_mem_needs {e : Nat} {p : EnginePart} {r : Resource} (h : r.engine ≠ some e) :
    .part e p ∉ r.needs := by
  cases r with
  | part e' q =>
    have hne : e ≠ e' := by
      rintro rfl
      exact h rfl
    cases q <;> simp [needs, shared, hne]
  | _ => simp [needs]

theorem probe_not_mem_needs (e : Nat) (r : Resource) : .part e .probe ∉ r.needs := by
  cases r with
  | part e' q => cases q <;> simp [needs, shared]
  | _ => simp [needs]

end Resource

open Resource

namespace Holdings

variable {O : HostDeps} {h : Holdings O} {held : Finset Resource} {e : Nat}

/-- The process holds `held`, in which no probe callback is, and the one that is set. -/
structure Keeps (h : Holdings O) (held : Finset Resource) : Prop where
  sound : Sound needs ∅ h.ledger (held ∪ probes h.probe)
  noProbe : ∀ e, .part e .probe ∉ held

theorem Keeps.acquire (hkeeps : h.Keeps held) {r : Resource} (hnew : r ∉ held)
    (hprobe : ∀ e, r ≠ .part e .probe) (hneeds : r.needs ⊆ held) :
    (h.acquire r).Keeps (insert r held) := by
  refine ⟨?_, fun e hmem => ?_⟩
  · have hnew' : r ∉ held ∪ probes h.probe := by
      simp only [Finset.mem_union, mem_probes, not_or, not_exists, not_and]
      exact ⟨hnew, fun e _ => hprobe e⟩
    have hacquire := hkeeps.sound.append
      (.acquire hnew' (hneeds.trans Finset.subset_union_left))
    rw [← Finset.insert_union] at hacquire
    exact hacquire
  · rcases Finset.mem_insert.mp hmem with heq | hmem
    · exact hprobe e heq.symm
    · exact hkeeps.noProbe e hmem

theorem Keeps.release (hkeeps : h.Keeps held) {r : Resource} (hmem : r ∈ held)
    (hfree : ∀ s ∈ held, r ∉ s.needs) (hset : ∀ e, h.probe = some e → r ∉ (part e .probe).needs) :
    (h.release r).Keeps (held.erase r) := by
  have hne : ∀ e, r ≠ .part e .probe := by
    rintro e rfl
    exact hkeeps.noProbe e hmem
  refine ⟨?_, fun e hmem' => hkeeps.noProbe e (Finset.mem_of_mem_erase hmem')⟩
  have hrelease := hkeeps.sound.append
    (.release (Finset.mem_union_left _ hmem) fun s hs => ?_)
  · have heq : (held ∪ probes h.probe).erase r = held.erase r ∪ probes h.probe := by
      rw [Finset.erase_union_distrib, Finset.erase_eq_of_notMem (a := r) (s := probes h.probe)]
      simp only [mem_probes, not_exists, not_and]
      exact fun e _ => hne e
    rw [heq] at hrelease
    exact hrelease
  · rcases Finset.mem_union.mp hs with hs | hs
    · exact hfree s hs
    · obtain ⟨e, hprobe, rfl⟩ := mem_probes.mp hs
      exact hset e hprobe

theorem releaseParts_eq (h : Holdings O) (e : Nat) (parts : List EnginePart) :
    h.releaseParts e parts =
      { h with ledger := h.ledger ++ (parts.map (Resource.part e)).map Entry.release } := by
  induction parts generalizing h with
  | nil => simp [releaseParts]
  | cons p parts ih =>
    have htail := ih (h.release (.part e p))
    unfold releaseParts at htail ⊢
    rw [List.foldl_cons, htail]
    simp [Holdings.release]

/-- The parts of an engine whose probe callback is not set are released in an order in which nothing
comes before what needs it; what is not the engine's stays. -/
theorem Keeps.releaseParts {held' : Finset Resource} (hkeeps : h.Keeps held')
    (hprobe : h.probe ≠ some e) {ps : List EnginePart}
    (hheld : ∀ r, r ∈ held' ↔ r ∈ held ∨ ∃ p ∈ ps, r = .part e p)
    (hforeign : ∀ r ∈ held, r.engine ≠ some e) (hnodup : ps.Nodup)
    (horder : ps.Pairwise fun p q => .part e p ∉ (part e q).needs)
    (hself : ∀ p ∈ ps, .part e p ∉ (part e p).needs) :
    (h.releaseParts e ps).Keeps held := by
  rw [releaseParts_eq]
  refine ⟨?_, fun e' hmem => hkeeps.noProbe e' ((hheld _).mpr (.inl hmem))⟩
  have hinjective : Function.Injective (Resource.part e) := fun p q heq => by cases heq; rfl
  have hset : ∀ r ∈ probes h.probe, r.engine ≠ some e := by
    intro r hr hengine
    obtain ⟨e', hset, rfl⟩ := mem_probes.mp hr
    exact hprobe (hset.trans hengine)
  have hmem : ∀ r, r ∈ ps.map (part e) ↔ ∃ p ∈ ps, r = .part e p := by
    simp [eq_comm]
  have hreleases := hkeeps.sound.append (.releases (ps.map (part e)) ?_
    (hnodup.map hinjective) (List.pairwise_map.mpr horder) ?_ ?_)
  · have heq : (held' ∪ probes h.probe) \ (ps.map (part e)).toFinset = held ∪ probes h.probe := by
      ext r
      rw [Finset.mem_sdiff, Finset.mem_union, Finset.mem_union, List.mem_toFinset, hheld, hmem]
      constructor
      · rintro ⟨(hr | hr) | hr, hnot⟩
        · exact .inl hr
        · exact absurd hr hnot
        · exact .inr hr
      · intro hr
        have hne : r.engine ≠ some e := hr.elim (hforeign r) (hset r)
        refine ⟨hr.imp_left .inl, ?_⟩
        rintro ⟨p, -, rfl⟩
        exact hne rfl
    rw [heq] at hreleases
    exact hreleases
  · intro r hr
    exact Finset.mem_union_left _ ((hheld r).mpr (.inr ((hmem r).mp hr)))
  · intro r hr
    obtain ⟨p, hp, rfl⟩ := (hmem r).mp hr
    exact hself p hp
  · intro s hs hnot r hr
    obtain ⟨p, -, rfl⟩ := (hmem r).mp hr
    rw [hmem] at hnot
    refine part_not_mem_needs ?_
    rcases Finset.mem_union.mp hs with hs | hs
    · exact hforeign s (((hheld s).mp hs).resolve_right hnot)
    · exact hset s hs

theorem setProbeCallback_probe (laws : O.ProbeLaw) (h : Holdings O) (engine : Option Nat) :
    (h.setProbeCallback engine).probe = engine := laws.replaces h.callback engine

theorem setProbeCallback_ledger (laws : O.ProbeLaw) (h : Holdings O) (engine : Option Nat) :
    (h.setProbeCallback engine).ledger =
      h.ledger ++ (h.probe.map fun e => Entry.release (.part e .probe)).toList ++
        (engine.map fun e => Entry.acquire (.part e .probe)).toList := by
  unfold setProbeCallback
  dsimp only
  rw [laws.replaces]

/-- The callback that was set goes, and the new one is set for an engine that is there. -/
theorem Keeps.setProbeCallback (laws : O.ProbeLaw) (hkeeps : h.Keeps held) (engine : Option Nat)
    (hneeds : ∀ e, engine = some e → (part e .probe).needs ⊆ held) :
    (h.setProbeCallback engine).Keeps held := by
  refine ⟨?_, hkeeps.noProbe⟩
  rw [setProbeCallback_probe laws, setProbeCallback_ledger laws]
  have hcleared : Sound needs ∅
      (h.ledger ++ (h.probe.map fun e => Entry.release (.part e .probe)).toList) held := by
    have hsound := hkeeps.sound
    cases hprobe : h.probe with
    | none =>
      rw [hprobe] at hsound
      simpa [probes] using hsound
    | some e =>
      rw [hprobe] at hsound
      have hrelease := hsound.append
        (.release (r := .part e .probe) (by simp) fun s _ => probe_not_mem_needs e s)
      have heq : (held ∪ probes (some e)).erase (.part e .probe) = held := by
        ext r
        simp only [Finset.mem_erase, Finset.mem_union, mem_probes]
        constructor
        · rintro ⟨hne, hr | ⟨e', heq, rfl⟩⟩
          · exact hr
          · cases heq
            exact absurd rfl hne
        · intro hr
          refine ⟨?_, .inl hr⟩
          rintro rfl
          exact hkeeps.noProbe e hr
      rw [heq] at hrelease
      exact hrelease
  cases engine with
  | none => simpa [probes] using hcleared
  | some e =>
    have hset := hcleared.append (.acquire (hkeeps.noProbe e) (hneeds e rfl))
    have heq : insert (.part e .probe) held = held ∪ probes (some e) := by
      ext r
      simp [or_comm]
    rw [heq] at hset
    exact hset

/-- The creation of an engine acquires all its parts and sets the probe callback, or it fails and
leaves what is held as it was; another engine's callback may be gone then. -/
theorem Keeps.createEngine (laws : O.ProbeLaw) (hkeeps : h.Keeps held) (hshared : shared ⊆ held)
    (hforeign : ∀ r ∈ held, r.engine ≠ some e) (hprobe : h.probe ≠ some e) (L : Limits)
    (config : Config) (answers : EnginePart → Bool) {result : Option (Engine L)} {h' : Holdings O}
    (hcreate : h.createEngine L config answers e = (result, h')) :
    (result.isSome = true → h'.Keeps (held ∪ parts e) ∧ h'.probe = some e) ∧
      (result = none → h'.Keeps held ∧ (h'.probe = h.probe ∨ h'.probe = none)) ∧
      h'.memory = h.memory := by
  have hnew : ∀ p, .part e p ∉ held := fun p hmem => hforeign _ hmem rfl
  have hmemory := hkeeps.acquire (hnew .memory) (by simp) hshared
  have hnodes := hmemory.acquire (r := .part e .loadedNodes) (by simp [hnew]) (by simp)
    (by simp [needs])
  have htool := hnodes.acquire (r := .part e .measurementTool) (by simp [hnew]) (by simp)
    (by simp [needs])
  have hcallback := htool.setProbeCallback laws (some e) (by
    rintro _ ⟨⟩
    have hruntime : Resource.runtime ∈ held := hshared (by simp [shared])
    simp [needs, Finset.insert_subset_iff, hruntime])
  have hrt := hcallback.acquire (r := .part e .rtThread) (by simp [hnew]) (by simp)
    (by simp [needs])
  have hwait := hrt.acquire (r := .part e .waitThread) (by simp [hnew]) (by simp)
    (by simp [needs])
  unfold Holdings.createEngine at hcreate
  split at hcreate
  · cases hcreate
    exact ⟨by simp, fun _ => ⟨hkeeps, .inl rfl⟩, rfl⟩
  · split at hcreate
    · cases hcreate
      exact ⟨by simp, fun _ => ⟨hkeeps, .inl rfl⟩, rfl⟩
    · split at hcreate
      · cases hcreate
        refine ⟨by simp, fun _ => ⟨?_, .inl rfl⟩, rfl⟩
        refine hmemory.releaseParts hprobe (fun r => ?_) hforeign (by simp) (by simp)
          (by simp [needs, shared])
        simp [or_comm]
      · split at hcreate
        · cases hcreate
          refine ⟨by simp, fun _ => ⟨?_, .inl rfl⟩, rfl⟩
          refine hnodes.releaseParts hprobe (fun r => ?_) hforeign (by simp)
            (by simp [needs, shared]) (by simp [needs, shared])
          simp
          tauto
        · split at hcreate
          · cases hcreate
            refine ⟨by simp, fun _ => ⟨?_, .inr (setProbeCallback_probe laws _ none)⟩, rfl⟩
            refine (hcallback.setProbeCallback laws none (by simp)).releaseParts
              (by simp [setProbeCallback_probe laws]) (fun r => ?_) hforeign (by simp)
              (by simp [needs, shared]) (by simp [needs, shared])
            simp
            tauto
          · split at hcreate
            · cases hcreate
              refine ⟨by simp, fun _ => ⟨?_, .inr (setProbeCallback_probe laws _ none)⟩, rfl⟩
              refine (hrt.setProbeCallback laws none (by simp)).releaseParts
                (by simp [setProbeCallback_probe laws]) (fun r => ?_) hforeign (by simp)
                (by simp [needs, shared]) (by simp [needs, shared])
              simp
              tauto
            · cases hcreate
              refine ⟨fun _ => ⟨?_, setProbeCallback_probe laws _ (some e)⟩, by simp, rfl⟩
              have heq : insert (part e .waitThread) (insert (part e .rtThread)
                  (insert (part e .measurementTool) (insert (part e .loadedNodes)
                    (insert (part e .memory) held)))) = held ∪ parts e := by
                ext r
                simp [parts]
                tauto
              exact heq ▸ hwait

/-- The destruction of an engine releases all its parts and leaves no probe callback. -/
theorem Keeps.destroyEngine (laws : O.ProbeLaw) {held' : Finset Resource}
    (hkeeps : h.Keeps held') (hheld : ∀ r, r ∈ held' ↔ r ∈ held ∨ r ∈ parts e)
    (hforeign : ∀ r ∈ held, r.engine ≠ some e) :
    (h.destroyEngine e).Keeps held ∧ (h.destroyEngine e).probe = none ∧
      (h.destroyEngine e).memory = h.memory := by
  refine ⟨?_, setProbeCallback_probe laws h none, rfl⟩
  refine (hkeeps.setProbeCallback laws none (by simp)).releaseParts
    (by simp [setProbeCallback_probe laws]) (fun r => ?_) hforeign (by simp)
    (by simp [needs, shared]) (by simp [needs, shared])
  rw [hheld]
  simp [parts]
  tauto

end Holdings

/-! ### Engines -/

/-- A call on one of the engines that share a runtime and its queues. -/
inductive EngineCall
  | create (e : Nat) (config : Config) (answers : EnginePart → Bool)
  | destroy (e : Nat)

/-- The engines that have been created and not destroyed, and the holdings, after a call.  A new
engine is allocated where no other is, and only an engine that is there is destroyed. -/
def callStep {O : HostDeps} (L : Limits) (s : Finset Nat × Holdings O) :
    EngineCall → Option (Finset Nat × Holdings O)
  | .create e config answers =>
    if e ∈ s.1 then none
    else
      let (engine, h) := s.2.createEngine L config answers e
      some (if engine.isSome then insert e s.1 else s.1, h)
  | .destroy e => if e ∈ s.1 then some (s.1.erase e, s.2.destroyEngine e) else none

/-- What the engines hold, and what they share. -/
def Resource.ofEngines (alive : Finset Nat) : Finset Resource := shared ∪ alive.biUnion parts

@[simp] theorem Resource.mem_ofEngines {alive : Finset Nat} {r : Resource} :
    r ∈ ofEngines alive ↔ r ∈ shared ∨ ∃ e ∈ alive, r ∈ parts e := by
  simp [ofEngines]

theorem Resource.engine_of_mem_parts {e : Nat} {r : Resource} (h : r ∈ parts e) :
    r.engine = some e := by
  simp only [parts, Finset.mem_insert, Finset.mem_singleton] at h
  rcases h with rfl | rfl | rfl | rfl | rfl <;> rfl

theorem Resource.engine_of_mem_shared {r : Resource} (h : r ∈ shared) : r.engine = none := by
  simp only [shared, Finset.mem_insert, Finset.mem_singleton] at h
  rcases h with rfl | rfl | rfl | rfl | rfl <;> rfl

theorem Resource.ofEngines_foreign {alive : Finset Nat} {e : Nat} (he : e ∉ alive) :
    ∀ r ∈ ofEngines alive, r.engine ≠ some e := by
  intro r hr
  rcases mem_ofEngines.mp hr with hshared | ⟨e', he', hpart⟩
  · simp [engine_of_mem_shared hshared]
  · rw [engine_of_mem_parts hpart]
    rintro ⟨⟩
    exact he he'

/-- A callback that is set is that of an engine that is there. -/
theorem Holdings.Keeps.probe_alive {O : HostDeps} {h : Holdings O} {alive : Finset Nat}
    (hkeeps : h.Keeps (ofEngines alive)) {e : Nat} (hset : h.probe = some e) : e ∈ alive := by
  have hclosed := hkeeps.sound.closed (by simp [Closed])
  have hmemory : part e .memory ∈ ofEngines alive ∪ probes h.probe :=
    hclosed (part e .probe) (by simp [hset]) (by simp [needs])
  rcases Finset.mem_union.mp hmemory with hmem | hmem
  · by_contra he
    exact ofEngines_foreign he _ hmem rfl
  · simp at hmem

theorem callStep_keeps {O : HostDeps} (laws : O.ProbeLaw) {L : Limits}
    {s s' : Finset Nat × Holdings O} {call : EngineCall}
    (hkeeps : s.2.Keeps (ofEngines s.1)) (hstep : callStep L s call = some s') :
    s'.2.Keeps (ofEngines s'.1) := by
  obtain ⟨alive, h⟩ := s
  cases call with
  | create e config answers =>
    dsimp only [callStep] at hstep
    split at hstep
    · cases hstep
    · next he =>
      rcases hcreate : h.createEngine L config answers e with ⟨engine, h₁⟩
      rw [hcreate] at hstep
      cases hstep
      obtain ⟨hsome, hnone, -⟩ := hkeeps.createEngine laws (fun r hr => by simp [hr])
        (ofEngines_foreign he) (fun hset => he (hkeeps.probe_alive hset)) L config answers hcreate
      cases engine with
      | none => exact (hnone rfl).1
      | some engine =>
        have hall : ofEngines alive ∪ parts e = ofEngines (insert e alive) := by
          ext r
          simp only [mem_ofEngines, Finset.mem_union, Finset.exists_mem_insert]
          exact or_assoc.trans (or_congr_right or_comm)
        exact hall ▸ (hsome rfl).1
  | destroy e =>
    dsimp only [callStep] at hstep
    split at hstep
    · next he =>
      cases hstep
      refine (hkeeps.destroyEngine laws (fun r => ?_) (ofEngines_foreign (by simp))).1
      simp only [mem_ofEngines, Finset.mem_erase]
      constructor
      · rintro (hr | ⟨e', he', hr⟩)
        · exact .inl (.inl hr)
        · by_cases heq : e' = e
          · exact .inr (heq ▸ hr)
          · exact .inl (.inr ⟨e', ⟨heq, he'⟩, hr⟩)
      · rintro ((hr | ⟨e', ⟨-, he'⟩, hr⟩) | hr)
        · exact .inl hr
        · exact .inr ⟨e', he', hr⟩
        · exact .inr ⟨e, he, hr⟩
    · cases hstep

/-- Whatever engines are created on a runtime and its queues and destroyed, in whatever order and
wherever a creation fails: the ledger is sound, exactly the parts of the engines that are there are
held, and the probe callback is set for one of them or not at all. -/
theorem engines_hold_parts {O : HostDeps} (laws : O.ProbeLaw) {L : Limits}
    {h h' : Holdings O} {alive : Finset Nat} {calls : List EngineCall} (hshared : h.Keeps shared)
    (hrun : Transition.run (callStep L) (∅, h) calls = some (alive, h')) :
    Sound needs ∅ h'.ledger (ofEngines alive ∪ probes h'.probe) ∧
      (∀ e, h'.probe = some e → e ∈ alive) ∧
      ∀ r, h'.ledger.count (.acquire r) = h'.ledger.count (.release r) +
        if r ∈ ofEngines alive ∪ probes h'.probe then 1 else 0 := by
  have hpath : Path (callStep L) (fun _ _ => True) (∅, h) calls (alive, h') :=
    .of_run (fun _ _ => trivial) hrun
  have hkeeps : h'.Keeps (ofEngines alive) := by
    refine hpath.invariant (P := fun _ s => s.2.Keeps (ofEngines s.1)) ?_ ?_
    · have hnone : ofEngines ∅ = shared := by simp [ofEngines]
      exact hnone ▸ hshared
    · exact fun _ s call s' hkeeps _ hstep => callStep_keeps laws hkeeps hstep
  refine ⟨hkeeps.sound, fun e hset => hkeeps.probe_alive hset, fun r => ?_⟩
  have hcount := hkeeps.sound.count r
  simp only [Finset.notMem_empty, if_false] at hcount
  omega

namespace Reference

/-- Which queues are mapped, and the names in the system. -/
structure Memory where
  mapped : SharedQueue → Bool
  linked : CString → Bool

/-- Creation maps a queue and links its name, and `unlink` fails where there is no such name. -/
def hostDeps : HostDeps where
  Memory := Memory
  mapped := Memory.mapped
  linked := Memory.linked
  sharedCreate m q name :=
    (true, ⟨fun q' => if q' = q then true else m.mapped q',
      fun n => if n = name then true else m.linked n⟩)
  sharedClose m q := { m with mapped := fun q' => if q' = q then false else m.mapped q' }
  sharedUnlink m _ name :=
    (m.linked name, { m with linked := fun n => if n = name then false else m.linked n })
  Callback := Option Nat
  probe := id
  setProbeCallback _ engine := engine

theorem probeLaw : hostDeps.ProbeLaw where
  replaces _ _ := rfl

theorem sharedLaws : hostDeps.SharedLaws where
  create_mapped _ hcreate q' := by
    cases hcreate
    simp [hostDeps]
  create_linked hcreate n hn := by
    cases hcreate
    exact if_neg hn
  close_mapped _ _ _ := rfl
  close_linked _ _ := rfl
  unlink_mapped _ _ _ := rfl
  unlink_linked {m m' q name unlinked} hunlink n := by
    cases hunlink
    by_cases hn : n = name
    · subst hn
      cases h : m.linked n <;> simp [hostDeps, h]
    · simp [hostDeps, hn]

/-- A process that has created the runtime and the queues. -/
def shared : Holdings hostDeps where
  callback := none
  memory := ⟨fun _ => true, fun _ => false⟩
  unlinked _ := false
  ledger := [.acquire .runtime, .acquire (.mapping .command), .acquire (.mapping .result),
    .acquire (.mapping .telemetry), .acquire (.mapping .values)]

/-- Two engines, of which the first is destroyed, and one whose wait thread cannot be created. -/
def engineCalls : List EngineCall :=
  [.create 0 config fun _ => true, .create 1 config fun p => p ≠ .waitThread,
    .create 2 config fun _ => true, .destroy 0]

end Reference

theorem engines_hold_parts_reference :
    ∃ h', Transition.run (callStep Reference.limits) (∅, Reference.shared) Reference.engineCalls =
        some ({2}, h') ∧
      Sound needs ∅ h'.ledger (ofEngines {2} ∪ probes h'.probe) := by
  have hsound : Transition.run (enter needs) ∅ Reference.shared.ledger =
      some (shared ∪ probes none) := by decide
  have hshared : Reference.shared.Keeps shared := ⟨hsound, by simp [shared]⟩
  have hrun : ∃ h', Transition.run (callStep Reference.limits) (∅, Reference.shared)
      Reference.engineCalls = some ({2}, h') := ⟨_, rfl⟩
  obtain ⟨h', hrun⟩ := hrun
  exact ⟨h', hrun, (engines_hold_parts Reference.probeLaw hshared hrun).1⟩

end RtsynEngine
