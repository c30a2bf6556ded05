import RtsynEngine.Host
import RtsynEngine.Proof.Effects

/-! When main wakes up for a stop: what it relies on at each of its places. -/

namespace RtsynEngine

open Transition

variable {D : Deps}

/-- The command is `STOP`. -/
def CommandData.stops {L : Limits} : CommandData L → Bool
  | .globalCommand command => GlobalCommand.ofField command == .stop
  | _ => false

theorem CommandData.stops_of_flags {L : Limits} {data : CommandData L} {f : Flags}
    (h : (data.flags f).stopRequested = true) : f.stopRequested = true ∨ data.stops = true := by
  cases data with
  | globalCommand command =>
    simp only [CommandData.flags] at h
    cases hcommand : GlobalCommand.ofField command with
    | stop => exact .inr (by simp [stops, hcommand])
    | _ =>
      rw [hcommand] at h
      exact .inl h
  | _ => exact .inl h

/-- The next step of the loop dispatches a `STOP`. -/
def RtState.dispatchesStop {L : Limits} : RtState L → Bool
  | .dispatch _ _ _ m => m.data.stops
  | _ => false

theorem RtState.dispatchesStop_of_flags {L : Limits} {state : RtState L} {f : Flags}
    (h : (state.flags f).stopRequested = true) :
    f.stopRequested = true ∨ state.dispatchesStop = true := by
  cases state with
  | dispatch => exact CommandData.stops_of_flags h
  | _ => exact .inl h

/-- The places of `start` at which the request to stop has been taken back. -/
def StartState.cleared : StartState → Bool
  | .storePaused | .storeRtJoined | .storeWaitJoined | .storeRunning | .storeStarted => true
  | .runRt | .runWait => true
  | _ => false

namespace System

variable {s s' : System D}

/-- Of the engine's threads only a loop that dispatches a `STOP` requests one. -/
theorem threadStep_stop (h : s.Covered) {a : Step D.limits}
    (ha : ∀ outcome, a ≠ .controller outcome) (hcall : a.isCall = false)
    (hstep : s.step a = some s') :
    s'.controller = s.controller ∧ s'.log = s.log ∧ (s'.flags.stopRequested = true →
      s.flags.stopRequested = true ∨ ∃ i, a = .rt i ∧ s.loop.dispatchesStop = true) := by
  cases a with
  | call call => cases hcall
  | controller outcome => exact absurd rfl (ha outcome)
  | rt i =>
    obtain ⟨t, state, world, hi, hthread, rfl⟩ := rt_step hstep
    have hlive : t.state ≠ .returned := by
      intro hreturned
      rw [hreturned] at hthread
      cases hthread
    obtain ⟨-, hhead⟩ := h.rt.newest hi hlive
    refine ⟨rfl, rfl, fun hstop => ?_⟩
    have hflags : world.engine.flags = t.state.flags s.flags := World.rtThreadStep_flags hthread
    rw [flags, hflags] at hstop
    rcases RtState.dispatchesStop_of_flags hstop with hbefore | hdispatches
    · exact .inl hbefore
    · refine .inr ⟨i, rfl, ?_⟩
      rwa [loop, hhead]
  | wait i outcome =>
    obtain ⟨⟨wait, joins⟩, state, s₁, hi, hmove, rfl⟩ := wait_step hstep
    cases hmove <;> exact ⟨rfl, rfl, .inl⟩
  | pushCommand m =>
    cases hstep
    exact ⟨rfl, rfl, .inl⟩

/-- The engine in its `start`, which takes the request to stop back before it launches a loop. -/
def Starting (s : System D) : Prop :=
  match s.controller with
  | .start pc => pc.cleared = true → s.flags.stopRequested = false
  | .idle => ∀ foundRunning log, s.log = .start foundRunning true :: log →
    s.flags.stopRequested = false
  | _ => False

theorem Starting.controllerStep (h : s.Starting) {outcome : Bool}
    (hmove : ControllerMove s outcome s') : s'.Starting := by
  unfold Starting at h
  cases hmove with
  | start pc hc hmove =>
    rw [hc] at h
    cases hmove with
    | storeStopRequested => exact fun _ => rfl
    | storePaused | storeRtJoined | storeWaitJoined | storeRunning | storeStarted | launchRt =>
      exact fun _ => h rfl
    | launchWait => exact fun _ _ _ => h rfl
    | _ => exact nofun
  | requestStop hc | join _ hc | destroyStop hc | destroyStarted hc | destroyUnstarted hc
  | destroyJoined hc | destroyUnjoined hc | destroyJoin _ hc | destroyFree hc =>
    rw [hc] at h
    exact h.elim

theorem Starting.keep (h : s.Starting) (hcontroller : s'.controller = s.controller)
    (hlog : s'.log = s.log)
    (hstop : s'.flags.stopRequested = true → s.flags.stopRequested = true) : s'.Starting := by
  have hkept : s.flags.stopRequested = false → s'.flags.stopRequested = false := by
    intro hfalse
    by_contra htrue
    rw [Bool.not_eq_false] at htrue
    rw [hstop htrue] at hfalse
    cases hfalse
  unfold Starting at h ⊢
  rw [hcontroller, hlog]
  split
  · next hc =>
    rw [hc] at h
    exact fun hcleared => hkept (h hcleared)
  · next hc =>
    rw [hc] at h
    exact fun foundRunning log heq => hkept (h foundRunning log heq)
  · next hnot hidle =>
    split at h
    · next hc => exact absurd hc (hnot _)
    · next hc => exact absurd hc hidle
    · exact h

end System

namespace Host

/-- The steps that miss no stop: the stop signals can be unblocked; the last signal that would wake
main is not delivered between its test and `pause ()`; and no `STOP` is dispatched while neither a
signal has been handled nor one is about to be. -/
def Timely (h : Host D) : HostStep D.limits → Prop
  | .main outcome => h.main = .unblockStopSignals → outcome = true
  | .deliver signal => h.main = .pause → (h.setPending signal false).Woken
  | .engine (.rt _) =>
    h.system.loop.dispatchesStop = true → h.stopRequested = true ∨ h.Woken
  | _ => True

instance (h : Host D) : Decidable h.Woken := inferInstanceAs (Decidable (_ ∨ _))

instance (h : Host D) (a : HostStep D.limits) : Decidable (h.Timely a) :=
  match a with
  | .main _ | .deliver _ | .engine (.rt _) => inferInstanceAs (Decidable (_ → _))
  | .raise _ | .engine (.call _) | .engine (.controller _) | .engine (.wait _ _)
  | .engine (.pushCommand _) => isTrue trivial

/-- What main relies on at its places, up to the end of its waiting loop. -/
def Awake (h : Host D) : Prop :=
  match h.main with
  | .blockProcessSignals => h.system.controller = .idle ∧ h.stopRequested = false
  | .installSignalHandlers | .create =>
    h.system.controller = .idle ∧ h.stopRequested = false ∧ ∀ signal, h.blocked signal = true
  | .start => h.system.Starting ∧ h.stopRequested = false ∧ ∀ signal, h.blocked signal = true
  | .unblockStopSignals => h.system.controller = .idle ∧
    h.system.flags.stopRequested = false ∧ h.stopRequested = false ∧
      ∀ signal, h.blocked signal = true
  | .unblockFailed => False
  | .test => h.system.controller = .idle ∧
    (h.system.flags.stopRequested = true → h.stopRequested = true ∨ h.Woken)
  | .pause | .suspended => h.system.controller = .idle ∧
    (h.stopRequested = true ∨ h.system.flags.stopRequested = true → h.Woken)
  | _ => True

variable {h h' : Host D}

/-- Main's own steps. -/
theorem Awake.mainStep (hawake : h.Awake) {outcome : Bool}
    (hok : h.main = .unblockStopSignals → outcome = true)
    (hstep : h.mainStep outcome = some h') : h'.Awake := by
  unfold Awake at hawake
  unfold Host.mainStep at hstep
  cases hmain : h.main with
  | blockProcessSignals =>
    rw [hmain] at hawake hstep
    dsimp only at hstep
    split at hstep <;> cases hstep
    · exact ⟨hawake.1, hawake.2, fun _ => rfl⟩
    · trivial
  | installSignalHandlers =>
    rw [hmain] at hawake hstep
    dsimp only at hstep
    split at hstep <;> cases hstep
    · exact hawake
    · trivial
  | create =>
    rw [hmain] at hawake hstep
    dsimp only at hstep
    split at hstep
    · obtain ⟨system, hcall, rfl⟩ := Option.map_eq_some_iff.mp hstep
      rw [System.step, if_pos hawake.1] at hcall
      cases hcall
      exact ⟨nofun, hawake.2⟩
    · cases hstep
      trivial
  | start =>
    rw [hmain] at hawake hstep
    obtain ⟨hstarting, hflag, hblocked⟩ := hawake
    dsimp only at hstep
    split at hstep
    · next hc hlog =>
      cases hstep
      unfold System.Starting at hstarting
      rw [hc] at hstarting
      exact ⟨hc, hstarting _ _ hlog, hflag, hblocked⟩
    · obtain ⟨system, hcall, rfl⟩ := Option.map_eq_some_iff.mp hstep
      trivial
    · cases hstep
  | unblockStopSignals =>
    rw [hmain] at hawake hstep
    obtain ⟨hidle, hstop, hflag, -⟩ := hawake
    rw [hok hmain] at hstep
    cases hstep
    refine ⟨hidle, fun htrue => ?_⟩
    exact absurd (hstop.symm.trans htrue) nofun
  | unblockFailed =>
    rw [hmain] at hawake
    exact hawake.elim
  | test =>
    rw [hmain] at hawake hstep
    obtain ⟨hidle, hstop⟩ := hawake
    dsimp only at hstep
    split at hstep
    · obtain ⟨system, hcall, rfl⟩ := Option.map_eq_some_iff.mp hstep
      trivial
    · next hflag =>
      cases hstep
      refine ⟨hidle, fun hrequested => ?_⟩
      have hflag' : ¬(h.goto .pause).stopRequested = true := hflag
      exact (hstop (hrequested.resolve_left hflag')).resolve_left hflag
  | pause =>
    rw [hmain] at hawake hstep
    cases hstep
    exact hawake
  | suspended =>
    rw [hmain] at hstep
    cases hstep
  | requestStop =>
    rw [hmain] at hstep
    obtain ⟨system, hcall, rfl⟩ := Option.map_eq_some_iff.mp hstep
    trivial
  | join =>
    rw [hmain] at hstep
    dsimp only at hstep
    split at hstep <;> cases hstep
    trivial
  | restoreMask joined =>
    rw [hmain] at hstep
    obtain ⟨system, hcall, rfl⟩ := Option.map_eq_some_iff.mp hstep
    trivial
  | destroy joined =>
    rw [hmain] at hstep
    dsimp only at hstep
    split at hstep <;> cases hstep
    trivial
  | exited success =>
    rw [hmain] at hstep
    cases hstep

/-- A step of the controller's call, which is in progress only while main starts the engine. -/
theorem Awake.controllerStep (hawake : h.Awake) {outcome : Bool} {system : System D}
    (hstep : h.system.controllerStep outcome = some system) :
    ({ h with system } : Host D).Awake := by
  have hbusy : h.system.controller ≠ .idle := by
    intro hidle
    rw [System.controllerStep, hidle] at hstep
    cases hstep
  unfold Awake at hawake ⊢
  dsimp only
  cases hmain : h.main with
  | start =>
    rw [hmain] at hawake
    exact ⟨hawake.1.controllerStep (System.controllerStep_cases hstep), hawake.2⟩
  | blockProcessSignals | installSignalHandlers | create | unblockStopSignals | test | pause
  | suspended =>
    rw [hmain] at hawake
    exact absurd hawake.1 hbusy
  | unblockFailed =>
    rw [hmain] at hawake
    exact hawake
  | _ => trivial

theorem not_woken_of_blocked (hblocked : ∀ signal, h.blocked signal = true) : ¬h.Woken := by
  rintro (hint | hterm)
  · simp [deliverable, hblocked] at hint
  · simp [deliverable, hblocked] at hterm

theorem Woken.raise (hwoken : h.Woken) (signal : Signal) : (h.setPending signal true).Woken := by
  have hkept : ∀ s, h.deliverable s = true → (h.setPending signal true).deliverable s = true := by
    intro s hs
    by_cases heq : s = signal
    · simp_all [deliverable, setPending]
    · simpa [deliverable, setPending, heq] using hs
  rcases hwoken with hint | hterm
  · exact .inl (hkept _ hint)
  · exact .inr (hkept _ hterm)

/-- A step of the engine's other threads. -/
theorem Awake.threadStep (hawake : h.Awake) {system : System D}
    (hcontroller : system.controller = h.system.controller) (hlog : system.log = h.system.log)
    (hstop : system.flags.stopRequested = true → h.system.flags.stopRequested = true ∨
      h.stopRequested = true ∨ h.Woken) : ({ h with system } : Host D).Awake := by
  have hearly : h.stopRequested = false → (∀ signal, h.blocked signal = true) →
      system.flags.stopRequested = true → h.system.flags.stopRequested = true := by
    intro hflag hblocked hs
    rcases hstop hs with hbefore | hset | hwoken
    · exact hbefore
    · exact absurd (hflag.symm.trans hset) nofun
    · exact absurd hwoken (not_woken_of_blocked hblocked)
  unfold Awake at hawake ⊢
  dsimp only
  cases hmain : h.main with
  | blockProcessSignals | installSignalHandlers | create =>
    rw [hmain] at hawake
    exact ⟨hcontroller.trans hawake.1, hawake.2⟩
  | start =>
    rw [hmain] at hawake
    obtain ⟨hstarting, hflag, hblocked⟩ := hawake
    exact ⟨hstarting.keep hcontroller hlog (hearly hflag hblocked), hflag, hblocked⟩
  | unblockStopSignals =>
    rw [hmain] at hawake
    obtain ⟨hidle, hnot, hflag, hblocked⟩ := hawake
    refine ⟨hcontroller.trans hidle, ?_, hflag, hblocked⟩
    by_contra htrue
    rw [Bool.not_eq_false] at htrue
    exact absurd (hnot.symm.trans (hearly hflag hblocked htrue)) nofun
  | unblockFailed =>
    rw [hmain] at hawake
    exact hawake
  | test =>
    rw [hmain] at hawake
    refine ⟨hcontroller.trans hawake.1, fun hs => ?_⟩
    rcases hstop hs with hbefore | hother
    · exact hawake.2 hbefore
    · exact hother
  | pause | suspended =>
    rw [hmain] at hawake
    refine ⟨hcontroller.trans hawake.1, ?_⟩
    rintro (hflag | hs)
    · exact hawake.2 (.inl hflag)
    · rcases hstop hs with hbefore | hflag | hwoken
      · exact hawake.2 (.inr hbefore)
      · exact hawake.2 (.inl hflag)
      · exact hwoken
  | _ => trivial

theorem Awake.raise (hawake : h.Awake) (signal : Signal) : (h.setPending signal true).Awake := by
  unfold Awake at hawake ⊢
  dsimp only [setPending]
  cases hmain : h.main with
  | test =>
    rw [hmain] at hawake
    refine ⟨hawake.1, fun hs => ?_⟩
    rcases hawake.2 hs with hflag | hwoken
    · exact .inl hflag
    · exact .inr (hwoken.raise signal)
  | pause | suspended =>
    rw [hmain] at hawake
    exact ⟨hawake.1, fun hs => (hawake.2 hs).raise signal⟩
  | _ =>
    rw [hmain] at hawake
    exact hawake

/-- The handler runs only where the stop signals are not blocked. -/
theorem Awake.deliver (hawake : h.Awake) {signal : Signal}
    (hdeliverable : h.deliverable signal = true)
    (hok : h.main = .pause → (h.setPending signal false).Woken) :
    (h.setPending signal false).signalHandler.Awake := by
  have hopen : ¬∀ s, h.blocked s = true := by
    intro hall
    simp [deliverable, hall] at hdeliverable
  obtain ⟨main, stopRequested, blocked, previousMask, pending, system⟩ := h
  cases main with
  | installSignalHandlers | create | start => exact absurd hawake.2.2 hopen
  | unblockStopSignals => exact absurd hawake.2.2.2 hopen
  | unblockFailed => exact hawake
  | test => exact ⟨hawake.1, fun _ => .inl rfl⟩
  | pause => exact ⟨hawake.1, fun _ => hok rfl⟩
  | suspended => exact ⟨hawake.1, fun _ => .inl rfl⟩
  | _ => trivial

theorem Awake.step (hawake : h.Awake) (hcovered : h.system.Covered) {a : HostStep D.limits}
    (hok : h.Timely a) (hstep : h.step a = some h') : h'.Awake := by
  cases a with
  | main outcome => exact hawake.mainStep hok hstep
  | raise signal =>
    cases hstep
    exact hawake.raise signal
  | deliver signal =>
    dsimp only [Host.step] at hstep
    split at hstep
    · next hdeliverable =>
      cases hstep
      exact hawake.deliver hdeliverable hok
    · cases hstep
  | engine a =>
    dsimp only [Host.step] at hstep
    split at hstep
    · cases hstep
    · next hcall =>
      obtain ⟨system, hsystem, rfl⟩ := Option.map_eq_some_iff.mp hstep
      by_cases hcontroller : ∃ outcome, a = .controller outcome
      · obtain ⟨outcome, rfl⟩ := hcontroller
        exact hawake.controllerStep hsystem
      · obtain ⟨hsame, hlog, hstop⟩ := System.threadStep_stop hcovered
          (fun outcome heq => hcontroller ⟨outcome, heq⟩) (Bool.eq_false_iff.mpr hcall) hsystem
        refine hawake.threadStep hsame hlog fun hs => ?_
        rcases hstop hs with hbefore | ⟨i, rfl, hdispatches⟩
        · exact .inl hbefore
        · exact .inr (hok hdispatches)

/-- Main changes the engine only by its calls. -/
theorem mainStep_system {outcome : Bool} (hstep : h.mainStep outcome = some h') :
    h'.system = h.system ∨ ∃ call, h.system.step (.call call) = some h'.system := by
  have hcalled : ∀ c main, h.call c main = some h' →
      ∃ call, h.system.step (.call call) = some h'.system := by
    intro c main hcall
    obtain ⟨system, hsystem, rfl⟩ := Option.map_eq_some_iff.mp hcall
    exact ⟨c, hsystem⟩
  unfold Host.mainStep at hstep
  cases hmain : h.main with
  | create | unblockStopSignals | test =>
    rw [hmain] at hstep
    dsimp only at hstep
    split at hstep
    all_goals
      first
      | exact .inr (hcalled _ _ hstep)
      | cases hstep
        exact .inl rfl
  | start =>
    rw [hmain] at hstep
    dsimp only at hstep
    split at hstep
    · cases hstep
      exact .inl rfl
    · exact .inr (hcalled _ _ hstep)
    · cases hstep
  | requestStop =>
    rw [hmain] at hstep
    exact .inr (hcalled _ _ hstep)
  | restoreMask joined =>
    rw [hmain] at hstep
    obtain ⟨system, hsystem, rfl⟩ := Option.map_eq_some_iff.mp hstep
    exact .inr ⟨_, hsystem⟩
  | pause =>
    rw [hmain] at hstep
    cases hstep
    exact .inl rfl
  | suspended | exited success =>
    rw [hmain] at hstep
    cases hstep
  | _ =>
    rw [hmain] at hstep
    dsimp only at hstep
    split at hstep <;> cases hstep <;> exact .inl rfl

theorem covered_step (hcovered : h.system.Covered) {a : HostStep D.limits}
    (hstep : h.step a = some h') : h'.system.Covered := by
  cases a with
  | main outcome =>
    rcases mainStep_system hstep with hsame | ⟨call, hsystem⟩
    · rwa [hsame]
    · exact hcovered.step hsystem
  | raise signal =>
    cases hstep
    exact hcovered
  | deliver signal =>
    dsimp only [Host.step] at hstep
    split at hstep <;> cases hstep
    unfold signalHandler
    split <;> exact hcovered
  | engine a =>
    dsimp only [Host.step] at hstep
    split at hstep
    · cases hstep
    · obtain ⟨system, hsystem, rfl⟩ := Option.map_eq_some_iff.mp hstep
      exact hcovered.step hsystem

end Host

/-- In every run in which the stop signals can be unblocked, no last signal is delivered between
main's test and its `pause ()`, and no `STOP` is dispatched before a signal, main does not sleep
through a stop. -/
theorem wakes_up_if_timely {h : Host D}
    (hreach : ReachableBy Host.Initial Host.step Host.Timely h) : ¬h.SleepsThroughStop := by
  have hinvariant : h.system.Covered ∧ h.Awake := by
    refine hreach.invariant (P := fun h : Host D => h.system.Covered ∧ h.Awake) ?_ ?_
    · intro h ⟨hmain, hflag, hinitial⟩
      refine ⟨System.covered_of_initial hinitial, ?_⟩
      unfold Host.Awake
      rw [hmain]
      exact ⟨hinitial.2.1, hflag⟩
    · intro h a h' ⟨hcovered, hawake⟩ hok hstep
      exact ⟨Host.covered_step hcovered hstep, hawake.step hcovered hok hstep⟩
  rintro ⟨hmain, hasleep, hrequested⟩
  have hawake := hinvariant.2
  unfold Host.Awake at hawake
  rw [hmain] at hawake
  exact hasleep (hawake.2 hrequested)

namespace Reference

/-- The process at the entry of `main`, with no signal blocked or pending. -/
def host : Host deps where
  main := .blockProcessSignals
  stopRequested := false
  blocked _ := false
  previousMask _ := false
  pending _ := false
  system := created

/-- The steps of main until it has read in its loop that no stop is requested. -/
def untilPause : List (HostStep limits) :=
  List.replicate 3 (.main true) ++ List.replicate 9 (.engine (.controller true)) ++
    List.replicate 3 (.main true)

/-- The process with main suspended and no stop requested. -/
def waiting : Host deps :=
  (Transition.run (Transition.guarded Host.step Host.Timely) host (untilPause ++ [.main true])).get
    (by decide)

/-- The process after a `SIGINT` that is handled right before `pause ()`. -/
def lostWakeUp : Host deps :=
  (Transition.run Host.step host
    (untilPause ++ [.raise .int, .deliver .int, .main true])).get (by decide)

end Reference

theorem wakes_up_reference :
    Reference.waiting.main = .suspended ∧ ¬Reference.waiting.SleepsThroughStop := by
  have hrun : Transition.run (Transition.guarded Host.step Host.Timely) Reference.host
      (Reference.untilPause ++ [.main true]) = some Reference.waiting := (Option.some_get _).symm
  exact ⟨rfl, wakes_up_if_timely
    ⟨Reference.host, _, ⟨rfl, rfl, rfl, rfl, rfl, rfl, rfl⟩, .of_guarded_run hrun⟩⟩

/-- A signal that is handled between main's test and its `pause ()` does not wake it. -/
theorem sleeps_through_signal :
    ¬∀ h : Host Reference.deps, h.Reachable → ¬h.SleepsThroughStop := by
  intro h
  have hhost : Reference.host.Reachable := .start ⟨rfl, rfl, rfl, rfl, rfl, rfl, rfl⟩
  have hlost : Reference.lostWakeUp.Reachable := hhost.run (Option.some_get _).symm
  refine h _ hlost ⟨rfl, ?_, .inl rfl⟩
  rintro (hint | hterm)
  · exact absurd hint (by decide)
  · exact absurd hterm (by decide)

end RtsynEngine
