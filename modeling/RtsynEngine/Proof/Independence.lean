import RtsynEngine.Lib.Independence
import RtsynEngine.Proof.Unseen
import RtsynEngine.Reference

/-! Commands of different areas do not affect each other: whatever the order between those that
control the loop, those that ask for values, those that set the tolerance and all others, the engine
ends in the same state, with the same results and outcomes. -/

namespace RtsynEngine

open Independence

variable {D : Deps} {L : Limits}

/-- What a command's handler works on.  All that reach the runtime, the modules, the results or the
environment are of one area. -/
inductive Area
  | flags
  | subscriptions
  | tolerance
  | graph
deriving DecidableEq

def CommandMessage.area (m : CommandMessage L) : Area :=
  match m.data with
  | .globalCommand _ => .flags
  | .requestPortValues _ _ _ | .requestPortVariables _ _ _ => .subscriptions
  | .setRuntimeDeadlineTolerance _ => .tolerance
  | _ => .graph

/-- What the handlers of the first three areas work on. -/
structure Settings (L : Limits) where
  flags : Flags
  subscriptions : Vector Subscription L.subscriptionCapacity
  toleranceNs : UInt64

namespace Settings

/-- The outcome of a command and what it makes of the settings. -/
def adjust (c : Settings L) (m : CommandMessage L) : Bool × Settings L :=
  match m.data with
  | .globalCommand command =>
    (match GlobalCommand.ofField command with
      | .other _ => false
      | _ => true, { c with flags := m.data.flags c.flags })
  | .requestPortValues nodeId mask send =>
    let (done, subscriptions) := updateMask L c.subscriptions nodeId mask send false
    (done, { c with subscriptions })
  | .requestPortVariables nodeId mask send =>
    let (done, subscriptions) := updateMask L c.subscriptions nodeId mask send true
    (done, { c with subscriptions })
  | .setRuntimeDeadlineTolerance toleranceNs => (true, { c with toleranceNs })
  | _ => (true, c)

/-- Commands of different areas adjust different settings, each by what it was. -/
theorem adjust_comm (c : Settings L) {m m' : CommandMessage L} (hm : m.data.aside = true)
    (hm' : m'.data.aside = true) (hne : m.area ≠ m'.area) :
    ((c.adjust m).2.adjust m').2 = ((c.adjust m').2.adjust m).2 ∧
      ((c.adjust m').2.adjust m).1 = (c.adjust m).1 := by
  obtain ⟨seq, data⟩ := m
  obtain ⟨seq', data'⟩ := m'
  cases data with
  | globalCommand | requestPortValues | requestPortVariables | setRuntimeDeadlineTolerance =>
    cases data' with
    | globalCommand | requestPortValues | requestPortVariables | setRuntimeDeadlineTolerance =>
      first | exact absurd rfl hne | exact ⟨rfl, rfl⟩
    | _ => cases hm'
  | _ => cases hm

end Settings

namespace World

def settings (w : World D) : Settings D.limits :=
  ⟨w.engine.flags, w.engine.telemetrySubscriptions, w.engine.config.deadlineToleranceNs⟩

/-- The same world with other settings. -/
def withSettings (w : World D) (c : Settings D.limits) : World D :=
  { w with engine := { w.engine with
      config := { w.engine.config with deadlineToleranceNs := c.toleranceNs }
      flags := c.flags
      telemetrySubscriptions := c.subscriptions } }

theorem keepsGraph_withSettings (c : Settings D.limits) :
    KeepsGraph fun w : World D => w.withSettings c where
  runtime _ := rfl
  env _ := rfl
  results _ := rfl
  loadedNodes _ := rfl
  resultQueue _ := rfl
  setRuntime _ _ := rfl
  setEnv _ _ := rfl
  setResults _ _ := rfl
  emit _ _ := rfl
  setLoadedNodes _ _ := rfl
  setRtThreadPriority w priority := by
    unfold setRtThreadPriority
    split <;> rfl

/-- A command of the first three areas adjusts the settings. -/
theorem dispatch_aside (w : World D) {m : CommandMessage D.limits} (hm : m.data.aside = true) :
    w.dispatchCommand m =
      ((w.settings.adjust m).1, w.withSettings (w.settings.adjust m).2) := by
  obtain ⟨seq, data⟩ := m
  cases data with
  | globalCommand command =>
    dsimp only [dispatchCommand, eventGlobalCommand, Settings.adjust, CommandData.flags]
    cases GlobalCommand.ofField command <;> rfl
  | requestPortValues | requestPortVariables => rfl
  | setRuntimeDeadlineTolerance => rfl
  | _ => cases hm

/-- Any other command leaves the settings as they are. -/
theorem dispatch_settings (w : World D) {m : CommandMessage D.limits} (hm : m.data.aside = false) :
    (w.dispatchCommand m).2.settings = w.settings := by
  have hsame : w.withSettings w.settings = w := rfl
  have hkeeps := (keepsGraph_withSettings w.settings).dispatchCommand w m hm
  rw [hsame] at hkeeps
  rw [congrArg Prod.snd hkeeps]
  rfl

/-- A command of the first three areas and another one. -/
theorem dispatch_comm_graph (w : World D) {m m' : CommandMessage D.limits}
    (hm : m.data.aside = true) (hm' : m'.data.aside = false) :
    ((w.dispatchCommand m).2.dispatchCommand m').2 =
        ((w.dispatchCommand m').2.dispatchCommand m).2 ∧
      ((w.dispatchCommand m').2.dispatchCommand m).1 = (w.dispatchCommand m).1 ∧
      ((w.dispatchCommand m).2.dispatchCommand m').1 = (w.dispatchCommand m').1 := by
  have hkeeps := (keepsGraph_withSettings (w.settings.adjust m).2).dispatchCommand w m' hm'
  have hafter := (w.dispatchCommand m').2.dispatch_aside hm
  rw [w.dispatch_settings hm'] at hafter
  rw [w.dispatch_aside hm]
  dsimp only
  rw [hkeeps, hafter]
  exact ⟨rfl, rfl, rfl⟩

theorem area_aside {m : CommandMessage L} : m.data.aside = false ↔ m.area = .graph := by
  obtain ⟨seq, data⟩ := m
  cases data <;> simp [CommandData.aside, CommandMessage.area]

/-- Commands of different areas are independent. -/
theorem dispatch_independent :
    Independent (World.dispatchCommand (D := D)) CommandMessage.area := by
  intro w m m' hne
  cases hm : m.data.aside with
  | false =>
    have hm' : m'.data.aside = true := by
      rw [← Bool.not_eq_false, area_aside]
      intro hgraph
      exact hne ((area_aside.mp hm).trans hgraph.symm)
    obtain ⟨hstate, -, hdone⟩ := w.dispatch_comm_graph hm' hm
    exact ⟨hstate.symm, hdone⟩
  | true =>
    cases hm' : m'.data.aside with
    | false =>
      obtain ⟨hstate, hdone, -⟩ := w.dispatch_comm_graph hm hm'
      exact ⟨hstate, hdone⟩
    | true =>
      obtain ⟨hstate, hdone⟩ := w.settings.adjust_comm hm hm' hne
      have hfirst : ∀ (w : World D) {m m' : CommandMessage D.limits}, m.data.aside = true →
          m'.data.aside = true → (w.dispatchCommand m).2.dispatchCommand m' =
            (((w.settings.adjust m).2.adjust m').1,
              w.withSettings ((w.settings.adjust m).2.adjust m').2) := by
        intro w m m' hm hm'
        rw [w.dispatch_aside hm, dispatch_aside _ hm']
        rfl
      rw [hfirst w hm hm', hfirst w hm' hm, w.dispatch_aside hm]
      exact ⟨congrArg w.withSettings hstate, hdone⟩

/-- The commands of a sequence with what their dispatches return. -/
def outcomes (w : World D) : List (CommandMessage D.limits) → List (CommandMessage D.limits × Bool)
  | [] => []
  | m :: ms => (m, (w.dispatchCommand m).1) :: (w.dispatchCommand m).2.outcomes ms

theorem answerAll_dispatch (w : World D) (ms : List (CommandMessage D.limits)) :
    answerAll World.dispatchCommand w ms = (w.outcomes ms, w.dispatchAll ms) := by
  induction ms generalizing w with
  | nil => rfl
  | cons m ms ih =>
    rw [answerAll, ih]
    rfl

end World

/-- Two sequences with the same commands of each area in the same order leave the same world, with
the same results and all else, and give each command the same outcome. -/
theorem areas_do_not_interfere (w : World D) {ms ms' : List (CommandMessage D.limits)}
    (h : ∀ area, ms.filter (·.area = area) = ms'.filter (·.area = area)) :
    w.dispatchAll ms = w.dispatchAll ms' ∧
      ∀ area, (w.outcomes ms).filter (·.1.area = area) =
        (w.outcomes ms').filter (·.1.area = area) := by
  obtain ⟨hstate, hanswers⟩ := World.dispatch_independent.same h w
  simp only [World.answerAll_dispatch] at hstate hanswers
  exact ⟨hstate, hanswers⟩

/-- The commands of three clients. -/
def Reference.mixedCommands : List (CommandMessage limits) :=
  [⟨1, .globalCommand 2⟩, ⟨2, .addNode .plugin (nameField 110)⟩, ⟨3, .requestPortValues 0 1 true⟩]

theorem areas_do_not_interfere_reference :
    Reference.loadedWorld.dispatchAll Reference.mixedCommands =
        Reference.loadedWorld.dispatchAll Reference.mixedCommands.reverse ∧
      (Reference.loadedWorld.outcomes Reference.mixedCommands).map Prod.snd =
        [true, true, true] := by
  refine ⟨(areas_do_not_interfere Reference.loadedWorld fun area => ?_).1, rfl⟩
  cases area <;> rfl

end RtsynEngine
