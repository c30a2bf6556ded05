import RtsynEngine.Proof.Registry
import RtsynEngine.Reference

/-! Failed loads: which of them leave the registry and the runtime's nodes as they are. -/

namespace RtsynEngine

variable {D : Deps}

namespace World

/-- A load that passes every check and gets its entry, and then no memory in `loaded_nodes`. -/
inductive FailsLate (w : World D) (modulePath : CString) (nodeType : NodeType) : CString → Prop
  | intro {loader : ModuleLoader} {descriptor : Pointer NodeDescriptor} {name : CString}
    {env env' : D.Env} (hcreate : D.moduleLoaderCreate w.env modulePath = (some loader, env))
    (hexported : loader.descriptor = some descriptor) (hname : descriptor.target.name = some name)
    (htype : nodeType = .invalid ∨ descriptor.target.nodeType = nodeType)
    (hmalloc : D.mallocLoadedNode env = (true, env'))
    (hadd : (D.collectionAdd env').1 = false) : FailsLate w modulePath nodeType name

/-- A load that fails late, where the registry or the runtime has something of its name. -/
def DisplacesInVain (w : World D) (modulePath : CString) (nodeType : NodeType) : Prop :=
  ∃ name, w.FailsLate modulePath nodeType name ∧
    ((∃ e ∈ w.engine.loadedNodes, e.name = some name) ∨ ∃ n ∈ D.nodes w.runtime, n.name = some name)

/-- The registry and the nodes of the runtime are the same. -/
structure SameNodes (w w' : World D) : Prop where
  loadedNodes : w'.engine.loadedNodes = w.engine.loadedNodes
  nodes : ∀ n, n ∈ D.nodes w'.runtime ↔ n ∈ D.nodes w.runtime

theorem SameNodes.of_eq {w w' : World D} (hentries : w'.engine.loadedNodes = w.engine.loadedNodes)
    (hruntime : w'.runtime = w.runtime) : SameNodes w w' :=
  ⟨hentries, fun n => by rw [hruntime]⟩

/-- A load fails late and leaves what replacing has left, or it does not, and then changes nothing
if it fails. -/
inductive LoadCase (w : World D) (modulePath : CString) (nodeType : NodeType) :
    Option (Pointer NodeDescriptor) × World D → Prop
  | intact {r : Option (Pointer NodeDescriptor) × World D}
    (hnot : ∀ name, ¬w.FailsLate modulePath nodeType name) (hsame : r.1 = none → SameNodes w r.2) :
    LoadCase w modulePath nodeType r
  | late {w' : World D} (name : CString) (hlate : w.FailsLate modulePath nodeType name)
    (hentries : w'.engine.loadedNodes = (w.removedByName name).engine.loadedNodes)
    (hruntime : w'.runtime = (w.removedByName name).runtime) :
    LoadCase w modulePath nodeType (none, w')

theorem FailsLate.unique {w : World D} {modulePath name name' : CString} {nodeType : NodeType}
    (h : w.FailsLate modulePath nodeType name) (h' : w.FailsLate modulePath nodeType name') :
    name = name' := by
  obtain ⟨hcreate, hexported, hname, -, -, -⟩ := h
  obtain ⟨hcreate', hexported', hname', -, -, -⟩ := h'
  rw [hcreate] at hcreate'
  cases hcreate'
  rw [hexported] at hexported'
  cases hexported'
  rw [hname] at hname'
  cases hname'
  rfl

theorem loadNodeDescriptorAs_case (w : World D) (modulePath : CString) (nodeType : NodeType) :
    w.LoadCase modulePath nodeType (w.loadNodeDescriptorAs modulePath nodeType) := by
  unfold loadNodeDescriptorAs
  split
  · next env hcreate =>
    refine .intact ?_ fun _ => .of_eq rfl rfl
    rintro name ⟨hcreate', -, -, -, -, -⟩
    rw [hcreate] at hcreate'
    cases hcreate'
  · next loader env hcreate =>
    have hlate : ∀ {name}, w.FailsLate modulePath nodeType name → ∃ descriptor env',
        loader.descriptor = some descriptor ∧ descriptor.target.name = some name ∧
        (nodeType = .invalid ∨ descriptor.target.nodeType = nodeType) ∧
        D.mallocLoadedNode env = (true, env') ∧ (D.collectionAdd env').1 = false := by
      rintro name ⟨hcreate', hexported, hname, htype, hmalloc, hadd⟩
      rw [hcreate] at hcreate'
      cases hcreate'
      exact ⟨_, _, hexported, hname, htype, hmalloc, hadd⟩
    dsimp only
    split
    · next hexported =>
      refine .intact (fun name hname => ?_) fun _ => .of_eq rfl rfl
      obtain ⟨descriptor, env', hexported', -⟩ := hlate hname
      rw [hexported] at hexported'
      cases hexported'
    · next descriptor hexported =>
      have hdescriptor : ∀ {name}, w.FailsLate modulePath nodeType name → ∃ env',
          descriptor.target.name = some name ∧
          (nodeType = .invalid ∨ descriptor.target.nodeType = nodeType) ∧
          D.mallocLoadedNode env = (true, env') ∧ (D.collectionAdd env').1 = false := by
        intro name h
        obtain ⟨descriptor', env', hexported', hrest⟩ := hlate h
        rw [hexported] at hexported'
        cases hexported'
        exact ⟨env', hrest⟩
      split
      · next hname =>
        refine .intact (fun name h => ?_) fun _ => .of_eq rfl rfl
        obtain ⟨env', hname', -⟩ := hdescriptor h
        rw [hname] at hname'
        cases hname'
      · next name hname =>
        split
        · next hwrong =>
          refine .intact (fun name' h => ?_) fun _ => .of_eq rfl rfl
          obtain ⟨env', -, htype, -⟩ := hdescriptor h
          rw [Bool.and_eq_true, bne_iff_ne, bne_iff_ne] at hwrong
          exact htype.elim hwrong.1 hwrong.2
        · next hright =>
          have htype : nodeType = .invalid ∨ descriptor.target.nodeType = nodeType := by
            rw [Bool.and_eq_true, bne_iff_ne, bne_iff_ne, not_and_or, not_not, not_not] at hright
            exact hright
          split
          · next env' hmalloc =>
            refine .intact (fun name' h => ?_) fun _ => .of_eq rfl rfl
            obtain ⟨env'', -, -, hmalloc', -⟩ := hdescriptor h
            rw [hmalloc] at hmalloc'
            cases hmalloc'
          · next env' hmalloc =>
            rw [replaceLoadedNode_eq]
            dsimp only
            split
            · next env'' hadd =>
              have hfailed : (D.collectionAdd env').1 = false := by rw [hadd]
              exact .late name ⟨hcreate, hexported, hname, htype, hmalloc, hfailed⟩ rfl rfl
            · next env'' hadd =>
              refine .intact (fun name' h => ?_) nofun
              obtain ⟨env₁, -, -, hmalloc', hfailed⟩ := hdescriptor h
              rw [hmalloc] at hmalloc'
              cases hmalloc'
              rw [hadd] at hfailed
              cases hfailed

/-- A late failure has let go of what had the name. -/
theorem sameNodes_removed_iff (laws : D.RuntimeLaws) {w w' : World D} {name : CString}
    (hentries : w'.engine.loadedNodes = (w.removedByName name).engine.loadedNodes)
    (hruntime : w'.runtime = (w.removedByName name).runtime) :
    SameNodes w w' ↔ ¬((∃ e ∈ w.engine.loadedNodes, e.name = some name) ∨
      ∃ n ∈ D.nodes w.runtime, n.name = some name) := by
  have hnodes := laws.removeNodesByName w.runtime name
  constructor
  · rintro ⟨hsame, hkept⟩ (⟨e, he, hname⟩ | ⟨n, hn, hname⟩)
    · rw [← hsame, hentries] at he
      have hother : cmpByName e (some name) = false := by
        simpa using (List.mem_filter.mp he).2
      rw [cmpByName_iff.mpr ⟨hname, rfl⟩] at hother
      cases hother
    · have hmem := (hkept n).mpr hn
      rw [hruntime] at hmem
      exact ((hnodes n).mp hmem).2 hname
  · intro hnone
    rw [not_or] at hnone
    refine ⟨?_, fun n => ?_⟩
    · rw [hentries]
      refine List.filter_eq_self.mpr fun e he => ?_
      have hother : cmpByName e (some name) ≠ true := fun hcmp =>
        hnone.1 ⟨e, he, (cmpByName_iff.mp hcmp).1⟩
      simpa using hother
    · rw [hruntime]
      refine (hnodes n).trans (and_iff_left_of_imp fun hn hname => hnone.2 ⟨n, hn, hname⟩)

end World

/-- A load that fails leaves the registry and the runtime's nodes as they are, exactly unless it
fails to add its entry after those of its name are gone. -/
theorem failed_load_unchanged_iff (laws : D.RuntimeLaws) (w : World D) (modulePath : CString)
    (nodeType : NodeType) :
    ((w.loadNodeDescriptorAs modulePath nodeType).1 = none →
        World.SameNodes w (w.loadNodeDescriptorAs modulePath nodeType).2) ↔
      ¬w.DisplacesInVain modulePath nodeType := by
  have hcase := w.loadNodeDescriptorAs_case modulePath nodeType
  generalize w.loadNodeDescriptorAs modulePath nodeType = r at hcase
  cases hcase with
  | intact hnot hsame =>
    refine iff_of_true hsame ?_
    rintro ⟨name, hlate, -⟩
    exact hnot name hlate
  | late name hlate hentries hruntime =>
    have hiff := World.sameNodes_removed_iff laws hentries hruntime
    constructor
    · rintro hsame ⟨name', hlate', hheld⟩
      rw [← hlate.unique hlate'] at hheld
      exact hiff.mp (hsame rfl) hheld
    · exact fun hnot _ => hiff.mpr fun hheld => hnot ⟨name, hlate, hheld⟩

namespace Reference

/-- A world in which the next entry gets its memory, and not its place in the list. -/
def lowMemory (w : World deps) : World deps :=
  { w with env := { w.env with allocations := [true, false] } }

def otherPath : CString := ⟨[111], by decide⟩

/-- A plugin of another name than the module's at `modulePath`. -/
def otherDescriptor : Pointer NodeDescriptor :=
  ⟨3, { descriptor.target with name := some ⟨[112], by decide⟩ }⟩

/-- An engine with a loaded module and a node of it, and another module to load. -/
def offered : World deps :=
  { loadedWorld with
    env := { loadedWorld.env with modules := [(otherPath, otherDescriptor)] } }

end Reference

/-- The load of the other module fails late, and keeps the loaded one and its node. -/
theorem failed_load_unchanged_reference :
    ((Reference.lowMemory Reference.offered).loadNodeDescriptorAs Reference.otherPath
        .invalid).1 = none ∧
      World.SameNodes (Reference.lowMemory Reference.offered)
        ((Reference.lowMemory Reference.offered).loadNodeDescriptorAs Reference.otherPath
          .invalid).2 ∧
      Reference.offered.engine.loadedNodes.map LoadedNode.name =
        [Reference.descriptor.target.name] ∧
      (Reference.Runtime.nodes Reference.offered.runtime).map Node.name =
        [Reference.descriptor.target.name] := by
  refine ⟨rfl, (failed_load_unchanged_iff Reference.runtimeLaws _ Reference.otherPath
    .invalid).mpr ?_ rfl, rfl, rfl⟩
  rintro ⟨name, hlate, hheld⟩
  have hother : name = ⟨[112], by decide⟩ := by
    obtain ⟨hcreate, hexported, hname, -, -, -⟩ := hlate
    cases hcreate
    cases hexported
    exact (Option.some.inj hname).symm
  subst hother
  revert hheld
  decide

/-- A second load of a module that fails to add its entry loses the module and its node. -/
theorem failed_load_displaces :
    ¬∀ (w : World Reference.deps) (modulePath : CString) (nodeType : NodeType),
      (w.loadNodeDescriptorAs modulePath nodeType).1 = none →
        World.SameNodes w (w.loadNodeDescriptorAs modulePath nodeType).2 := by
  intro h
  have hsame := h (Reference.lowMemory Reference.loadedWorld) Reference.modulePath .invalid rfl
  exact absurd hsame.loadedNodes (by decide)

end RtsynEngine
