import RtsynEngine.Proof.Image
import RtsynEngine.Reference

/-! The copy of a descriptor: the bounds of its writes, and the descriptors that have the same
record. -/

namespace RtsynEngine

variable {L : Limits}

/-- Two fields are equal exactly when the same prefix of their strings fits. -/
theorem HoldsString.eq_iff {n : Nat} {s s' : Option CString} {field field' : Vector UInt8 n}
    (h : HoldsString s field) (h' : HoldsString s' field') :
    field = field' ↔ fitting n s = fitting n s' := by
  constructor
  · rintro rfl
    cases n with
    | zero => simp [fitting]
    | succ n =>
      have hread : ∀ {t}, HoldsString t field →
          (CString.ofBytes field.toList).bytes = fitting (n + 1) t := by
        intro t ht
        have hlength : (fitting (n + 1) t).length < n + 1 := fitting_length_lt (Nat.succ_pos n) t
        have hpos : n + 1 - (fitting (n + 1) t).length = n - (fitting (n + 1) t).length + 1 := by
          omega
        rw [ht.bytes, hpos, List.replicate_succ,
          CString.ofBytes_append_zero (zero_notMem_fitting _ _)]
      rw [← hread h, hread h']
  · intro heq
    apply Vector.toList_inj.mp
    rw [h.bytes, h'.bytes, heq]

/-- Two ports of descriptors that a record does not tell apart. -/
structure SamePort (L : Limits) (d d' : PortDescriptor) : Prop where
  valueType : d.valueType = d'.valueType
  direction : d.direction = d'.direction
  name : fitting L.portNameSize d.name = fitting L.portNameSize d'.name

/-- Two parameters or states of descriptors that a record does not tell apart. -/
structure SameValue (nameSize descriptionSize : Nat) (d d' : ValueDescriptor) : Prop where
  valueType : d.valueType = d'.valueType
  name : fitting nameSize d.name = fitting nameSize d'.name
  description : fitting descriptionSize d.description = fitting descriptionSize d'.description

/-- Two arrays of descriptors agree on the entries that a record has room for. -/
def SameEntries {β : Type} (Same : β → β → Prop) (count : UInt32) (capacity : Nat)
    (source source' : List β) : Prop :=
  ∀ i < min count.toNat capacity,
    ∃ d d', source[i]? = some d ∧ source'[i]? = some d' ∧ Same d d'

theorem PortImage.eq_iff {i : Nat} {d d' : PortDescriptor} {p p' : ResultPort L}
    (h : PortImage i d p) (h' : PortImage i d' p') : p = p' ↔ SamePort L d d' := by
  constructor
  · rintro rfl
    exact ⟨h.valueType.symm.trans h'.valueType, h.direction.symm.trans h'.direction,
      (h.name.eq_iff h'.name).mp rfl⟩
  · intro hsame
    have hid : p.id = p'.id := UInt32.toNat_inj.mp (h.id.trans h'.id.symm)
    have htype : p.valueType = p'.valueType := by
      rw [h.valueType, h'.valueType, hsame.valueType]
    have hdirection : p.direction = p'.direction := by
      rw [h.direction, h'.direction, hsame.direction]
    have hname := (h.name.eq_iff h'.name).mpr hsame.name
    cases p
    cases p'
    congr

theorem ValueImage.eq_iff {nameSize descriptionSize : Nat} {i : Nat} {d d' : ValueDescriptor}
    {v v' : ResultValue nameSize descriptionSize} (h : ValueImage i d v)
    (h' : ValueImage i d' v') : v = v' ↔ SameValue nameSize descriptionSize d d' := by
  constructor
  · rintro rfl
    exact ⟨h.valueType.symm.trans h'.valueType, (h.name.eq_iff h'.name).mp rfl,
      (h.description.eq_iff h'.description).mp rfl⟩
  · intro hsame
    have hid : v.id = v'.id := UInt32.toNat_inj.mp (h.id.trans h'.id.symm)
    have htype : v.valueType = v'.valueType := by
      rw [h.valueType, h'.valueType, hsame.valueType]
    have hname := (h.name.eq_iff h'.name).mpr hsame.name
    have hdescription := (h.description.eq_iff h'.description).mpr hsame.description
    cases v
    cases v'
    congr

theorem EntriesImage.eq_iff {α β : Type} {n : Nat} {Image : Nat → β → α → Prop}
    {Same : β → β → Prop} {zero : α} {count : UInt32} {source source' : List β}
    {entries entries' : Vector α n} (h : EntriesImage Image zero count source entries)
    (h' : EntriesImage Image zero count source' entries')
    (heq : ∀ {i d d' a a'}, Image i d a → Image i d' a' → (a = a' ↔ Same d d')) :
    entries = entries' ↔ SameEntries Same count n source source' := by
  constructor
  · rintro rfl i hi
    obtain ⟨d, hd, himage⟩ := (h i (by omega)).1 (by omega)
    obtain ⟨d', hd', himage'⟩ := (h' i (by omega)).1 (by omega)
    exact ⟨d, d', hd, hd', (heq himage himage').mp rfl⟩
  · intro hsame
    ext i hi
    by_cases hcount : i < count.toNat
    · obtain ⟨d, hd, himage⟩ := (h i hi).1 hcount
      obtain ⟨d', hd', himage'⟩ := (h' i hi).1 hcount
      obtain ⟨e, e', he, he', hentry⟩ := hsame i (by omega)
      cases hd.symm.trans he
      cases hd'.symm.trans he'
      exact (heq himage himage').mpr hentry
    · rw [(h i hi).2 (by omega), (h' i hi).2 (by omega)]

/-- Two descriptors have the same type and counts and agree on the entries that a record has room
for. -/
structure SameContent (L : Limits) (d d' : NodeDescriptor) : Prop where
  nodeType : d.nodeType = d'.nodeType
  portCount : d.portCount = d'.portCount
  paramCount : d.paramCount = d'.paramCount
  stateCount : d.stateCount = d'.stateCount
  ports : SameEntries (SamePort L) d.portCount L.portCapacity d.ports d'.ports
  params : SameEntries (SameValue L.paramNameSize L.paramDescriptionSize) d.paramCount
    L.paramCapacity d.params d'.params
  states : SameEntries (SameValue L.stateNameSize L.stateDescriptionSize) d.stateCount
    L.stateCapacity d.states d'.states

theorem DescriptorImage.eq_iff {d d' : NodeDescriptor} {r r' : ResultNodeDescriptor L}
    (h : DescriptorImage d r) (h' : DescriptorImage d' r') :
    r = r' ↔ SameContent L d d' ∧
      fitting L.resultNameSize d.name = fitting L.resultNameSize d'.name := by
  have hentries : ∀ (hports : d.portCount = d'.portCount) (hparams : d.paramCount = d'.paramCount)
      (hstates : d.stateCount = d'.stateCount),
      (r.ports = r'.ports ↔
        SameEntries (SamePort L) d.portCount L.portCapacity d.ports d'.ports) ∧
      (r.params = r'.params ↔ SameEntries (SameValue L.paramNameSize L.paramDescriptionSize)
        d.paramCount L.paramCapacity d.params d'.params) ∧
      (r.states = r'.states ↔ SameEntries (SameValue L.stateNameSize L.stateDescriptionSize)
        d.stateCount L.stateCapacity d.states d'.states) := by
    intro hports hparams hstates
    exact ⟨h.ports.eq_iff (hports ▸ h'.ports) PortImage.eq_iff,
      h.params.eq_iff (hparams ▸ h'.params) ValueImage.eq_iff,
      h.states.eq_iff (hstates ▸ h'.states) ValueImage.eq_iff⟩
  constructor
  · rintro rfl
    have hports := h.portCount.symm.trans h'.portCount
    have hparams := h.paramCount.symm.trans h'.paramCount
    have hstates := h.stateCount.symm.trans h'.stateCount
    obtain ⟨hsamePorts, hsameParams, hsameStates⟩ := hentries hports hparams hstates
    exact ⟨⟨h.nodeType.symm.trans h'.nodeType, hports, hparams, hstates, hsamePorts.mp rfl,
      hsameParams.mp rfl, hsameStates.mp rfl⟩, (h.name.eq_iff h'.name).mp rfl⟩
  · rintro ⟨hsame, hname⟩
    obtain ⟨hsamePorts, hsameParams, hsameStates⟩ :=
      hentries hsame.portCount hsame.paramCount hsame.stateCount
    have htype : r.nodeType = r'.nodeType := by rw [h.nodeType, h'.nodeType, hsame.nodeType]
    have hportCount : r.portCount = r'.portCount := by
      rw [h.portCount, h'.portCount, hsame.portCount]
    have hparamCount : r.paramCount = r'.paramCount := by
      rw [h.paramCount, h'.paramCount, hsame.paramCount]
    have hstateCount : r.stateCount = r'.stateCount := by
      rw [h.stateCount, h'.stateCount, hsame.stateCount]
    have hfield := (h.name.eq_iff h'.name).mpr hname
    have hports := hsamePorts.mpr hsame.ports
    have hparams := hsameParams.mpr hsame.params
    have hstates := hsameStates.mpr hsame.states
    cases r
    cases r'
    congr

/-! ### Bounds -/

/-- `strncpy` on memory: it writes `count` bytes. -/
def strncpyAt (memory : Nat → UInt8) (destination : Nat) (source : CString) (count : Nat) :
    Nat → UInt8 :=
  fun a => if destination ≤ a ∧ a < destination + count then source.bytes.getD (a - destination) 0
    else memory a

/-- `rtsyn_engine_copy_string` on memory, with the address and the size that it gets. -/
def copyStringAt (memory : Nat → UInt8) (destination size : Nat) (source : Option CString) :
    Nat → UInt8 :=
  if size = 0 then memory
  else
    match source with
    | none => Function.update memory destination 0
    | some source =>
      Function.update (strncpyAt memory destination source (size - 1)) (destination + (size - 1)) 0

/-- The field that memory holds at an address. -/
def fieldAt (memory : Nat → UInt8) (destination size : Nat) : Vector UInt8 size :=
  Vector.ofFn fun i => memory (destination + i)

theorem copyStringAt_outside (memory : Nat → UInt8) (destination size : Nat)
    (source : Option CString) {a : Nat} (ha : a < destination ∨ destination + size ≤ a) :
    copyStringAt memory destination size source a = memory a := by
  unfold copyStringAt
  split
  · rfl
  · next hsize =>
    split
    · exact Function.update_of_ne (by omega) _ _
    · rw [Function.update_of_ne (by omega), strncpyAt, if_neg (by omega)]

theorem fieldAt_copyStringAt (memory : Nat → UInt8) (destination size : Nat)
    (source : Option CString) :
    fieldAt (copyStringAt memory destination size source) destination size =
      copyString (fieldAt memory destination size) source := by
  ext i hi
  have hsize : size ≠ 0 := by omega
  cases source with
  | none =>
    simp only [fieldAt, copyStringAt, copyString, hsize, if_false, Vector.getElem_ofFn,
      Vector.getElem_setIfInBounds, Function.update_apply]
    grind
  | some source =>
    simp only [fieldAt, copyStringAt, copyString, hsize, if_false, Vector.getElem_ofFn,
      Vector.getElem_setIfInBounds, Function.update_apply, strncpyAt, strncpy]
    grind

/-- The copy of a descriptor stays in the record: a string copy writes its field as in the model and
nothing around it, and in memory that goes on after an array the array's loop writes nothing behind
it. -/
structure StaysInside (L : Limits) (d : NodeDescriptor) : Prop where
  field : ∀ memory destination size source,
    fieldAt (copyStringAt memory destination size source) destination size =
        copyString (fieldAt memory destination size) source ∧
      ∀ a, a < destination ∨ destination + size ≤ a →
        copyStringAt memory destination size source a = memory a
  ports : ∀ extra (memory : Vector (ResultPort L) (L.portCapacity + extra)) fill,
    ∀ i (hi : i < L.portCapacity + extra), L.portCapacity ≤ i →
      (fillEntries memory (min d.portCount.toNat L.portCapacity) (by omega) fill)[i] = memory[i]
  params : ∀ extra (memory : Vector (ResultValue L.paramNameSize L.paramDescriptionSize)
      (L.paramCapacity + extra)) fill,
    ∀ i (hi : i < L.paramCapacity + extra), L.paramCapacity ≤ i →
      (fillEntries memory (min d.paramCount.toNat L.paramCapacity) (by omega) fill)[i] = memory[i]
  states : ∀ extra (memory : Vector (ResultValue L.stateNameSize L.stateDescriptionSize)
      (L.stateCapacity + extra)) fill,
    ∀ i (hi : i < L.stateCapacity + extra), L.stateCapacity ≤ i →
      (fillEntries memory (min d.stateCount.toNat L.stateCapacity) (by omega) fill)[i] = memory[i]

theorem fillEntries_outside {α : Type} {capacity extra : Nat} (count : UInt32)
    (memory : Vector α (capacity + extra)) (fill : Fin (min count.toNat capacity) → α → α) (i : Nat)
    (hi : i < capacity + extra) (houtside : capacity ≤ i) :
    (fillEntries memory (min count.toNat capacity) (by omega) fill)[i] = memory[i] := by
  rw [fillEntries_getElem, dif_neg (by omega)]

theorem copy_staysInside (L : Limits) (d : NodeDescriptor) : StaysInside L d where
  field memory destination size source :=
    ⟨fieldAt_copyStringAt memory destination size source,
      fun _ => copyStringAt_outside memory destination size source⟩
  ports _ := fillEntries_outside d.portCount
  params _ := fillEntries_outside d.paramCount
  states _ := fillEntries_outside d.stateCount

/-- The record of a descriptor is its image, whatever it held before, and is written within its
bounds; two descriptors have the same record exactly when they agree up to truncation, name
included. -/
theorem copy_descriptor_faithful (result : ResultNodeDescriptor L) (d : NodeDescriptor) :
    DescriptorImage d (resultCopyDescriptor result d) ∧ StaysInside L d ∧
      ∀ result' d', resultCopyDescriptor result d = resultCopyDescriptor result' d' ↔
        SameContent L d d' ∧
          fitting L.resultNameSize d.name = fitting L.resultNameSize d'.name :=
  ⟨descriptorImage_copy result d, copy_staysInside L d, fun result' d' =>
    (descriptorImage_copy result d).eq_iff (descriptorImage_copy result' d')⟩

/-- A plugin without ports, parameters or states. -/
def Reference.bare (name : Option CString) : NodeDescriptor := { descriptor.target with name }

/-- The name alone tells two records apart. -/
theorem copy_tells_names_apart :
    ¬∀ (result result' : ResultNodeDescriptor Reference.limits) (d d' : NodeDescriptor),
      resultCopyDescriptor result d = resultCopyDescriptor result' d' ↔
        SameContent Reference.limits d d' := by
  intro h
  have hsame : SameContent Reference.limits (Reference.bare none)
      (Reference.bare (some ⟨[110], by decide⟩)) :=
    ⟨rfl, rfl, rfl, rfl, fun _ hi => absurd hi (by simp [Reference.bare, Reference.descriptor]),
      fun _ hi => absurd hi (by simp [Reference.bare, Reference.descriptor]),
      fun _ hi => absurd hi (by simp [Reference.bare, Reference.descriptor])⟩
  have hequal := (h (ResultNodeDescriptor.zero _) (ResultNodeDescriptor.zero _) _ _).mpr hsame
  exact absurd (congrArg ResultNodeDescriptor.name hequal) (by decide)

end RtsynEngine
