import RtsynEngine.Message

/-! The copy of a descriptor into a result record: `rtsyn_engine_copy_string` and
`rtsyn_engine_result_copy_descriptor`. -/

namespace RtsynEngine

/-- `strncpy` into an array, for a count within it. -/
def strncpy {n : Nat} (destination : Vector UInt8 n) (source : CString) (count : Nat) :
    Vector UInt8 n :=
  Vector.ofFn fun i => if i < count then source.bytes.getD i 0 else destination.get i

/-- `rtsyn_engine_copy_string` with the size of the destination array. -/
def copyString {n : Nat} (destination : Vector UInt8 n) (source : Option CString) :
    Vector UInt8 n :=
  match source with
  | none => destination.setIfInBounds 0 0
  | some source => (strncpy destination source (n - 1)).setIfInBounds (n - 1) 0

/-- The loop `for (i = 0; i < count; i++)` that rewrites entry `i` of an array. -/
def fillEntries {α : Type} {n : Nat} (entries : Vector α n) (count : Nat) (hcount : count ≤ n)
    (fill : Fin count → α → α) : Vector α n :=
  Fin.foldl count (fun v i => v.set i (fill i v[i])) entries

/-- A copied entry's index in the descriptor's array. -/
def sourceIndex {count capacity length : Nat} (h : count ≤ length)
    (i : Fin (min count capacity)) : Fin length :=
  ⟨i, Nat.lt_of_lt_of_le i.isLt (Nat.le_trans (Nat.min_le_left _ _) h)⟩

variable {L : Limits}

def fillPort (i : Nat) (d : PortDescriptor) (result : ResultPort L) : ResultPort L where
  id := UInt32.ofNat i
  valueType := d.valueType
  direction := d.direction
  name := copyString result.name d.name

def fillValue {nameSize descriptionSize : Nat} (i : Nat) (d : ValueDescriptor)
    (result : ResultValue nameSize descriptionSize) : ResultValue nameSize descriptionSize where
  id := UInt32.ofNat i
  valueType := d.valueType
  name := copyString result.name d.name
  description := copyString result.description d.description

/-- `rtsyn_engine_result_copy_descriptor`; `memset` discards what the record held. -/
def resultCopyDescriptor (_result : ResultNodeDescriptor L) (d : NodeDescriptor) :
    ResultNodeDescriptor L :=
  let result := ResultNodeDescriptor.zero L
  { nodeType := d.nodeType
    portCount := d.portCount
    paramCount := d.paramCount
    stateCount := d.stateCount
    name := copyString result.name d.name
    ports := fillEntries result.ports (min d.portCount.toNat L.portCapacity)
      (Nat.min_le_right _ _) fun i => fillPort i (d.ports.get (sourceIndex d.portsHold i))
    params := fillEntries result.params (min d.paramCount.toNat L.paramCapacity)
      (Nat.min_le_right _ _) fun i => fillValue i (d.params.get (sourceIndex d.paramsHold i))
    states := fillEntries result.states (min d.stateCount.toNat L.stateCapacity)
      (Nat.min_le_right _ _) fun i => fillValue i (d.states.get (sourceIndex d.statesHold i)) }

end RtsynEngine
