import Mathlib.Data.List.TakeDrop
import RtsynEngine.Proof.Naming
import RtsynEngine.Proof.Rejection
import RtsynEngine.Proof.Sampling

/-! Parameter values: from a `SET_PARAM` message to the node, and back in the sample of a state.
The handler passes on an untyped pointer, which the node reads at the type that its descriptor
declares. -/

namespace RtsynEngine

variable {D : Deps} {L : Limits}

/-- A value of the node ABI.  Floats are their bits, and a string ends at its first NUL. -/
inductive AbiValue
  | f32 (bits : UInt32)
  | f64 (bits : UInt64)
  | i64 (value : Int64)
  | u64 (value : UInt64)
  | string (value : CString)
deriving DecidableEq

def AbiValue.type : AbiValue → ValueType
  | .f32 _ => .f32
  | .f64 _ => .f64
  | .i64 _ => .i64
  | .u64 _ => .u64
  | .string _ => .string

/-- What a reader finds that reads a pointer at the type it was made for; an `I64` is an `int`. -/
def ParamPointer.value : ParamPointer L → AbiValue
  | .f32 bits => .f32 bits
  | .f64 bits => .f64 bits
  | .int value => .i64 value.toInt64
  | .u64 value => .u64 value
  | .string buffer => .string (CString.ofBytes buffer.toList)

/-- The value in a message's union. -/
def ParamPayload.Carries (payload : ParamPayload L) : AbiValue → Prop
  | .f32 bits => payload.f32 = bits
  | .f64 bits => payload.f64 = bits
  | .i64 value => payload.i64 = value
  | .u64 value => payload.u64 = value
  | .string value => CString.ofBytes payload.string.toList = value

/-- The type that a node's descriptor declares for a parameter. -/
def Deps.declaredType (D : Deps) (r : D.Runtime) (nodeId paramId : UInt32) : Option ValueType :=
  (D.getNode r nodeId).bind fun node =>
    if paramId < node.descriptor.target.paramCount then
      node.descriptor.target.params[paramId.toNat]?.map ValueDescriptor.valueType
    else none

/-- A node reads the pointer that it gets for a parameter at the parameter's declared type, and
takes the value that it finds there or refuses it.  `read` is what memory holds at the pointer for a
reader of that type, `accepts` what the runtime and the node let through, and `value` the value that
a parameter was last given. -/
structure Deps.ParamLaws (D : Deps) (read : ParamPointer D.limits → ValueType → AbiValue)
    (accepts : D.Runtime → UInt32 → UInt32 → AbiValue → Bool)
    (value : D.Runtime → UInt32 → UInt32 → Option AbiValue) : Prop where
  own (pointer : ParamPointer D.limits) : read pointer pointer.value.type = pointer.value
  refused {r : D.Runtime} {nodeId paramId : UInt32} {declared : ValueType}
    {pointer : ParamPointer D.limits} : D.declaredType r nodeId paramId = some declared →
      accepts r nodeId paramId (read pointer declared) = false →
      D.setNodeParam r nodeId paramId pointer = none
  taken {r : D.Runtime} {nodeId paramId : UInt32} {declared : ValueType}
    {pointer : ParamPointer D.limits} : D.declaredType r nodeId paramId = some declared →
      accepts r nodeId paramId (read pointer declared) = true →
      ∃ r', D.setNodeParam r nodeId paramId pointer = some r' ∧
        value r' nodeId paramId = some (read pointer declared)

/-- Which parameters the runtime takes values for: it gets an untyped pointer, and a node that sets
the parameter stores whatever it finds there. -/
structure Deps.TakesLaw (D : Deps) (accepts : D.Runtime → UInt32 → UInt32 → AbiValue → Bool)
    (takes : D.Runtime → UInt32 → UInt32 → Bool) : Prop where
  any (r : D.Runtime) (nodeId paramId : UInt32) (v : AbiValue) :
    accepts r nodeId paramId v = takes r nodeId paramId

/-! ### Types -/

/-- An id or the type in a message is invalid; a valid type is one of the five of the ABI. -/
def Deps.InvalidParam (D : Deps) (nodeId paramId : UInt32) (valueType : ValueType) : Prop :=
  nodeId = D.limits.nodeIdInvalid ∨ paramId = D.limits.nodeValueIdInvalid ∨
    D.valueIsValid valueType = false ∨ ∃ code, valueType = .other code

/-- The ids and the type of a message are valid, and the node accepts what it reads in its payload
at the declared type. -/
def Accepts (D : Deps) (read : ParamPointer D.limits → ValueType → AbiValue)
    (accepts : D.Runtime → UInt32 → UInt32 → AbiValue → Bool) (r : D.Runtime)
    (nodeId paramId : UInt32) (valueType declared : ValueType) (payload : ParamPayload D.limits) :
    Prop :=
  nodeId ≠ D.limits.nodeIdInvalid ∧ paramId ≠ D.limits.nodeValueIdInvalid ∧
    D.valueIsValid valueType = true ∧
      ∃ pointer, World.paramPointer valueType payload = some pointer ∧
        accepts r nodeId paramId (read pointer declared) = true

theorem paramPointer_isSome (valueType : ValueType) (payload : ParamPayload L) :
    (∃ pointer, World.paramPointer valueType payload = some pointer) ↔
      ¬∃ code, valueType = .other code := by
  cases valueType <;> simp [World.paramPointer]

section Laws

variable {read : ParamPointer D.limits → ValueType → AbiValue}
  {accepts : D.Runtime → UInt32 → UInt32 → AbiValue → Bool}
  {value : D.Runtime → UInt32 → UInt32 → Option AbiValue}

/-- A message that the node accepts gives the parameter what the node reads; any other message fails
and changes nothing. -/
theorem dispatch_setParam_cases (laws : D.ParamLaws read accepts value) (w : World D)
    (seq : UInt64) (nodeId paramId : UInt32) (valueType : ValueType)
    (payload : ParamPayload D.limits) {declared : ValueType}
    (hdeclared : D.declaredType w.runtime nodeId paramId = some declared) :
    (Accepts D read accepts w.runtime nodeId paramId valueType declared payload ∧
      (w.dispatchCommand ⟨seq, .setParam nodeId paramId valueType payload⟩).1 = true ∧
      ∃ pointer, World.paramPointer valueType payload = some pointer ∧
        value (w.dispatchCommand ⟨seq, .setParam nodeId paramId valueType payload⟩).2.runtime
          nodeId paramId = some (read pointer declared)) ∨
    (¬Accepts D read accepts w.runtime nodeId paramId valueType declared payload ∧
      w.dispatchCommand ⟨seq, .setParam nodeId paramId valueType payload⟩ = (false, w)) := by
  dsimp only [World.dispatchCommand, World.eventSetParam]
  split
  · next hinvalid =>
    refine .inr ⟨?_, rfl⟩
    rintro ⟨hnode, hparam, hvalid, -⟩
    simp [hnode, hparam, hvalid] at hinvalid
  · next hwellFormed =>
    simp only [Bool.or_eq_true, beq_iff_eq, not_or, Bool.not_eq_true'] at hwellFormed
    obtain ⟨⟨hnode, hparam⟩, hvalid⟩ := hwellFormed
    cases hpointer : World.paramPointer valueType payload with
    | none =>
      refine .inr ⟨?_, rfl⟩
      rintro ⟨-, -, -, pointer, hsome, -⟩
      rw [hpointer] at hsome
      cases hsome
    | some pointer =>
      cases haccepts : accepts w.runtime nodeId paramId (read pointer declared) with
      | false =>
        refine .inr ⟨?_, ?_⟩
        · rintro ⟨-, -, -, pointer', hsome, hyes⟩
          cases hpointer.symm.trans hsome
          rw [haccepts] at hyes
          cases hyes
        · dsimp only
          rw [laws.refused hdeclared haccepts]
          rfl
      | true =>
        obtain ⟨r', hset, hvalue⟩ := laws.taken hdeclared haccepts
        refine .inl ⟨⟨hnode, hparam, by simpa using hvalid, pointer, hpointer, haccepts⟩, ?_⟩
        dsimp only
        rw [hset]
        exact ⟨rfl, pointer, rfl, hvalue⟩

theorem accepts_iff {takes : D.Runtime → UInt32 → UInt32 → Bool}
    (takesLaw : D.TakesLaw accepts takes) (r : D.Runtime) (nodeId paramId : UInt32)
    (valueType declared : ValueType) (payload : ParamPayload D.limits) :
    Accepts D read accepts r nodeId paramId valueType declared payload ↔
      ¬D.InvalidParam nodeId paramId valueType ∧ takes r nodeId paramId = true := by
  have hpointer := paramPointer_isSome valueType payload
  simp only [Accepts, Deps.InvalidParam, takesLaw.any, not_or, exists_and_right, hpointer,
    Bool.not_eq_false]
  tauto

/-- A message whose type is not the declared one fails and leaves the parameter as it is, exactly
when its type is the declared one after all, or one of its ids or its type is invalid, or the
runtime takes no values for the parameter. -/
theorem set_param_type_safe_iff {takes : D.Runtime → UInt32 → UInt32 → Bool}
    (laws : D.ParamLaws read accepts value) (takesLaw : D.TakesLaw accepts takes) (w : World D)
    (seq : UInt64) (nodeId paramId : UInt32) (valueType declared : ValueType)
    (payload : ParamPayload D.limits)
    (hdeclared : D.declaredType w.runtime nodeId paramId = some declared) :
    (valueType ≠ declared →
      (w.dispatchCommand ⟨seq, .setParam nodeId paramId valueType payload⟩).1 = false ∧
        value (w.dispatchCommand ⟨seq, .setParam nodeId paramId valueType payload⟩).2.runtime
          nodeId paramId = value w.runtime nodeId paramId) ↔
      valueType = declared ∨ D.InvalidParam nodeId paramId valueType ∨
        takes w.runtime nodeId paramId = false := by
  have haccepts : Accepts D read accepts w.runtime nodeId paramId valueType declared payload ↔ _ :=
    accepts_iff takesLaw w.runtime nodeId paramId valueType declared payload
  rcases dispatch_setParam_cases laws w seq nodeId paramId valueType payload hdeclared with
    ⟨haccepted, htrue, -⟩ | ⟨hrefused, hsame⟩
  · obtain ⟨hvalid, htakes⟩ := haccepts.mp haccepted
    constructor
    · intro hsafe
      by_contra hnot
      rw [not_or] at hnot
      rw [(hsafe hnot.1).1] at htrue
      cases htrue
    · rintro (heq | hinvalid | hnone)
      · exact fun hne => absurd heq hne
      · exact absurd hinvalid hvalid
      · rw [htakes] at hnone
        cases hnone
  · rw [hsame]
    refine ⟨fun _ => .inr ?_, fun _ _ => ⟨rfl, rfl⟩⟩
    by_contra hnot
    rw [not_or, Bool.not_eq_false] at hnot
    exact hrefused (haccepts.mpr hnot)

end Laws

namespace Reference

/-- The first eight bytes at a pointer, in little-endian order; zeros lie behind a shorter
object. -/
def raw : ParamPointer limits → UInt64
  | .f32 bits => bits.toUInt64
  | .f64 bits => bits
  | .int value => value.toUInt32.toUInt64
  | .u64 value => value
  | .string buffer => buffer.toList.foldr (fun b bytes => b.toUInt64 + 256 * bytes) 0

/-- What a node reads at a pointer: its first bytes, and for a string all up to a NUL. -/
def read (pointer : ParamPointer limits) : ValueType → AbiValue
  | .f32 => .f32 (raw pointer).toUInt32
  | .f64 => .f64 (raw pointer)
  | .i64 => .i64 (raw pointer).toUInt32.toInt32.toInt64
  | .u64 | .other _ => .u64 (raw pointer)
  | .string =>
    match pointer with
    | .string buffer => .string (CString.ofBytes buffer.toList)
    | pointer => .string (CString.ofBytes
        ((List.range 8).map fun i => ((raw pointer) >>> UInt64.ofNat (8 * i)).toUInt8))

/-- The runtime takes a value for any node that it has. -/
def takes (r : Runtime) (nodeId _paramId : UInt32) : Bool := r.hasNode nodeId

def accepts (r : Runtime) (nodeId paramId : UInt32) (_value : AbiValue) : Bool :=
  takes r nodeId paramId

/-- The value that a parameter was last given, as its node read it. -/
def paramValue (r : Runtime) (nodeId paramId : UInt32) : Option AbiValue :=
  (r.params.lookup (nodeId, paramId)).bind fun pointer =>
    (deps.declaredType r nodeId paramId).map (read pointer)

theorem setNodeParam_refused {r : Runtime} {nodeId : UInt32} (h : r.hasNode nodeId = false)
    (paramId : UInt32) (pointer : ParamPointer limits) :
    r.setNodeParam nodeId paramId pointer = none := by
  simp [Runtime.setNodeParam, guarded, h]

theorem setNodeParam_taken {r : Runtime} {nodeId : UInt32} (h : r.hasNode nodeId = true)
    (paramId : UInt32) (pointer : ParamPointer limits) :
    r.setNodeParam nodeId paramId pointer =
      some { r with params := ((nodeId, paramId), pointer) :: r.params } := by
  simp [Runtime.setNodeParam, guarded, h]

theorem paramValue_given {r : Runtime} {nodeId paramId : UInt32} {declared : ValueType}
    (h : deps.declaredType r nodeId paramId = some declared) (pointer : ParamPointer limits) :
    paramValue { r with params := ((nodeId, paramId), pointer) :: r.params } nodeId paramId =
      some (read pointer declared) := by
  have hlookup : List.lookup (nodeId, paramId) (((nodeId, paramId), pointer) :: r.params) =
      some pointer := List.lookup_cons_self
  rw [paramValue, hlookup]
  exact congrArg (Option.map (read pointer)) h

theorem paramLaws : deps.ParamLaws read accepts paramValue where
  own pointer := by
    cases pointer with
    | string buffer => rfl
    | _ => simp [ParamPointer.value, AbiValue.type, read, raw]
  refused _ hno := setNodeParam_refused hno _ _
  taken hdeclared hyes := ⟨_, setNodeParam_taken hyes _ _, paramValue_given hdeclared _⟩

theorem takesLaw : deps.TakesLaw accepts takes where
  any _ _ _ _ := rfl

/-- The reference world with one node, whose only parameter has the given type. -/
def tunable (declared : ValueType) : World deps :=
  { world with
    runtime := { world.runtime with
      nodes := [⟨0, .plugin, ⟨2, { descriptor.target with
        paramCount := 1
        params := [⟨none, none, declared⟩]
        paramsHold := Nat.le_refl 1 }⟩, by decide⟩] } }

/-- The union of a message that was given 1.0 as an `F32`. -/
def one : ParamPayload limits where
  f32 := 0x3f800000
  f64 := 0x3f800000
  i64 := 0x3f800000
  u64 := 0x3f800000
  string := #v[0, 0, 128, 63]

/-- The union of a message that was given 91 as an `I64`. -/
def ninetyOne : ParamPayload limits := ⟨91, 91, 91, 91, #v[91, 0, 0, 0]⟩

end Reference

/-- A message of another type reaches the parameter, and one of an invalid type does not. -/
theorem set_param_type_safe_reference :
    (¬(ValueType.f32 ≠ .i64 →
      ((Reference.tunable .i64).dispatchCommand
          ⟨1, .setParam 0 0 .f32 Reference.one⟩).1 = false ∧
        Reference.paramValue ((Reference.tunable .i64).dispatchCommand
            ⟨1, .setParam 0 0 .f32 Reference.one⟩).2.runtime 0 0 =
          Reference.paramValue (Reference.tunable .i64).runtime 0 0)) ∧
      ((Reference.tunable .i64).dispatchCommand
        ⟨1, .setParam 0 0 (.other 9) Reference.one⟩).1 = false := by
  have hsafe (valueType : ValueType) := set_param_type_safe_iff Reference.paramLaws
    Reference.takesLaw (Reference.tunable .i64) 1 0 0 valueType .i64 Reference.one rfl
  constructor
  · rw [hsafe]
    rintro (heq | hinvalid | hnone)
    · cases heq
    · simp [Deps.InvalidParam, Reference.deps, Reference.limits] at hinvalid
    · cases hnone
  · have hinvalid : Reference.deps.InvalidParam 0 0 (.other 9) := .inr (.inr (.inl rfl))
    exact ((hsafe (.other 9)).mpr (.inr (.inl hinvalid)) (by decide)).1

/-- The bits of an `F32` become an `I64`, and the command succeeds. -/
theorem set_param_reinterprets :
    ¬∀ (w : World Reference.deps) (seq : UInt64) (nodeId paramId : UInt32)
      (valueType declared : ValueType) (payload : ParamPayload Reference.limits),
      Reference.deps.declaredType w.runtime nodeId paramId = some declared →
      Reference.deps.valueIsValid valueType = true → valueType ≠ declared →
      (w.dispatchCommand ⟨seq, .setParam nodeId paramId valueType payload⟩).1 = false ∧
        Reference.paramValue
            (w.dispatchCommand ⟨seq, .setParam nodeId paramId valueType payload⟩).2.runtime
            nodeId paramId =
          Reference.paramValue w.runtime nodeId paramId := by
  intro h
  have hfails := (h (Reference.tunable .i64) 1 0 0 .f32 .i64 Reference.one rfl rfl (by decide)).1
  exact absurd hfails (by decide)

/-! ### Values -/

/-- A value that the handler passes on as it is: an `I64` in the range of an `int`, a string that
leaves room for a terminator in the field of a message, and every value of another type. -/
def AbiValue.Transportable (L : Limits) : AbiValue → Prop
  | .i64 value => -2 ^ 31 ≤ value.toInt ∧ value.toInt < 2 ^ 31
  | .string value => value.bytes.length ≤ L.paramStringSize - 1
  | _ => True

/-- A state that holds a value: it has its type, and reading it succeeds and gives the value. -/
def Reflects (state : D.Value) : AbiValue → Prop
  | .f32 bits => D.valueTypeGet state = .f32 ∧ D.valueGetF32 state = some bits
  | .f64 bits => D.valueTypeGet state = .f64 ∧ D.valueGetF64 state = some bits
  | .i64 value => D.valueTypeGet state = .i64 ∧
      ∃ int, D.valueGetInt state = some int ∧ int.toInt64 = value
  | .u64 value => D.valueTypeGet state = .u64 ∧ D.valueGetU64 state = some value
  | .string value => D.valueTypeGet state = .string ∧
      ∃ buffer, D.valueGetString state = some buffer ∧ CString.ofBytes buffer.toList = value

/-- The value in a sample's union, its strings cut to the capacity of the field. -/
def SampleData.Carries : SampleData L → AbiValue → Prop
  | .f32 bits, .f32 bits' => bits = bits'
  | .f64 bits, .f64 bits' => bits = bits'
  | .i64 value, .i64 value' => value = value'
  | .u64 value, .u64 value' => value = value'
  | .string buffer, .string value =>
    (CString.ofBytes buffer.toList).bytes = value.bytes.take (L.telemetryStringSize - 1)
  | _, _ => False

/-- A sample carries a value: it was read, has the value's type and holds it. -/
def SampleCarries (r : Bool × Sample L) (v : AbiValue) : Prop :=
  r.1 = true ∧ r.2.valueType = v.type ∧ r.2.data.Carries v

theorem toInt32_toInt64_eq_iff (value : Int64) :
    value.toInt32.toInt64 = value ↔ -2 ^ 31 ≤ value.toInt ∧ value.toInt < 2 ^ 31 := by
  rw [← Int64.toInt_inj, Int32.toInt_toInt64, Int64.toInt_toInt32, Int.bmod_def]
  omega

theorem strncpy_eq_copyString {n : Nat} (s : CString) :
    strncpy (Vector.replicate n 0) s (n - 1) = copyString (Vector.replicate n 0) (some s) := by
  ext i hi
  have hzero : (Vector.replicate n (0 : UInt8)).get ⟨i, hi⟩ = 0 := Vector.getElem_replicate hi
  simp only [copyString, strncpy, Vector.getElem_setIfInBounds, Vector.getElem_ofFn, hzero]
  grind

/-- The pointer that is passed on for a value has the value's type, and points to the value exactly
when it is transportable. -/
theorem paramPointer_carries {payload : ParamPayload L} {v : AbiValue} (h : payload.Carries v) :
    ∃ pointer, World.paramPointer v.type payload = some pointer ∧ pointer.value.type = v.type ∧
      (pointer.value = v ↔ v.Transportable L) := by
  cases v with
  | f32 bits => exact ⟨_, rfl, rfl, iff_of_true (congrArg _ h) trivial⟩
  | f64 bits => exact ⟨_, rfl, rfl, iff_of_true (congrArg _ h) trivial⟩
  | u64 value => exact ⟨_, rfl, rfl, iff_of_true (congrArg _ h) trivial⟩
  | i64 value =>
    have hvalue : payload.i64 = value := h
    refine ⟨_, rfl, rfl, ?_⟩
    change AbiValue.i64 payload.i64.toInt32.toInt64 = .i64 value ↔ _
    rw [AbiValue.i64.injEq, hvalue]
    exact toInt32_toInt64_eq_iff value
  | string value =>
    have hvalue : CString.ofBytes payload.string.toList = value := h
    refine ⟨_, rfl, rfl, ?_⟩
    have hbytes : (CString.ofBytes (strncpy (Vector.replicate L.paramStringSize 0)
        (CString.ofField payload.string) (L.paramStringSize - 1)).toList).bytes =
          value.bytes.take (L.paramStringSize - 1) := by
      rw [strncpy_eq_copyString, CString.ofBytes_copyString, CString.ofField_bytes, hvalue,
        List.take_take, Nat.min_self]
    change AbiValue.string _ = .string value ↔ value.bytes.length ≤ L.paramStringSize - 1
    rw [AbiValue.string.injEq, ← List.take_eq_self_iff, ← hbytes]
    exact ⟨congrArg CString.bytes, CString.ext⟩

/-- The sample of a state that holds a value carries it. -/
theorem sampleCarries_of_reflects {state : D.Value} {v : AbiValue} (h : Reflects state v)
    (timestampNs : UInt64) (nodeId valueId : UInt32) (sampleOffset : UInt16)
    (valueKind : ValueKind) (source : TelemetrySource) :
    SampleCarries
      (eventSampleValue state timestampNs nodeId valueId sampleOffset valueKind source) v := by
  have hread : ∃ data, readValue state = some data ∧ D.valueTypeGet state = v.type ∧
      data.Carries v := by
    unfold readValue
    cases v with
    | f32 bits =>
      rw [h.1, h.2]
      exact ⟨_, rfl, rfl, rfl⟩
    | f64 bits =>
      rw [h.1, h.2]
      exact ⟨_, rfl, rfl, rfl⟩
    | u64 value =>
      rw [h.1, h.2]
      exact ⟨_, rfl, rfl, rfl⟩
    | i64 value =>
      obtain ⟨htype, int, hint, hvalue⟩ := h
      rw [htype, hint]
      exact ⟨_, rfl, rfl, hvalue⟩
    | string value =>
      obtain ⟨htype, buffer, hbuffer, hvalue⟩ := h
      rw [htype, hbuffer]
      refine ⟨_, rfl, rfl, ?_⟩
      change (CString.ofBytes (copyString _ (some (CString.ofBytes buffer.toList))).toList).bytes =
        value.bytes.take _
      rw [CString.ofBytes_copyString, hvalue]
  obtain ⟨data, hdata, htype, hcarries⟩ := hread
  rcases eventSampleValue_eq state timestampNs nodeId valueId sampleOffset valueKind source with
    ⟨hnone, -⟩ | ⟨data', hdata', hsample⟩
  · rw [hdata] at hnone
    cases hnone
  · cases hdata.symm.trans hdata'
    rw [hsample]
    exact ⟨rfl, htype, hcarries⟩

/-- When a message that carries a value for a parameter of its type succeeds, the node has received
that value, and the sample of a state that reflects what the node received carries it again, exactly
when the value is transportable. -/
theorem values_unchanged_iff {read : ParamPointer D.limits → ValueType → AbiValue}
    {accepts : D.Runtime → UInt32 → UInt32 → AbiValue → Bool}
    {value : D.Runtime → UInt32 → UInt32 → Option AbiValue}
    (laws : D.ParamLaws read accepts value) (w : World D) (seq : UInt64) (nodeId paramId : UInt32)
    (payload : ParamPayload D.limits) (v : AbiValue) (hcarries : payload.Carries v)
    (hdeclared : D.declaredType w.runtime nodeId paramId = some v.type)
    (hreturned : (w.dispatchCommand ⟨seq, .setParam nodeId paramId v.type payload⟩).1 = true) :
    (value (w.dispatchCommand ⟨seq, .setParam nodeId paramId v.type payload⟩).2.runtime nodeId
          paramId = some v ∧
        ∀ received,
          value (w.dispatchCommand ⟨seq, .setParam nodeId paramId v.type payload⟩).2.runtime nodeId
            paramId = some received →
          ∀ state : D.Value, Reflects state received →
            ∀ timestampNs node valueId sampleOffset valueKind source,
              SampleCarries (eventSampleValue state timestampNs node valueId sampleOffset valueKind
                source) v) ↔
      v.Transportable D.limits := by
  obtain ⟨pointer, hpointer, htype, htransportable⟩ := paramPointer_carries hcarries
  rcases dispatch_setParam_cases laws w seq nodeId paramId v.type payload hdeclared with
    ⟨-, -, pointer', hpointer', hvalue⟩ | ⟨-, hfailed⟩
  · cases hpointer.symm.trans hpointer'
    have hreceived : read pointer v.type = pointer.value := by rw [← htype, laws.own]
    rw [hreceived] at hvalue
    rw [hvalue, ← htransportable, Option.some.injEq]
    constructor
    · exact fun h => h.1
    · intro heq
      refine ⟨heq, ?_⟩
      rintro received hsome state hreflects
      cases hsome
      rw [heq] at hreflects
      exact sampleCarries_of_reflects hreflects
  · rw [hfailed] at hreturned
    cases hreturned

theorem values_unchanged_reference :
    Reference.paramValue ((Reference.tunable .i64).dispatchCommand
      ⟨1, .setParam 0 0 .i64 Reference.ninetyOne⟩).2.runtime 0 0 = some (.i64 91) :=
  ((values_unchanged_iff Reference.paramLaws (Reference.tunable .i64) 1 0 0 Reference.ninetyOne
    (.i64 91) rfl rfl rfl).mpr ⟨by decide, by decide⟩).1

/-- The union of a message that was given 2^32 as an `I64`. -/
def Reference.large : ParamPayload limits :=
  ⟨0, 0x100000000, 0x100000000, 0x100000000, #v[0, 0, 0, 0]⟩

/-- The node receives 0 for 2^32, and the command succeeds. -/
theorem large_value_altered :
    ¬∀ (w : World Reference.deps) (seq : UInt64) (nodeId paramId : UInt32)
      (payload : ParamPayload Reference.limits) (v : AbiValue), payload.Carries v →
      Reference.deps.declaredType w.runtime nodeId paramId = some v.type →
      (w.dispatchCommand ⟨seq, .setParam nodeId paramId v.type payload⟩).1 = true →
      Reference.paramValue
        (w.dispatchCommand ⟨seq, .setParam nodeId paramId v.type payload⟩).2.runtime nodeId
        paramId = some v := by
  intro h
  have hreceived := h (Reference.tunable .i64) 1 0 0 Reference.large (.i64 0x100000000) rfl rfl rfl
  exact absurd hreceived (by decide)

end RtsynEngine
