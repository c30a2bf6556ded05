import Mathlib.Data.Nat.Bitwise
import RtsynEngine.Proof.Frames
import RtsynEngine.Reference

/-! What `rtsyn_engine_event_publish_requested_values` sends: one batch for each used slot whose
node is there and has a readable value, with the readable values of the slot's masks and no
others. -/

namespace RtsynEngine

variable {D : Deps} {L : Limits}

/-- The ids of a mask's bits, in ascending order. -/
def maskIds (mask : UInt64) : List Nat := (List.range 64).filter mask.toNat.testBit

/-- What a value reads as, if its type is one of the ABI's and reading it succeeds. -/
def readValue (value : D.Value) : Option (SampleData D.limits) :=
  match D.valueTypeGet value with
  | .f32 => (D.valueGetF32 value).map .f32
  | .f64 => (D.valueGetF64 value).map .f64
  | .i64 => (D.valueGetInt value).map fun v => .i64 v.toInt64
  | .u64 => (D.valueGetU64 value).map .u64
  | .string => (D.valueGetString value).map fun buffer =>
    .string (copyString (Vector.replicate _ 0) (some (CString.ofBytes buffer.toList)))
  | .other _ => none

/-- A value that was requested and could be read. -/
structure Reading (L : Limits) where
  valueKind : ValueKind
  valueId : UInt32
  valueType : ValueType
  data : SampleData L

/-- What a port shows: its output value if it has one, else its input value. -/
def Deps.portValue (D : Deps) (r : D.Runtime) (nodeId portId : UInt32) : Option D.Value :=
  (D.getNodePortValue r nodeId portId .output).or (D.getNodePortValue r nodeId portId .input)

/-- The source of a node's values: the node is a plugin or a device of the runtime. -/
def Deps.nodeSource (D : Deps) (r : D.Runtime) (nodeId : UInt32) : Option TelemetrySource :=
  (D.getNode r nodeId).bind fun node =>
    if node.nodeType = .plugin then some .plugin
    else if node.nodeType = .device then some .device
    else none

/-- The readable values among those that `lookup` finds for a mask. -/
def readings (valueKind : ValueKind) (mask : UInt64) (lookup : UInt32 → Option D.Value) :
    List (Reading D.limits) :=
  (maskIds mask).filterMap fun id =>
    (lookup (UInt32.ofNat id)).bind fun value =>
      (readValue value).map fun data => ⟨valueKind, UInt32.ofNat id, D.valueTypeGet value, data⟩

/-- The sample of a reading at an index of its batch. -/
def Reading.sample (cycleId timestampNs : UInt64) (nodeId : UInt32) (source : TelemetrySource)
    (i : Nat) (r : Reading L) : Sample L where
  cycleId := cycleId
  timestampNs := timestampNs
  nodeId := nodeId
  valueId := r.valueId
  sampleOffset := UInt16.ofNat i
  valueKind := r.valueKind
  source := source
  valueType := r.valueType
  data := r.data

/-- A call of `publish_values`. -/
structure ValuesCall (L : Limits) where
  nodeId : UInt32
  source : TelemetrySource
  samples : List (Sample L)

namespace World

/-- The readable ports of a slot, then its readable states. -/
def requestedReadings (w : World D) (s : Subscription) : List (Reading D.limits) :=
  readings .port s.portValuesMask (D.portValue w.runtime s.nodeId) ++
    readings .state s.variableMask (D.getNodeState w.runtime s.nodeId)

/-- The call for a slot: none if it is unused, its node is neither a plugin nor a device of the
runtime, or nothing can be read. -/
def slotCall (w : World D) (timestampNs : UInt64) (s : Subscription) :
    Option (ValuesCall D.limits) :=
  (D.nodeSource w.runtime s.nodeId).bind fun source =>
    let rs := w.requestedReadings s
    if s.used = true ∧ rs ≠ [] then
      some ⟨s.nodeId, source,
        rs.mapIdx (Reading.sample w.engine.cycleId timestampNs s.nodeId source)⟩
    else none

def slotCallAt (w : World D) (timestampNs : UInt64) (i : Fin D.limits.subscriptionCapacity) :
    Option (ValuesCall D.limits) :=
  w.slotCall timestampNs (w.engine.telemetrySubscriptions.get i)

/-- The calls for all slots, in slot order. -/
def slotCalls (w : World D) (timestampNs : UInt64) : List (ValuesCall D.limits) :=
  (List.finRange D.limits.subscriptionCapacity).filterMap (w.slotCallAt timestampNs)

/-- A call, with the conjunction of the results so far. -/
def publishCall (timestampNs : UInt64) (r : Bool × World D) (c : ValuesCall D.limits) :
    Bool × World D :=
  let (sent, w) := r.2.eventPublishValues timestampNs c.nodeId c.source (some c.samples)
  (r.1 && sent, w)

end World

theorem eventSampleValue_eq (value : D.Value) (timestampNs : UInt64) (nodeId valueId : UInt32)
    (sampleOffset : UInt16) (valueKind : ValueKind) (source : TelemetrySource) :
    (readValue value = none ∧ (eventSampleValue value timestampNs nodeId valueId sampleOffset
        valueKind source).1 = false) ∨
      ∃ data, readValue value = some data ∧ eventSampleValue value timestampNs nodeId valueId
        sampleOffset valueKind source = (true, ⟨0, timestampNs, nodeId, valueId, sampleOffset,
          valueKind, source, D.valueTypeGet value, data⟩) := by
  unfold eventSampleValue readValue
  cases D.valueTypeGet value <;> dsimp only
  case f32 => cases D.valueGetF32 value <;> simp
  case f64 => cases D.valueGetF64 value <;> simp
  case i64 => cases D.valueGetInt value <;> simp
  case u64 => cases D.valueGetU64 value <;> simp
  case string => cases D.valueGetString value <;> simp [copyString]
  case other code => simp

/-- The code's test of a bit. -/
theorem mask_test {mask : UInt64} {id : Nat} (hid : id < 64) :
    (mask &&& (1 <<< UInt64.ofNat id) == 0) = !mask.toNat.testBit id := by
  have hshift : (1 <<< UInt64.ofNat id : UInt64).toNat = 2 ^ id := by
    have hlt : 2 ^ id < 2 ^ 64 := Nat.pow_lt_pow_right (by decide) hid
    simpa [UInt64.toNat_shiftLeft, Nat.shiftLeft_eq, Nat.mod_eq_of_lt hid] using hlt
  have hand : (mask &&& (1 <<< UInt64.ofNat id)).toNat =
      (mask.toNat.testBit id).toNat * 2 ^ id := by
    rw [UInt64.toNat_and, hshift, Nat.and_two_pow]
  cases hbit : mask.toNat.testBit id with
  | false =>
    rw [hbit, Bool.toNat_false, Nat.zero_mul] at hand
    simpa using UInt64.toNat_inj.mp hand
  | true =>
    rw [hbit, Bool.toNat_true, Nat.one_mul] at hand
    have hne : mask &&& (1 <<< UInt64.ofNat id) ≠ 0 := by
      intro hzero
      rw [hzero] at hand
      exact absurd hand.symm (Nat.pos_iff_ne_zero.mp (Nat.two_pow_pos id))
    simpa using hne

/-! ### The batch of a slot -/

theorem toList_take_setIfInBounds {α : Type} {n : Nat} (v : Vector α n) (k : Nat) (a : α) :
    (v.setIfInBounds k a).toList.take k = v.toList.take k := by
  rw [Vector.toList_setIfInBounds]
  exact List.take_set_of_le (Nat.le_refl k)

theorem toList_take_succ_setIfInBounds {α : Type} {n : Nat} (v : Vector α n) {k : Nat}
    (hk : k < n) (a : α) :
    (v.setIfInBounds k a).toList.take (k + 1) = v.toList.take k ++ [a] := by
  have hlength : k < (v.setIfInBounds k a).toList.length := by simpa using hk
  rw [List.take_succ_eq_append_getElem hlength, toList_take_setIfInBounds]
  simp

/-- The batch holds the samples of `rs`. -/
structure Batch.Holds (sample : Nat → Reading L → Sample L) (b : Batch L) (rs : List (Reading L)) :
    Prop where
  count : b.count = rs.length
  samples : b.toList = rs.mapIdx sample

namespace Batch.Holds

variable {cycleId timestampNs : UInt64} {nodeId : UInt32} {source : TelemetrySource}
  {b : Batch D.limits} {rs : List (Reading D.limits)}

theorem zero (sample : Nat → Reading L → Sample L) : Batch.Holds sample (Batch.zero L) [] :=
  ⟨rfl, rfl⟩

theorem add (h : b.Holds (Reading.sample cycleId timestampNs nodeId source) rs)
    (hroom : rs.length < 128) (value : D.Value) (valueId : UInt32) (valueKind : ValueKind) :
    (b.add value cycleId timestampNs nodeId valueId valueKind source).Holds
      (Reading.sample cycleId timestampNs nodeId source)
      (rs ++ ((readValue value).map fun data =>
        (⟨valueKind, valueId, D.valueTypeGet value, data⟩ : Reading D.limits)).toList) := by
  have hcount : b.count < 128 := h.count ▸ hroom
  have hsamples := h.samples
  unfold Batch.toList at hsamples
  unfold Batch.add
  rcases eventSampleValue_eq value timestampNs nodeId valueId (UInt16.ofNat b.count) valueKind
    source with ⟨hread, hfalse⟩ | ⟨data, hread, htrue⟩
  · split
    · next sample heq =>
      rw [heq] at hfalse
      cases hfalse
    · rw [hread, Option.map_none, Option.toList_none, List.append_nil]
      refine ⟨h.count, ?_⟩
      dsimp only [Batch.toList]
      rw [toList_take_setIfInBounds, hsamples]
  · rw [htrue, hread, Option.map_some, Option.toList_some]
    refine ⟨by rw [List.length_append, h.count]; rfl, ?_⟩
    dsimp only [Batch.toList]
    rw [toList_take_succ_setIfInBounds _ hcount, hsamples, List.mapIdx_concat, h.count]
    rfl

/-- A loop over ids whose body adds at most one reading. -/
theorem foldl {sample : Nat → Reading L → Sample L} {body : Batch L → Nat → Batch L}
    {read : Nat → Option (Reading L)} {ids : List Nat}
    (hbody : ∀ id ∈ ids, ∀ b rs, rs.length < 128 → Batch.Holds sample b rs →
      Batch.Holds sample (body b id) (rs ++ (read id).toList))
    {b : Batch L} {rs : List (Reading L)} (hroom : rs.length + ids.length ≤ 128)
    (h : b.Holds sample rs) : (ids.foldl body b).Holds sample (rs ++ ids.filterMap read) := by
  induction ids generalizing b rs with
  | nil => simpa using h
  | cons id ids ih =>
    obtain ⟨hfirst, hrest⟩ := List.forall_mem_cons.mp hbody
    rw [List.length_cons] at hroom
    have hadded := hfirst b rs (by omega) h
    have hlength : (read id).toList.length ≤ 1 := by cases read id <;> simp
    have hread : (id :: ids).filterMap read = (read id).toList ++ ids.filterMap read := by
      cases hid : read id <;> simp [hid]
    rw [List.foldl_cons, hread, ← List.append_assoc]
    exact ih hrest (by rw [List.length_append]; omega) hadded

/-- The loop over a mask adds the readable values that it finds, in ascending order. -/
theorem collect (h : b.Holds (Reading.sample cycleId timestampNs nodeId source) rs)
    (hroom : rs.length ≤ 64) (mask : UInt64) (lookup : UInt32 → Option D.Value)
    (valueKind : ValueKind) :
    (b.collect mask lookup cycleId timestampNs nodeId valueKind source).Holds
      (Reading.sample cycleId timestampNs nodeId source)
      (rs ++ readings valueKind mask lookup) := by
  have hids : (List.range 64).length = 64 := List.length_range
  rw [readings, maskIds, List.filterMap_filter]
  refine foldl (fun id hid b rs hroom h => ?_) (by omega) h
  rw [mask_test (List.mem_range.mp hid)]
  cases hbit : mask.toNat.testBit id with
  | false => simpa using h
  | true =>
    cases hlookup : lookup (UInt32.ofNat id) with
    | none => simpa [hlookup] using h
    | some value => simpa [hlookup] using h.add hroom value (UInt32.ofNat id) valueKind

end Batch.Holds

theorem readings_length (valueKind : ValueKind) (mask : UInt64)
    (lookup : UInt32 → Option D.Value) : (readings valueKind mask lookup).length ≤ 64 := by
  have hids : (maskIds mask).length ≤ (List.range 64).length := List.length_filter_le _ _
  rw [List.length_range] at hids
  exact (List.length_filterMap_le _ _).trans hids

namespace World

theorem getNodePortValue_eq (w : World D) (nodeId : UInt32) :
    w.getNodePortValue nodeId = D.portValue w.runtime nodeId := by
  funext portId
  unfold getNodePortValue Deps.portValue
  cases D.getNodePortValue w.runtime nodeId portId .output <;> rfl

/-- The code's lookup gives the source, and `NONE` where there is none. -/
theorem getNodeSource_cases (w : World D) (nodeId : UInt32) :
    (D.nodeSource w.runtime nodeId = none ∧ w.getNodeSource nodeId = .none) ∨
      D.nodeSource w.runtime nodeId = some (w.getNodeSource nodeId) ∧
        w.getNodeSource nodeId ≠ .none := by
  unfold getNodeSource Deps.nodeSource
  cases D.getNode w.runtime nodeId with
  | none => exact .inl ⟨rfl, rfl⟩
  | some node =>
    dsimp only [Option.bind_some]
    cases node.nodeType <;> simp

theorem requestedBatch_holds (w : World D) (s : Subscription) (source : TelemetrySource)
    (timestampNs : UInt64) :
    (w.requestedBatch s source timestampNs).Holds
      (Reading.sample w.engine.cycleId timestampNs s.nodeId source) (w.requestedReadings s) := by
  have hports := (Batch.Holds.zero (Reading.sample (L := D.limits) w.engine.cycleId timestampNs
    s.nodeId source)).collect (Nat.zero_le 64) s.portValuesMask (D.portValue w.runtime s.nodeId)
    .port
  unfold requestedBatch
  rw [List.nil_append] at hports
  rw [getNodePortValue_eq]
  exact hports.collect (readings_length _ _ _) s.variableMask (D.getNodeState w.runtime s.nodeId)
    .state

/-- The body of the loop makes the call of its slot. -/
theorem publishSlot_eq (timestampNs : UInt64) (r : Bool × World D)
    (i : Fin D.limits.subscriptionCapacity) :
    publishSlot timestampNs r i =
      (r.2.slotCallAt timestampNs i).elim r (publishCall timestampNs r) := by
  obtain ⟨published, w⟩ := r
  unfold publishSlot slotCallAt slotCall
  dsimp only
  generalize w.engine.telemetrySubscriptions.get i = s
  have hbatch := w.requestedBatch_holds s (w.getNodeSource s.nodeId) timestampNs
  cases hused : s.used with
  | false => cases D.nodeSource w.runtime s.nodeId <;> simp
  | true =>
    rcases w.getNodeSource_cases s.nodeId with ⟨hspec, hsource⟩ | ⟨hspec, hsource⟩
    · simp [hspec, hsource]
    · rw [hspec, Option.bind_some]
      by_cases hnone : w.requestedReadings s = []
      · have hcount := hbatch.count
        rw [hnone] at hcount
        simp [hnone, hcount]
      · have hcount : (w.requestedBatch s (w.getNodeSource s.nodeId) timestampNs).count ≠ 0 := by
          rw [hbatch.count]
          exact fun hzero => hnone (List.length_eq_zero_iff.mp hzero)
        simp [hsource, hnone, hcount, publishCall, hbatch.samples]

/-- A publisher changes nothing that the calls of the slots depend on. -/
theorem slotCallAt_publishes {w w' : World D} (h : Publishes (fun _ => True) w w')
    (timestampNs : UInt64) : w'.slotCallAt timestampNs = w.slotCallAt timestampNs := by
  have htable : w'.engine.telemetrySubscriptions = w.engine.telemetrySubscriptions := by
    rw [h.engine]
  have hcycleId : w'.engine.cycleId = w.engine.cycleId := by rw [h.engine]
  funext i
  unfold slotCallAt slotCall requestedReadings
  rw [h.runtime, hcycleId, htable]

theorem publishSlots_eq (timestampNs : UInt64) (is : List (Fin D.limits.subscriptionCapacity))
    (r : Bool × World D) :
    is.foldl (publishSlot timestampNs) r =
      (is.filterMap (r.2.slotCallAt timestampNs)).foldl (publishCall timestampNs) r := by
  induction is generalizing r with
  | nil => rfl
  | cons i is ih =>
    have hpublishes : Publishes (fun _ => True) r.2 (publishSlot timestampNs r i).2 :=
      publishSlot_publishes timestampNs r i
    have hrest := ih (publishSlot timestampNs r i)
    rw [slotCallAt_publishes hpublishes, publishSlot_eq] at hrest
    rw [List.foldl_cons, publishSlot_eq, hrest, List.filterMap_cons]
    cases r.2.slotCallAt timestampNs i with
    | none => rfl
    | some c => rfl

end World

/-- The attempt to send the batch of a call. -/
def ValuesCall.SentAs (timestampNs cycleId : UInt64) (c : ValuesCall L) (e : Event L) : Prop :=
  ∃ m accepted, e = .valuesPublish m c.samples accepted ∧ m.timestampNs = timestampNs ∧
    m.data = .valuesWritten cycleId c.nodeId c.source

namespace World

theorem publishCall_sent {r : Bool × World D} (hqueue : r.2.engine.config.telemetryQueue = true)
    (hvalues : r.2.engine.config.telemetryValues = true) (timestampNs : UInt64)
    {c : ValuesCall D.limits} (hsamples : c.samples ≠ []) :
    ∃ e, (publishCall timestampNs r c).2.trace = r.2.trace ++ [e] ∧
      c.SentAs timestampNs r.2.engine.cycleId e ∧
      (publishCall timestampNs r c).1 = (r.1 && e.accepted) := by
  have hpublish : ¬(!r.2.engine.config.telemetryQueue || !r.2.engine.config.telemetryValues
      || c.samples.isEmpty) = true := by
    simpa [hqueue, hvalues] using hsamples
  unfold publishCall eventPublishValues
  dsimp only [nextTelemetrySeq]
  rw [if_neg hpublish]
  split
  · exact ⟨_, rfl, ⟨_, true, rfl, rfl, rfl⟩, rfl⟩
  · exact ⟨_, rfl, ⟨_, false, rfl, rfl, rfl⟩, rfl⟩

theorem publishCalls_sent (timestampNs : UInt64) {calls : List (ValuesCall D.limits)}
    (hcalls : ∀ c ∈ calls, c.samples ≠ []) (r : Bool × World D)
    (hqueue : r.2.engine.config.telemetryQueue = true)
    (hvalues : r.2.engine.config.telemetryValues = true) :
    ∃ events, (calls.foldl (publishCall timestampNs) r).2.trace = r.2.trace ++ events ∧
      List.Forall₂ (ValuesCall.SentAs timestampNs r.2.engine.cycleId) calls events ∧
      (calls.foldl (publishCall timestampNs) r).1 = (r.1 && events.all Event.accepted) := by
  induction calls generalizing r with
  | nil => exact ⟨[], (List.append_nil _).symm, .nil, (Bool.and_true _).symm⟩
  | cons c calls ih =>
    obtain ⟨hc, hcalls⟩ := List.forall_mem_cons.mp hcalls
    obtain ⟨e, hfirst, hsent, hresult⟩ := publishCall_sent hqueue hvalues timestampNs hc
    have hpublishes : Publishes (fun _ => True) r.2 (publishCall timestampNs r c).2 :=
      r.2.eventPublishValues_publishes timestampNs c.nodeId c.source (some c.samples)
    have hconfig : (publishCall timestampNs r c).2.engine.config = r.2.engine.config := by
      rw [hpublishes.engine]
    have hcycleId : (publishCall timestampNs r c).2.engine.cycleId = r.2.engine.cycleId := by
      rw [hpublishes.engine]
    obtain ⟨events, htrace, hevents, hrest⟩ := ih hcalls (publishCall timestampNs r c)
      (by rw [hconfig]; exact hqueue) (by rw [hconfig]; exact hvalues)
    rw [hcycleId] at hevents
    refine ⟨e :: events, ?_, .cons hsent hevents, ?_⟩
    · rw [List.foldl_cons, htrace, hfirst, List.append_assoc]
      rfl
    · rw [List.foldl_cons, hrest, hresult, List.all_cons, Bool.and_assoc]

end World

/-- Ports come before states, and each kind in ascending order of the ids. -/
def Sample.Precedes (a b : Sample L) : Prop :=
  a.valueKind = .port ∧ b.valueKind = .state ∨ a.valueKind = b.valueKind ∧ a.valueId < b.valueId

theorem readings_sorted (valueKind : ValueKind) (mask : UInt64)
    (lookup : UInt32 → Option D.Value) :
    (readings valueKind mask lookup).Pairwise fun a b => a.valueId < b.valueId := by
  unfold readings
  rw [List.pairwise_filterMap]
  have hrange : ((List.range 64).filter mask.toNat.testBit).Pairwise (· < ·) :=
    List.Pairwise.filter _ List.pairwise_lt_range
  refine hrange.imp_of_mem fun {id id'} _ hid' hlt a ha b hb => ?_
  have hbound : id' < 64 := List.mem_range.mp (List.mem_filter.mp hid').1
  obtain ⟨value, -, hvalue⟩ := Option.bind_eq_some_iff.mp ha
  obtain ⟨value', -, hvalue'⟩ := Option.bind_eq_some_iff.mp hb
  obtain ⟨data, -, rfl⟩ := Option.map_eq_some_iff.mp hvalue
  obtain ⟨data', -, rfl⟩ := Option.map_eq_some_iff.mp hvalue'
  rw [UInt32.lt_iff_toNat_lt, UInt32.toNat_ofNat', UInt32.toNat_ofNat']
  omega

theorem readings_kind {valueKind : ValueKind} {mask : UInt64} {lookup : UInt32 → Option D.Value}
    {r : Reading D.limits} (h : r ∈ readings valueKind mask lookup) : r.valueKind = valueKind := by
  obtain ⟨id, -, hid⟩ := List.mem_filterMap.mp h
  obtain ⟨value, -, hvalue⟩ := Option.bind_eq_some_iff.mp hid
  obtain ⟨data, -, rfl⟩ := Option.map_eq_some_iff.mp hvalue
  rfl

/-- A batch is dense and ordered: sample `i` has the offset `i`, and no value comes twice. -/
structure Ordered (samples : List (Sample L)) : Prop where
  nonempty : samples ≠ []
  fits : samples.length ≤ 128
  offsets : ∀ (i : Nat) (s : Sample L), samples[i]? = some s → s.sampleOffset.toNat = i
  ascending : samples.Pairwise Sample.Precedes

theorem World.requestedReadings_sorted (w : World D) (s : Subscription) :
    (w.requestedReadings s).Pairwise fun a b => a.valueKind = .port ∧ b.valueKind = .state ∨
      a.valueKind = b.valueKind ∧ a.valueId < b.valueId := by
  refine List.pairwise_append.mpr
    ⟨?_, ?_, fun a ha b hb => .inl ⟨readings_kind ha, readings_kind hb⟩⟩
  · refine (readings_sorted _ _ _).imp_of_mem fun ha hb hlt => .inr ⟨?_, hlt⟩
    rw [readings_kind ha, readings_kind hb]
  · refine (readings_sorted _ _ _).imp_of_mem fun ha hb hlt => .inr ⟨?_, hlt⟩
    rw [readings_kind ha, readings_kind hb]

theorem World.slotCall_ordered {w : World D} {timestampNs : UInt64} {s : Subscription}
    {c : ValuesCall D.limits} (h : w.slotCall timestampNs s = some c) : Ordered c.samples := by
  obtain ⟨source, -, h⟩ := Option.bind_eq_some_iff.mp h
  dsimp only at h
  split at h
  · next hc =>
    cases h
    have hlength : (w.requestedReadings s).length ≤ 128 := by
      have hports := readings_length .port s.portValuesMask (D.portValue w.runtime s.nodeId)
      have hstates := readings_length .state s.variableMask (D.getNodeState w.runtime s.nodeId)
      rw [requestedReadings, List.length_append]
      omega
    refine ⟨?_, ?_, fun i sample hi => ?_, ?_⟩
    · simpa using hc.2
    · rwa [List.length_mapIdx]
    · rw [List.getElem?_mapIdx] at hi
      obtain ⟨r, hr, rfl⟩ := Option.map_eq_some_iff.mp hi
      have hbound : i < (w.requestedReadings s).length := (List.getElem?_eq_some_iff.mp hr).1
      dsimp only [Reading.sample]
      rw [UInt16.toNat_ofNat']
      omega
    · rw [List.pairwise_iff_getElem]
      intro i j hi hj hij
      rw [List.getElem_mapIdx, List.getElem_mapIdx]
      rw [List.length_mapIdx] at hi hj
      exact List.pairwise_iff_getElem.mp (w.requestedReadings_sorted s) i j hi hj hij
  · cases h

namespace World

theorem slotCalls_ordered {w : World D} {timestampNs : UInt64} {c : ValuesCall D.limits}
    (hc : c ∈ w.slotCalls timestampNs) : Ordered c.samples := by
  obtain ⟨i, -, hi⟩ := List.mem_filterMap.mp hc
  exact slotCall_ordered hi

theorem eventPublishRequestedValues_eq (w : World D) (timestampNs : UInt64) :
    w.eventPublishRequestedValues timestampNs =
      (w.slotCalls timestampNs).foldl (publishCall timestampNs) (true, w) :=
  publishSlots_eq timestampNs _ (true, w)

/-- Each call of a slot is one attempt to send its batch. -/
theorem eventPublishRequestedValues_sent (w : World D)
    (hqueue : w.engine.config.telemetryQueue = true)
    (hvalues : w.engine.config.telemetryValues = true) (timestampNs : UInt64) :
    ∃ events, (w.eventPublishRequestedValues timestampNs).2.trace = w.trace ++ events ∧
      List.Forall₂ (ValuesCall.SentAs timestampNs w.engine.cycleId) (w.slotCalls timestampNs)
        events ∧
      (w.eventPublishRequestedValues timestampNs).1 = events.all Event.accepted := by
  obtain ⟨events, htrace, hsent, hresult⟩ := publishCalls_sent timestampNs
    (fun c hc => (slotCalls_ordered hc).nonempty) (true, w) hqueue hvalues
  rw [← eventPublishRequestedValues_eq] at htrace hresult
  exact ⟨events, htrace, hsent, hresult⟩

end World

/-- The publisher of the requested values makes exactly the calls of the slots, in slot order; each
is one attempt to send its batch, and the result is whether all were accepted. -/
theorem requested_values_exact (w : World D) (hqueue : w.engine.config.telemetryQueue = true)
    (hvalues : w.engine.config.telemetryValues = true) (timestampNs : UInt64) :
    w.eventPublishRequestedValues timestampNs =
        (w.slotCalls timestampNs).foldl (World.publishCall timestampNs) (true, w) ∧
      (∃ events, (w.eventPublishRequestedValues timestampNs).2.trace = w.trace ++ events ∧
        List.Forall₂ (ValuesCall.SentAs timestampNs w.engine.cycleId) (w.slotCalls timestampNs)
          events ∧
        (w.eventPublishRequestedValues timestampNs).1 = events.all Event.accepted) ∧
      ∀ c ∈ w.slotCalls timestampNs, Ordered c.samples :=
  ⟨w.eventPublishRequestedValues_eq timestampNs,
    w.eventPublishRequestedValues_sent hqueue hvalues timestampNs,
    fun _ => World.slotCalls_ordered⟩

namespace Reference

/-- The engine of `loadedWorld` with requests for the ports 0 to 2 and the states 0 and 2 of its
plugin node, and for values of a node that is not there.  Port 0 has an output and an input value,
port 1 only an input value, and state 0 has none. -/
def subscribed : World deps :=
  { loadedWorld with
    engine := { loadedWorld.engine with
      telemetrySubscriptions := #v[⟨true, 0, 7, 5⟩, ⟨true, 1, 1, 1⟩] }
    runtime := { loadedWorld.runtime with
      outputValues := [((0, 0), 7), ((1, 0), 6)]
      inputValues := [((0, 0), 1), ((0, 1), 8)]
      stateValues := [((0, 2), 9)] } }

/-- The samples of that engine at the time 3. -/
def subscribedSamples : List (Sample limits) :=
  [⟨0, 3, 0, 0, 0, .port, .plugin, .u64, .u64 7⟩, ⟨0, 3, 0, 1, 1, .port, .plugin, .u64, .u64 8⟩,
    ⟨0, 3, 0, 2, 2, .state, .plugin, .u64, .u64 9⟩]

end Reference

theorem requested_values_reference :
    Reference.subscribed.eventPublishRequestedValues 3 =
        World.publishCall 3 (true, Reference.subscribed)
          ⟨0, .plugin, Reference.subscribedSamples⟩ ∧
      Ordered Reference.subscribedSamples := by
  obtain ⟨hcalls, -, hordered⟩ := requested_values_exact Reference.subscribed rfl rfl 3
  have hslots : Reference.subscribed.slotCalls 3 =
      [⟨0, .plugin, Reference.subscribedSamples⟩] := rfl
  rw [hslots] at hcalls hordered
  exact ⟨hcalls, hordered _ (List.mem_singleton_self _)⟩

end RtsynEngine
