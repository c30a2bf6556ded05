import RtsynEngine.Descriptor
import RtsynEngine.Subscription

/-! The telemetry publishers of `telemetry.c`: events and value batches are numbered by one
sequence, and each refused push is counted. -/

namespace RtsynEngine

variable {D : Deps}

/-- `rtsyn_engine_event_sample_value`: whether the value could be read, and the sample as it is
left. -/
def eventSampleValue (value : D.Value) (timestampNs : UInt64) (nodeId valueId : UInt32)
    (sampleOffset : UInt16) (valueKind : ValueKind) (source : TelemetrySource) :
    Bool × Sample D.limits :=
  let sample : Sample D.limits :=
    { cycleId := 0, timestampNs, nodeId, valueId, sampleOffset, valueKind, source
      valueType := D.valueTypeGet value
      data := .zero }
  let read (data : Option (SampleData D.limits)) : Bool × Sample D.limits :=
    match data with
    | some data => (true, { sample with data })
    | none => (false, sample)
  match sample.valueType with
  | .f32 => read ((D.valueGetF32 value).map .f32)
  | .f64 => read ((D.valueGetF64 value).map .f64)
  | .i64 => read ((D.valueGetInt value).map fun v => .i64 v.toInt64)
  | .u64 => read ((D.valueGetU64 value).map .u64)
  | .string => read ((D.valueGetString value).map fun buffer =>
      .string ((strncpy (Vector.replicate _ 0) (CString.ofBytes buffer.toList)
        (D.limits.telemetryStringSize - 1)).setIfInBounds (D.limits.telemetryStringSize - 1) 0))
  | .other _ => (false, sample)

/-- The array of samples of a slot and `sample_count`. -/
structure Batch (L : Limits) where
  samples : Vector (Sample L) 128
  count : Nat

def Batch.zero (L : Limits) : Batch L where
  samples := Vector.replicate _ ⟨0, 0, 0, 0, 0, .port, .none, L.zeroValueType, .zero⟩
  count := 0

def Batch.toList {L : Limits} (b : Batch L) : List (Sample L) := b.samples.toList.take b.count

/-- The body of both loops of `rtsyn_engine_event_publish_requested_values`, for one value. -/
def Batch.add (b : Batch D.limits) (value : D.Value) (cycleId timestampNs : UInt64)
    (nodeId valueId : UInt32) (valueKind : ValueKind) (source : TelemetrySource) :
    Batch D.limits :=
  match eventSampleValue value timestampNs nodeId valueId (UInt16.ofNat b.count) valueKind
      source with
  | (true, sample) =>
    { samples := b.samples.setIfInBounds b.count { sample with cycleId }, count := b.count + 1 }
  | (false, sample) => { b with samples := b.samples.setIfInBounds b.count sample }

/-- A loop over the 64 ids of a mask: the values that `lookup` finds for its set bits. -/
def Batch.collect (b : Batch D.limits) (mask : UInt64) (lookup : UInt32 → Option D.Value)
    (cycleId timestampNs : UInt64) (nodeId : UInt32) (valueKind : ValueKind)
    (source : TelemetrySource) : Batch D.limits :=
  (List.range 64).foldl (fun b id =>
    if mask &&& (1 <<< UInt64.ofNat id) == 0 then b
    else
      match lookup (UInt32.ofNat id) with
      | none => b
      | some value => b.add value cycleId timestampNs nodeId (UInt32.ofNat id) valueKind source) b

namespace World

def getNodeSource (w : World D) (nodeId : UInt32) : TelemetrySource :=
  match D.getNode w.runtime nodeId with
  | none => .none
  | some node =>
    match node.nodeType with
    | .device => .device
    | .plugin => .plugin
    | _ => .none

def getNodePortValue (w : World D) (nodeId portId : UInt32) : Option D.Value :=
  match D.getNodePortValue w.runtime nodeId portId .output with
  | some value => some value
  | none => D.getNodePortValue w.runtime nodeId portId .input

def nextTelemetrySeq (w : World D) : UInt64 × World D :=
  let seq := w.engine.telemetrySeq + 1
  (seq, { w with engine := { w.engine with telemetrySeq := seq } })

def accountDroppedEvent (w : World D) : World D :=
  { w with engine := { w.engine with
      droppedTelemetryEvents := w.engine.droppedTelemetryEvents + 1 } }

def accountDroppedValues (w : World D) (count : UInt64) : World D :=
  { w with engine := { w.engine with
      droppedTelemetryValues := w.engine.droppedTelemetryValues + count } }

/-- `rtsyn_engine_event_push_telemetry`, which fills in the number and the header's count. -/
def eventPushTelemetry (w : World D) (message : TelemetryMessage) : Bool × World D :=
  if !w.engine.config.telemetryQueue then (false, w)
  else
    let (seq, w) := w.nextTelemetrySeq
    let message :=
      { message with seq, droppedEventCount := w.engine.droppedTelemetryEvents }
    match D.telemetryTryPush w.telemetry message with
    | (true, telemetry) => (true, { w with telemetry }.emit (.telemetryPush message true))
    | (false, telemetry) =>
      (false, { w with telemetry }.emit (.telemetryPush message false) |>.accountDroppedEvent)

/-- A zeroed telemetry message with its timestamp, type and body. -/
def telemetryMessage (timestampNs : UInt64) (data : TelemetryData) : TelemetryMessage :=
  ⟨0, timestampNs, 0, data⟩

def eventPublishCycleBegin (w : World D) (timestampNs : UInt64) : Bool × World D :=
  w.eventPushTelemetry (telemetryMessage timestampNs (.cycleBegin w.engine.cycleId timestampNs))

def eventPublishCycleEnd (w : World D) (startedAtNs finishedAtNs : UInt64) : Bool × World D :=
  w.eventPushTelemetry
    (telemetryMessage finishedAtNs (.cycleEnd w.engine.cycleId startedAtNs finishedAtNs))

/-- `rtsyn_engine_event_publish_measurement`; `metrics` may be null. -/
def eventPublishMeasurement (w : World D) (timestampNs : UInt64) (metrics : Option Metrics) :
    Bool × World D :=
  match metrics with
  | none => (false, w)
  | some m =>
    w.eventPushTelemetry (telemetryMessage timestampNs (.measurement m.cycleId m.periodNs
      m.actualPeriodNs m.latencyNs m.wakeLatenessNs m.skippedCycleCount m.devicesReadNs
      m.pluginsTimeNs m.devicesWriteNs (if m.missedCycle then 1 else 0)
      (if m.deadlineMissed then 1 else 0)))

def eventPublishDropped (w : World D) (timestampNs : UInt64) : Bool × World D :=
  if !w.engine.config.telemetryQueue
      || w.engine.droppedTelemetryEvents == 0 && w.engine.droppedTelemetryValues == 0 then
    (false, w)
  else
    w.eventPushTelemetry (telemetryMessage timestampNs (.dropped w.engine.cycleId
      w.engine.droppedTelemetryEvents w.engine.droppedTelemetryValues))

/-- `rtsyn_engine_event_publish_values`; `samples` may be null, and its length is
`sample_count`. -/
def eventPublishValues (w : World D) (timestampNs : UInt64) (nodeId : UInt32)
    (source : TelemetrySource) (samples : Option (List (Sample D.limits))) : Bool × World D :=
  match samples with
  | none => (false, w)
  | some samples =>
    if !w.engine.config.telemetryQueue || !w.engine.config.telemetryValues || samples.isEmpty then
      (false, w)
    else
      let (seq, w) := w.nextTelemetrySeq
      let message : TelemetryMessage :=
        { seq, timestampNs
          droppedEventCount := w.engine.droppedTelemetryEvents
          data := .valuesWritten w.engine.cycleId nodeId source }
      match D.telemetryTryPublishValues w.telemetry message samples with
      | (true, telemetry) =>
        (true, { w with telemetry }.emit (.valuesPublish message samples true))
      | (false, telemetry) =>
        (false, { w with telemetry }.emit (.valuesPublish message samples false)
          |>.accountDroppedValues (UInt64.ofNat samples.length))

/-- The batch of a slot: the readable ports of its port mask, then the readable states of its
variable mask. -/
def requestedBatch (w : World D) (s : Subscription) (source : TelemetrySource)
    (timestampNs : UInt64) : Batch D.limits :=
  (Batch.zero D.limits).collect s.portValuesMask (w.getNodePortValue s.nodeId) w.engine.cycleId
      timestampNs s.nodeId .port source
    |>.collect s.variableMask (D.getNodeState w.runtime s.nodeId) w.engine.cycleId timestampNs
      s.nodeId .state source

/-- The body of the loop of `rtsyn_engine_event_publish_requested_values` for slot `i`, with the
value of `published`. -/
def publishSlot (timestampNs : UInt64) (r : Bool × World D)
    (i : Fin D.limits.subscriptionCapacity) : Bool × World D :=
  let (published, w) := r
  let subscription := w.engine.telemetrySubscriptions.get i
  if !subscription.used then r
  else
    let source := w.getNodeSource subscription.nodeId
    if source == .none then r
    else
      let batch := w.requestedBatch subscription source timestampNs
      if batch.count == 0 then r
      else
        let (sent, w) :=
          w.eventPublishValues timestampNs subscription.nodeId source batch.toList
        (published && sent, w)

def eventPublishRequestedValues (w : World D) (timestampNs : UInt64) : Bool × World D :=
  (List.finRange D.limits.subscriptionCapacity).foldl (publishSlot timestampNs) (true, w)

end World

/-- A call of a publisher. -/
inductive PublisherCall (L : Limits)
  | cycleBegin (timestampNs : UInt64)
  | cycleEnd (startedAtNs finishedAtNs : UInt64)
  | measurement (timestampNs : UInt64) (metrics : Option Metrics)
  | dropped (timestampNs : UInt64)
  | values (timestampNs : UInt64) (nodeId : UInt32) (source : TelemetrySource)
      (samples : Option (List (Sample L)))
  | requestedValues (timestampNs : UInt64)
  | push (message : TelemetryMessage)

namespace World

def publish (w : World D) : PublisherCall D.limits → World D
  | .cycleBegin timestampNs => (w.eventPublishCycleBegin timestampNs).2
  | .cycleEnd startedAtNs finishedAtNs => (w.eventPublishCycleEnd startedAtNs finishedAtNs).2
  | .measurement timestampNs metrics => (w.eventPublishMeasurement timestampNs metrics).2
  | .dropped timestampNs => (w.eventPublishDropped timestampNs).2
  | .values timestampNs nodeId source samples =>
    (w.eventPublishValues timestampNs nodeId source samples).2
  | .requestedValues timestampNs => (w.eventPublishRequestedValues timestampNs).2
  | .push message => (w.eventPushTelemetry message).2

def publishAll (w : World D) (calls : List (PublisherCall D.limits)) : World D :=
  calls.foldl publish w

end World

end RtsynEngine
