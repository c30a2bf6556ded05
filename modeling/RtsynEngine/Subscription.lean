import Mathlib.Data.Fin.Basic
import RtsynEngine.World

/-! The subscription table of `telemetry_command.c`: which port values and variables of which
nodes the publisher sends each cycle. -/

namespace RtsynEngine

variable {n : Nat}

/-- `rtsyn_engine_find_subscription`: the index of the slot it returns a pointer to. -/
def findSubscription (table : Vector Subscription n) (nodeId : UInt32) : Option (Fin n) :=
  Fin.find? fun i => (table.get i).used && (table.get i).nodeId == nodeId

def getOrCreateSubscription (table : Vector Subscription n) (nodeId : UInt32) :
    Option (Fin n × Vector Subscription n) :=
  match findSubscription table nodeId with
  | some i => some (i, table)
  | none =>
    match Fin.find? fun i => !(table.get i).used with
    | some i => some (i, table.set i { Subscription.zero with used := true, nodeId } i.isLt)
    | none => none

def cleanupSubscription (s : Subscription) : Subscription :=
  if s.portValuesMask != 0 || s.variableMask != 0 then s else Subscription.zero

/-- Writes the mask that `target_mask` points to. -/
def Subscription.updateTarget (s : Subscription) (vars : Bool) (f : UInt64 → UInt64) :
    Subscription :=
  if vars then { s with variableMask := f s.variableMask }
  else { s with portValuesMask := f s.portValuesMask }

/-- `rtsyn_engine_update_subscription_mask`, which changes nothing but the table. -/
def updateMask (L : Limits) (table : Vector Subscription n) (nodeId : UInt32) (mask : UInt64)
    (send vars : Bool) : Bool × Vector Subscription n :=
  if nodeId == L.nodeIdInvalid || mask == 0 then (false, table)
  else
    let subscription :=
      if send then getOrCreateSubscription table nodeId
      else (findSubscription table nodeId).map fun i => (i, table)
    match subscription with
    | none => (!send, table)
    | some (i, table) =>
      if send then
        (true, table.set i ((table.get i).updateTarget vars (· ||| mask)) i.isLt)
      else
        (true, table.set i
          (cleanupSubscription ((table.get i).updateTarget vars (· &&& ~~~mask))) i.isLt)

namespace World

variable {D : Deps}

def setSubscriptions (w : World D) (table : Vector Subscription D.limits.subscriptionCapacity) :
    World D :=
  { w with engine := { w.engine with telemetrySubscriptions := table } }

def updateSubscriptionMask (w : World D) (nodeId : UInt32) (mask : UInt64)
    (send vars : Bool) : Bool × World D :=
  let r := updateMask D.limits w.engine.telemetrySubscriptions nodeId mask send vars
  (r.1, w.setSubscriptions r.2)

end World

end RtsynEngine
