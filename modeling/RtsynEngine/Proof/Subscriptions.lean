import Mathlib.Data.UInt
import RtsynEngine.Lib.SlotTable
import RtsynEngine.Reference

/-! The subscription table refines a map from node ids to pairs of masks, the port mask and the
variable mask: the slots in use are the nodes with a nonzero pair.  Each request does to the table
what `MaskRequest.apply` does to the map. -/

namespace RtsynEngine

open Function SlotTable

/-- The port mask and the variable mask of a node. -/
abbrev Masks := UInt64 × UInt64

def Masks.update (m : Masks) (vars : Bool) (f : UInt64 → UInt64) : Masks :=
  if vars then (m.1, f m.2) else (f m.1, m.2)

/-- A `REQUEST_PORT_VALUES` or, with `vars`, a `REQUEST_PORT_VARIABLES` command. -/
structure MaskRequest where
  seq : UInt64
  nodeId : UInt32
  mask : UInt64
  send : Bool
  vars : Bool

def MaskRequest.message (L : Limits) (r : MaskRequest) : CommandMessage L where
  seq := r.seq
  data :=
    if r.vars then .requestPortVariables r.nodeId r.mask r.send
    else .requestPortValues r.nodeId r.mask r.send

open Classical in
/-- What a request returns and does to the map `f`. -/
noncomputable def MaskRequest.apply (L : Limits) (f : UInt32 → Masks) (r : MaskRequest) :
    Bool × (UInt32 → Masks) :=
  if r.nodeId = L.nodeIdInvalid ∨ r.mask = 0 then (false, f)
  else if r.send then
    if f r.nodeId = 0 ∧ L.subscriptionCapacity ≤ (support f).ncard then (false, f)
    else (true, update f r.nodeId ((f r.nodeId).update r.vars (· ||| r.mask)))
  else (true, update f r.nodeId ((f r.nodeId).update r.vars (· &&& ~~~r.mask)))

/-- The map after a sequence of requests, from the zero map. -/
noncomputable def masksAfter (L : Limits) (rs : List MaskRequest) : UInt32 → Masks :=
  rs.foldl (fun f r => (r.apply L f).2) fun _ => 0

namespace Subscription

def masks (s : Subscription) : Masks := (s.portValuesMask, s.variableMask)

/-- A slot of the table as a slot of the library. -/
def entry (s : Subscription) : Option (UInt32 × Masks) :=
  if s.used then some (s.nodeId, s.masks) else none

theorem entry_eq_some {s : Subscription} {k : UInt32} {m : Masks} :
    s.entry = some (k, m) ↔ s.used = true ∧ s.nodeId = k ∧ s.masks = m := by
  cases h : s.used <;> simp [entry, h]

theorem entry_eq_none {s : Subscription} : s.entry = none ↔ s.used = false := by
  cases h : s.used <;> simp [entry, h]

@[simp] theorem updateTarget_used (s : Subscription) (vars : Bool) (f : UInt64 → UInt64) :
    (s.updateTarget vars f).used = s.used := by
  cases vars <;> rfl

@[simp] theorem updateTarget_nodeId (s : Subscription) (vars : Bool) (f : UInt64 → UInt64) :
    (s.updateTarget vars f).nodeId = s.nodeId := by
  cases vars <;> rfl

@[simp] theorem updateTarget_masks (s : Subscription) (vars : Bool) (f : UInt64 → UInt64) :
    (s.updateTarget vars f).masks = s.masks.update vars f := by
  cases vars <;> rfl

end Subscription

variable {n : Nat}

def slots (table : Vector Subscription n) : Fin n → Option (UInt32 × Masks) :=
  fun i => table[i].entry

theorem get_eq_getElem (table : Vector Subscription n) (i : Fin n) : table.get i = table[i] := rfl

theorem slots_set (table : Vector Subscription n) (i : Fin n) (s : Subscription) :
    slots (table.set i s) = update (slots table) i s.entry := by
  funext j
  by_cases hij : j = i
  · subst hij
    simp [slots]
  · have hne : (i : Nat) ≠ j := fun h => hij (Fin.ext h.symm)
    simp [slots, update_of_ne hij, hne]

/-- The table represents `f`; a slot in use has a valid id, and the others are zeroed. -/
structure TableMatches (L : Limits) (table : Vector Subscription n) (f : UInt32 → Masks) :
    Prop where
  represents : Represents (slots table) f
  valid : ∀ i : Fin n, table[i].used = true → table[i].nodeId ≠ L.nodeIdInvalid
  clean : ∀ i : Fin n, table[i].used = false → table[i] = Subscription.zero

theorem tableMatches_zero (L : Limits) :
    TableMatches L (Vector.replicate n Subscription.zero) fun _ => 0 where
  represents := by
    convert Represents.empty (ι := Fin n) (κ := UInt32) (α := Masks) using 1
    funext i
    simp [slots, Subscription.entry, Subscription.zero]
  valid i h := by simp [Subscription.zero] at h
  clean i _ := by simp

namespace TableMatches

variable {L : Limits} {table : Vector Subscription n} {f : UInt32 → Masks}

theorem write (h : TableMatches L table f) {i : Fin n} {k : UInt32} {m : Masks}
    {s : Subscription} (hk : k ≠ L.nodeIdInvalid) (hi : Represents.Assignable (slots table) f i k)
    (hs : Represents.Stores s.entry k m) (hclean : s.used = false → s = Subscription.zero) :
    TableMatches L (table.set i s) (update f k m) where
  represents := slots_set table i s ▸ h.represents.write hi hs
  valid j hj := by
    by_cases hij : (i : Nat) = j
    · simp only [Fin.getElem_fin, Vector.getElem_set, hij, ↓reduceIte] at hj ⊢
      rcases hs with ⟨hs, -⟩ | ⟨hs, -⟩
      · rwa [(Subscription.entry_eq_some.mp hs).2.1]
      · rw [Subscription.entry_eq_none.mp hs] at hj
        cases hj
    · simp only [Fin.getElem_fin, Vector.getElem_set, hij, ↓reduceIte] at hj ⊢
      exact h.valid j hj
  clean j hj := by
    by_cases hij : (i : Nat) = j
    · simp only [Fin.getElem_fin, Vector.getElem_set, hij, ↓reduceIte] at hj ⊢
      exact hclean hj
    · simp only [Fin.getElem_fin, Vector.getElem_set, hij, ↓reduceIte] at hj ⊢
      exact h.clean j hj

theorem findSubscription_some (h : TableMatches L table f) {k : UInt32} {i : Fin n}
    (hi : findSubscription table k = some i) :
    table[i].used = true ∧ table[i].nodeId = k ∧ table[i].masks = f k := by
  have hp := Fin.eq_true_of_find?_eq_some hi
  simp only [Bool.and_eq_true, beq_iff_eq] at hp
  have hslot : slots table i = some (k, table[i].masks) :=
    Subscription.entry_eq_some.mpr ⟨hp.1, hp.2, rfl⟩
  exact ⟨hp.1, hp.2, (h.represents.sound hslot).1.symm⟩

theorem findSubscription_none (h : TableMatches L table f) {k : UInt32}
    (hk : findSubscription table k = none) : f k = 0 := by
  refine h.represents.eq_zero fun i m hi => ?_
  obtain ⟨hused, hid, -⟩ := Subscription.entry_eq_some.mp hi
  have hp := Fin.find?_eq_none_iff.mp hk i
  rw [get_eq_getElem, hused, hid, beq_self_eq_true] at hp
  cases hp

theorem getOrCreateSubscription_some (h : TableMatches L table f) {k : UInt32} {i : Fin n}
    {table' : Vector Subscription n}
    (hi : getOrCreateSubscription table k = some (i, table')) :
    Represents.Assignable (slots table) f i k ∧ table'[i].used = true ∧ table'[i].nodeId = k ∧
      table'[i].masks = f k ∧ ∀ s, table'.set i s = table.set i s := by
  unfold getOrCreateSubscription at hi
  split at hi
  · next j hj =>
    cases hi
    obtain ⟨hused, hid, hmasks⟩ := h.findSubscription_some hj
    have hslot : slots table i = some (k, f k) :=
      Subscription.entry_eq_some.mpr ⟨hused, hid, hmasks⟩
    exact ⟨.inl ⟨_, hslot⟩, hused, hid, hmasks, fun _ => rfl⟩
  · next hnone =>
    have hzero := h.findSubscription_none hnone
    split at hi
    · next j hj =>
      cases hi
      have hfree : table[i].used = false := by
        simpa [get_eq_getElem] using Fin.eq_true_of_find?_eq_some hj
      refine ⟨.inr ⟨Subscription.entry_eq_none.mpr hfree, hzero⟩, ?_, ?_, ?_, fun s => ?_⟩
      · simp
      · simp
      · simp [Subscription.masks, Subscription.zero, hzero]
      · ext1 j hj
        simp only [Vector.getElem_set]
        split <;> rfl
    · cases hi

theorem getOrCreateSubscription_none (h : TableMatches L table f) {k : UInt32} :
    getOrCreateSubscription table k = none ↔ f k = 0 ∧ n ≤ (support f).ncard := by
  have hfull : (∀ i : Fin n, table[i].used = true) ↔ n ≤ (support f).ncard := by
    have hcard := h.represents.full_iff
    rw [Nat.card_fin] at hcard
    rw [← hcard]
    refine forall_congr' fun i => ?_
    rw [Ne, slots, Subscription.entry_eq_none, Bool.not_eq_false]
  unfold getOrCreateSubscription
  split
  · next i hi =>
    obtain ⟨hused, hid, hmasks⟩ := h.findSubscription_some hi
    have hslot : slots table i = some (k, f k) :=
      Subscription.entry_eq_some.mpr ⟨hused, hid, hmasks⟩
    exact ⟨fun h' => (nomatch h'), fun h' => absurd h'.1 (h.represents.sound hslot).2⟩
  · next hnone =>
    rw [← hfull]
    have hzero := h.findSubscription_none hnone
    split
    · next i hi =>
      refine ⟨fun h' => (nomatch h'), fun h' => ?_⟩
      have hfree := Fin.eq_true_of_find?_eq_some hi
      rw [get_eq_getElem, h'.2 i] at hfree
      cases hfree
    · next hused =>
      refine ⟨fun _ => ⟨hzero, fun i => ?_⟩, fun _ => rfl⟩
      simpa [get_eq_getElem] using Fin.find?_eq_none_iff.mp hused i

end TableMatches

theorem Masks.update_or_ne_zero (m : Masks) (vars : Bool) {mask : UInt64} (hmask : mask ≠ 0) :
    m.update vars (· ||| mask) ≠ 0 := by
  intro h
  cases vars <;> simp [Masks.update, Prod.ext_iff, hmask] at h

theorem cleanupSubscription_stores {s : Subscription} {k : UInt32} (hused : s.used = true)
    (hid : s.nodeId = k) : Represents.Stores (cleanupSubscription s).entry k s.masks := by
  unfold cleanupSubscription
  split
  · next hne =>
    refine .inl ⟨Subscription.entry_eq_some.mpr ⟨hused, hid, rfl⟩, ?_⟩
    simpa [Subscription.masks, Prod.ext_iff, imp_iff_not_or] using hne
  · next hz =>
    refine .inr ⟨rfl, ?_⟩
    simpa [Subscription.masks, Prod.ext_iff] using hz

theorem cleanupSubscription_zero {s : Subscription} (hused : s.used = true)
    (h : (cleanupSubscription s).used = false) : cleanupSubscription s = Subscription.zero := by
  unfold cleanupSubscription at h ⊢
  split
  · next hne =>
    rw [if_pos hne, hused] at h
    cases h
  · rfl

namespace World

variable {D : Deps}

/-- A request returns what it does on the map, changes the table as it does the map and nothing
else, and changes nothing when it returns false. -/
theorem updateSubscriptionMask_refines (w : World D) {f : UInt32 → Masks} (r : MaskRequest)
    (h : TableMatches D.limits w.engine.telemetrySubscriptions f) :
    (w.updateSubscriptionMask r.nodeId r.mask r.send r.vars).1 = (r.apply D.limits f).1 ∧
    (∃ table, (w.updateSubscriptionMask r.nodeId r.mask r.send r.vars).2 =
        w.setSubscriptions table ∧ TableMatches D.limits table (r.apply D.limits f).2) ∧
    ((r.apply D.limits f).1 = false →
      (w.updateSubscriptionMask r.nodeId r.mask r.send r.vars).2 = w) := by
  unfold updateSubscriptionMask updateMask MaskRequest.apply
  by_cases hreject : r.nodeId = D.limits.nodeIdInvalid ∨ r.mask = 0
  · have hreject' : (r.nodeId == D.limits.nodeIdInvalid || r.mask == 0) = true := by
      simpa using hreject
    rw [if_pos hreject', if_pos hreject]
    exact ⟨rfl, ⟨_, rfl, h⟩, fun _ => rfl⟩
  have hreject' : ¬(r.nodeId == D.limits.nodeIdInvalid || r.mask == 0) = true := by
    simpa using hreject
  rw [if_neg hreject', if_neg hreject]
  rw [not_or] at hreject
  cases hsend : r.send with
  | true =>
    simp only [↓reduceIte]
    cases hget : getOrCreateSubscription w.engine.telemetrySubscriptions r.nodeId with
    | none =>
      rw [if_pos (h.getOrCreateSubscription_none.mp hget)]
      exact ⟨rfl, ⟨_, rfl, h⟩, fun _ => rfl⟩
    | some p =>
      obtain ⟨i, table⟩ := p
      have hroom : ¬(f r.nodeId = 0 ∧ D.limits.subscriptionCapacity ≤ (support f).ncard) := by
        rw [← h.getOrCreateSubscription_none, hget]
        exact Option.some_ne_none _
      obtain ⟨hassign, hused, hid, hmasks, hset⟩ := h.getOrCreateSubscription_some hget
      rw [if_neg hroom]
      refine ⟨rfl, ⟨_, rfl, ?_⟩, fun hfalse => nomatch hfalse⟩
      dsimp only
      rw [get_eq_getElem, hset, ← hmasks, ← Subscription.updateTarget_masks]
      refine h.write hreject.1 hassign (.inl ⟨?_, ?_⟩) fun hfree => ?_
      · exact Subscription.entry_eq_some.mpr ⟨by simpa using hused, by simpa using hid, rfl⟩
      · rw [Subscription.updateTarget_masks]
        exact Masks.update_or_ne_zero _ _ hreject.2
      · rw [Subscription.updateTarget_used, hused] at hfree
        cases hfree
  | false =>
    simp only [Bool.false_eq_true, ↓reduceIte]
    cases hfind : findSubscription w.engine.telemetrySubscriptions r.nodeId with
    | none =>
      have hzero := h.findSubscription_none hfind
      refine ⟨rfl, ⟨_, rfl, ?_⟩, fun hfalse => nomatch hfalse⟩
      have hsame : update f r.nodeId ((f r.nodeId).update r.vars (· &&& ~~~r.mask)) = f := by
        rw [update_eq_self_iff, hzero]
        cases r.vars <;> simp [Masks.update, Prod.ext_iff]
      rw [hsame]
      exact h
    | some i =>
      obtain ⟨hused, hid, hmasks⟩ := h.findSubscription_some hfind
      refine ⟨rfl, ⟨_, rfl, ?_⟩, fun hfalse => nomatch hfalse⟩
      dsimp only [Option.map_some]
      rw [get_eq_getElem, ← hmasks, ← Subscription.updateTarget_masks]
      refine h.write hreject.1 (.inl ⟨_, Subscription.entry_eq_some.mpr ⟨hused, hid, rfl⟩⟩)
        (cleanupSubscription_stores ?_ ?_) (cleanupSubscription_zero ?_)
      · simpa using hused
      · simpa using hid
      · simpa using hused

theorem dispatch_maskRequest (w : World D) (r : MaskRequest) :
    w.dispatchCommand (r.message D.limits) =
      w.updateSubscriptionMask r.nodeId r.mask r.send r.vars := by
  obtain ⟨seq, nodeId, mask, send, vars⟩ := r
  cases vars <;> rfl

theorem maskRequest_refines (w : World D) {f : UInt32 → Masks} (r : MaskRequest)
    (h : TableMatches D.limits w.engine.telemetrySubscriptions f) :
    (w.dispatchCommand (r.message D.limits)).1 = (r.apply D.limits f).1 ∧
    (∃ table, (w.dispatchCommand (r.message D.limits)).2 = w.setSubscriptions table ∧
      TableMatches D.limits table (r.apply D.limits f).2) ∧
    ((r.apply D.limits f).1 = false → (w.dispatchCommand (r.message D.limits)).2 = w) := by
  rw [dispatch_maskRequest]
  exact w.updateSubscriptionMask_refines r h

theorem maskRequests_refine (w : World D) (f : UInt32 → Masks) (rs : List MaskRequest)
    (h : TableMatches D.limits w.engine.telemetrySubscriptions f) :
    ∃ table, w.dispatchAll (rs.map (MaskRequest.message D.limits)) = w.setSubscriptions table ∧
      TableMatches D.limits table (rs.foldl (fun f r => (r.apply D.limits f).2) f) := by
  induction rs generalizing w f with
  | nil => exact ⟨_, rfl, h⟩
  | cons r rs ih =>
    obtain ⟨-, ⟨table, hw, htable⟩, -⟩ := w.maskRequest_refines r h
    obtain ⟨table', hw', htable'⟩ := ih (w.setSubscriptions table) _ htable
    exact ⟨table', by rw [List.map_cons, dispatchAll_cons, hw, hw']; rfl, htable'⟩

end World

/-- The slots of a table read as a map: no node has two, a slot in use has a valid id and a nonzero
mask, a free slot is zeroed, and the slots in use are the nodes with a nonzero pair in `f`, with
that pair. -/
structure ReadsAs (L : Limits) (table : Vector Subscription n) (f : UInt32 → Masks) : Prop where
  distinct : ∀ i j : Fin n, table[i].used = true → table[j].used = true →
    table[i].nodeId = table[j].nodeId → i = j
  live : ∀ i : Fin n, table[i].used = true →
    table[i].nodeId ≠ L.nodeIdInvalid ∧ table[i].masks ≠ 0
  clean : ∀ i : Fin n, table[i].used = false → table[i] = Subscription.zero
  inUse : ∀ k m, (∃ i : Fin n, table[i].used = true ∧ table[i].nodeId = k ∧ table[i].masks = m) ↔
    f k = m ∧ m ≠ 0

theorem TableMatches.readsAs {L : Limits} {table : Vector Subscription n} {f : UInt32 → Masks}
    (h : TableMatches L table f) : ReadsAs L table f where
  distinct i j hi hj hij := h.represents.distinct
    (Subscription.entry_eq_some.mpr ⟨hi, rfl, rfl⟩)
    (Subscription.entry_eq_some.mpr ⟨hj, hij.symm, rfl⟩)
  live i hi := ⟨h.valid i hi,
    (h.represents.sound (Subscription.entry_eq_some.mpr ⟨hi, rfl, rfl⟩)).2⟩
  clean := h.clean
  inUse k m := by
    constructor
    · rintro ⟨i, hi⟩
      exact h.represents.sound (Subscription.entry_eq_some.mpr hi)
    · rintro ⟨rfl, hm⟩
      obtain ⟨i, hi⟩ := h.represents.complete hm
      exact ⟨i, Subscription.entry_eq_some.mp hi⟩

/-- From the zeroed table, after any sequence of requests: the table reads as the map that the
requests make, a further request returns what the map says, and a request that returns false leaves
the world as it is; the requests change nothing but the table. -/
theorem subscriptions_refine_masks {D : Deps} (w : World D)
    (hzero : w.engine.telemetrySubscriptions = Vector.replicate _ Subscription.zero)
    (rs : List MaskRequest) :
    ∃ w', w' = w.dispatchAll (rs.map (MaskRequest.message D.limits)) ∧
      ReadsAs D.limits w'.engine.telemetrySubscriptions (masksAfter D.limits rs) ∧
      w' = w.setSubscriptions w'.engine.telemetrySubscriptions ∧
      ∀ r : MaskRequest,
        (w'.dispatchCommand (r.message D.limits)).1 =
          (r.apply D.limits (masksAfter D.limits rs)).1 ∧
        ((w'.dispatchCommand (r.message D.limits)).1 = false →
          (w'.dispatchCommand (r.message D.limits)).2 = w') := by
  obtain ⟨table, hw, htable⟩ :=
    w.maskRequests_refine (fun _ => 0) rs (hzero ▸ tableMatches_zero D.limits)
  refine ⟨_, rfl, ?_⟩
  rw [hw]
  refine ⟨htable.readsAs, rfl, fun r => ?_⟩
  obtain ⟨hret, -, hsame⟩ := (w.setSubscriptions table).maskRequest_refines r htable
  exact ⟨hret, fun hfalse => hsame (hret ▸ hfalse)⟩

theorem subscriptions_refine_masks_reference :
    let rs : List MaskRequest := [⟨1, 7, 3, true, false⟩, ⟨2, 8, 1, true, true⟩,
      ⟨3, 7, 3, false, false⟩]
    ReadsAs Reference.limits
      (Reference.world.dispatchAll (rs.map (MaskRequest.message _))).engine.telemetrySubscriptions
      (masksAfter Reference.limits rs) := by
  obtain ⟨w', rfl, hreads, -⟩ := subscriptions_refine_masks Reference.world rfl
    [⟨1, 7, 3, true, false⟩, ⟨2, 8, 1, true, true⟩, ⟨3, 7, 3, false, false⟩]
  exact hreads

end RtsynEngine
