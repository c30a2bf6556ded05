import RtsynEngine.Descriptor

/-! What a result record holds of a descriptor: the image of each string, each entry and the whole,
and that `rtsyn_engine_result_copy_descriptor` makes it. -/

namespace RtsynEngine

variable {L : Limits}

/-! ### Strings -/

namespace CString

theorem ext {a b : CString} (h : a.bytes = b.bytes) : a = b := by
  cases a
  cases h
  rfl

theorem ofBytes_bytes (bytes : List UInt8) :
    (ofBytes bytes).bytes = bytes.takeWhile (· != 0) := rfl

theorem ofBytes_append_zero {bytes rest : List UInt8} (hbytes : 0 ∉ bytes) :
    (ofBytes (bytes ++ 0 :: rest)).bytes = bytes := by
  have hall : ∀ b ∈ bytes, (b != 0) = true := by
    intro b hb
    simp only [bne_iff_ne]
    rintro rfl
    exact hbytes hb
  rw [ofBytes_bytes, List.takeWhile_append_of_pos hall]
  simp

theorem copyString_toList (n : Nat) (s : CString) :
    (copyString (Vector.replicate (n + 1) 0) (some s)).toList =
      s.bytes.take n ++ 0 :: List.replicate (n - s.bytes.length) 0 := by
  refine List.ext_getElem ?_ fun i h₁ h₂ => ?_
  · simp
    omega
  · have hi : i < n + 1 := by simpa using h₁
    simp only [copyString, strncpy, Vector.getElem_toList, Nat.add_sub_cancel,
      Vector.getElem_setIfInBounds, Vector.getElem_ofFn, List.getElem_append,
      List.getElem_cons, List.length_take, List.getElem_take, List.getElem_replicate]
    grind

/-- A string that `rtsyn_engine_copy_string` wrote is read as its bytes up to the field's last. -/
theorem ofBytes_copyString (n : Nat) (s : CString) :
    (ofBytes (copyString (Vector.replicate n 0) (some s)).toList).bytes =
      s.bytes.take (n - 1) := by
  cases n with
  | zero =>
    have hempty : (copyString (Vector.replicate 0 0) (some s)).toList = [] :=
      List.length_eq_zero_iff.mp (Vector.length_toList)
    rw [hempty]
    simp [ofBytes_bytes]
  | succ n =>
    rw [copyString_toList, ofBytes_append_zero fun h => s.noNul (List.mem_of_mem_take h)]
    rfl

end CString

/-- The longest prefix of a string that fits a field of `n` bytes together with a terminator.  A
null pointer counts as the empty string. -/
def fitting (n : Nat) (s : Option CString) : List UInt8 :=
  ((s.map CString.bytes).getD []).take (n - 1)

/-- A field holds as much of a string as fits, and zeros up to its end. -/
structure HoldsString {n : Nat} (s : Option CString) (field : Vector UInt8 n) : Prop where
  bytes : field.toList = fitting n s ++ List.replicate (n - (fitting n s).length) 0
  terminated : 0 < n → 0 ∈ field.toList

theorem zero_notMem_fitting (n : Nat) (s : Option CString) : 0 ∉ fitting n s := by
  intro h
  cases s with
  | none => simp [fitting] at h
  | some s => exact s.noNul (List.mem_of_mem_take h)

theorem fitting_length_lt {n : Nat} (hn : 0 < n) (s : Option CString) :
    (fitting n s).length < n := by
  have := List.length_take_le (n - 1) ((s.map CString.bytes).getD [])
  unfold fitting
  omega

theorem HoldsString.of_bytes {n : Nat} {s : Option CString} {field : Vector UInt8 n}
    (h : field.toList = fitting n s ++ List.replicate (n - (fitting n s).length) 0) :
    HoldsString s field := by
  refine ⟨h, fun hn => ?_⟩
  have hlength := fitting_length_lt hn s
  rw [h]
  exact List.mem_append_right _ (List.mem_replicate.mpr ⟨by omega, rfl⟩)

theorem holdsString_copyString (n : Nat) (s : Option CString) :
    HoldsString s (copyString (Vector.replicate n 0) s) := by
  apply HoldsString.of_bytes
  cases n with
  | zero =>
    have hempty : (copyString (Vector.replicate 0 0) s).toList = [] :=
      List.length_eq_zero_iff.mp (Vector.length_toList)
    rw [hempty]
    simp [fitting]
  | succ n =>
    cases s with
    | none =>
      have hset : copyString (Vector.replicate (n + 1) 0) none = Vector.replicate (n + 1) 0 := by
        ext i hi
        simp [copyString]
      rw [hset]
      simp [fitting]
    | some s =>
      have hrest : n + 1 - (s.bytes.take n).length = (n - s.bytes.length) + 1 := by
        rw [List.length_take]
        omega
      rw [CString.copyString_toList]
      change _ = s.bytes.take n ++ List.replicate (n + 1 - (s.bytes.take n).length) 0
      rw [hrest, List.replicate_succ]

/-! ### Entries -/

structure PortImage (i : Nat) (d : PortDescriptor) (p : ResultPort L) : Prop where
  id : p.id.toNat = i
  valueType : p.valueType = d.valueType
  direction : p.direction = d.direction
  name : HoldsString d.name p.name

structure ValueImage {nameSize descriptionSize : Nat} (i : Nat) (d : ValueDescriptor)
    (v : ResultValue nameSize descriptionSize) : Prop where
  id : v.id.toNat = i
  valueType : v.valueType = d.valueType
  name : HoldsString d.name v.name
  description : HoldsString d.description v.description

/-- The entries of a record's array below the count are images of the descriptor's, and all others
are zeroed. -/
def EntriesImage {α β : Type} {n : Nat} (Image : Nat → β → α → Prop) (zero : α) (count : UInt32)
    (source : List β) (entries : Vector α n) : Prop :=
  ∀ i (hi : i < n), (i < count.toNat → ∃ d, source[i]? = some d ∧ Image i d entries[i]) ∧
    (count.toNat ≤ i → entries[i] = zero)

/-- The loop rewrites the entries below its count, and no other. -/
theorem fillEntries_getElem {α : Type} {n : Nat} (entries : Vector α n) (count : Nat)
    (hcount : count ≤ n) (fill : Fin count → α → α) (i : Nat) (hi : i < n) :
    (fillEntries entries count hcount fill)[i] =
      if h : i < count then fill ⟨i, h⟩ entries[i] else entries[i] := by
  induction count with
  | zero => simp [fillEntries]
  | succ count ih =>
    have hstep : fillEntries entries (count + 1) hcount fill =
        (fillEntries entries count (by omega) fun j => fill j.castSucc).set count
          (fill (Fin.last count)
            (fillEntries entries count (by omega) fun j => fill j.castSucc)[count]) := by
      unfold fillEntries
      rw [Fin.foldl_succ_last]
      rfl
    have hrest := ih (by omega) fun j => fill j.castSucc
    rw [hstep, Vector.getElem_set]
    split
    · next heq =>
      subst heq
      rw [hrest, dif_neg (Nat.lt_irrefl count), dif_pos (Nat.lt_succ_self count)]
      rfl
    · next hne =>
      rw [hrest]
      by_cases h : i < count
      · rw [dif_pos h, dif_pos (Nat.lt_succ_of_lt h)]
        rfl
      · rw [dif_neg h, dif_neg (by omega)]

/-- The loop of the copy over an array makes its image. -/
theorem entriesImage_fillEntries {α β : Type} {n : Nat} {Image : Nat → β → α → Prop} (zero : α)
    {count : UInt32} {source : List β} (hsource : count.toNat ≤ source.length)
    (fill : Nat → β → α → α) (hfill : ∀ i < count.toNat, ∀ d, Image i d (fill i d zero)) :
    EntriesImage Image zero count source
      (fillEntries (Vector.replicate n zero) (min count.toNat n) (Nat.min_le_right _ _)
        fun i => fill i (source.get (sourceIndex hsource i))) := by
  intro i hi
  rw [fillEntries_getElem]
  constructor
  · intro hcount
    rw [dif_pos (by omega), Vector.getElem_replicate]
    refine ⟨source[i], List.getElem?_eq_getElem _, ?_⟩
    exact hfill i hcount _
  · intro hcount
    rw [dif_neg (by omega), Vector.getElem_replicate]

/-- The image of a descriptor: its type and counts, its strings as far as they fit, the entries that
the arrays have room for, and zeros everywhere else. -/
structure DescriptorImage (d : NodeDescriptor) (r : ResultNodeDescriptor L) : Prop where
  nodeType : r.nodeType = d.nodeType
  portCount : r.portCount = d.portCount
  paramCount : r.paramCount = d.paramCount
  stateCount : r.stateCount = d.stateCount
  name : HoldsString d.name r.name
  ports : EntriesImage PortImage (ResultPort.zero L) d.portCount d.ports r.ports
  params : EntriesImage ValueImage (ResultValue.zero L _ _) d.paramCount d.params r.params
  states : EntriesImage ValueImage (ResultValue.zero L _ _) d.stateCount d.states r.states

theorem toNat_ofNat_of_lt_count {i : Nat} {count : UInt32} (h : i < count.toNat) :
    (UInt32.ofNat i).toNat = i :=
  UInt32.toNat_ofNat_of_lt' (Nat.lt_trans h count.toNat_lt)

theorem portImage_fillPort {i : Nat} (hi : (UInt32.ofNat i).toNat = i) (d : PortDescriptor) :
    PortImage i d (fillPort i d (ResultPort.zero L)) :=
  ⟨hi, rfl, rfl, holdsString_copyString _ _⟩

theorem valueImage_fillValue {nameSize descriptionSize i : Nat} (hi : (UInt32.ofNat i).toNat = i)
    (d : ValueDescriptor) :
    ValueImage i d (fillValue i d (ResultValue.zero L nameSize descriptionSize)) :=
  ⟨hi, rfl, holdsString_copyString _ _, holdsString_copyString _ _⟩

theorem descriptorImage_copy (result : ResultNodeDescriptor L) (d : NodeDescriptor) :
    DescriptorImage d (resultCopyDescriptor result d) where
  nodeType := rfl
  portCount := rfl
  paramCount := rfl
  stateCount := rfl
  name := holdsString_copyString _ _
  ports := entriesImage_fillEntries _ d.portsHold fillPort fun _ hi _ =>
    portImage_fillPort (toNat_ofNat_of_lt_count hi) _
  params := entriesImage_fillEntries _ d.paramsHold fillValue fun _ hi _ =>
    valueImage_fillValue (toNat_ofNat_of_lt_count hi) _
  states := entriesImage_fillEntries _ d.statesHold fillValue fun _ hi _ =>
    valueImage_fillValue (toNat_ofNat_of_lt_count hi) _

end RtsynEngine
