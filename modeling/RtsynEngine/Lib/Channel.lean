/-! A bounded FIFO between one producer and one consumer, as the producer sees it.  The consumer's
pops are a schedule: how many items it takes before each of the producer's coming pushes. -/

/-- A channel: its items, oldest first, and the pops before each coming push; where the schedule
ends the consumer pops nothing more. -/
structure Channel (α : Type) where
  capacity : Nat
  items : List α
  pops : List Nat
deriving DecidableEq

namespace Channel

variable {α : Type}

/-- The items left when the consumer has made the pops before the next push. -/
def pending (c : Channel α) : List α := c.items.drop (c.pops.headD 0)

/-- A push: it appends the item unless the channel is full at that moment. -/
def tryPush (c : Channel α) (a : α) : Bool × Channel α :=
  if c.pending.length < c.capacity then
    (true, { c with items := c.pending ++ [a], pops := c.pops.tail })
  else (false, { c with items := c.pending, pops := c.pops.tail })

/-- Whether push number `k` of a burst finds room: a count over the numbers of items alone, with
`occupied` items at first and the consumer's `pops` before each push. -/
def findsRoom (capacity : Nat) : (occupied : Nat) → (pops : List Nat) → (k : Nat) → Bool
  | occupied, pops, 0 => decide (occupied - pops.headD 0 < capacity)
  | occupied, pops, k + 1 =>
    findsRoom capacity
      (if occupied - pops.headD 0 < capacity then occupied - pops.headD 0 + 1
        else occupied - pops.headD 0) pops.tail k

/-- Whether push number `k` from now on finds room. -/
def room (c : Channel α) (k : Nat) : Bool := findsRoom c.capacity c.items.length c.pops k

theorem room_zero (c : Channel α) (a : α) : c.room 0 = (c.tryPush a).1 := by
  simp only [room, findsRoom, tryPush, pending, List.length_drop]
  split <;> simp_all

theorem room_succ (c : Channel α) (a : α) (k : Nat) : c.room (k + 1) = (c.tryPush a).2.room k := by
  simp only [room, findsRoom, tryPush, pending, List.length_drop]
  split <;> simp

/-- The items of a burst that were taken, by the outcomes of their pushes. -/
def taken : List α → List Bool → List α
  | a :: as, true :: outcomes => a :: taken as outcomes
  | _ :: as, false :: outcomes => taken as outcomes
  | _, _ => []

theorem taken_append {as as' : List α} {outcomes outcomes' : List Bool}
    (hlength : outcomes.length = as.length) :
    taken (as ++ as') (outcomes ++ outcomes') = taken as outcomes ++ taken as' outcomes' := by
  induction as generalizing outcomes with
  | nil =>
    rw [List.length_nil, List.length_eq_zero_iff] at hlength
    subst hlength
    cases as' <;> cases outcomes' <;> rfl
  | cons a as ih =>
    cases outcomes with
    | nil => cases hlength
    | cons o outcomes =>
      have htail := ih (Nat.succ.inj hlength)
      cases o <;> simp [taken, htail]

theorem taken_sublist (as : List α) (outcomes : List Bool) : (taken as outcomes).Sublist as := by
  fun_induction taken as outcomes with
  | case1 a as outcomes ih => exact ih.cons_cons a
  | case2 a as outcomes ih => exact ih.cons a
  | case3 => exact List.nil_sublist _

/-- Everything was taken exactly when no push failed. -/
theorem taken_eq_self_iff {as : List α} {outcomes : List Bool}
    (hlength : outcomes.length = as.length) :
    taken as outcomes = as ↔ ∀ o ∈ outcomes, o = true := by
  induction as generalizing outcomes with
  | nil =>
    rw [List.length_nil, List.length_eq_zero_iff] at hlength
    subst hlength
    exact ⟨fun _ o ho => (nomatch ho), fun _ => rfl⟩
  | cons a as ih =>
    cases outcomes with
    | nil => cases hlength
    | cons o outcomes =>
      have htail := ih (Nat.succ.inj hlength)
      cases o with
      | true => simp [taken, htail]
      | false =>
        refine ⟨fun h => ?_, fun h => nomatch h false (List.mem_cons_self ..)⟩
        have hle := (taken_sublist as outcomes).length_le
        have hlen := congrArg List.length h
        rw [taken, List.length_cons] at hlen
        omega

end Channel
