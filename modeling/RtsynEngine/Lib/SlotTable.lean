import Mathlib.Algebra.Notation.Support
import Mathlib.Data.Set.Card

/-! Slot tables.  A table gives each of finitely many slots a key and a value, or leaves it free.
It represents a map from keys to values with finite support: a key with a nonzero value has one
slot, which holds that value, and a key with value 0 has none. -/

namespace SlotTable

open Function

variable {ι κ α : Type*} [Zero α]

/-- The table `t` represents the map `f`. -/
structure Represents (t : ι → Option (κ × α)) (f : κ → α) : Prop where
  distinct : ∀ {i j k a b}, t i = some (k, a) → t j = some (k, b) → i = j
  sound : ∀ {i k a}, t i = some (k, a) → f k = a ∧ a ≠ 0
  complete : ∀ {k}, f k ≠ 0 → ∃ i, t i = some (k, f k)

theorem Represents.empty : Represents (fun _ : ι => (none : Option (κ × α))) fun _ => 0 where
  distinct h := nomatch h
  sound h := nomatch h
  complete h := absurd rfl h

variable {t : ι → Option (κ × α)} {f : κ → α}

namespace Represents

theorem eq_zero (h : Represents t f) {k : κ} (habsent : ∀ i a, t i ≠ some (k, a)) : f k = 0 := by
  by_contra hk
  obtain ⟨i, hi⟩ := h.complete hk
  exact habsent i _ hi

/-- Slot `i` may be written for key `k`: it is the slot of `k`, or it is free and `k` has none. -/
def Assignable (t : ι → Option (κ × α)) (f : κ → α) (i : ι) (k : κ) : Prop :=
  (∃ a, t i = some (k, a)) ∨ t i = none ∧ f k = 0

/-- The slot of a value: free for 0. -/
def Stores (o : Option (κ × α)) (k : κ) (b : α) : Prop :=
  o = some (k, b) ∧ b ≠ 0 ∨ o = none ∧ b = 0

theorem other_slot (h : Represents t f) {i j : ι} {k k' : κ} {a : α} (hi : Assignable t f i k)
    (hj : t j = some (k', a)) (hne : j ≠ i) : k' ≠ k := by
  rintro rfl
  rcases hi with ⟨b, hb⟩ | ⟨-, hz⟩
  · exact hne (h.distinct hj hb)
  · exact (h.sound hj).2 ((h.sound hj).1.symm.trans hz)

variable [DecidableEq ι] [DecidableEq κ]

/-- Writing an assignable slot of a key changes the value of that key alone. -/
theorem write (h : Represents t f) {i : ι} {k : κ} {b : α} {o : Option (κ × α)}
    (hi : Assignable t f i k) (ho : Stores o k b) :
    Represents (update t i o) (update f k b) := by
  have inSlot : ∀ {j k' a}, update t i o j = some (k', a) →
      j = i ∧ k' = k ∧ a = b ∧ b ≠ 0 ∨ j ≠ i ∧ k' ≠ k ∧ t j = some (k', a) := by
    intro j k' a hj
    by_cases hji : j = i
    · subst hji
      rw [update_self] at hj
      rcases ho with ⟨rfl, hb⟩ | ⟨rfl, -⟩
      · cases hj
        exact .inl ⟨rfl, rfl, rfl, hb⟩
      · cases hj
    · rw [update_of_ne hji] at hj
      exact .inr ⟨hji, h.other_slot hi hj hji, hj⟩
  refine ⟨fun {j l k' a c} hj hl => ?_, fun {j k' a} hj => ?_, fun {k'} hk' => ?_⟩
  · rcases inSlot hj with ⟨rfl, rfl, -⟩ | ⟨-, hne, hj'⟩ <;>
      rcases inSlot hl with ⟨rfl, hk, -⟩ | ⟨-, hne', hl'⟩
    · rfl
    · exact absurd rfl hne'
    · exact absurd hk hne
    · exact h.distinct hj' hl'
  · rcases inSlot hj with ⟨-, rfl, rfl, hb⟩ | ⟨-, hne, hj'⟩
    · exact ⟨update_self .., hb⟩
    · rw [update_of_ne hne]
      exact h.sound hj'
  · by_cases hkk : k' = k
    · subst hkk
      rw [update_self] at hk' ⊢
      rcases ho with ⟨rfl, -⟩ | ⟨-, hb⟩
      · exact ⟨i, update_self ..⟩
      · exact absurd hb hk'
    · rw [update_of_ne hkk] at hk' ⊢
      obtain ⟨j, hj⟩ := h.complete hk'
      refine ⟨j, ?_⟩
      rw [update_of_ne, hj]
      rintro rfl
      rcases hi with ⟨a, ha⟩ | ⟨hfree, -⟩
      · exact hkk (by rw [hj] at ha; cases ha; rfl)
      · rw [hj] at hfree
        cases hfree

omit [DecidableEq ι] [DecidableEq κ]

/-- As many slots are in use as keys have a nonzero value. -/
theorem ncard_support (h : Represents t f) :
    (support f).ncard = {i | t i ≠ none}.ncard := by
  refine (Set.ncard_congr (fun i hi => ((t i).get (Option.ne_none_iff_isSome.mp hi)).1)
    (fun i hi => ?_) (fun i j hi hj hij => ?_) fun k hk => ?_).symm
  · obtain ⟨⟨k, a⟩, hki⟩ := Option.ne_none_iff_exists'.mp hi
    simp only [hki, Option.get_some, mem_support]
    exact (h.sound hki).1 ▸ (h.sound hki).2
  · obtain ⟨⟨k, a⟩, hki⟩ := Option.ne_none_iff_exists'.mp hi
    obtain ⟨⟨l, b⟩, hlj⟩ := Option.ne_none_iff_exists'.mp hj
    simp only [hki, hlj, Option.get_some] at hij
    subst hij
    exact h.distinct hki hlj
  · obtain ⟨i, hi⟩ := h.complete hk
    have hused : i ∈ {i | t i ≠ none} := by
      rw [Set.mem_ofPred_eq, hi]
      exact Option.some_ne_none _
    exact ⟨i, hused, by simp [hi]⟩

/-- The table is full exactly when as many keys as there are slots have a nonzero value. -/
theorem full_iff [Finite ι] (h : Represents t f) :
    (∀ i, t i ≠ none) ↔ Nat.card ι ≤ (support f).ncard := by
  rw [h.ncard_support]
  constructor
  · intro hfull
    have huniv : {i | t i ≠ none} = Set.univ := Set.eq_univ_of_forall hfull
    rw [huniv, Set.ncard_univ]
  · intro hle
    have huniv := (Set.eq_univ_iff_ncard _).mpr (le_antisymm (Set.ncard_le_card _) hle)
    exact fun i => (Set.ext_iff.mp huniv i).mpr trivial

end Represents

end SlotTable
