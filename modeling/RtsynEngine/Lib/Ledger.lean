import Mathlib.Data.Finset.Basic
import RtsynEngine.Lib.Transition

/-! The ledger of a program that acquires and releases resources.  Some resources need others, which
have to be held as long as they are.  A ledger is sound if nothing is acquired twice, nothing is
acquired before or released after what needs it, and nothing is released that is not held. -/

namespace Ledger

variable {ρ : Type} [DecidableEq ρ]

inductive Entry (ρ : Type)
  | acquire (r : ρ)
  | release (r : ρ)
deriving DecidableEq

/-- What is held after an entry, if it is sound. -/
def enter (needs : ρ → Finset ρ) (held : Finset ρ) : Entry ρ → Option (Finset ρ)
  | .acquire r => if r ∉ held ∧ needs r ⊆ held then some (insert r held) else none
  | .release r => if r ∈ held ∧ ∀ s ∈ held, r ∉ needs s then some (held.erase r) else none

/-- A sound ledger that leads from what is held at first to what is held at its end. -/
def Sound (needs : ρ → Finset ρ) (held : Finset ρ) (entries : List (Entry ρ))
    (held' : Finset ρ) : Prop :=
  Transition.run (enter needs) held entries = some held'

variable {needs : ρ → Finset ρ} {held held' held'' : Finset ρ} {entries entries' : List (Entry ρ)}

theorem Sound.nil : Sound needs held [] held := rfl

theorem Sound.append (h : Sound needs held entries held') (h' : Sound needs held' entries' held'') :
    Sound needs held (entries ++ entries') held'' := by
  show (entries ++ entries').foldlM (enter needs) held = some held''
  rw [List.foldlM_append]
  exact Option.bind_eq_some_iff.mpr ⟨held', h, h'⟩

theorem Sound.acquire {r : ρ} (hnew : r ∉ held) (hneeds : needs r ⊆ held) :
    Sound needs held [.acquire r] (insert r held) := by
  simp [Sound, Transition.run, enter, hnew, hneeds]

theorem Sound.release {r : ρ} (hheld : r ∈ held) (hfree : ∀ s ∈ held, r ∉ needs s) :
    Sound needs held [.release r] (held.erase r) := by
  simp only [Sound, Transition.run, List.foldlM_cons, List.foldlM_nil, enter]
  rw [if_pos ⟨hheld, hfree⟩]
  rfl

/-- Releases of a list in which nothing comes before what needs it. -/
theorem Sound.releases (rs : List ρ) (hheld : ∀ r ∈ rs, r ∈ held) (hnodup : rs.Nodup)
    (horder : rs.Pairwise fun r s => r ∉ needs s) (hself : ∀ r ∈ rs, r ∉ needs r)
    (hfree : ∀ s ∈ held, s ∉ rs → ∀ r ∈ rs, r ∉ needs s) :
    Sound needs held (rs.map Entry.release) (held \ rs.toFinset) := by
  induction rs generalizing held with
  | nil => simp [Sound, Transition.run]
  | cons r rs ih =>
    obtain ⟨hr, hrs⟩ := List.nodup_cons.mp hnodup
    obtain ⟨hfirst, hrest⟩ := List.pairwise_cons.mp horder
    have hrelease : Sound needs held [.release r] (held.erase r) := by
      refine .release (hheld r (by simp)) fun s hs hneed => ?_
      by_cases hmem : s ∈ r :: rs
      · rcases List.mem_cons.mp hmem with rfl | hmem
        · exact hself s (by simp) hneed
        · exact hfirst s hmem hneed
      · exact hfree s hs hmem r (by simp) hneed
    have htail :
        Sound needs (held.erase r) (rs.map Entry.release) (held.erase r \ rs.toFinset) := by
      refine ih (fun t ht => ?_) hrs hrest (fun t ht => hself t (by simp [ht])) ?_
      · refine Finset.mem_erase.mpr ⟨?_, hheld t (by simp [ht])⟩
        rintro rfl
        exact hr ht
      · intro s hs hmem t ht
        obtain ⟨hsr, hs⟩ := Finset.mem_erase.mp hs
        exact hfree s hs (by simp [hsr, hmem]) t (by simp [ht])
    have hleft : held \ (r :: rs).toFinset = held.erase r \ rs.toFinset := by
      ext s
      simp only [List.toFinset_cons, Finset.mem_sdiff, Finset.mem_insert, Finset.mem_erase]
      tauto
    rw [hleft]
    exact hrelease.append htail

/-- What is held needs nothing that is not held. -/
def Closed (needs : ρ → Finset ρ) (held : Finset ρ) : Prop := ∀ r ∈ held, needs r ⊆ held

theorem enter_closed (hclosed : Closed needs held) {entry : Entry ρ}
    (h : enter needs held entry = some held') : Closed needs held' := by
  cases entry with
  | acquire r =>
    obtain ⟨hsound, hheld'⟩ := Option.ite_none_right_eq_some.mp h
    cases hheld'
    intro s hs
    rcases Finset.mem_insert.mp hs with rfl | hs
    · exact hsound.2.trans (Finset.subset_insert ..)
    · exact (hclosed s hs).trans (Finset.subset_insert ..)
  | release r =>
    obtain ⟨hsound, hheld'⟩ := Option.ite_none_right_eq_some.mp h
    cases hheld'
    intro s hs t ht
    have hs' := Finset.mem_of_mem_erase hs
    refine Finset.mem_erase.mpr ⟨?_, hclosed s hs' ht⟩
    rintro rfl
    exact hsound.2 s hs' ht

/-- In a sound ledger nothing that is held ever needs what is not. -/
theorem Sound.closed (h : Sound needs held entries held') (hclosed : Closed needs held) :
    Closed needs held' := by
  induction entries generalizing held with
  | nil =>
    cases h
    exact hclosed
  | cons entry entries ih =>
    obtain ⟨held₁, hfirst, hrest⟩ := Option.bind_eq_some_iff.mp h
    exact ih hrest (enter_closed hclosed hfirst)

theorem enter_count {entry : Entry ρ} (h : enter needs held entry = some held') (r : ρ) :
    (if r ∈ held then 1 else 0) + (if entry = .acquire r then 1 else 0) =
      (if r ∈ held' then 1 else 0) + (if entry = .release r then 1 else 0) := by
  cases entry with
  | acquire s =>
    obtain ⟨⟨hnew, -⟩, hheld'⟩ := Option.ite_none_right_eq_some.mp h
    cases hheld'
    by_cases hs : r = s
    · subst hs
      simp [hnew]
    · simp [hs, Ne.symm hs]
  | release s =>
    obtain ⟨⟨hmem, -⟩, hheld'⟩ := Option.ite_none_right_eq_some.mp h
    cases hheld'
    by_cases hs : r = s
    · subst hs
      simp [hmem]
    · simp [hs, Ne.symm hs]

/-- In a sound ledger each resource is released as often as it is acquired, but for what is held at
first and at the end. -/
theorem Sound.count (h : Sound needs held entries held') (r : ρ) :
    (if r ∈ held then 1 else 0) + entries.count (.acquire r) =
      (if r ∈ held' then 1 else 0) + entries.count (.release r) := by
  induction entries generalizing held with
  | nil =>
    cases h
    simp
  | cons entry entries ih =>
    obtain ⟨held₁, hfirst, hrest⟩ := Option.bind_eq_some_iff.mp h
    have hentry := enter_count hfirst r
    have htail := ih hrest
    simp only [List.count_cons, beq_iff_eq]
    omega

end Ledger
