import Mathlib.Data.Set.Insert
import Mathlib.Logic.Function.Basic
import RtsynEngine.Lib.Transition

/-! Catalogues.  A name stands for a prototype, which another can replace, and instances are made of
prototypes and discarded by their keys.  With a prototype go its instances, so that each instance is
of what its name stands for. -/

@[ext]
structure Catalogue {ν τ ι : Type} (nameOf : τ → ν) (prototype : ι → τ) where
  bound : ν → Option τ
  instances : Set ι
  named {n : ν} {t : τ} : bound n = some t → nameOf t = n
  made {i : ι} : i ∈ instances → bound (nameOf (prototype i)) = some (prototype i)

namespace Catalogue

variable {ν τ ι κ : Type} {nameOf : τ → ν} {prototype : ι → τ}

/-- What is done to a catalogue.  A prototype is bound to its own name. -/
inductive Change (ν τ ι κ : Type)
  | bind (t : τ)
  | unbind (n : ν)
  | make (i : ι)
  | discard (k : κ)

variable [DecidableEq ν]

/-- The name stands for something else, or for nothing, and what was made of it is gone. -/
def rebind (c : Catalogue nameOf prototype) (n : ν) (t : Option τ) (ht : ∀ t' ∈ t, nameOf t' = n) :
    Catalogue nameOf prototype where
  bound := Function.update c.bound n t
  instances := {i | i ∈ c.instances ∧ nameOf (prototype i) ≠ n}
  named {m t'} h := by
    by_cases hm : m = n
    · subst hm
      rw [Function.update_self] at h
      exact ht t' h
    · rw [Function.update_of_ne hm] at h
      exact c.named h
  made {i} h := by
    rw [Function.update_of_ne h.2]
    exact c.made h.1

def insert (c : Catalogue nameOf prototype) (i : ι)
    (hi : c.bound (nameOf (prototype i)) = some (prototype i)) : Catalogue nameOf prototype where
  bound := c.bound
  instances := Insert.insert i c.instances
  named := c.named
  made h := by
    rcases h with rfl | h
    · exact hi
    · exact c.made h

def discard (c : Catalogue nameOf prototype) (key : ι → κ) (k : κ) :
    Catalogue nameOf prototype where
  bound := c.bound
  instances := {i | i ∈ c.instances ∧ key i ≠ k}
  named := c.named
  made h := c.made h.1

variable [DecidableEq τ] (key : ι → κ)

/-- An instance can only be made of what its name stands for. -/
def step (c : Catalogue nameOf prototype) : Change ν τ ι κ → Option (Catalogue nameOf prototype)
  | .bind t => some (c.rebind (nameOf t) (some t) fun _ h => by cases h; rfl)
  | .unbind n => some (c.rebind n none nofun)
  | .make i =>
    if hi : c.bound (nameOf (prototype i)) = some (prototype i) then some (c.insert i hi) else none
  | .discard k => some (c.discard key k)

/-! ### Histories -/

/-- What the change makes the name stand for, if it is about that name. -/
def Change.binds (nameOf : τ → ν) (n : ν) : Change ν τ ι κ → Option (Option τ)
  | .bind t => if nameOf t = n then some (some t) else none
  | .unbind m => if m = n then some none else none
  | .make _ | .discard _ => none

/-- The instance is still there after the change. -/
def Change.Leaves (nameOf : τ → ν) (prototype : ι → τ) (key : ι → κ) (i : ι) :
    Change ν τ ι κ → Prop
  | .bind t => nameOf (prototype i) ≠ nameOf t
  | .unbind n => nameOf (prototype i) ≠ n
  | .make _ => True
  | .discard k => key i ≠ k

variable {key} {c c' : Catalogue nameOf prototype}

theorem step_make {i : ι} (h : step key c (.make i) = some c') :
    ∃ hi, c' = c.insert i hi := by
  have hmake : (if hi : c.bound (nameOf (prototype i)) = some (prototype i) then
      some (c.insert i hi) else none) = some c' := h
  split at hmake
  · next hi =>
    cases hmake
    exact ⟨hi, rfl⟩
  · cases hmake

theorem step_bound {a : Change ν τ ι κ} (h : step key c a = some c') (n : ν) :
    c'.bound n = (a.binds nameOf n).getD (c.bound n) := by
  have hrebind : ∀ m (t : Option τ), Function.update c.bound m t n =
      (if m = n then some t else none).getD (c.bound n) := by
    intro m t
    by_cases hm : m = n
    · subst hm
      rw [Function.update_self, if_pos rfl]
      rfl
    · rw [Function.update_of_ne (Ne.symm hm), if_neg hm]
      rfl
  cases a with
  | bind t =>
    cases h
    exact hrebind _ _
  | unbind m =>
    cases h
    exact hrebind _ _
  | make i =>
    obtain ⟨hi, rfl⟩ := step_make h
    rfl
  | discard k =>
    cases h
    rfl

theorem mem_step {a : Change ν τ ι κ} (h : step key c a = some c') (i : ι) :
    i ∈ c'.instances ↔ a = .make i ∨ i ∈ c.instances ∧ a.Leaves nameOf prototype key i := by
  cases a with
  | make j =>
    obtain ⟨hj, rfl⟩ := step_make h
    simp only [insert, Set.mem_insert_iff, Change.make.injEq, Change.Leaves, and_true, eq_comm]
  | _ =>
    cases h
    exact ⟨.inr, Or.rec nofun id⟩

/-- A name stands for what it was last made to stand for. -/
theorem run_bound {as : List (Change ν τ ι κ)} (h : Transition.run (step key) c as = some c')
    (n : ν) : c'.bound n = (as.reverse.findSome? (Change.binds nameOf n)).getD (c.bound n) := by
  induction as generalizing c with
  | nil =>
    cases h
    rfl
  | cons a as ih =>
    obtain ⟨c₁, hfirst, hrest⟩ := Option.bind_eq_some_iff.mp h
    rw [ih hrest, step_bound hfirst, List.reverse_cons, List.findSome?_append, Option.getD_or]
    simp

/-- There are the instances that were made, or were there at first, and that each change since then
has left. -/
theorem mem_run {as : List (Change ν τ ι κ)} (h : Transition.run (step key) c as = some c')
    (i : ι) : i ∈ c'.instances ↔
      (∃ before after, as = before ++ .make i :: after ∧
        ∀ a ∈ after, a.Leaves nameOf prototype key i) ∨
      i ∈ c.instances ∧ ∀ a ∈ as, a.Leaves nameOf prototype key i := by
  induction as generalizing c with
  | nil =>
    cases h
    simp
  | cons a as ih =>
    obtain ⟨c₁, hfirst, hrest⟩ := Option.bind_eq_some_iff.mp h
    rw [ih hrest, mem_step hfirst, List.forall_mem_cons]
    constructor
    · rintro (⟨before, after, rfl, hafter⟩ | ⟨rfl | ⟨hi, ha⟩, has⟩)
      · exact .inl ⟨a :: before, after, rfl, hafter⟩
      · exact .inl ⟨[], as, rfl, has⟩
      · exact .inr ⟨hi, ha, has⟩
    · rintro (⟨before, after, heq, hafter⟩ | ⟨hi, ha, has⟩)
      · cases before with
        | nil =>
          cases heq
          exact .inr ⟨.inl rfl, hafter⟩
        | cons b before =>
          cases heq
          exact .inl ⟨before, after, rfl, hafter⟩
      · exact .inr ⟨.inr ⟨hi, ha⟩, has⟩

end Catalogue
