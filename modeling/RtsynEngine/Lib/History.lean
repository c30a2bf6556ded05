import Mathlib.Data.List.Induction

/-! Histories that grow at the end, and properties of each entry and the history before it. -/

namespace History

variable {α β : Type*}

/-- Each entry of `l` has the property `P` with the entries before it. -/
def Each (P : List α → α → Prop) (l : List α) : Prop :=
  ∀ before a after, l = before ++ a :: after → P before a

variable {P : List α → α → Prop}

theorem each_nil : Each P [] := by
  intro before a after h
  simp at h

theorem each_append_singleton {l : List α} {b : α} :
    Each P (l ++ [b]) ↔ Each P l ∧ P l b := by
  refine ⟨fun h => ⟨fun before a after hl => ?_, h l b [] rfl⟩, fun ⟨h, hb⟩ before a after hl => ?_⟩
  · exact h before a (after ++ [b]) (by rw [hl]; simp)
  · rcases after.eq_nil_or_concat with rfl | ⟨after', c, rfl⟩
    · obtain ⟨rfl, hab⟩ := List.append_inj' hl rfl
      cases hab
      exact hb
    · rw [List.concat_eq_append, ← List.cons_append, ← List.append_assoc] at hl
      exact h before a after' (List.append_inj' hl rfl).1

theorem Each.append {l l' : List α} (h : Each P l)
    (h' : ∀ before a after, l' = before ++ a :: after → P (l ++ before) a) : Each P (l ++ l') := by
  induction l' using List.reverseRecOn with
  | nil =>
    rw [List.append_nil]
    exact h
  | append_singleton l' b ih =>
    have hearlier : Each P (l ++ l') :=
      ih fun before a after hl => h' before a (after ++ [b]) (by rw [hl]; simp)
    rw [← List.append_assoc]
    exact each_append_singleton.mpr ⟨hearlier, h' l' b [] rfl⟩

/-- If each entry that `f` selects has a larger number than the selected ones before it, the
numbers increase. -/
theorem Each.pairwise {l : List α} {f : α → Option β} (rank : β → Nat)
    (h : Each (fun before a => ∀ b, f a = some b → ∀ c ∈ before.filterMap f, rank c < rank b) l) :
    (l.filterMap f).Pairwise fun b c => rank b < rank c := by
  induction l using List.reverseRecOn with
  | nil => exact .nil
  | append_singleton l a ih =>
    obtain ⟨hl, ha⟩ := each_append_singleton.mp h
    rw [List.filterMap_append, List.pairwise_append]
    refine ⟨ih hl, ?_, fun b hb c hc => ?_⟩
    · cases hfa : f a <;> simp [hfa]
    · obtain ⟨a', ha', hc⟩ := List.mem_filterMap.mp hc
      rw [List.mem_singleton.mp ha'] at hc
      exact ha c hc b hb

end History
