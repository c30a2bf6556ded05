import Mathlib.Data.List.Basic

/-! Handles that run one thread after another.  The threads launched on a handle are listed newest
first, and a join is on the newest. -/

namespace Handle

/-- A thread that runs `State`'s function, and the joins on it that succeeded. -/
structure Thread (State : Type) where
  state : State
  joins : Nat
deriving DecidableEq

variable {State : Type}

/-- A join: `none` while it blocks, else whether it succeeds.  On a thread that has not been joined
it waits for the thread's function to return and succeeds; where the handle has no thread, or one
that has been joined, it may answer either way. -/
def threadJoin (returned : State) [DecidableEq State] (ts : List (Thread State))
    (outcome : Bool) : Option (Bool × List (Thread State)) :=
  match ts with
  | [] => some (outcome, [])
  | t :: ts =>
    if t.joins = 0 then
      if t.state = returned then some (true, { t with joins := 1 } :: ts) else none
    else some (outcome, { t with joins := if outcome then t.joins + 1 else t.joins } :: ts)

/-- All threads but the newest are `done`, and a joined thread has returned. -/
structure Settled (done : State → Prop) (returned : State) (ts : List (Thread State)) : Prop where
  tail : ∀ t ∈ ts.tail, done t.state
  joined : ∀ t ∈ ts, t.joins ≠ 0 → t.state = returned

/-- Where the newest thread is; a handle that has launched none counts as returned. -/
def headState (returned : State) (ts : List (Thread State)) : State :=
  match ts with
  | [] => returned
  | t :: _ => t.state

/-- The thread that was launched after `n` others has returned, and has been joined. -/
def threadOver (returned : State) [DecidableEq State] (ts : List (Thread State)) (n : Nat) : Bool :=
  ts.reverse[n]?.any fun t => decide (t.state = returned ∧ t.joins ≠ 0)

variable {done : State → Prop} {returned : State} {ts : List (Thread State)}

theorem headState_newest {t : Thread State} (ht : ts[0]? = some t) :
    headState returned ts = t.state := by
  cases ts with
  | nil => cases ht
  | cons head ts =>
    cases ht
    rfl

theorem headState_set {i : Nat} {t : Thread State} (hi : ts[i]? = some t) (state : State) :
    headState returned (ts.set i { t with state }) =
      if i = 0 then state else headState returned ts := by
  cases ts with
  | nil => cases hi
  | cons head ts => cases i <;> rfl

namespace Settled

theorem nil : Settled done returned [] := ⟨fun _ => nofun, fun _ => nofun⟩

theorem all_done (h : Settled done returned ts) (hdone : done (headState returned ts)) :
    ∀ t ∈ ts, done t.state := by
  intro t ht
  cases ts with
  | nil => cases ht
  | cons head ts =>
    rcases List.mem_cons.mp ht with rfl | htail
    · exact hdone
    · exact h.tail t htail

theorem launch (h : Settled done returned ts) (hdone : done (headState returned ts))
    (state : State) : Settled done returned (⟨state, 0⟩ :: ts) where
  tail := h.all_done hdone
  joined t ht hjoins := by
    rcases List.mem_cons.mp ht with rfl | htail
    · exact absurd rfl hjoins
    · exact h.joined t htail hjoins

theorem newest (h : Settled done returned ts) {i : Nat} {t : Thread State}
    (hi : ts[i]? = some t) (hdone : ¬done t.state) : i = 0 ∧ headState returned ts = t.state := by
  cases i with
  | zero => exact ⟨rfl, headState_newest hi⟩
  | succ i =>
    cases ts with
    | nil => cases hi
    | cons head ts => exact absurd (h.tail t (List.mem_of_getElem? hi)) hdone

theorem set (h : Settled done returned ts) {i : Nat} {t : Thread State}
    (hi : ts[i]? = some t) (hrunning : t.state ≠ returned) {state : State}
    (hdone : done t.state → done state) :
    Settled done returned (ts.set i { t with state }) where
  tail t' ht' := by
    cases ts with
    | nil => cases hi
    | cons head ts =>
      cases i with
      | zero => exact h.tail t' ht'
      | succ i =>
        rcases List.mem_or_eq_of_mem_set ht' with hold | rfl
        · exact h.tail t' hold
        · exact hdone (h.tail t (List.mem_of_getElem? hi))
  joined t' ht' hjoins := by
    rcases List.mem_or_eq_of_mem_set ht' with hold | rfl
    · exact h.joined t' hold hjoins
    · exact absurd (h.joined t (List.mem_of_getElem? hi) hjoins) hrunning

/-- Whatever it answers, a join is over only after the newest thread has returned. -/
theorem threadJoin [DecidableEq State] (h : Settled done returned ts) {outcome joined : Bool}
    {ts' : List (Thread State)} (hjoin : threadJoin returned ts outcome = some (joined, ts')) :
    Settled done returned ts' ∧ headState returned ts = returned ∧
      headState returned ts' = returned := by
  cases ts with
  | nil =>
    cases hjoin
    exact ⟨h, rfl, rfl⟩
  | cons t ts =>
    dsimp only [Handle.threadJoin] at hjoin
    have hothers : ∀ t' ∈ ts, t'.joins ≠ 0 → t'.state = returned :=
      fun t' ht' => h.joined t' (List.mem_cons_of_mem t ht')
    split at hjoin
    · split at hjoin
      · next hreturned =>
        cases hjoin
        exact ⟨⟨h.tail, List.forall_mem_cons.mpr ⟨fun _ => hreturned, hothers⟩⟩, hreturned,
          hreturned⟩
      · cases hjoin
    · next hjoins =>
      have hreturned := h.joined t (List.mem_cons_self ..) hjoins
      cases hjoin
      exact ⟨⟨h.tail, List.forall_mem_cons.mpr ⟨fun _ => hreturned, hothers⟩⟩, hreturned,
        hreturned⟩

end Settled

/-! ### Which joins are owed -/

/-- A join of the newest thread has succeeded. -/
def NewestJoined (ts : List (Thread State)) : Prop := ∃ t rest, ts = t :: rest ∧ t.joins ≠ 0

/-- The newest thread is still to be joined where `p` holds, whatever became of the others, and no
thread has been joined twice. -/
structure OwesNewest (p : Prop) (ts : List (Thread State)) : Prop where
  owed : p → ∃ t rest, ts = t :: rest ∧ t.joins = 0
  atMostOnce : ∀ t ∈ ts, t.joins ≤ 1

/-- The newest thread is still to be joined where `p` holds, and no other. -/
structure Owes (p : Prop) (ts : List (Thread State)) : Prop where
  owed : p → ∃ t rest, ts = t :: rest ∧ t.joins = 0 ∧ ∀ t ∈ rest, t.joins = 1
  settled : ¬p → ∀ t ∈ ts, t.joins = 1

variable {ts' : List (Thread State)}

theorem joins_set {ts : List (Thread State)} {i : Nat} {t : Thread State} (hi : ts[i]? = some t)
    (state : State) : (ts.set i { t with state }).map Thread.joins = ts.map Thread.joins := by
  obtain ⟨hlength, rfl⟩ := List.getElem?_eq_some_iff.mp hi
  refine List.ext_getElem (by simp) fun k hk hk' => ?_
  by_cases hik : i = k
  · subst hik
    simp
  · simp [List.getElem_set_ne hik]

theorem cons_of_joins {t : Thread State} {rest : List (Thread State)}
    (hjoins : ts'.map Thread.joins = (t :: rest).map Thread.joins) :
    ∃ t' rest', ts' = t' :: rest' ∧ t'.joins = t.joins ∧
      rest'.map Thread.joins = rest.map Thread.joins := by
  cases ts' with
  | nil => cases hjoins
  | cons t' rest' =>
    rw [List.map_cons, List.map_cons, List.cons.injEq] at hjoins
    exact ⟨t', rest', rfl, hjoins⟩

theorem mem_of_joins (hjoins : ts'.map Thread.joins = ts.map Thread.joins) {t : Thread State}
    (ht : t ∈ ts') : ∃ u ∈ ts, u.joins = t.joins :=
  List.mem_map.mp (hjoins ▸ List.mem_map.mpr ⟨t, ht, rfl⟩)

theorem NewestJoined.congr (h : NewestJoined ts)
    (hjoins : ts'.map Thread.joins = ts.map Thread.joins) : NewestJoined ts' := by
  obtain ⟨t, rest, rfl, ht⟩ := h
  obtain ⟨t', rest', rfl, ht', -⟩ := cons_of_joins hjoins
  exact ⟨t', rest', rfl, ht'.symm ▸ ht⟩

/-- A join of a thread that has not been joined succeeds. -/
theorem threadJoin_unjoined [DecidableEq State] {t : Thread State} {rest : List (Thread State)}
    (ht : t.joins = 0) {outcome joined : Bool}
    (hjoin : threadJoin returned (t :: rest) outcome = some (joined, ts')) :
    joined = true ∧ ts' = { t with joins := 1 } :: rest := by
  rw [threadJoin, if_pos ht] at hjoin
  split at hjoin
  · cases hjoin
    exact ⟨rfl, rfl⟩
  · cases hjoin

theorem threadOver_newest [DecidableEq State] {n : Nat} (hlength : ts.length = n + 1)
    (hreturned : ∀ t ∈ ts, t.joins ≠ 0 → t.state = returned) :
    threadOver returned ts n = true ↔ NewestJoined ts := by
  cases ts with
  | nil => cases hlength
  | cons t rest =>
    obtain rfl : rest.length = n := Nat.succ.inj hlength
    have hnewest : (t :: rest).reverse[rest.length]? = some t := by simp
    rw [threadOver, hnewest, Option.any_some, decide_eq_true_iff]
    constructor
    · rintro ⟨-, hjoins⟩
      exact ⟨t, rest, rfl, hjoins⟩
    · rintro ⟨_, _, heq, hjoins⟩
      cases heq
      exact ⟨hreturned t (List.mem_cons_self ..) hjoins, hjoins⟩

theorem threadOver_of_forall [DecidableEq State] {n : Nat} (hn : n < ts.length)
    (hover : ∀ t ∈ ts, t.state = returned ∧ t.joins ≠ 0) : threadOver returned ts n = true := by
  have hn' : n < ts.reverse.length := by rwa [List.length_reverse]
  rw [threadOver, List.getElem?_eq_getElem hn', Option.any_some, decide_eq_true_iff]
  exact hover _ (List.mem_reverse.mp (List.getElem_mem hn'))

theorem threadJoin_length [DecidableEq State] {outcome joined : Bool}
    (hjoin : threadJoin returned ts outcome = some (joined, ts')) : ts'.length = ts.length := by
  cases ts with
  | nil =>
    cases hjoin
    rfl
  | cons t rest =>
    dsimp only [threadJoin] at hjoin
    split at hjoin
    · split at hjoin <;> cases hjoin
      rfl
    · cases hjoin
      rfl

namespace OwesNewest

variable {p p' : Prop}

theorem nil (hp : ¬p) : OwesNewest p ([] : List (Thread State)) :=
  ⟨fun h => absurd h hp, fun _ h => nomatch h⟩

theorem congr (h : OwesNewest p ts) (hp : p' → p)
    (hjoins : ts'.map Thread.joins = ts.map Thread.joins) : OwesNewest p' ts' := by
  refine ⟨fun howed => ?_, fun t ht => ?_⟩
  · obtain ⟨t, rest, rfl, ht⟩ := h.owed (hp howed)
    obtain ⟨t', rest', rfl, ht', -⟩ := cons_of_joins hjoins
    exact ⟨t', rest', rfl, ht'.trans ht⟩
  · obtain ⟨u, hu, heq⟩ := mem_of_joins hjoins ht
    exact heq ▸ h.atMostOnce u hu

theorem unjoined (h : OwesNewest p ts) (hp : p) : ¬NewestJoined ts := by
  obtain ⟨t, rest, rfl, ht⟩ := h.owed hp
  rintro ⟨t', rest', heq, ht'⟩
  cases heq
  exact ht' ht

/-- The join that is owed succeeds. -/
theorem join [DecidableEq State] (h : OwesNewest p ts) (hp : p) {outcome joined : Bool}
    (hjoin : threadJoin returned ts outcome = some (joined, ts')) (hp' : ¬p') :
    joined = true ∧ NewestJoined ts' ∧ OwesNewest p' ts' := by
  obtain ⟨t, rest, rfl, ht⟩ := h.owed hp
  obtain ⟨rfl, rfl⟩ := threadJoin_unjoined ht hjoin
  refine ⟨rfl, ⟨_, rest, rfl, Nat.one_ne_zero⟩, fun howed => absurd howed hp', ?_⟩
  exact List.forall_mem_cons.mpr ⟨Nat.le_refl 1, (List.forall_mem_cons.mp h.atMostOnce).2⟩

end OwesNewest

namespace Owes

variable {p p' : Prop}

theorem nil (hp : ¬p) : Owes p ([] : List (Thread State)) :=
  ⟨fun h => absurd h hp, fun _ _ h => nomatch h⟩

/-- Whether a join is owed depends on the numbers of joins alone. -/
theorem congr (h : Owes p ts) (hp : p' ↔ p)
    (hjoins : ts'.map Thread.joins = ts.map Thread.joins) : Owes p' ts' := by
  constructor
  · intro howed
    obtain ⟨t, rest, rfl, ht, hrest⟩ := h.owed (hp.mp howed)
    obtain ⟨t', rest', rfl, ht', hjoins'⟩ := cons_of_joins hjoins
    refine ⟨t', rest', rfl, ht'.trans ht, fun u hu => ?_⟩
    obtain ⟨v, hv, heq⟩ := mem_of_joins hjoins' hu
    exact heq.symm.trans (hrest v hv)
  · intro hnot t ht
    obtain ⟨v, hv, heq⟩ := mem_of_joins hjoins ht
    exact heq.symm.trans (h.settled (fun howed => hnot (hp.mpr howed)) v hv)

theorem launch (h : Owes p ts) (hp : ¬p) (state : State) (hp' : p') :
    Owes p' (⟨state, 0⟩ :: ts) :=
  ⟨fun _ => ⟨_, _, rfl, rfl, h.settled hp⟩, fun hnot => absurd hp' hnot⟩

theorem join [DecidableEq State] (h : Owes p ts) (hp : p) {outcome joined : Bool}
    (hjoin : threadJoin returned ts outcome = some (joined, ts')) (hp' : ¬p') : Owes p' ts' := by
  obtain ⟨t, rest, rfl, ht, hrest⟩ := h.owed hp
  obtain ⟨-, rfl⟩ := threadJoin_unjoined ht hjoin
  exact ⟨fun h => absurd h hp', fun _ => List.forall_mem_cons.mpr ⟨rfl, hrest⟩⟩

/-- The newest thread has been joined at most once, as have all others. -/
theorem newest (h : Owes p ts) : OwesNewest p ts := by
  by_cases hp : p
  · obtain ⟨t, rest, rfl, ht, hrest⟩ := h.owed hp
    refine ⟨fun _ => ⟨t, rest, rfl, ht⟩, List.forall_mem_cons.mpr ⟨by omega, fun u hu => ?_⟩⟩
    exact Nat.le_of_eq (hrest u hu)
  · exact ⟨fun howed => absurd howed hp, fun t ht => Nat.le_of_eq (h.settled hp t ht)⟩

/-- All threads but the newest have been joined once. -/
theorem tail (h : Owes p ts) : ∀ t ∈ ts.tail, t.joins = 1 := by
  by_cases hp : p
  · obtain ⟨t, rest, rfl, -, hrest⟩ := h.owed hp
    exact hrest
  · exact fun t ht => h.settled hp t (List.mem_of_mem_tail ht)

end Owes

/-! ### What a step does to a handle -/

/-- What a step does to a handle whose newest thread is still to be joined where `p` holds before
the step, and where `p'` holds after it.  It may launch a thread only where `launching` holds, and
give up a join that was owed only where `lost` does. -/
inductive Moves (returned : State) [DecidableEq State] (launching lost p p' : Prop)
    (ts ts' : List (Thread State)) : Prop
  | keep (hp : p' ↔ p) (hjoins : ts'.map Thread.joins = ts.map Thread.joins)
  | launch (hlaunching : launching) (hp : ¬p) (hp' : p') (state : State)
    (hthreads : ts' = ⟨state, 0⟩ :: ts)
  | join (hp : p) (hp' : ¬p') (outcome joined : Bool)
    (hjoin : threadJoin returned ts outcome = some (joined, ts'))
  | lose (hlost : lost) (hp' : ¬p') (hjoins : ts'.map Thread.joins = ts.map Thread.joins)

namespace Moves

variable [DecidableEq State] {launching lost p p' : Prop}

theorem owes (hmoves : Moves returned launching lost p p' ts ts') (h : Owes p ts)
    (hlost : lost → ¬p) : Owes p' ts' := by
  cases hmoves with
  | keep hp hjoins => exact h.congr hp hjoins
  | launch _ hp hp' state hthreads =>
    rw [hthreads]
    exact h.launch hp state hp'
  | join hp hp' outcome joined hjoin => exact h.join hp hjoin hp'
  | lose hgone hp' hjoins => exact h.congr (iff_of_false hp' (hlost hgone)) hjoins

theorem owesNewest (hmoves : Moves returned launching lost p p' ts ts') (h : OwesNewest p ts) :
    OwesNewest p' ts' := by
  cases hmoves with
  | keep hp hjoins => exact h.congr hp.mp hjoins
  | launch _ hp hp' state hthreads =>
    rw [hthreads]
    exact ⟨fun _ => ⟨_, _, rfl, rfl⟩, List.forall_mem_cons.mpr ⟨Nat.zero_le 1, h.atMostOnce⟩⟩
  | join hp hp' outcome joined hjoin => exact (h.join hp hjoin hp').2.2
  | lose _ hp' hjoins => exact h.congr (fun h => absurd h hp') hjoins

/-- No thread is forgotten, and one more is there only after a launch. -/
theorem length (hmoves : Moves returned launching lost p p' ts ts') :
    ts'.length = ts.length ∨ launching ∧ ts'.length = ts.length + 1 := by
  have hsame : ts'.map Thread.joins = ts.map Thread.joins → ts'.length = ts.length := by
    intro hjoins
    rw [← List.length_map, hjoins, List.length_map]
  cases hmoves with
  | keep _ hjoins => exact .inl (hsame hjoins)
  | launch hlaunching _ _ state hthreads =>
    rw [hthreads]
    exact .inr ⟨hlaunching, rfl⟩
  | join _ _ outcome joined hjoin => exact .inl (threadJoin_length hjoin)
  | lose _ _ hjoins => exact .inl (hsame hjoins)

end Moves

end Handle
