import RtsynEngine.Lib.Exchange
import RtsynEngine.Proof.Graph
import RtsynEngine.Proof.Replies

/-! The commands of the clients and the last records of their answers: over interleaved runs the
answers come in the order of the requests and at most one to each, and exactly one where the result
queue has room. -/

namespace RtsynEngine

open Exchange Transition

variable {D : Deps} {L : Limits}

/-- What a client matches a record with its request by. -/
abbrev Ticket : Type := UInt64 × CommandType

instance (r : ResultMessage L) : Decidable r.isTerminator :=
  inferInstanceAs (Decidable (_ ∧ _))

/-- The request that a record is the last answer to; the other records of a snapshot are not. -/
def ResultMessage.ticket (r : ResultMessage L) : Option Ticket :=
  if r.commandType = .requestRuntimeNodes ∧ ¬r.isTerminator then none
  else some (r.seq, r.commandType)

/-- What the client of a command that is answered waits for. -/
def CommandMessage.request (D : Deps) (m : CommandMessage D.limits) : Option Ticket :=
  if m.data.answered = true ∧ m.data.malformed D = false then some (m.seq, m.type) else none

theorem filterMap_sublist_singleton {α β : Type} {f : α → Option β} {l : List α} {b : β}
    (hvalue : ∀ a ∈ l, ∀ b', f a = some b' → b' = b)
    (hlast : ∀ before a after, l = before ++ a :: after → f a ≠ none → after = []) :
    List.Sublist (l.filterMap f) [b] := by
  rcases l.eq_nil_or_concat' with rfl | ⟨before, last, rfl⟩
  · exact List.nil_sublist _
  · have hbefore : before.filterMap f = [] := by
      rw [List.filterMap_eq_nil_iff]
      intro a ha
      by_contra hsome
      obtain ⟨front, back, rfl⟩ := List.append_of_mem ha
      have hnil := hlast front a (back ++ [last]) (by simp) hsome
      simp at hnil
    rw [List.filterMap_append, hbefore, List.nil_append]
    cases h : f last with
    | none => simp [h]
    | some b' =>
      have heq : b' = b := hvalue last (by simp) b' h
      simp [h, heq]

/-- Of the answer to a command at most the last record is a last one. -/
theorem Contribution.tickets {w : World D} {m : CommandMessage D.limits}
    {rs : List (ResultMessage D.limits)} (h : Contribution w m rs)
    (hanswered : m.data.answered = true) :
    List.Sublist (rs.filterMap ResultMessage.ticket) [(m.seq, m.type)] := by
  refine filterMap_sublist_singleton (fun r hr t ht => ?_) fun before r after hrs hr => ?_
  · obtain ⟨hseq, htype⟩ := h.origin r hr
    unfold ResultMessage.ticket at ht
    split at ht
    · cases ht
    · cases ht
      rw [hseq, htype]
  · cases hsingle : m.type.single with
    | true =>
      have hlength := h.single hsingle
      rw [hrs, List.length_append, List.length_cons] at hlength
      exact List.length_eq_zero_iff.mp (by omega)
    | false =>
      have hm := requestRuntimeNodes_of_answered hanswered hsingle
      have htype : r.commandType = .requestRuntimeNodes :=
        (h.origin r (by simp [hrs])).2.trans (congrArg CommandData.type hm)
      refine h.terminator before r after hrs ?_
      by_contra hnot
      exact hr (if_pos ⟨htype, hnot⟩)

namespace World

variable {w : World D} {m : CommandMessage D.limits}

/-- The last records of answers that the queue took, oldest first. -/
def tickets (w : World D) : List Ticket := w.accepted.filterMap ResultMessage.ticket

theorem dispatch_unanswered (h : m.request D = none) :
    (w.dispatchCommand m).2.accepted = w.accepted := by
  by_cases hanswered : m.data.answered = false
  · rw [accepted, (w.dispatch_quiet hanswered).trace, accepted]
  · rw [Bool.not_eq_false] at hanswered
    by_cases hmalformed : m.data.malformed D = true
    · rw [w.dispatch_malformed hmalformed]
    · rw [Bool.not_eq_true] at hmalformed
      rw [CommandMessage.request, if_pos ⟨hanswered, hmalformed⟩] at h
      cases h

theorem dispatch_tickets (laws : D.RuntimeLaws) (nodeLaws : D.NodeLaws) (w : World D)
    (m : CommandMessage D.limits) : ∃ rs, (w.dispatchCommand m).2.accepted = w.accepted ++ rs ∧
      List.Sublist (rs.filterMap ResultMessage.ticket) (m.request D).toList := by
  by_cases hrequest : m.data.answered = true ∧ m.data.malformed D = false
  · obtain ⟨as, rs, hrecorded, hcontribution⟩ := w.dispatch_contribution laws nodeLaws m
    refine ⟨rs, hrecorded.accepted, ?_⟩
    rw [CommandMessage.request, if_pos hrequest]
    exact (hcontribution.sublist hrecorded.taken).tickets hrequest.1
  · have hnone : m.request D = none := if_neg hrequest
    exact ⟨[], by rw [dispatch_unanswered hnone, List.append_nil], List.nil_sublist _⟩

theorem answeredOnce_of_room (laws : D.RuntimeLaws) (nodeLaws : D.NodeLaws)
    (hqueue : w.engine.config.resultQueue = true) (hanswered : m.data.answered = true)
    (hm : m.data.malformed D = false) (hroom : HasRoom D (w.recordCount m) w.results) :
    AnsweredOnce w m := by
  cases hsingle : m.type.single with
  | true =>
    obtain ⟨w₁, r, hreplies⟩ := w.exists_replies laws nodeLaws hsingle hm
    have hcount : w.recordCount m = 1 := by
      unfold recordCount
      split
      · next hdata =>
        have htype : m.type = .requestRuntimeNodes := congrArg CommandData.type hdata
        rw [htype] at hsingle
        cases hsingle
      · rfl
    rw [hcount] at hroom
    exact hreplies.answeredOnce hsingle hqueue hroom
  | false =>
    have hdata := requestRuntimeNodes_of_answered hanswered hsingle
    rw [recordCount, hdata] at hroom
    exact snapshot_answeredOnce hdata hqueue hroom

/-- Where there is room, a request has its answer's last record, and no other command has one. -/
theorem dispatch_ticket (laws : D.RuntimeLaws) (nodeLaws : D.NodeLaws)
    (hqueue : w.engine.config.resultQueue = true) (hroom : HasRoom D (w.recordCount m) w.results)
    {rs : List (ResultMessage D.limits)}
    (hrs : (w.dispatchCommand m).2.accepted = w.accepted ++ rs) :
    rs.filterMap ResultMessage.ticket = (m.request D).toList := by
  obtain ⟨rs', hrs', hsublist⟩ := w.dispatch_tickets laws nodeLaws m
  obtain rfl := List.append_cancel_left (hrs.symm.trans hrs')
  refine hsublist.eq_of_length_le ?_
  by_cases hrequest : m.data.answered = true ∧ m.data.malformed D = false
  · obtain ⟨before, last, hanswers, ⟨hseq, htype, hterminator⟩, -, -⟩ :=
      answeredOnce_of_room laws nodeLaws hqueue hrequest.1 hrequest.2 hroom
    rw [answers_eq hrs] at hanswers
    have hticket : last.ticket = some (m.seq, m.type) := by
      rw [← hseq, ← htype]
      refine if_neg fun hother => hother.2 (hterminator ?_)
      exact requestRuntimeNodes_of_answered hrequest.1 (by rw [← htype, hother.1]; rfl)
    rw [CommandMessage.request, if_pos hrequest, hanswers, List.filterMap_append]
    simp [hticket]
  · rw [CommandMessage.request, if_neg hrequest]
    exact Nat.zero_le _

end World

namespace System

variable {s s' : System D}

/-- The commands that have been pushed and not been dispatched, oldest first. -/
def pending (s : System D) : List (CommandMessage D.limits) :=
  s.loop.inFlight ++ s.world.commands

/-- If the loop is about to dispatch a command, the result queue has room for its answer. -/
def RoomToAnswer (s : System D) (a : Act D.limits) : Prop :=
  a = .step (.rt 0) → ∀ nextDeadlineNs startedAtNs i m,
    s.loop = .dispatch nextDeadlineNs startedAtNs i m →
      HasRoom D ((s.world.emit (.dispatched m)).recordCount m) s.world.results

def exchange (D : Deps) : View (System D) (Act D.limits) (CommandMessage D.limits) Ticket :=
  ⟨pending, Act.pushed, fun s => s.world.tickets⟩

/-- An act serves nothing, or the command that it dispatches. -/
theorem act_serves {R : List (CommandMessage D.limits) → List Ticket → Prop} (hR : Additive R)
    (h : s.Covered) {a : Act D.limits} (hact : s.act a = some s')
    (hdispatch : a = .step (.rt 0) → ∀ nextDeadlineNs startedAtNs i m,
      s.loop = .dispatch nextDeadlineNs startedAtNs i m →
        ∃ rs, ((s.world.emit (.dispatched m)).dispatchCommand m).2.accepted =
          s.world.accepted ++ rs ∧ R [m] (rs.filterMap ResultMessage.ticket)) :
    Serves (exchange D) R s s' a.pushed.toList := by
  have hidle : s'.pending = s.pending ++ a.pushed.toList →
      s'.world.accepted = s.world.accepted → Serves (exchange D) R s s' a.pushed.toList := by
    intro hpending haccepted
    refine ⟨[], [], hpending.symm, ?_, hR.nil⟩
    show s'.world.tickets = s.world.tickets ++ []
    rw [World.tickets, haccepted, List.append_nil, World.tickets]
  cases act_effect h hact with
  | loop hstep =>
    have hcommands := (World.rtThreadStep_loopStep hstep).commands
    cases hflight : s.loop.inFlight with
    | nil =>
      obtain ⟨runtime, -, hsame⟩ := World.rtThreadStep_sameButStep hstep hflight
      refine hidle ?_ hsame.accepted
      rw [pending, pending, hflight, ← hcommands]
      exact (List.append_nil _).symm
    | cons m ms =>
      obtain ⟨nextDeadlineNs, startedAtNs, i, message, hloop⟩ := s.loop.dispatch_of_inFlight hflight
      obtain ⟨rs, haccepted, hrelated⟩ := hdispatch rfl _ _ _ _ hloop
      rw [hloop] at hstep
      refine ⟨[message], rs.filterMap ResultMessage.ticket, ?_, ?_, hrelated⟩
      · show s.pending ++ [] = [message] ++ s'.pending
        rw [pending, pending, hloop, ← hcommands, List.append_nil]
        rfl
      · have hworld : s'.world = ((s.world.emit (.dispatched message)).dispatchCommand message).2 :=
          (congrArg Prod.snd (Option.some.inj hstep)).symm
        show s'.world.tickets = s.world.tickets ++ _
        rw [World.tickets, hworld, haccepted, List.filterMap_append, World.tickets]
  | launch ha hbefore hafter hworld =>
    refine hidle ?_ (by rw [hworld])
    rw [pending, pending, hbefore, hafter, hworld, ha.pushed]
    exact (List.append_nil _).symm
  | store ha hloop hworld =>
    refine hidle ?_ (by rw [hworld]; rfl)
    rw [pending, pending, hloop, hworld, ha.pushed]
    exact (List.append_nil _).symm
  | push m hloop hworld =>
    refine hidle ?_ (by rw [hworld]; rfl)
    rw [pending, pending, hloop, hworld]
    exact (List.append_assoc ..).symm
  | free ha hbefore hloop hworld =>
    rw [World.collectionDestroy, World.destroyElements_eq] at hworld
    refine hidle ?_ ?_
    · rw [pending, pending, hloop, hworld, ha.pushed]
      exact (List.append_nil _).symm
    · rw [hworld]
      simp [World.accepted, World.unloadEvents, World.setLoadedNodes, Event.acceptedResult]

end System

/-- In every run the last records of the answers match the requests of the commands dispatched, in
their order, and each request has at most one; and as long as the queue has room for what is
answered each request has its own. -/
theorem replies_match_requests (laws : D.RuntimeLaws) (nodeLaws : D.NodeLaws) {s₀ s : System D}
    (h : s₀.SharedReachable) {as : List (Act D.limits)} :
    (Path System.act (fun _ _ => True) s₀ as s → ∃ served replies,
      s₀.pending ++ as.filterMap Act.pushed = served ++ s.pending ∧
      s.world.tickets = s₀.world.tickets ++ replies ∧
      List.Sublist replies (served.filterMap (CommandMessage.request D))) ∧
    (s₀.world.engine.config.resultQueue = true → Path System.act System.RoomToAnswer s₀ as s →
      ∃ served, s₀.pending ++ as.filterMap Act.pushed = served ++ s.pending ∧
        s.world.tickets = s₀.world.tickets ++ served.filterMap (CommandMessage.request D)) := by
  have hemit : ∀ (s : System D) (m : CommandMessage D.limits),
      (s.world.emit (.dispatched m)).accepted = s.world.accepted := fun s m =>
    (World.SameGraph.emit (w := s.world) (e := .dispatched m) rfl).accepted
  have hsingle : ∀ m : CommandMessage D.limits,
      [m].filterMap (CommandMessage.request D) = (m.request D).toList := by
    intro m
    cases hrequest : m.request D <;> simp [hrequest]
  constructor
  · intro hpath
    have hR := additive_sublist (CommandMessage.request D)
    refine serves_of_path (v := System.exchange D) System.Covered hR ?_ h.covered hpath
    intro s a s' hs _ hact
    refine ⟨hs.act hact, System.act_serves hR hs hact fun _ _ _ _ m _ => ?_⟩
    obtain ⟨rs, hrs, hsublist⟩ := (s.world.emit (.dispatched m)).dispatch_tickets laws nodeLaws m
    rw [hemit] at hrs
    exact ⟨rs, hrs, by rwa [hsingle]⟩
  · intro hqueue hpath
    have hR := additive_eq (CommandMessage.request D)
    let Inv : System D → Prop := fun s => s.Covered ∧ s.world.engine.config.resultQueue = true
    obtain ⟨served, replies, hserved, hgiven, rfl⟩ : Serves (System.exchange D) _ s₀ s _ := by
      refine serves_of_path Inv hR ?_ ⟨h.covered, hqueue⟩ hpath
      rintro s a s' ⟨hs, hqueue⟩ hroom hact
      refine ⟨⟨hs.act hact, (System.act_resultQueue hs hact).trans hqueue⟩,
        System.act_serves hR hs hact fun ha _ _ _ m hloop => ?_⟩
      obtain ⟨rs, hrs, -⟩ := (s.world.emit (.dispatched m)).dispatch_tickets laws nodeLaws m
      have hticket := World.dispatch_ticket laws nodeLaws (w := s.world.emit (.dispatched m))
        hqueue (hroom ha _ _ _ _ hloop) hrs
      rw [hemit] at hrs
      exact ⟨rs, hrs, by rw [hticket, hsingle]⟩
    exact ⟨served, hserved, hgiven⟩

namespace Reference

/-- An engine with the commands of a client in its queue. -/
def requested : System deps where
  world := { world with commands := [⟨1, .removeNode 5⟩, ⟨2, .removeNode 6⟩] }
  controller := .idle
  rtThreads := []
  waitThreads := []
  log := []

/-- The engine about to dispatch the first of them. -/
def requesting : System deps :=
  (Transition.run System.act requested
    (.step (.call .start) :: List.replicate 9 (.step (.controller true)) ++
      List.replicate 4 (.step (.rt 0)))).get (by decide)

def replied : System deps := (requesting.act (.step (.rt 0))).get (by decide)

end Reference

theorem replies_match_requests_reference :
    Reference.replied.world.tickets = [(1, .removeNode)] ∧
      (∃ served replies, Reference.requesting.pending ++ [] = served ++ Reference.replied.pending ∧
        Reference.replied.world.tickets = Reference.requesting.world.tickets ++ replies ∧
        List.Sublist replies (served.filterMap (CommandMessage.request Reference.deps))) ∧
      ∃ served, Reference.requesting.pending ++ [] = served ++ Reference.replied.pending ∧
        Reference.replied.world.tickets = Reference.requesting.world.tickets ++
          served.filterMap (CommandMessage.request Reference.deps) := by
  have hreach : Reference.requesting.SharedReachable :=
    (Transition.Reachable.start ⟨rfl, rfl, rfl, rfl, rfl⟩).run (Option.some_get _).symm
  have hroom : Reference.requesting.RoomToAnswer (.step (.rt 0)) := by
    intro _ _ _ _ _ hloop
    have hrequesting : Reference.requesting.loop = .dispatch 0 0 0 ⟨1, .removeNode 5⟩ := rfl
    cases hrequesting.symm.trans hloop
    exact fun _ => ⟨rfl, trivial⟩
  obtain ⟨hany, hanswered⟩ := replies_match_requests (s := Reference.replied)
    Reference.runtimeLaws Reference.nodeLaws hreach
  exact ⟨by decide, hany (.tail .refl trivial (Option.some_get _).symm),
    hanswered rfl (.tail .refl hroom (Option.some_get _).symm)⟩

end RtsynEngine
