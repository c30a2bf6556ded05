/-! Streams of frames.  A frame begins with a head, an item that `isHead` recognises, and has no
other head in it, so a stream can be divided into its frames. -/

namespace Framing

variable {α : Type} {isHead : α → Bool}

/-- A head with the items up to the next one. -/
def IsFrame (isHead : α → Bool) (frame : List α) : Prop :=
  ∃ head rest, frame = head :: rest ∧ isHead head = true ∧ ∀ a ∈ rest, isHead a = false

/-- What comes before the first head of a stream, and the frames from there on. -/
def divide (isHead : α → Bool) : List α → List α × List (List α)
  | [] => ([], [])
  | a :: stream =>
    let (front, frames) := divide isHead stream
    if isHead a then ([], (a :: front) :: frames) else (a :: front, frames)

theorem divide_append_headless {front : List α} (hfront : ∀ a ∈ front, isHead a = false)
    (stream : List α) :
    divide isHead (front ++ stream) =
      (front ++ (divide isHead stream).1, (divide isHead stream).2) := by
  induction front with
  | nil => rfl
  | cons a front ih =>
    have ha : ¬isHead a = true := by simp [hfront a (List.mem_cons_self ..)]
    rw [List.cons_append, divide, ih fun b hb => hfront b (List.mem_cons_of_mem a hb)]
    dsimp only
    rw [if_neg ha]
    rfl

theorem divide_flatten {frames : List (List α)} (h : ∀ frame ∈ frames, IsFrame isHead frame) :
    divide isHead frames.flatten = ([], frames) := by
  induction frames with
  | nil => rfl
  | cons frame frames ih =>
    obtain ⟨head, rest, rfl, hhead, hrest⟩ := h frame (List.mem_cons_self ..)
    have htail := ih fun f hf => h f (List.mem_cons_of_mem _ hf)
    rw [List.flatten_cons, List.cons_append, divide, divide_append_headless hrest, htail]
    dsimp only
    rw [if_pos hhead, List.append_nil]

/-- A stream of frames is divided in one way. -/
theorem flatten_injective {frames frames' : List (List α)}
    (h : ∀ frame ∈ frames, IsFrame isHead frame) (h' : ∀ frame ∈ frames', IsFrame isHead frame)
    (heq : frames.flatten = frames'.flatten) : frames = frames' := by
  have hdivide := congrArg (divide isHead) heq
  rw [divide_flatten h, divide_flatten h'] at hdivide
  exact (Prod.mk.inj hdivide).2

end Framing
