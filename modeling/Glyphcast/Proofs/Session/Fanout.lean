import Glyphcast.Proofs.Session.Floor

/-!
# Frames for many

Frames are sent to seats one after the other. What that comes to is told seat by seat: a session
that is alive gets the frames that were sent to its seat, in their order, and nothing else happens
to it; one that is not alive gets none. That it gets them all rests on one fact, that a frame which
is sent to a living session leaves it alive.
-/

namespace Glyphcast

/-- The session after these frames were sent to it. -/
def Session.sendFrames (session : Session) (texts : List String) : Session :=
  texts.foldl sendFrame session

/-- The seat after these frames were sent to it. -/
def Seat.sendFrames (seat : Seat) (texts : List String) : Seat :=
  if seat.isAlive then { seat with session := seat.session.sendFrames texts } else seat

private theorem Session.turns_sendFrame (session : Session) (text : String) :
    session.turns <+: (session.sendFrame text).turns := by
  unfold sendFrame
  split
  · exact List.prefix_refl _
  · dsimp only [startWriter]
    split
    · exact List.prefix_append _ _
    · exact List.prefix_refl _

private theorem Seat.isAlive_sendFrame {seat : Seat} (alive : seat.isAlive = true) (text : String) :
    isAlive { seat with session := seat.session.sendFrame text } = true := by
  rw [isAlive, Bool.or_eq_true] at alive ⊢
  refine alive.imp_right fun busy ↦ ?_
  have longer := (seat.session.turns_sendFrame text).length_le
  cases turns : seat.session.turns with
  | nil =>
    rw [turns] at busy
    cases busy
  | cons first rest =>
    rw [turns] at longer
    cases later : (seat.session.sendFrame text).turns with
    | nil =>
      rw [later] at longer
      cases longer
    | cons first' rest' => rfl

namespace Seat

@[simp] theorem sendFrames_nil (seat : Seat) : seat.sendFrames [] = seat := by
  unfold sendFrames
  split <;> rfl

private theorem sendFrames_cons (seat : Seat) (text : String) (texts : List String) :
    seat.sendFrames (text :: texts) = (seat.sendFrames [text]).sendFrames texts := by
  unfold sendFrames
  by_cases alive : seat.isAlive = true
  · have still := isAlive_sendFrame alive text
    simp only [if_pos alive]
    exact (if_pos still).symm
  · simp only [if_neg alive]

end Seat

namespace Floor

theorem map_sendFrames_nil (seat : Option Seat) : seat.map (·.sendFrames []) = seat := by
  cases seat with
  | none => rfl
  | some seat => exact congrArg some seat.sendFrames_nil

theorem isAlive_eq {floor : Floor} {number : SeatNumber} {seat : Seat}
    (found : floor.seat? number = some seat) : floor.isAlive number = seat.isAlive := by
  rw [isAlive, alive?, found]
  change (if seat.isAlive then some seat.session else none).isSome = seat.isAlive
  cases seat.isAlive <;> rfl

private theorem seat?_sendFrame (floor : Floor) (number : SeatNumber) (text : String)
    (n : SeatNumber) : (floor.sendFrame number text).seat? n =
      (floor.seat? n).map (·.sendFrames (if number = n then [text] else [])) := by
  rw [sendFrame]
  by_cases here : number = n
  · subst here
    rw [if_pos rfl]
    cases found : floor.seat? number with
    | none =>
      have gone : floor.isAlive number = false := by
        rw [isAlive, alive?, found]
        rfl
      rw [if_neg (by rw [gone]; decide), found]
      rfl
    | some seat =>
      rw [isAlive_eq found, Option.map_some, Seat.sendFrames]
      split
      · rw [modifySession, seat?_modify_self, found]
        rfl
      · exact found
  · rw [if_neg here, map_sendFrames_nil]
    split
    · exact seat?_modify_of_ne floor here _
    · rfl

/-- Of frames that are sent to many seats, each seat gets its own, in their order. -/
theorem seat?_foldl_sendFrame {α : Type} (number : α → SeatNumber) (text : α → String)
    (frames : List α) (floor : Floor) (n : SeatNumber) :
    (frames.foldl (fun floor frame ↦ floor.sendFrame (number frame) (text frame)) floor).seat? n =
      (floor.seat? n).map
        (·.sendFrames ((frames.filter fun frame ↦ number frame = n).map text)) := by
  induction frames generalizing floor with
  | nil => exact (map_sendFrames_nil _).symm
  | cons frame frames ih =>
    rw [List.foldl_cons, ih, seat?_sendFrame, Option.map_map, List.filter_cons]
    refine congrArg (Option.map · _) (funext fun seat ↦ ?_)
    by_cases here : number frame = n
    · rw [if_pos here, if_pos (decide_eq_true here), List.map_cons, Seat.sendFrames_cons]
      rfl
    · rw [if_neg here, if_neg (by rw [decide_eq_false here]; decide), Function.comp,
        Seat.sendFrames_nil]

theorem seat?_foldl_sendFrame_of_ne {α : Type} (number : α → SeatNumber) (text : α → String)
    {frames : List α} (floor : Floor) {n : SeatNumber} (h : ∀ frame ∈ frames, number frame ≠ n) :
    (frames.foldl (fun floor frame ↦ floor.sendFrame (number frame) (text frame)) floor).seat? n =
      floor.seat? n := by
  have none : (frames.filter fun frame ↦ number frame = n) = [] :=
    List.filter_eq_nil_iff.mpr fun frame mem ↦ by
      rw [decide_eq_true_eq]
      exact h frame mem
  rw [seat?_foldl_sendFrame, none]
  exact map_sendFrames_nil _

end Floor

end Glyphcast
