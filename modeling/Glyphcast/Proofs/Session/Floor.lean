import Glyphcast.Session.Floor
import Mathlib.Tactic.SplitIfs

/-!
# What becomes of the seats

Almost everything that happens on a floor happens in one seat, and leaves the session in it who and
where it was. `Floor.Each` compares a floor with a later one seat by seat, and `Seat.Stays` is the
relation that most steps keep: the session has the same id and the same phase, a failed write is
not forgotten, and nothing that had gone comes back to life.

That nothing comes back is why frames are sent to living sessions only: a writer that is started
holds on to its session.
-/

namespace Glyphcast

/-- The session after these replies were sent to it. -/
def Session.sendReplies (session : Session) (texts : List String) : Session :=
  texts.foldl sendReply session

namespace Floor

variable {floor before middle after : Floor} {R : Seat → Seat → Prop}

/-! ## One seat -/

@[simp] theorem seat?_modify_self (floor : Floor) (number : SeatNumber) (change : Seat → Seat) :
    (floor.modify number change).seat? number = (floor.seat? number).map change :=
  List.getElem?_modify_eq ..

theorem seat?_modify_of_ne (floor : Floor) {number other : SeatNumber} (h : number ≠ other)
    (change : Seat → Seat) : (floor.modify number change).seat? other = floor.seat? other :=
  List.getElem?_modify_ne _ _ h

@[simp] theorem modify_id (floor : Floor) (number : SeatNumber) : floor.modify number id = floor :=
  congrArg Floor.mk (List.modify_id ..)

theorem modify_modify (floor : Floor) (number : SeatNumber) (first second : Seat → Seat) :
    (floor.modify number first).modify number second =
      floor.modify number fun seat ↦ second (first seat) :=
  congrArg Floor.mk (List.modify_modify_eq ..)

theorem alive?_eq_some_iff {number : SeatNumber} {session : Session} :
    floor.alive? number = some session ↔
      ∃ seat, floor.seat? number = some seat ∧ seat.isAlive = true ∧ seat.session = session := by
  rw [alive?, Option.bind_eq_some_iff]
  refine exists_congr fun seat ↦ and_congr_right fun _ ↦ ?_
  split <;> simp_all

/-- Replies are put into one session, one after the other. -/
theorem foldl_sendReply {α : Type} (text : α → String) (replies : List α) (floor : Floor)
    (number : SeatNumber) :
    replies.foldl (fun floor reply ↦ floor.sendReply number (text reply)) floor =
      floor.modifySession number (·.sendReplies (replies.map text)) := by
  induction replies generalizing floor with
  | nil => exact (floor.modify_id number).symm
  | cons reply replies ih =>
    rw [List.foldl_cons, ih]
    exact floor.modify_modify number _ _

/-! ## Seat by seat -/

/-- Seat by seat, what was and what is stand in a relation. Nobody has come, and no seat is gone. -/
def Each (R : Seat → Seat → Prop) (before after : Floor) : Prop :=
  ∀ number, Option.Rel R (before.seat? number) (after.seat? number)

theorem Each.seat? (h : before.Each R after) {number : SeatNumber} {seat : Seat}
    (found : before.seat? number = some seat) :
    ∃ later, after.seat? number = some later ∧ R seat later := by
  have related := h number
  rw [found] at related
  generalize after.seat? number = seen at related ⊢
  cases related with
  | some related => exact ⟨_, rfl, related⟩

theorem Each.seat?_before (h : before.Each R after) {number : SeatNumber} {later : Seat}
    (found : after.seat? number = some later) :
    ∃ seat, before.seat? number = some seat ∧ R seat later := by
  have related := h number
  rw [found] at related
  generalize before.seat? number = seen at related ⊢
  cases related with
  | some related => exact ⟨_, rfl, related⟩

theorem Each.seat?_eq_none_iff (h : before.Each R after) {number : SeatNumber} :
    after.seat? number = none ↔ before.seat? number = none := by
  have related := h number
  generalize before.seat? number = seen at related ⊢
  generalize after.seat? number = seen' at related ⊢
  cases related with
  | none => exact Iff.rfl
  | some related => exact ⟨nofun, nofun⟩

theorem Each.symm {S : Seat → Seat → Prop} (turned : ∀ {a b}, R a b → S b a)
    (h : before.Each R after) : after.Each S before := by
  intro number
  have related := h number
  generalize before.seat? number = seen at related ⊢
  generalize after.seat? number = seen' at related ⊢
  cases related with
  | none => exact .none
  | some related => exact .some (turned related)

theorem Each.refl (reflexive : ∀ seat, R seat seat) (floor : Floor) : floor.Each R floor := by
  intro number
  cases floor.seat? number with
  | none => exact .none
  | some seat => exact .some (reflexive seat)

theorem Each.trans (transitive : ∀ {a b c}, R a b → R b c → R a c) (first : before.Each R middle)
    (second : middle.Each R after) : before.Each R after := by
  intro number
  cases found : before.seat? number with
  | none =>
    have related := first number
    have related' := second number
    rw [found] at related
    cases seen : middle.seat? number with
    | none => rwa [seen] at related'
    | some seat => rw [seen] at related; cases related
  | some seat =>
    obtain ⟨later, found', related⟩ := first.seat? found
    obtain ⟨last, found'', related'⟩ := second.seat? found'
    rw [found'']
    exact .some (transitive related related')

theorem Each.mono {S : Seat → Seat → Prop} (weaker : ∀ {a b}, R a b → S a b)
    (h : before.Each R after) : before.Each S after := by
  intro number
  have related := h number
  generalize before.seat? number = seen at related ⊢
  generalize after.seat? number = seen' at related ⊢
  cases related with
  | none => exact .none
  | some related => exact .some (weaker related)

theorem each_modify (reflexive : ∀ seat, R seat seat) {number : SeatNumber} {change : Seat → Seat}
    (h : ∀ seat, floor.seat? number = some seat → R seat (change seat)) :
    floor.Each R (floor.modify number change) := by
  intro other
  by_cases same : number = other
  · subst same
    rw [seat?_modify_self]
    cases found : floor.seat? number with
    | none => exact .none
    | some seat => exact .some (h seat found)
  · rw [seat?_modify_of_ne floor same]
    exact Each.refl reflexive floor other

end Floor

/-! ## Staying -/

theorem Session.SameStanding.trans {first second third : Session} (h : first.SameStanding second)
    (h' : second.SameStanding third) : first.SameStanding third :=
  ⟨h'.id.trans h.id, h'.phase.trans h.phase, h'.writeFailed.trans h.writeFailed⟩

theorem Session.sameStanding_sendReplies (session : Session) (texts : List String) :
    session.SameStanding (session.sendReplies texts) := by
  induction texts generalizing session with
  | nil => exact ⟨rfl, rfl, rfl⟩
  | cons text texts ih => exact (session.sameStanding_sendReply text).trans (ih _)

/-- The session in a seat is who and where it was. -/
structure Seat.Stays (before after : Seat) : Prop where
  id : after.session.id = before.session.id
  phase : after.session.phase = before.session.phase
  failed : before.session.writeFailed = true → after.session.writeFailed = true
  alive : after.isAlive = true → before.isAlive = true

namespace Seat.Stays

theorem refl (seat : Seat) : seat.Stays seat := ⟨rfl, rfl, fun h ↦ h, fun h ↦ h⟩

theorem trans {first second third : Seat} (h : first.Stays second) (h' : second.Stays third) :
    first.Stays third :=
  ⟨h'.id.trans h.id, h'.phase.trans h.phase, fun failed ↦ h'.failed (h.failed failed),
    fun alive ↦ h.alive (h'.alive alive)⟩

private theorem of_alive {seat : Seat} (alive : seat.isAlive = true) {session : Session}
    {sink : Sink} {held : Bool} (h : seat.session.SameStanding session) :
    seat.Stays { session, sink, held } :=
  ⟨h.id, h.phase, fun failed ↦ h.writeFailed.trans failed, fun _ ↦ alive⟩

end Seat.Stays

/-! ## At the sink -/

/-- Something that happens at a sink. -/
inductive SinkMove where
  /-- A write is held up, or passes the gate. -/
  | wait
  /-- The writer takes its next item, or ends. -/
  | take
  /-- A write ends well. -/
  | confirm
  /-- A write fails. -/
  | fail
  /-- The sink is closed. -/
  | leave
  deriving DecidableEq

/-- The session after a move at its sink. -/
def Session.move (session : Session) : SinkMove → Session
  | .wait => session
  | .take => session.take
  | .confirm => session.confirm
  | .fail => session.fail
  | .leave => session.leaveSink

private theorem Session.move_of_no_turns {session : Session} (none : session.turns = [])
    (move : SinkMove) : session.move move = session := by
  cases move with
  | wait => rfl
  | take => rw [move, take, none]
  | confirm => rw [move, confirm, none]
  | fail => rw [move, fail, none]
  | leave => rw [move, leaveSink, none]

/-- Nothing that happens at a sink tells a session who or where it is. -/
theorem Seat.stays_move (seat : Seat) (move : SinkMove) (sink : Sink) :
    seat.Stays { seat with session := seat.session.move move, sink } := by
  -- only turns keep a session alive that nobody holds, and without a turn nothing moves
  have alive : Seat.isAlive { seat with session := seat.session.move move, sink } = true →
      seat.isAlive = true := by
    intro alive
    by_cases none : seat.session.turns = []
    · rw [Session.move_of_no_turns none] at alive
      exact alive
    · simp [isAlive, none]
  have same {after : Session} (moved : seat.session.move move = after)
      (h : seat.session.SameStanding after) :
      seat.Stays { seat with session := seat.session.move move, sink } := by
    rw [← moved] at h
    exact ⟨h.id, h.phase, fun failed ↦ h.writeFailed.trans failed, alive⟩
  cases move with
  | wait => exact ⟨rfl, rfl, fun h ↦ h, alive⟩
  | take => exact same rfl seat.session.sameStanding_take
  | confirm => exact same rfl seat.session.sameStanding_confirm
  | leave => exact same rfl seat.session.sameStanding_leaveSink
  | fail =>
    rcases seat.session.fail_cases with unchanged | ⟨id, phase, failed⟩
    · exact ⟨congrArg Session.id unchanged, congrArg Session.phase unchanged,
        fun h ↦ (congrArg Session.writeFailed unchanged).trans h, alive⟩
    · exact ⟨id, phase, fun _ ↦ failed, alive⟩

/-! ## On the floor -/

namespace Floor

variable {floor : Floor}

theorem stays_refl (floor : Floor) : floor.Each Seat.Stays floor := Each.refl Seat.Stays.refl floor

private theorem stays_sendFrame (floor : Floor) (number : SeatNumber) (text : String) :
    floor.Each Seat.Stays (floor.sendFrame number text) := by
  rw [sendFrame]
  split
  · next alive =>
    refine each_modify Seat.Stays.refl fun seat found ↦ ?_
    obtain ⟨session, isAlive⟩ := Option.isSome_iff_exists.mp alive
    obtain ⟨seat', found', living, -⟩ := alive?_eq_some_iff.mp isAlive
    cases found.symm.trans found'
    exact .of_alive living (seat.session.sameStanding_sendFrame text)
  · exact stays_refl floor

theorem stays_foldl_sendFrame {α : Type} (number : α → SeatNumber) (text : α → String)
    (frames : List α) (floor : Floor) :
    floor.Each Seat.Stays
      (frames.foldl (fun floor frame ↦ floor.sendFrame (number frame) (text frame)) floor) := by
  induction frames generalizing floor with
  | nil => exact stays_refl floor
  | cons frame frames ih =>
    exact (stays_sendFrame floor (number frame) (text frame)).trans Seat.Stays.trans (ih _)

/-- Whoever is served is alive. -/
theorem isAlive_of_held {seat : Seat} (held : seat.held = true) : seat.isAlive = true := by
  rw [Seat.isAlive, held]
  rfl

theorem stays_modifySession {number : SeatNumber} {change : Session → Session}
    (alive : ∀ seat, floor.seat? number = some seat → seat.isAlive = true)
    (h : ∀ session, Session.SameStanding session (change session)) :
    floor.Each Seat.Stays (floor.modifySession number change) :=
  each_modify Seat.Stays.refl fun seat found ↦ .of_alive (alive seat found) (h seat.session)

/-- Letting go of a seat ends no session that is not held by its turns. -/
theorem stays_release (floor : Floor) (number : SeatNumber) :
    floor.Each Seat.Stays (floor.release number) :=
  each_modify Seat.Stays.refl fun seat _ ↦
    ⟨rfl, rfl, fun h ↦ h, fun alive ↦ by
      rw [Seat.isAlive, Bool.false_or] at alive
      rw [Seat.isAlive, alive, Bool.or_true]⟩

theorem seat?_enroll (floor : Floor) (session : Session) (sink : Sink) (number : SeatNumber) :
    (floor.enroll session sink).2.seat? number =
      if number = floor.seats.length then some { session, sink } else floor.seat? number := by
  by_cases new : number = floor.seats.length
  · rw [new, if_pos rfl]
    exact List.getElem?_concat_length
  · rw [if_neg new]
    rcases Nat.lt_or_gt_of_ne new with old | beyond
    · exact List.getElem?_append_left old
    · rw [seat?, seat?, List.getElem?_eq_none, List.getElem?_eq_none (by omega)]
      simp only [enroll, List.length_append, List.length_singleton]
      omega

end Floor

end Glyphcast
