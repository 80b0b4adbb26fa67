import Glyphcast.Proofs.Session.Events
import Glyphcast.Proofs.Session.Fanout
import Glyphcast.Roster

/-!
# Whom a broadcast reaches

A frame that is broadcast is for the viewers on the roster, and three questions are asked about each
of them in three places: whether its name is on the roster, whether the session is alive, and
whether it takes anything more. The roster asks the second one, strikes out whoever has gone, and
counts the rest; the third is asked by the session itself when the frame is sent to it.

So the frame is put exactly where it is taken and the names struck out are exactly those of the
dead, but the number that is told is that of the living. A session that was closed, or to which a
write failed, counts for as long as something holds on to it, though nothing is sent to it any more.
`Reported` says by how much the number is too large.
-/

namespace Glyphcast

/-! ## One session -/

/-- A session that has taken a frame. The frame is last in its lane, behind those that waited, of
which the oldest is gone if the lane was full; it is counted, and somebody is there to write it. -/
structure Session.Gained (before : Session) (text : String) (after : Session) : Prop where
  frames : after.outbox.frames =
    (if before.outbox.frames.length < before.outbox.capacity then before.outbox.frames
      else before.outbox.frames.tail) ++ [text]
  replies : after.outbox.replies = before.outbox.replies
  enqueued : after.tally.framesEnqueued = before.tally.framesEnqueued + 1
  writing : after.outbox.writing = true
  standing : before.SameStanding after

private theorem Outbox.pushFrame_snd (outbox : Outbox) (text : String) :
    (outbox.pushFrame text).2 = { outbox with
      frames := (if outbox.frames.length < outbox.capacity then outbox.frames
        else outbox.frames.tail) ++ [text] } := by
  unfold pushFrame
  by_cases room : outbox.frames.length < outbox.capacity
  · rw [if_pos room, if_neg (by omega)]
  · rw [if_neg room, if_pos (by omega)]

private theorem Session.gained_sendFrame {session : Session} (isOpen : session.isClosed = false)
    (text : String) : session.Gained text (session.sendFrame text) := by
  have sent : session.sendFrame text = startWriter { session with
      outbox := (session.outbox.pushFrame text).2
      tally := { session.tally with
        framesEnqueued := session.tally.framesEnqueued + 1
        framesDropped := session.tally.framesDropped +
          (session.outbox.pushFrame text).1.toList.length } } := by
    rw [sendFrame, if_neg (by rw [isOpen]; decide)]
  have standing := session.sameStanding_sendFrame text
  rw [sent] at standing ⊢
  constructor
  · rw [startWriter_outbox, Outbox.pushFrame_snd]
  · rw [startWriter_outbox, Outbox.pushFrame_snd]
  · rfl
  · -- something waits now, so either there was a writer or one has been started
    rw [startWriter_outbox, Outbox.pushFrame_snd]
    simp [Outbox.isEmpty]
  · exact standing

private theorem Session.sendFrame_of_isClosed {session : Session} (closed : session.isClosed = true)
    (text : String) : session.sendFrame text = session := by
  rw [sendFrame, if_pos closed]

/-! ## One frame for each -/

namespace Floor

/-- Whether the session in a seat takes what is sent to it. -/
def accepts (floor : Floor) (number : SeatNumber) : Bool :=
  (floor.alive? number).any (!·.isClosed)

/-- How many frames have been put into the outbox of the session in a seat. -/
def enqueued (floor : Floor) (number : SeatNumber) : Nat :=
  ((floor.seat? number).map (·.session.tally.framesEnqueued)).getD 0

theorem isAlive_of_accepts {floor : Floor} {number : SeatNumber}
    (accepts : floor.accepts number = true) : floor.isAlive number = true := by
  rw [isAlive]
  rw [Floor.accepts] at accepts
  generalize floor.alive? number = session at accepts ⊢
  cases session with
  | none => cases accepts
  | some session => rfl

private theorem accepts_eq {floor : Floor} {number : SeatNumber} {seat : Seat}
    (found : floor.seat? number = some seat) :
    floor.accepts number = (seat.isAlive && !seat.session.isClosed) := by
  rw [accepts, alive?, found, Option.bind_some]
  cases seat.isAlive <;> rfl

end Floor

namespace Roster

variable {roster : Roster} {floor : Floor} {number : SeatNumber}

/-- The viewers are in the order of their ids, one for each, and in the seat of each is the session
with its id. -/
structure WellKept (roster : Roster) (floor : Floor) : Prop where
  sorted : roster.viewers.Pairwise (·.1 < ·.1)
  seated : ∀ entry ∈ roster.viewers,
    (floor.seat? entry.2).map (·.session.id) = some entry.1

/-- Whether a seat is that of a viewer. -/
def registers (roster : Roster) (number : SeatNumber) : Bool :=
  roster.viewers.any (·.2 == number)

/-- The loop over the viewers comes by a seat once if somebody is registered there and alive, and
otherwise not at all. -/
theorem filter_living (sorted : roster.viewers.Pairwise (·.1 < ·.1)) {id : Nat}
    (own : ∀ entry ∈ roster.viewers, entry.2 = number → entry.1 = id) :
    (roster.living floor).filter (·.2 = number) =
      if roster.registers number && floor.isAlive number then [(id, number)] else [] := by
  have only (entry : Nat × SeatNumber)
      (mem : entry ∈ (roster.living floor).filter (·.2 = number)) :
      entry = (id, number) ∧ entry ∈ roster.viewers ∧ floor.isAlive number = true := by
    obtain ⟨living, here⟩ := List.mem_filter.mp mem
    obtain ⟨registered, alive⟩ := List.mem_filter.mp living
    rw [decide_eq_true_eq] at here
    exact ⟨Prod.ext (own entry registered here) here, registered, here ▸ alive⟩
  have ordered : ((roster.living floor).filter (·.2 = number)).Pairwise (·.1 < ·.1) :=
    (sorted.sublist List.filter_sublist).sublist List.filter_sublist
  split_ifs with receives
  · obtain ⟨registered, alive⟩ := Bool.and_eq_true_iff.mp receives
    obtain ⟨entry, mem, here⟩ := List.any_eq_true.mp registered
    rw [beq_iff_eq] at here
    have there : entry ∈ (roster.living floor).filter (·.2 = number) :=
      List.mem_filter.mpr ⟨List.mem_filter.mpr ⟨mem, here ▸ alive⟩, decide_eq_true here⟩
    generalize (roster.living floor).filter (·.2 = number) = seats at only ordered there ⊢
    -- two entries would be the same, and they are in order
    match seats with
    | [] => nomatch there
    | [first] => rw [(only first List.mem_cons_self).1]
    | first :: second :: rest =>
      have before := (List.pairwise_cons.mp ordered).1 second List.mem_cons_self
      rw [(only first List.mem_cons_self).1,
        (only second (List.mem_cons_of_mem _ List.mem_cons_self)).1] at before
      exact absurd before (Nat.lt_irrefl _)
  · refine List.eq_nil_iff_forall_not_mem.mpr fun entry mem ↦ receives ?_
    obtain ⟨rfl, registered, alive⟩ := only entry mem
    exact Bool.and_eq_true_iff.mpr ⟨List.any_eq_true.mpr ⟨_, registered, beq_self_eq_true _⟩, alive⟩

theorem seat?_broadcast (kept : roster.WellKept floor) (text : String) (number : SeatNumber) :
    (roster.broadcast floor text).2.2.seat? number = (floor.seat? number).map
      (·.sendFrames (if roster.registers number && floor.isAlive number then [text] else [])) := by
  dsimp only [broadcast]
  rw [Floor.seat?_foldl_sendFrame Prod.snd fun _ ↦ text]
  cases found : floor.seat? number with
  | none => rfl
  | some seat =>
    have own (entry : Nat × SeatNumber) (mem : entry ∈ roster.viewers)
        (here : entry.2 = number) : entry.1 = seat.session.id := by
      have id := kept.seated entry mem
      rw [here, found, Option.map_some, Option.some.injEq] at id
      exact id.symm
    rw [filter_living kept.sorted own]
    split_ifs <;> rfl

private theorem seat?_broadcast_of_accepts (kept : roster.WellKept floor) (text : String)
    (registered : roster.registers number = true) {seat : Seat}
    (found : floor.seat? number = some seat) (accepts : floor.accepts number = true) :
    (roster.broadcast floor text).2.2.seat? number =
        some { seat with session := seat.session.sendFrame text } ∧
      seat.session.Gained text (seat.session.sendFrame text) := by
  have alive := Floor.isAlive_of_accepts accepts
  rw [Floor.accepts_eq found, Bool.and_eq_true, Bool.not_eq_true'] at accepts
  constructor
  · rw [seat?_broadcast kept, registered, alive, found, Option.map_some, Seat.sendFrames,
      if_pos accepts.1]
    rfl
  · exact Session.gained_sendFrame accepts.2 text

/-- Every other seat is left as it was, a closed session's by the session itself. -/
theorem seat?_broadcast_of_not (kept : roster.WellKept floor) (text : String)
    (spared : ¬(roster.registers number = true ∧ floor.accepts number = true)) :
    (roster.broadcast floor text).2.2.seat? number = floor.seat? number := by
  rw [seat?_broadcast kept]
  cases found : floor.seat? number with
  | none => rfl
  | some seat =>
    rw [Option.map_some, Floor.isAlive_eq found]
    split_ifs with receives
    · obtain ⟨registered, alive⟩ := Bool.and_eq_true_iff.mp receives
      have closed : seat.session.isClosed = true := by
        by_contra isOpen
        refine spared ⟨registered, ?_⟩
        rw [Floor.accepts_eq found, alive, Bool.not_eq_true _ |>.mp isOpen]
        rfl
      rw [Seat.sendFrames, if_pos alive]
      change some { seat with session := seat.session.sendFrame text } = some seat
      rw [Session.sendFrame_of_isClosed closed]
    · rw [Seat.sendFrames_nil]

/-! ## What is reported -/

/-- How many viewers had a frame put into their outboxes between two states of the floor. -/
def reached (roster : Roster) (before after : Floor) : Nat :=
  roster.viewers.countP fun entry ↦ after.enqueued entry.2 == before.enqueued entry.2 + 1

/-- How many viewers are alive and take nothing more. -/
def deaf (roster : Roster) (floor : Floor) : Nat :=
  roster.viewers.countP fun entry ↦ floor.isAlive entry.2 && !floor.accepts entry.2

private theorem length_living (roster : Roster) (floor : Floor) :
    (roster.living floor).length =
      roster.viewers.countP (floor.accepts ·.2) + roster.deaf floor := by
  rw [living, ← List.countP_eq_length_filter, deaf]
  induction roster.viewers with
  | nil => rfl
  | cons entry entries ih =>
    have alive := @Floor.isAlive_of_accepts floor entry.2
    rw [List.countP_cons, List.countP_cons, List.countP_cons, ih]
    cases accepts : floor.accepts entry.2 with
    | false => simp; omega
    | true => simp [alive accepts]; omega

/-- Those who are reached are those who take what is sent. -/
theorem reached_broadcast (kept : roster.WellKept floor) (text : String) :
    roster.reached floor (roster.broadcast floor text).2.2 =
      roster.viewers.countP (floor.accepts ·.2) := by
  refine List.countP_congr fun entry mem ↦ ?_
  rw [beq_iff_eq, Floor.enqueued, Floor.enqueued]
  obtain ⟨seat, found, -⟩ := Option.map_eq_some_iff.mp (kept.seated entry mem)
  have registered : roster.registers entry.2 = true :=
    List.any_eq_true.mpr ⟨entry, mem, beq_self_eq_true _⟩
  cases accepts : floor.accepts entry.2 with
  | true =>
    obtain ⟨sent, gained⟩ := seat?_broadcast_of_accepts kept text registered found accepts
    rw [sent, found]
    exact iff_of_true gained.enqueued rfl
  | false =>
    rw [seat?_broadcast_of_not kept text (by rw [accepts]; exact nofun)]
    exact iff_of_false (by omega) nofun

/-- What a broadcast comes to. -/
structure Reported (roster : Roster) (floor : Floor) (text : String)
    (report : Nat × Roster × Floor) : Prop where
  /-- Whoever is registered and takes what is sent has the frame in its outbox. -/
  gained : ∀ number seat, floor.seat? number = some seat → roster.registers number = true →
    floor.accepts number = true →
      ∃ session, report.2.2.seat? number = some { seat with session } ∧
        seat.session.Gained text session
  /-- Nothing happens to anybody else. -/
  spared : ∀ number, ¬(roster.registers number = true ∧ floor.accepts number = true) →
    report.2.2.seat? number = floor.seat? number
  /-- The names struck out are those of the dead. -/
  viewers : report.2.1.viewers = roster.viewers.filter (floor.isAlive ·.2)
  /-- The controller's slot is left alone. -/
  controller : report.2.1.controller = roster.controller
  /-- The number that is told is that of the viewers who were reached, and of those who are alive
  and take nothing more. -/
  count : report.1 = roster.reached floor report.2.2 + roster.deaf floor
  /-- So it is right where every living viewer takes what is sent, and nowhere else. -/
  count_iff : report.1 = roster.reached floor report.2.2 ↔
    ∀ entry ∈ roster.viewers, floor.isAlive entry.2 = true → floor.accepts entry.2 = true

/-- Whatever has become of the viewers, a broadcast reaches those who take it and strikes out those
who have gone; its report is too high by those who are closed and still there. -/
theorem reported_broadcast (kept : roster.WellKept floor) (text : String) :
    roster.Reported floor text (roster.broadcast floor text) := by
  have count : (roster.broadcast floor text).1 =
      roster.reached floor (roster.broadcast floor text).2.2 + roster.deaf floor := by
    rw [reached_broadcast kept]
    exact roster.length_living floor
  exact {
    gained := fun number seat found registered accepts ↦
      ⟨_, seat?_broadcast_of_accepts kept text registered found accepts⟩
    spared := fun number ↦ seat?_broadcast_of_not kept text
    viewers := rfl
    controller := rfl
    count
    count_iff := by
      rw [count, Nat.add_eq_left, deaf, List.countP_eq_zero]
      simp only [Bool.and_eq_true, Bool.not_eq_true', not_and, Bool.not_eq_false] }

/-- One of each kind: a session that listens, one that was closed, one to which a write has failed,
and one that has gone. -/
def mixedFloor : Floor := ⟨[
  { session := { id := 1 } },
  { session := Session.close { id := 2 } },
  { session := { id := 4, writeFailed := true, turns := [.closer] }, held := false },
  { session := { id := 7 }, held := false }]⟩

/-- They are all registered. -/
def mixedRoster : Roster := { viewers := [(1, 0), (2, 1), (4, 2), (7, 3)] }

/-- Three are counted, and one of them is reached. -/
theorem reported_mixed :
    mixedRoster.WellKept mixedFloor ∧
      mixedRoster.Reported mixedFloor "frame" (mixedRoster.broadcast mixedFloor "frame") ∧
      (mixedRoster.broadcast mixedFloor "frame").1 = 3 ∧
      mixedRoster.reached mixedFloor (mixedRoster.broadcast mixedFloor "frame").2.2 = 1 :=
  ⟨⟨by decide, by decide⟩, reported_broadcast ⟨by decide, by decide⟩ "frame", by decide, by decide⟩

/-- A viewer who was closed and is still there is counted, though the frame is not put into its
outbox. -/
theorem broadcast_closed_viewer :
    let floor : Floor := ⟨[{ session := Session.close { id := 1 } }]⟩
    let roster : Roster := (insert {} 1 0).2
    roster.WellKept floor ∧ roster.broadcast floor "x" = (1, roster, floor) ∧
      roster.reached floor (roster.broadcast floor "x").2.2 = 0 :=
  ⟨⟨by decide, by decide⟩, by decide, by decide⟩

end Roster

end Glyphcast
