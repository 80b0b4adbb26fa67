import Glyphcast.Schedule
import Glyphcast.Session.Basic

/-!
# Sinks

Where a session's texts go. A sink may be slow, may be held up, and may fail: `Sink` says how a
client's connection behaves, and `Seat` is a session with its sink and with those who hold on to
it. `Seat.settle` lets happen everything that can happen at one instant.

A write first waits for the gate to be open, then takes its time, then fails or arrives. A gate
that closes later does not hold up a write that has passed it.
-/

namespace Glyphcast

/-- How a client's connection behaves. -/
structure Sink where
  /-- Whether writes may begin. -/
  gateOpen : Bool := true
  /-- How many milliseconds a write takes. -/
  delay : Nat := 0
  /-- How many writes arrive before one fails, if one ever does. -/
  failAfter : Option Nat := none
  /-- Whether closing fails. -/
  failClose : Bool := false
  /-- How many writes have arrived. -/
  written : Nat := 0
  /-- When the write ends that has passed the gate. -/
  dueAt : Option Nat := none
  deriving DecidableEq, Repr

/-- What arrives at a client's end. -/
inductive Arrival where
  /-- A text. -/
  | text (text : String)
  /-- The sink was closed; or it could not be closed in order. -/
  | closed (clean : Bool)
  deriving DecidableEq, Repr

/-- A session, its sink, and whether someone other than its own turns holds on to it. -/
structure Seat where
  /-- The session. -/
  session : Session
  /-- Where it writes. -/
  sink : Sink := {}
  /-- Whether its connection holds on to it. -/
  held : Bool := true
  deriving DecidableEq, Repr

namespace Seat

/-- Whether anything holds on to the session: its connection, or a turn at its sink. -/
def isAlive (seat : Seat) : Bool := seat.held || !seat.session.turns.isEmpty

/-- Let the write that passed the gate end. -/
def finishWrite (seat : Seat) (item : Item) : Option Arrival × Seat :=
  let sink := { seat.sink with dueAt := none }
  if sink.failAfter.any (· ≤ sink.written) then
    (none, { seat with session := seat.session.fail, sink })
  else
    (some (.text item.text),
      { seat with
        session := seat.session.confirm
        sink := { sink with written := sink.written + 1 } })

/-- The next thing that can happen at the sink now, if there is one. -/
def step? (seat : Seat) (now : Nat) : Option (Option Arrival × Seat) :=
  match seat.session.turns with
  | [] => none
  | .closer :: _ =>
    some (some (.closed (!seat.sink.failClose)), { seat with session := seat.session.leaveSink })
  | .writer none :: _ => some (none, { seat with session := seat.session.take })
  | .writer (some item) :: _ =>
    match seat.sink.dueAt with
    -- the write has not passed the gate
    | none =>
      if seat.sink.gateOpen then
        let due := waitEnd now (1000 * seat.sink.delay)
        some (none, { seat with sink := { seat.sink with dueAt := some due } })
      else none
    | some due => if due ≤ now then some (seat.finishWrite item) else none

/-! ## Steps come to an end

Taking an item, passing the gate, ending a write and ending a turn each use up some of what there
is to do. -/

/-- How much a turn has to do, the items in the outbox left aside. -/
def turnWork : Turn → Nat
  | .writer none => 1
  | .writer (some _) => 3
  | .closer => 1

/-- How much there is to do at a sink. -/
def work (seat : Seat) : Nat :=
  3 * seat.session.outbox.size + seat.session.turns.foldr (turnWork · + ·) 0 +
    if seat.sink.dueAt.isSome then 0 else 1

private theorem work_of_step? {seat after : Seat} {now : Nat} {arrival : Option Arrival}
    (h : seat.step? now = some (arrival, after)) : after.work < seat.work := by
  unfold step? at h
  split at h
  · nomatch h
  · next turns =>
    simp only [Option.some.injEq, Prod.mk.injEq] at h
    simp [← h.2, work, Session.leaveSink, turns, turnWork]
  · next turns =>
    simp only [Option.some.injEq, Prod.mk.injEq] at h
    obtain ⟨_, rfl⟩ := h
    -- an item in hand weighs less than in the outbox, and a turn that ends weighs nothing
    cases next : seat.session.outbox.next with
    | mk item rest =>
      cases item with
      | some item =>
        have := Outbox.size_of_next_some next
        simp [work, Session.take, turns, next, turnWork]
        omega
      | none =>
        have := Outbox.size_of_next_none next
        simp [work, Session.take, turns, next, turnWork]
        omega
  · next item waiting turns =>
    split at h
    · next due =>
      split at h
      · simp only [Option.some.injEq, Prod.mk.injEq] at h
        simp [← h.2, work, due]
      · nomatch h
    · next due =>
      split at h
      · simp only [Option.some.injEq, finishWrite] at h
        split at h
        · simp only [Prod.mk.injEq] at h
          simp [← h.2, work, Session.fail, turns, turnWork, due, Outbox.abort, Outbox.clear,
            Outbox.size]
          omega
        · simp only [Prod.mk.injEq] at h
          simp [← h.2, work, Session.confirm, turns, turnWork, due]
          omega
      · nomatch h

/-- Let everything happen at the sink that can happen now: what arrives, and the seat afterwards. -/
def settle (seat : Seat) (now : Nat) : List Arrival × Seat :=
  match _h : seat.step? now with
  | none => ([], seat)
  | some (arrival, after) =>
    let (arrivals, settled) := after.settle now
    (arrival.toList ++ arrivals, settled)
termination_by seat.work
decreasing_by exact work_of_step? ‹_›

end Seat

end Glyphcast
