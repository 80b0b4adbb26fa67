import Glyphcast.Schedule
import Glyphcast.Session.Sink

/-!
# The floor

All sessions that there have been, each in its seat. A seat is never given to anyone else, so its
number is a handle that cannot come to mean another session; whether the session is still alive
is asked when the handle is used. That is why a registry may hold on to numbers and yet keeps no
session alive.
-/

namespace Glyphcast

/-- The number of a seat. -/
abbrev SeatNumber := Nat

/-- The sessions that there have been. -/
structure Floor where
  /-- The seats, oldest first. -/
  seats : List Seat := []
  deriving DecidableEq, Repr

namespace Floor

/-- The seat of a number. -/
def seat? (floor : Floor) (number : SeatNumber) : Option Seat := floor.seats[number]?

/-- The session in a seat, if it is alive. -/
def alive? (floor : Floor) (number : SeatNumber) : Option Session :=
  (floor.seat? number).bind fun seat ↦ if seat.isAlive then some seat.session else none

/-- Whether the session in a seat is alive. -/
def isAlive (floor : Floor) (number : SeatNumber) : Bool := (floor.alive? number).isSome

/-- Change one seat. -/
def modify (floor : Floor) (number : SeatNumber) (change : Seat → Seat) : Floor :=
  ⟨floor.seats.modify number change⟩

/-- Change the session in a seat. -/
def modifySession (floor : Floor) (number : SeatNumber) (change : Session → Session) : Floor :=
  floor.modify number fun seat ↦ { seat with session := change seat.session }

/-- The latest seat of those that satisfy a test. -/
def latest? (floor : Floor) (test : Seat → Bool) : Option SeatNumber :=
  ((List.range floor.seats.length).filter fun n ↦ (floor.seat? n).any test).getLast?

/-- The seat of the connection with this id. -/
def connected? (floor : Floor) (id : Nat) : Option SeatNumber :=
  floor.latest? fun seat ↦ seat.held && seat.session.id == id

/-- The seat that last had this id, whether or not it is still connected. -/
def lastOf? (floor : Floor) (id : Nat) : Option SeatNumber :=
  floor.latest? fun seat ↦ seat.session.id == id

/-- Let go of a seat. The session in it lives on for as long as it has a turn at its sink. -/
def release (floor : Floor) (number : SeatNumber) : Floor :=
  floor.modify number ({ · with held := false })

/-- Seat a new session. -/
def enroll (floor : Floor) (session : Session) (sink : Sink) : SeatNumber × Floor :=
  (floor.seats.length, ⟨floor.seats ++ [{ session := session, sink := sink }]⟩)

/-- Seat a new session in place of a connected one with its id. -/
def connect (floor : Floor) (session : Session) (sink : Sink) : SeatNumber × Floor :=
  let floor := match floor.connected? session.id with
    | some number => floor.release number
    | none => floor
  floor.enroll session sink

/-- Send a frame to the session in a seat, if it is alive. -/
def sendFrame (floor : Floor) (number : SeatNumber) (text : String) : Floor :=
  if floor.isAlive number then floor.modifySession number (·.sendFrame text) else floor

/-- Send a reply to the session in a seat. -/
def sendReply (floor : Floor) (number : SeatNumber) (text : String) : Floor :=
  floor.modifySession number (·.sendReply text)

/-- Something that arrived, with the id of the session that it was sent to. -/
abbrev Delivery := Nat × Arrival

/-- Let everything happen at every sink that can happen now. -/
def settle (floor : Floor) (now : Nat) : List Delivery × Floor :=
  let settled := floor.seats.map fun seat ↦ (seat.session.id, seat.settle now)
  (settled.flatMap fun (id, arrivals, _) ↦ arrivals.map (id, ·), ⟨settled.map (·.2.2)⟩)

/-- When a write next ends. -/
def nextDue? (floor : Floor) : Option Nat :=
  (floor.seats.filterMap fun seat ↦ seat.sink.dueAt).min?

instance : Timed Floor Delivery := ⟨settle, nextDue?⟩

end Floor

end Glyphcast
