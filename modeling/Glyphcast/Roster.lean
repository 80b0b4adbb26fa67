import Glyphcast.Error
import Glyphcast.Session.Floor

/-!
# The roster

Who receives the broadcast, and who is the controller. The roster names seats, so a session that
has gone is still on it until it is next come across; `broadcast` and `remove` strike such names
out. Viewers are kept in the order of their ids, and there is one for each id.

The controller's slot is a slot of its own. It can be taken over from a session that is gone or
closed, and clearing the viewers leaves it alone.
-/

namespace Glyphcast

/-- The registered viewers and the controller. -/
structure Roster where
  /-- The viewers, in the order of their ids. -/
  viewers : List (Nat × SeatNumber) := []
  /-- The controller. -/
  controller : Option (Nat × SeatNumber) := none
  deriving DecidableEq, Repr

namespace Roster

/-- A list in the order of ids with a new entry, in place of one with its id. -/
def insertSorted (entry : Nat × SeatNumber) : List (Nat × SeatNumber) → List (Nat × SeatNumber)
  | [] => [entry]
  | other :: others =>
    if entry.1 < other.1 then entry :: other :: others
    else if entry.1 = other.1 then entry :: others
    else other :: insertSorted entry others

/-- Whether an id is registered. -/
def contains (roster : Roster) (id : Nat) : Bool := roster.viewers.any (·.1 == id)

/-- Register a viewer. Tells whether the id is new. -/
def insert (roster : Roster) (id : Nat) (number : SeatNumber) : Bool × Roster :=
  (!roster.contains id, { roster with viewers := insertSorted (id, number) roster.viewers })

/-- The viewers that are alive. -/
def living (roster : Roster) (floor : Floor) : List (Nat × SeatNumber) :=
  roster.viewers.filter (floor.isAlive ·.2)

/-- Strike out an id, and all who have gone. Tells whether the id was registered. -/
def remove (roster : Roster) (floor : Floor) (id : Nat) : Bool × Roster :=
  (roster.contains id,
    { roster with viewers := (roster.living floor).filter (·.1 != id) })

/-- Strike out every viewer. -/
def clear (roster : Roster) : Roster := { roster with viewers := [] }

/-- How many viewers are alive. -/
def size (roster : Roster) (floor : Floor) : Nat := (roster.living floor).length

/-- Send a frame to all who are alive, and strike out the others. Tells how many there were. -/
def broadcast (roster : Roster) (floor : Floor) (text : String) : Nat × Roster × Floor :=
  let living := roster.living floor
  (living.length, { roster with viewers := living },
    living.foldl (fun floor entry ↦ floor.sendFrame entry.2 text) floor)

/-- Take the controller's slot. It is refused while another session holds it that is alive and not
closed. -/
def claim (roster : Roster) (floor : Floor) (id : Nat) (number : SeatNumber) :
    Except HubError Roster :=
  let taken : Bool := match roster.controller with
    | some (holder, seat) => holder != id && (floor.alive? seat).any (!·.isClosed)
    | none => false
  if taken then .error .controllerTaken
  else .ok { roster with controller := some (id, number) }

/-- A claim is granted where the slot is empty, or the claimant's own, or held by a session that
is gone or closed. -/
theorem claim_eq_ok_iff {roster claimed : Roster} {floor : Floor} {id : Nat}
    {number : SeatNumber} :
    roster.claim floor id number = .ok claimed ↔
      claimed = { roster with controller := some (id, number) } ∧
        ∀ holder seat, roster.controller = some (holder, seat) → holder ≠ id →
          ∀ session, floor.alive? seat = some session → session.isClosed = true := by
  unfold claim
  cases held : roster.controller with
  | none => exact ⟨fun h ↦ ⟨(Except.ok.inj h).symm, nofun⟩, fun h ↦ congrArg _ h.1.symm⟩
  | some entry =>
    obtain ⟨holder, seat⟩ := entry
    -- a holder that is gone and one that is closed are one case
    have closed : (floor.alive? seat).any (!·.isClosed) = false ↔
        ∀ session, floor.alive? seat = some session → session.isClosed = true := by
      cases floor.alive? seat <;> simp
    dsimp only
    split
    · next taken =>
      obtain ⟨other, isOpen⟩ := Bool.and_eq_true_iff.mp taken
      refine ⟨nofun, fun h ↦ ?_⟩
      have := closed.mpr (h.2 holder seat rfl (bne_iff_ne.mp other))
      exact absurd (this.symm.trans isOpen) (by decide)
    · next free =>
      refine ⟨fun h ↦ ⟨(Except.ok.inj h).symm, fun _ _ same other ↦ ?_⟩,
        fun h ↦ congrArg _ h.1.symm⟩
      cases same
      rw [bne_iff_ne.mpr other, Bool.true_and, Bool.not_eq_true] at free
      exact closed.mp free

/-- Give up the controller's slot. Tells whether this id held it. -/
def release (roster : Roster) (id : Nat) : Bool × Roster :=
  if roster.controller.any (·.1 == id) then (true, { roster with controller := none })
  else (false, roster)

/-- The id of the controller, if it is alive. -/
def controllerId? (roster : Roster) (floor : Floor) : Option Nat :=
  roster.controller.bind fun (id, seat) ↦ if floor.isAlive seat then some id else none

/-- Whether there is a controller that is alive. -/
def hasController (roster : Roster) (floor : Floor) : Bool := (roster.controllerId? floor).isSome

end Roster

end Glyphcast
