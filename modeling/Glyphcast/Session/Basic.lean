import Glyphcast.Session.Outbox
import Glyphcast.Session.Phase

/-!
# Sessions

A session is one client: its phase, its outbox, and the account of what became of its items.

Sending never waits for the client. It puts the item into the outbox, and starts a writer if none
is running; a writer takes item after item until the outbox is empty. Writers, and the closing of
the client's sink, use the sink one after the other, in the order in which they came: `turns` is
that order. Everything that can happen to a session is one of the functions here, and how long a
write takes is none of their business.

A session that is closed, or to which a write has failed, takes nothing more. What was in its
outbox is discarded; an item that the writer has already taken may still arrive.
-/

namespace Glyphcast

/-- A turn at the sink. -/
inductive Turn where
  /-- A writer, with the item that it is writing. -/
  | writer (inFlight : Option Item)
  /-- The closing of the sink. -/
  | closer
  deriving DecidableEq, Repr

/-- What became of a session's items. -/
structure Tally where
  /-- Frames put into the outbox. -/
  framesEnqueued : Nat := 0
  /-- Frames written. -/
  framesWritten : Nat := 0
  /-- Frames pushed out by later ones. -/
  framesDropped : Nat := 0
  /-- Replies written. -/
  repliesWritten : Nat := 0
  deriving DecidableEq, Repr

namespace Tally

/-- Add a written item. -/
def count (tally : Tally) (item : Item) : Tally :=
  match item with
  | .frame _ => { tally with framesWritten := tally.framesWritten + 1 }
  | .reply _ => { tally with repliesWritten := tally.repliesWritten + 1 }

/-- The share of the frames that were pushed out. -/
def dropRatio (tally : Tally) : Float :=
  if tally.framesEnqueued = 0 then 0.0
  else (UInt64.ofNat tally.framesDropped).toFloat / (UInt64.ofNat tally.framesEnqueued).toFloat

end Tally

/-- A connected client. -/
structure Session where
  /-- The number it is known by. -/
  id : Nat
  /-- Where it stands. -/
  phase : Phase := .unauthenticated
  /-- What it has to write. -/
  outbox : Outbox := {}
  /-- Whether a write has failed. -/
  writeFailed : Bool := false
  /-- What became of its items. -/
  tally : Tally := {}
  /-- When it was made, in milliseconds. -/
  createdAt : Nat := 0
  /-- Who uses the sink, and who waits for it. -/
  turns : List Turn := []
  deriving DecidableEq, Repr

namespace Session

/-- A new session, with an outbox for this many frames. -/
def new (id capacity now : Nat) : Session :=
  { id, outbox := .ofCapacity capacity, createdAt := now }

/-- How the session is shown in a log. -/
def describe (session : Session) : String :=
  "Session \x7b id: " ++ toString session.id ++ ", phase: " ++ session.phase.label ++ ", .. \x7d"

/-- Whether the session takes nothing more. -/
def isClosed (session : Session) : Bool := session.phase = .closed || session.writeFailed

/-- Grant a role. -/
def authenticate (session : Session) (role : Role) : Session :=
  { session with phase := session.phase.authenticate role }

/-- Close the session and discard its outbox. -/
def close (session : Session) : Session :=
  { session with phase := .closed, outbox := session.outbox.clear }

/-- Start a writer if one is needed. -/
def startWriter (session : Session) : Session :=
  let (starts, outbox) := session.outbox.begin
  { session with
    outbox
    turns := if starts then session.turns ++ [.writer none] else session.turns }

/-- Send a frame. -/
def sendFrame (session : Session) (text : String) : Session :=
  if session.isClosed then session
  else
    let (evicted, outbox) := session.outbox.pushFrame text
    let tally := { session.tally with
      framesEnqueued := session.tally.framesEnqueued + 1
      framesDropped := session.tally.framesDropped + evicted.toList.length }
    { session with outbox, tally }.startWriter

/-- Send a reply. -/
def sendReply (session : Session) (text : String) : Session :=
  if session.isClosed then session
  else { session with outbox := session.outbox.pushReply text }.startWriter

/-- Ask for the sink to be closed, after what is at it now. -/
def closeSink (session : Session) : Session :=
  { session with turns := session.turns ++ [.closer] }

/-! ## The turn at the sink -/

/-- Let the writer take its next item, or end. -/
def take (session : Session) : Session :=
  match session.turns with
  | .writer none :: waiting =>
    match session.outbox.next with
    | (some item, outbox) => { session with outbox, turns := .writer (some item) :: waiting }
    | (none, outbox) => { session with outbox, turns := waiting }
  | _ => session

/-- The item at the sink was written. -/
def confirm (session : Session) : Session :=
  match session.turns with
  | .writer (some item) :: waiting =>
    { session with tally := session.tally.count item, turns := .writer none :: waiting }
  | _ => session

/-- The item at the sink could not be written. The writer ends, and all that waits is discarded. -/
def fail (session : Session) : Session :=
  match session.turns with
  | .writer (some _) :: waiting =>
    { session with writeFailed := true, outbox := session.outbox.abort, turns := waiting }
  | _ => session

/-- The sink was closed. -/
def leaveSink (session : Session) : Session :=
  match session.turns with
  | .closer :: waiting => { session with turns := waiting }
  | _ => session

/-! ## What is left alone

Sending and writing change neither who a session is nor where it stands; that a write failed is
told by a flag of its own. -/

/-- Two states of a session that differ only in its items and in the queue at its sink. -/
structure SameStanding (before after : Session) : Prop where
  id : after.id = before.id
  phase : after.phase = before.phase
  writeFailed : after.writeFailed = before.writeFailed

theorem SameStanding.isClosed {before after : Session} (h : before.SameStanding after) :
    after.isClosed = before.isClosed := by
  rw [Session.isClosed, Session.isClosed, h.phase, h.writeFailed]

section

variable (session : Session)

theorem sameStanding_sendFrame (text : String) :
    session.SameStanding (session.sendFrame text) := by
  unfold sendFrame
  split <;> exact ⟨rfl, rfl, rfl⟩

theorem sameStanding_sendReply (text : String) :
    session.SameStanding (session.sendReply text) := by
  unfold sendReply
  split <;> exact ⟨rfl, rfl, rfl⟩

theorem sameStanding_closeSink : session.SameStanding session.closeSink := ⟨rfl, rfl, rfl⟩

theorem sameStanding_take : session.SameStanding session.take := by
  unfold take
  split
  · split <;> exact ⟨rfl, rfl, rfl⟩
  · exact ⟨rfl, rfl, rfl⟩

theorem sameStanding_confirm : session.SameStanding session.confirm := by
  unfold confirm
  split <;> exact ⟨rfl, rfl, rfl⟩

theorem sameStanding_leaveSink : session.SameStanding session.leaveSink := by
  unfold leaveSink
  split <;> exact ⟨rfl, rfl, rfl⟩

theorem fail_cases :
    session.fail = session ∨
      session.fail.id = session.id ∧ session.fail.phase = session.phase ∧
        session.fail.writeFailed = true := by
  unfold fail
  split
  · exact .inr ⟨rfl, rfl, rfl⟩
  · exact .inl rfl

end

end Session

end Glyphcast
