import Glyphcast.Session.Basic
import Mathlib.Data.List.Basic

/-!
# What happens to a session, watched

Frames and replies are sent to a session while a writer takes them to its sink, and neither waits
for the other. `Session.Event` is everything that can happen to a session, and a run is a list of
events in whatever order. An event is a whole call. While a session is open that is no loss: a send
does its work in one go, under the lock of the outbox. What comes of calls that interrupt each other
shows where a session is closed or a write fails, and there `Session.Step` is what one of them does
at a time.

A session remembers what waits and how many items were written, but not which. `Ledger` is the
memory of someone who watches it: what was written, and how each frame left its lane. It is kept
by `Ledger.note` from what the session's own functions answer, so it adds nothing to them.
-/

namespace Glyphcast

namespace Item

/-- The text of a reply. -/
def reply? : Item → Option String
  | reply text => some text
  | frame _ => none

/-- The text of a frame. -/
def frame? : Item → Option String
  | reply _ => none
  | frame text => some text

end Item

namespace Turn

/-- Whether a turn is a writer's. -/
def isWriter : Turn → Bool
  | writer _ => true
  | closer => false

/-- The item that a turn has in hand. -/
def item? : Turn → Option Item
  | writer item => item
  | closer => none

end Turn

theorem Phase.authenticate_eq_closed_iff {phase : Phase} {role : Role} :
    phase.authenticate role = .closed ↔ phase = .closed := by
  cases phase <;> cases role <;> decide

/-- The claim in one line: it is won if something waits and nobody writes, and then, as before,
something waits only while somebody writes. -/
theorem Outbox.begin_eq (outbox : Outbox) :
    outbox.begin = (!(outbox.writing || outbox.isEmpty),
      { outbox with writing := outbox.writing || !outbox.isEmpty }) := by
  obtain ⟨replies, frames, capacity, writing⟩ := outbox
  cases writing <;> cases replies <;> cases frames <;> rfl

namespace Session

/-! ## Everything that can happen to a session -/

/-- Something that happens to a session. -/
inductive Event where
  /-- A frame is sent. -/
  | sendFrame (text : String)
  /-- A reply is sent. -/
  | sendReply (text : String)
  /-- A role is granted. -/
  | authenticate (role : Role)
  /-- The session is closed. -/
  | close
  /-- The sink is asked to be closed. -/
  | closeSink
  /-- The writer takes its next item, or ends. -/
  | take
  /-- The item at the sink was written. -/
  | confirm
  /-- The item at the sink could not be written. -/
  | fail
  /-- The sink was closed. -/
  | leaveSink

/-- The session after an event. -/
def apply (session : Session) : Event → Session
  | .sendFrame text => session.sendFrame text
  | .sendReply text => session.sendReply text
  | .authenticate role => session.authenticate role
  | .close => session.close
  | .closeSink => session.closeSink
  | .take => session.take
  | .confirm => session.confirm
  | .fail => session.fail
  | .leaveSink => session.leaveSink

/-- The frame that an event sends. -/
def Event.frame? : Event → Option String
  | sendFrame text => some text
  | _ => none

/-- The reply that an event sends. -/
def Event.reply? : Event → Option String
  | sendReply text => some text
  | _ => none

/-- The item at the sink. -/
def inFlight? (session : Session) : Option Item := session.turns.head?.bind Turn.item?

/-- The reply at the sink, as a list of at most one. -/
def replyInFlight (session : Session) : List String :=
  (session.inFlight?.bind Item.reply?).toList

/-- The frame at the sink, as a list of at most one. -/
def frameInFlight (session : Session) : List String :=
  (session.inFlight?.bind Item.frame?).toList

/-- How many writers there are. -/
def writers (session : Session) : Nat := session.turns.countP Turn.isWriter

end Session

/-! ## The ledger -/

/-- How a frame left its lane. -/
inductive Exit where
  /-- The writer took it. -/
  | taken
  /-- A later frame pushed it out. -/
  | evicted
  deriving DecidableEq, Repr

/-- What a session's watcher remembers. -/
structure Ledger where
  /-- The replies written. -/
  replies : List String := []
  /-- The frames written. -/
  frames : List String := []
  /-- The frames that left their lane, and how. -/
  exits : List (Exit × String) := []
  deriving DecidableEq, Repr

namespace Ledger

open Session (Event)

/-- The frames that left their lane in one of the two ways. -/
def left (ledger : Ledger) (exit : Exit) : List String :=
  (ledger.exits.filter (·.1 = exit)).map (·.2)

/-- Add an item that was written. -/
def write (ledger : Ledger) : Item → Ledger
  | .reply text => { ledger with replies := ledger.replies ++ [text] }
  | .frame text => { ledger with frames := ledger.frames ++ [text] }

/-- Note what an event does to a session. -/
def note (ledger : Ledger) (session : Session) : Event → Ledger
  | .sendFrame text =>
    if session.isClosed then ledger
    else
      let evicted := (session.outbox.pushFrame text).1.toList
      { ledger with exits := ledger.exits ++ evicted.map (.evicted, ·) }
  | .take =>
    match session.inFlight?, session.take.inFlight? with
    | none, some (.frame text) => { ledger with exits := ledger.exits ++ [(.taken, text)] }
    | _, _ => ledger
  | .confirm =>
    match session.inFlight? with
    | some item => ledger.write item
    | none => ledger
  | _ => ledger

@[simp] theorem left_append (replies frames : List String) (exits more : List (Exit × String))
    (exit : Exit) :
    (Ledger.mk replies frames (exits ++ more)).left exit =
      (Ledger.mk replies frames exits).left exit ++ (more.filter (·.1 = exit)).map (·.2) := by
  simp [left]

/-- A frame leaves its lane in one way. -/
theorem length_exits (ledger : Ledger) :
    ledger.exits.length = (ledger.left .taken).length + (ledger.left .evicted).length := by
  obtain ⟨replies, frames, exits⟩ := ledger
  induction exits with
  | nil => rfl
  | cons exit exits ih =>
    obtain ⟨_ | _, text⟩ := exit <;>
      simp only [left, List.filter_cons, reduceCtorEq, decide_true, decide_false, if_true,
        Bool.false_eq_true, if_false, List.map_cons, List.length_cons] at ih ⊢ <;> omega

end Ledger

namespace Session

/-- The fate of every frame sent, oldest first: how it left its lane, or nothing yet. -/
def fates (session : Session) (ledger : Ledger) : List (Option Exit × String) :=
  ledger.exits.map (fun exit ↦ (some exit.1, exit.2)) ++ session.outbox.frames.map (none, ·)

/-- One event, watched. -/
def watch (state : Session × Ledger) (event : Event) : Session × Ledger :=
  (state.1.apply event, state.2.note state.1 event)

/-- A run of events, watched from the start. -/
def run (session : Session) (events : List Event) : Session × Ledger :=
  events.foldl watch (session, {})

theorem run_append_singleton (session : Session) (events : List Event) (event : Event) :
    session.run (events ++ [event]) = watch (session.run events) event := by
  rw [run, List.foldl_append, List.foldl_cons, List.foldl_nil, run]

/-- The session after some events. -/
def applyAll (session : Session) (events : List Event) : Session := events.foldl apply session

theorem applyAll_append (session : Session) (first rest : List Event) :
    session.applyAll (first ++ rest) = (session.applyAll first).applyAll rest :=
  List.foldl_append

theorem fst_run (session : Session) (events : List Event) :
    (session.run events).1 = session.applyAll events :=
  (List.foldl_hom Prod.fst fun _ _ ↦ rfl).symm

/-! ## What waits and what is at the sink

A turn joins the others at the end of the queue and with nothing in hand, so the item at the sink
stays the same one. -/

theorem head_append_empty (turns : List Turn) {last : Turn} (empty : last.item? = none) :
    (turns ++ [last]).head?.bind Turn.item? = turns.head?.bind Turn.item? := by
  cases turns with
  | nil => exact empty
  | cons head waiting => rfl

theorem tail_append_empty {turns : List Turn} (h : ∀ turn ∈ turns.tail, turn.item? = none)
    {last : Turn} (empty : last.item? = none) :
    ∀ turn ∈ (turns ++ [last]).tail, turn.item? = none := by
  cases turns with
  | nil => simp
  | cons head waiting =>
    simp only [List.cons_append, List.tail_cons, List.mem_append, List.mem_singleton]
    rintro turn (old | rfl)
    · exact h turn old
    · exact empty

theorem inFlight?_of_turns {session : Session} {turn : Turn} {waiting : List Turn}
    (turns : session.turns = turn :: waiting) : session.inFlight? = turn.item? := by
  rw [inFlight?, turns]
  rfl

theorem inFlight?_eq_some_iff {session : Session} {item : Item} :
    session.inFlight? = some item ↔
      ∃ waiting, session.turns = .writer (some item) :: waiting := by
  constructor
  · intro hand
    obtain ⟨turn, first, own⟩ := Option.bind_eq_some_iff.mp hand
    obtain ⟨waiting, turns⟩ := List.head?_eq_some_iff.mp first
    match turn with
    | .writer (some other) =>
      cases own
      exact ⟨waiting, turns⟩
  · rintro ⟨waiting, turns⟩
    exact inFlight?_of_turns turns

/-- A write that fails is the end of its writer, and of all that waits. -/
theorem fail_of_turns {session : Session} {item : Item} {waiting : List Turn}
    (turns : session.turns = .writer (some item) :: waiting) :
    session.fail =
      { session with writeFailed := true, outbox := session.outbox.abort, turns := waiting } := by
  rw [fail, turns]

theorem fail_of_idle {session : Session} (idle : session.inFlight? = none) :
    session.fail = session := by
  unfold fail
  split
  · next item waiting turns => exact nomatch idle.symm.trans (inFlight?_of_turns turns)
  · rfl

theorem startWriter_outbox (session : Session) :
    session.startWriter.outbox =
      { session.outbox with writing := session.outbox.writing || !session.outbox.isEmpty } := by
  rw [startWriter, Outbox.begin_eq]

theorem startWriter_turns (session : Session) :
    session.startWriter.turns =
      if session.outbox.writing || session.outbox.isEmpty then session.turns
      else session.turns ++ [.writer none] := by
  rw [startWriter, Outbox.begin_eq]
  cases session.outbox.writing || session.outbox.isEmpty <;> rfl

@[simp] theorem startWriter_inFlight? (session : Session) :
    session.startWriter.inFlight? = session.inFlight? := by
  rw [inFlight?, startWriter_turns, inFlight?]
  split_ifs
  · rfl
  · exact head_append_empty _ rfl

theorem startWriter_writers (session : Session) :
    session.startWriter.writers =
      session.writers +
        if session.outbox.writing || session.outbox.isEmpty then 0 else 1 := by
  rw [writers, startWriter_turns, writers]
  split_ifs <;> simp [Turn.isWriter]

/-- What a writer does with its turn: it takes the oldest reply, or where no reply waits the oldest
frame, or it ends. -/
theorem take_cases (session : Session) :
    (∃ text replies waiting, session.turns = .writer none :: waiting ∧
      session.outbox.replies = text :: replies ∧
      session.take = { session with
        outbox := { session.outbox with replies }
        turns := .writer (some (.reply text)) :: waiting }) ∨
    (∃ text frames waiting, session.turns = .writer none :: waiting ∧
      session.outbox.replies = [] ∧ session.outbox.frames = text :: frames ∧
      session.take = { session with
        outbox := { session.outbox with frames }
        turns := .writer (some (.frame text)) :: waiting }) ∨
    (∃ waiting, session.turns = .writer none :: waiting ∧ session.outbox.isEmpty = true ∧
      session.take = { session with
        outbox := { session.outbox with writing := false }, turns := waiting }) ∨
    session.take = session := by
  unfold take Outbox.next Outbox.pop
  split
  · next waiting turns =>
    -- a frame is looked at only where no reply waits
    cases replies : session.outbox.replies with
    | cons text rest => exact .inl ⟨text, rest, waiting, turns, rfl, by simp⟩
    | nil =>
      cases frames : session.outbox.frames with
      | cons text rest =>
        exact .inr (.inl ⟨text, rest, waiting, turns, rfl, rfl, by simp [replies]⟩)
      | nil =>
        refine .inr (.inr (.inl ⟨waiting, turns, ?_, by simp⟩))
        rw [Outbox.isEmpty, replies, frames]
        rfl
  · exact .inr (.inr (.inr rfl))

theorem confirm_cases (session : Session) :
    (∃ item waiting, session.turns = .writer (some item) :: waiting ∧
      session.confirm = { session with
        tally := session.tally.count item, turns := .writer none :: waiting }) ∨
    (session.inFlight? = none ∧ session.confirm = session) := by
  unfold confirm
  split
  · next item waiting turns => exact .inl ⟨item, waiting, turns, rfl⟩
  · next other =>
    refine .inr ⟨?_, rfl⟩
    match turns : session.turns with
    | [] => rw [inFlight?, turns]; rfl
    | .closer :: _ => rw [inFlight?, turns]; rfl
    | .writer none :: _ => rw [inFlight?, turns]; rfl
    | .writer (some item) :: waiting => exact absurd turns (other item waiting)

end Session

end Glyphcast
