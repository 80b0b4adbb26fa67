import Glyphcast.Proofs.Session.Events
import Mathlib.Data.Multiset.AddSub

/-!
# A session that many use at once

An `Event` is a whole call, from its beginning to its end. But several callers use a session at the
same time, and a call is not one step: whoever sends asks whether the session is closed, then goes
to the outbox, and then starts a writer if it won the part; whoever closes a session changes its
phase first and discards the outbox afterwards; and a writer whose item was refused raises the flag
before it discards. Between two such steps anything else may happen.

`Traffic` is a session together with all who are between two steps with it, and `Step` is whatever
one of them does next. A run is a list of steps, in whatever order. Calls that nobody interrupts are
runs of this kind (`run_flatMap_steps`), so what is shown of runs of steps holds for runs of events.

## What is one step

* To put an item into its lane, to count it and to claim the part of the writer is done under the
  lock of the outbox, and so are the writer's look for its next item, and each way to discard what
  waits.
* To ask whether the session is closed is to look at the phase and then at the flag. Neither ever
  goes back, so a caller who found both open would have found them so at its first look, and that
  look is the step.
* A writer that finds nothing more, or that gives up, lowers the flag and leaves the sink in one
  step. Who comes to the sink in between has to wait for nothing else.
* An item is written and counted in one step. The count is read by none of the steps.

What a step leaves is what the next one finds: the locks and the flag see to that.
-/

namespace Glyphcast

namespace Session

/-- Put an item into its lane. A frame is counted, and so is the one that it pushes out. -/
def enqueue (session : Session) : Item → Session
  | .frame text =>
    let pushed := session.outbox.pushFrame text
    { session with
      outbox := pushed.2
      tally := { session.tally with
        framesEnqueued := session.tally.framesEnqueued + 1
        framesDropped := session.tally.framesDropped + pushed.1.toList.length } }
  | .reply text => { session with outbox := session.outbox.pushReply text }

/-- How far a writer has got with an item that was refused. -/
inductive Refusal where
  /-- The writer knows of it. -/
  | noticed
  /-- The flag is up, and the outbox is still to be discarded. -/
  | flagged
  deriving DecidableEq, Repr

/-- A session, and those who are between two steps with it. -/
structure Traffic where
  /-- The session. -/
  session : Session
  /-- The items of those who found the session open and have not come to its outbox. -/
  sends : Multiset Item := 0
  /-- How many writers were started and have not come to the sink. -/
  started : Nat := 0
  /-- How many closings have changed the phase and have not come to the outbox. -/
  closings : Nat := 0
  /-- The refusal that the writer at the sink is busy with. -/
  refusal : Option Refusal := none

/-- A step of one of those who use a session. -/
inductive Step where
  /-- Someone with an item asks whether the session is closed. -/
  | ask (item : Item)
  /-- Someone who has asked puts the item into the outbox, and claims the part of the writer. -/
  | put (item : Item)
  /-- A writer that was started comes to the sink. -/
  | join
  /-- A role is granted. -/
  | authenticate (role : Role)
  /-- A closing changes the phase. -/
  | close
  /-- A closing that has changed the phase discards the outbox. -/
  | clear
  /-- The sink is asked to be closed. -/
  | closeSink
  /-- The sink was closed. -/
  | leaveSink
  /-- The writer takes its next item, or ends. -/
  | take
  /-- The item at the sink was written. -/
  | confirm
  /-- The item at the sink is refused. -/
  | refuse
  /-- The writer raises the flag. -/
  | flag
  /-- The writer discards the outbox and ends. -/
  | abort
  deriving DecidableEq

namespace Traffic

/-- What is left after a step. A step whose time has not come changes nothing. -/
def step (traffic : Traffic) : Step → Traffic
  | .ask item =>
    if traffic.session.isClosed then traffic
    else { traffic with sends := item ::ₘ traffic.sends }
  | .put item =>
    if item ∈ traffic.sends then
      let (starts, outbox) := (traffic.session.enqueue item).outbox.begin
      { traffic with
        session := { traffic.session.enqueue item with outbox }
        sends := traffic.sends.erase item
        started := if starts then traffic.started + 1 else traffic.started }
    else traffic
  | .join =>
    if 0 < traffic.started then
      { traffic with
        session := { traffic.session with turns := traffic.session.turns ++ [.writer none] }
        started := traffic.started - 1 }
    else traffic
  | .authenticate role => { traffic with session := traffic.session.authenticate role }
  | .close =>
    { traffic with
      session := { traffic.session with phase := .closed }
      closings := traffic.closings + 1 }
  | .clear =>
    if 0 < traffic.closings then
      { traffic with
        session := { traffic.session with outbox := traffic.session.outbox.clear }
        closings := traffic.closings - 1 }
    else traffic
  | .closeSink => { traffic with session := traffic.session.closeSink }
  | .leaveSink => { traffic with session := traffic.session.leaveSink }
  | .take => { traffic with session := traffic.session.take }
  | .confirm =>
    if traffic.refusal = none then { traffic with session := traffic.session.confirm } else traffic
  | .refuse =>
    if traffic.refusal = none ∧ traffic.session.inFlight?.isSome then
      { traffic with refusal := some .noticed }
    else traffic
  | .flag =>
    if traffic.refusal = some .noticed then
      { traffic with
        session := { traffic.session with writeFailed := true }
        refusal := some .flagged }
    else traffic
  | .abort =>
    if traffic.refusal = some .flagged then
      { traffic with
        session := { traffic.session with
          outbox := traffic.session.outbox.abort
          turns := traffic.session.turns.tail }
        refusal := none }
    else traffic

/-- What is left after some steps. -/
def run (traffic : Traffic) (steps : List Step) : Traffic := steps.foldl step traffic

theorem run_append (traffic : Traffic) (first rest : List Step) :
    traffic.run (first ++ rest) = (traffic.run first).run rest :=
  List.foldl_append

end Traffic

/-! ## Calls that nobody interrupts -/

/-- The steps of a call. -/
def Event.steps : Event → List Step
  | .sendFrame text => [.ask (.frame text), .put (.frame text), .join]
  | .sendReply text => [.ask (.reply text), .put (.reply text), .join]
  | .authenticate role => [.authenticate role]
  | .close => [.close, .clear]
  | .closeSink => [.closeSink]
  | .take => [.take]
  | .confirm => [.confirm]
  | .fail => [.refuse, .flag, .abort]
  | .leaveSink => [.leaveSink]

section

variable {session : Session}

private theorem sendFrame_eq_startWriter (isOpen : session.isClosed = false) (text : String) :
    session.sendFrame text = (session.enqueue (.frame text)).startWriter := by
  rw [sendFrame, isOpen]
  rfl

private theorem sendReply_eq_startWriter (isOpen : session.isClosed = false) (text : String) :
    session.sendReply text = (session.enqueue (.reply text)).startWriter := by
  rw [sendReply, isOpen]
  rfl

namespace Traffic

private theorem run_send (isOpen : session.isClosed = false) (item : Item) :
    run { session } [.ask item, .put item, .join] =
      { session := (session.enqueue item).startWriter } := by
  have asked : step { session } (.ask item) = { session, sends := {item} } :=
    if_neg (ne_true_of_eq_false isOpen)
  have mem : item ∈ ({item} : Multiset Item) := Multiset.mem_singleton_self item
  rw [run, List.foldl_cons, List.foldl_cons, List.foldl_cons, List.foldl_nil, asked, step,
    if_pos mem, startWriter]
  cases (session.enqueue item).outbox.begin with
  | mk starts outbox => cases starts <;> simp [step]

private theorem run_send_of_isClosed (closed : session.isClosed = true) (item : Item) :
    run { session } [.ask item, .put item, .join] = { session } := by
  simp [run, step, closed]

private theorem run_fail {item : Item} (hand : session.inFlight? = some item) :
    run { session } [.refuse, .flag, .abort] =
      { session := { session with
          writeFailed := true, outbox := session.outbox.abort, turns := session.turns.tail } } := by
  simp [run, step, hand]

private theorem run_fail_of_idle (idle : session.inFlight? = none) :
    run { session } [.refuse, .flag, .abort] = { session } := by
  simp [run, step, idle]

/-- A call that nobody interrupts does in its steps what it does as a whole. -/
theorem run_steps (session : Session) (event : Event) :
    run { session } event.steps = { session := session.apply event } := by
  cases event with
  | sendFrame text =>
    rw [Event.steps, apply]
    cases asked : session.isClosed with
    | true => rw [run_send_of_isClosed asked, sendFrame, if_pos asked]
    | false => rw [run_send asked, sendFrame_eq_startWriter asked]
  | sendReply text =>
    rw [Event.steps, apply]
    cases asked : session.isClosed with
    | true => rw [run_send_of_isClosed asked, sendReply, if_pos asked]
    | false => rw [run_send asked, sendReply_eq_startWriter asked]
  | fail =>
    rw [Event.steps, apply]
    cases hand : session.inFlight? with
    | none => rw [run_fail_of_idle hand, fail_of_idle hand]
    | some item =>
      obtain ⟨waiting, turns⟩ := inFlight?_eq_some_iff.mp hand
      rw [run_fail hand, fail_of_turns turns, turns]
      rfl
  | authenticate role => rfl
  | close => rfl
  | closeSink => rfl
  | take => rfl
  | confirm => rfl
  | leaveSink => rfl

/-- A run of events is a run of their steps. -/
theorem run_flatMap_steps (session : Session) (events : List Event) :
    run { session } (events.flatMap Event.steps) = { session := session.applyAll events } := by
  induction events generalizing session with
  | nil => rfl
  | cons event events ih =>
    rw [List.flatMap_cons, run_append, run_steps, ih]
    rfl

end Traffic

end

end Session

end Glyphcast
