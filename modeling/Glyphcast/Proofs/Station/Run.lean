import Glyphcast.Device.Scripted
import Glyphcast.Proofs.Hub.Run
import Glyphcast.Proofs.Session.Floor
import Glyphcast.Renderer.Label
import Glyphcast.Station
import Mathlib.Data.List.Basic

/-!
# Runs of a station

`Station.Event` is what can happen to a hub and its sessions while the sessions are served: texts
and bytes arrive, connections come and go, sessions that have left are released some time later,
and the sinks, the player and the capture loop do what is theirs. A reading is in parts here too,
so that texts may come between them. A run is any list of events.

Whoever serves a session holds on to it. So texts, the teardown and the closing of the sink reach
a session only while its seat is held, and a seat that was let go is not held again. Ids are given
once.

## What a text can do

`Answers` says what a text can do, and when: it changes nothing, for one of four reasons, or it
takes the controller's slot, or it makes a viewer, or it is a command that the hub carries out.
Everything about texts is read off these cases.
-/

namespace Glyphcast

/-- Whether a message asks for a role. -/
def Message.isAuth : Message → Bool
  | auth .. => true
  | _ => false

namespace Station

/-! ## Events -/

/-- Something that happens to a station. -/
inductive Event where
  /-- A connection is made. -/
  | connect (id capacity now : Nat)
  /-- A text arrives. -/
  | text (now : Nat) (stamp : Recording.Stamp) (number : SeatNumber) (text : String)
  /-- Bytes arrive that are no text. -/
  | bytes (number : SeatNumber)
  /-- A session is closed. -/
  | teardown (number : SeatNumber)
  /-- A sink is asked to be closed. -/
  | closeSink (number : SeatNumber)
  /-- A seat is let go. -/
  | drop (number : SeatNumber)
  /-- One of the sessions that have left is released. -/
  | release (now position : Nat)
  /-- Something happens at a sink. -/
  | sink (number : SeatNumber) (move : SinkMove) (sink : Sink)
  /-- The player delivers what is due. -/
  | runPlayer (now : Nat)
  /-- The capture loop reads a frame. -/
  | read
  /-- The capture loop offers it to the recorder. -/
  | keep (now : Nat)
  /-- The capture loop draws the consequences. -/
  | conclude (now : Nat)
  /-- The hub is shut down. -/
  | shutdown (now : Nat)
  deriving DecidableEq

variable {δ ρ : Type} [CaptureDevice δ] [FrameRenderer ρ]

/-- Whether whoever serves a session is still there. -/
def isServed (station : Station δ ρ) (number : SeatNumber) : Bool :=
  (station.floor.seat? number).any (·.held)

/-- Whether an id has been given. -/
def hasId (station : Station δ ρ) (id : Nat) : Bool :=
  station.floor.seats.any (·.session.id == id)

/-- The station after an event. -/
def apply (station : Station δ ρ) : Event → Station δ ρ
  | .connect id capacity now =>
    if station.hasId id then station
    else { station with floor := (station.floor.enroll (.new id capacity now) {}).2 }
  | .text now stamp number text =>
    if station.isServed number then (station.handleText now stamp number text).2 else station
  | .bytes number =>
    if station.isServed number then
      { station with floor := station.floor.sendReply number Reply.unknownCommand.text }
    else station
  | .teardown number => if station.isServed number then station.teardown number else station
  | .closeSink number =>
    if station.isServed number then
      { station with floor := station.floor.modifySession number (·.closeSink) }
    else station
  | .drop number => { station with floor := station.floor.release number }
  | .release now position => station.releaseAt now position
  | .sink number move sink =>
    { station with
      floor := station.floor.modify number fun seat ↦
        { seat with session := seat.session.move move, sink } }
  | .runPlayer now => station.runPlayer now
  | .read => { station with hub := station.hub.read }
  | .keep now => { station with hub := station.hub.keep now }
  | .conclude now =>
    let (hub, floor) := station.hub.conclude station.floor now
    { station with hub, floor }
  | .shutdown now => { station with hub := station.hub.shutdown now }

/-- The station after some events. -/
def run (station : Station δ ρ) (events : List Event) : Station δ ρ := events.foldl apply station

theorem run_cons (station : Station δ ρ) (event : Event) (events : List Event) :
    station.run (event :: events) = (station.apply event).run events := rfl

theorem run_append (station : Station δ ρ) (first second : List Event) :
    station.run (first ++ second) = (station.run first).run second :=
  List.foldl_append

theorem run_append_singleton (station : Station δ ρ) (events : List Event) (event : Event) :
    station.run (events ++ [event]) = (station.run events).apply event :=
  station.run_append events [event]

omit [CaptureDevice δ] [FrameRenderer ρ] in
theorem isServed_eq {station : Station δ ρ} {number : SeatNumber} {seat : Seat}
    (found : station.floor.seat? number = some seat) : station.isServed number = seat.held := by
  rw [isServed, found, Option.any_some]

omit [CaptureDevice δ] [FrameRenderer ρ] in
theorem isServed_iff {station : Station δ ρ} {number : SeatNumber} :
    station.isServed number = true ↔
      ∃ seat, station.floor.seat? number = some seat ∧ seat.held = true := by
  rw [isServed, Option.any_eq_true]

/-! ## What leaves the hub alone -/

/-- Whether an event is between a session and its client alone. -/
def Event.isPrivate : Event → Bool
  | connect .. | bytes _ | teardown _ | closeSink _ | drop _ | sink .. => true
  | _ => false

theorem hub_apply (station : Station δ ρ) {event : Event} (h : event.isPrivate = true) :
    (station.apply event).hub = station.hub := by
  cases event with
  | connect id capacity now => rw [apply]; split <;> rfl
  | bytes number => rw [apply]; split <;> rfl
  | teardown number =>
    rw [apply, teardown]
    split
    · split <;> rfl
    · rfl
  | closeSink number => rw [apply]; split <;> rfl
  | drop number => rfl
  | sink number move sink => rfl
  | _ => cases h

/-! ## What leaves every session where it is

Only three events are about where a session stands: the one that makes it, its own texts, and its
teardown. -/

/-- Whether an event leaves every session where it is. -/
def Event.isQuiet : Event → Bool
  | connect .. | text .. | teardown .. => false
  | _ => true

omit [CaptureDevice δ] [FrameRenderer ρ] in
private theorem isAlive_of_isServed {station : Station δ ρ} {number : SeatNumber}
    (served : station.isServed number = true) (seat : Seat)
    (found : station.floor.seat? number = some seat) : seat.isAlive = true := by
  obtain ⟨other, found', held⟩ := isServed_iff.mp served
  cases found.symm.trans found'
  exact Floor.isAlive_of_held held

omit [FrameRenderer ρ] in
private theorem stays_conclude (hub : Hub δ ρ) (floor : Floor) (now : Nat) :
    floor.Each Seat.Stays (hub.conclude floor now).2 := by
  unfold Hub.conclude
  split
  · exact floor.stays_refl
  · exact floor.stays_refl
  · split
    · dsimp only
      split
      · exact Floor.stays_foldl_sendFrame Prod.snd (fun _ ↦ _) _ floor
      · exact floor.stays_refl
      · exact floor.stays_refl
    · exact floor.stays_refl
    · exact floor.stays_refl

theorem stays_apply (station : Station δ ρ) {event : Event} (quiet : event.isQuiet = true) :
    station.floor.Each Seat.Stays (station.apply event).floor := by
  cases event with
  | connect id capacity now => cases quiet
  | text now stamp number text => cases quiet
  | teardown number => cases quiet
  | bytes number =>
    rw [apply]
    split
    · next served =>
      exact Floor.stays_modifySession (isAlive_of_isServed served)
        (·.sameStanding_sendReply Reply.unknownCommand.text)
    · exact station.floor.stays_refl
  | closeSink number =>
    rw [apply]
    split
    · next served =>
      exact Floor.stays_modifySession (isAlive_of_isServed served) (·.sameStanding_closeSink)
    · exact station.floor.stays_refl
  | drop number => exact station.floor.stays_release number
  | release now position =>
    rw [apply, releaseAt]
    split <;> exact station.floor.stays_refl
  | sink number move sink =>
    exact Floor.each_modify Seat.Stays.refl fun seat _ ↦ seat.stays_move move sink
  | runPlayer now => exact Floor.stays_foldl_sendFrame Prod.fst Prod.snd _ station.floor
  | read => exact station.floor.stays_refl
  | keep now => exact station.floor.stays_refl
  | conclude now => exact stays_conclude station.hub station.floor now
  | shutdown now => exact station.floor.stays_refl

end Station

/-! ## What only a controller may change -/

/-- Two states of a hub that differ in nothing that takes a controller to change. -/
structure Hub.SameControl {δ ρ : Type} (before after : Hub δ ρ) : Prop where
  config : after.config = before.config
  capture : after.capture = before.capture
  streaming : after.streaming = before.streaming
  settings : after.settings = before.settings
  recorder : after.recorder = before.recorder
  controller : after.roster.controller = before.roster.controller

namespace Station

variable {δ ρ : Type} [CaptureDevice δ] [FrameRenderer ρ] (station : Station δ ρ)
  (now : Nat) (stamp : Recording.Stamp) (number : SeatNumber) (session : Session)

/-- Carrying out a command changes the hub and nothing else. -/
theorem perform_eq (message : Message) :
    (station.perform now stamp number session message).2 =
      { station with hub := (station.perform now stamp number session message).2.hub } := by
  cases message with
  | config cameraIndex resolution fps =>
    simp only [perform, configure, command]
    split <;> rfl
  | _ => rfl

theorem sameControl_perform {message : Message} (h : message.requiresController = false) :
    station.hub.SameControl (station.perform now stamp number session message).2.hub := by
  cases message with
  | config cameraIndex resolution fps => cases h
  | stop => cases h
  | recordStart => cases h
  | recordStop => cases h
  | playbackStart filename =>
    simp only [perform, command, Prod.map, id, Hub.startPlayback]
    split
    · exact ⟨rfl, rfl, rfl, rfl, rfl, rfl⟩
    · split <;> exact ⟨rfl, rfl, rfl, rfl, rfl, rfl⟩
  | auth presented role => exact ⟨rfl, rfl, rfl, rfl, rfl, rfl⟩
  | playbackPause => exact ⟨rfl, rfl, rfl, rfl, rfl, rfl⟩
  | playbackResume => exact ⟨rfl, rfl, rfl, rfl, rfl, rfl⟩
  | playbackStop => exact ⟨rfl, rfl, rfl, rfl, rfl, rfl⟩
  | playbackSpeed speed => exact ⟨rfl, rfl, rfl, rfl, rfl, rfl⟩

@[simp] theorem controller_perform (message : Message) :
    (station.perform now stamp number session message).2.hub.roster.controller =
      station.hub.roster.controller := by
  cases privileged : message.requiresController with
  | false => exact (station.sameControl_perform now stamp number session privileged).controller
  | true =>
    cases message with
    | config cameraIndex resolution fps =>
      have started := station.hub.controller_startStreaming now cameraIndex
        (resolution.getD station.hub.config.defaultResolution.text)
        (fps.getD station.hub.config.defaultFps)
      simp only [perform, configure, command]
      split <;> exact started
    | stop => exact station.hub.controller_stopStreaming now
    | recordStart =>
      simp only [perform, command, Prod.map, id, Hub.startRecording]
      split <;> rfl
    | recordStop => rfl
    | _ => cases privileged

/-! ## Answers -/

/-- What a session's message, or a text that is none, comes to: the replies, and the station before
they are sent. -/
inductive Answers : Option Message → List Reply → Station δ ρ → Prop where
  /-- A closed session asks for a role. -/
  | closed {presented : String} {asked : Role} (closed : session.phase = .closed) :
    Answers (some (.auth presented asked)) [] station
  /-- The key is not the right one. -/
  | mismatch {presented : String} {asked : Role} (notClosed : session.phase ≠ .closed)
    (wrong : presented ≠ station.key.text) :
    Answers (some (.auth presented asked)) [.authFailed] station
  /-- The controller's slot is taken. -/
  | refused {asked : Role} {refusal : HubError} (notClosed : session.phase ≠ .closed)
    (role : session.phase.role?.getD asked = .controller)
    (claim : station.hub.roster.claim station.floor session.id number = .error refusal) :
    Answers (some (.auth station.key.text asked)) [.error refusal.message] station
  /-- The session takes the controller's slot. -/
  | controller {asked : Role} {roster : Roster} (notClosed : session.phase ≠ .closed)
    (role : session.phase.role?.getD asked = .controller)
    (claim : station.hub.roster.claim station.floor session.id number = .ok roster) :
    Answers (some (.auth station.key.text asked)) [.authControllerSuccess] { station with
      hub := { station.hub with roster := (roster.insert session.id number).2 }
      floor := station.floor.modifySession number (·.authenticate .controller) }
  /-- The session becomes a viewer, or is registered as one again. -/
  | viewer {asked : Role} (notClosed : session.phase ≠ .closed)
    (role : session.phase.role?.getD asked = .viewer) :
    Answers (some (.auth station.key.text asked))
      [.authViewerSuccess, .status station.hub.isStreaming] { station with
        hub := station.hub.addViewer session.id number
        floor := station.floor.modifySession number (·.authenticate .viewer) }
  /-- The text is no message, or one that is not its sender's to send. -/
  | unknown {message : Option Message}
    (unentitled : ∀ known, message = some known →
      known.isAuth = false ∧ isEntitled session.phase known = false) :
    Answers message [.unknownCommand] station
  /-- The hub carries out a command. -/
  | performed {message : Message} (isCommand : message.isAuth = false)
    (entitled : isEntitled session.phase message = true) :
    Answers (some message) [(station.perform now stamp number session message).1]
      { station with hub := (station.perform now stamp number session message).2.hub }

private theorem answers_authenticate (presented : String) (asked : Role) :
    station.Answers now stamp number session (some (.auth presented asked))
      (station.authenticate number session presented asked).1
      (station.authenticate number session presented asked).2 := by
  unfold authenticate
  split
  · next closed => exact .closed closed
  next notClosed =>
  split
  · next wrong =>
    refine .mismatch notClosed fun matched ↦ ?_
    rw [ApiKey.isMatch_iff.mpr matched] at wrong
    exact absurd wrong (by decide)
  next known =>
  -- the key was compared by its bytes, and there is one text for them
  have matched : presented = station.key.text := by
    rw [Bool.not_eq_true', Bool.not_eq_false] at known
    exact ApiKey.isMatch_iff.mp known
  subst matched
  split
  · next role =>
    cases claim : station.hub.roster.claim station.floor session.id number with
    | error refusal =>
      simp only [command, Hub.claimController, claim]
      exact .refused notClosed role claim
    | ok roster =>
      simp only [command, Hub.claimController, claim]
      exact .controller notClosed role claim
  · next role => exact .viewer notClosed role

private theorem answers_dispatch (message : Message) :
    station.Answers now stamp number session (some message)
      (station.dispatch now stamp number session message).1
      (station.dispatch now stamp number session message).2 := by
  unfold dispatch
  split
  · exact station.answers_authenticate now stamp number session _ _
  next other =>
  have isCommand : message.isAuth = false := by
    cases message with
    | auth presented role => exact absurd rfl (other presented role)
    | _ => rfl
  split
  · next entitled =>
    -- what is left of the station by a command differs from it in the hub alone
    have performed : station.Answers now stamp number session (some message) _ _ :=
      .performed isCommand entitled
    rw [← perform_eq] at performed
    exact performed
  · next unentitled =>
    refine .unknown fun known same ↦ ?_
    cases same
    exact ⟨isCommand, Bool.eq_false_iff.mpr unentitled⟩

/-- An answer changes no session but its own, and that by granting it a role. -/
theorem Answers.floor_cases {answered : Station δ ρ} {message : Option Message}
    {replies : List Reply}
    (answers : station.Answers now stamp number session message replies answered) :
    answered.floor = station.floor ∨
      ∃ role, answered.floor = station.floor.modifySession number (·.authenticate role) := by
  cases answers with
  | controller _ _ _ => exact .inr ⟨.controller, rfl⟩
  | viewer _ _ => exact .inr ⟨.viewer, rfl⟩
  | _ => exact .inl rfl

theorem Answers.departures {answered : Station δ ρ} {message : Option Message}
    {replies : List Reply}
    (answers : station.Answers now stamp number session message replies answered) :
    answered.departures = station.departures := by
  cases answers <;> rfl

/-- A text is answered, and then the replies are put into its sender's outbox. -/
theorem handleText_cases {seat : Seat} (found : station.floor.seat? number = some seat)
    (text : String) :
    ∃ replies answered,
      station.Answers now stamp number seat.session (Message.parse? text) replies answered ∧
        station.handleText now stamp number text = (replies, { answered with
          floor := answered.floor.modifySession number
            (·.sendReplies (replies.map Reply.text)) }) := by
  unfold handleText
  rw [found]
  dsimp only
  split
  · next message parsed =>
    rw [parsed]
    refine ⟨_, _, station.answers_dispatch now stamp number seat.session message, ?_⟩
    rw [Floor.foldl_sendReply]
  · next unparsed =>
    rw [unparsed]
    refine ⟨_, _, .unknown nofun, ?_⟩
    rw [Floor.foldl_sendReply]

theorem seat?_handleText_of_ne {other : SeatNumber} (h : number ≠ other) (text : String) :
    (station.handleText now stamp number text).2.floor.seat? other = station.floor.seat? other := by
  cases found : station.floor.seat? number with
  | none => rw [handleText, found]
  | some seat =>
    obtain ⟨replies, answered, answers, handled⟩ :=
      station.handleText_cases now stamp number found text
    rw [handled]
    refine (Floor.seat?_modify_of_ne _ h _).trans ?_
    rcases answers.floor_cases with same | ⟨role, granted⟩
    · rw [same]
    · rw [granted]
      exact Floor.seat?_modify_of_ne _ h _

/-- A station to rehearse with, before anybody has come. -/
def rehearsal : Station ScriptedDevice LabelRenderer where
  hub := .new { script := [.frame 1, .frame 2] } {} {} .empty
  key := ⟨"k3y"⟩

end Station

end Glyphcast
