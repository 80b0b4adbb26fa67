import Glyphcast.ApiKey
import Glyphcast.Hub.Commands
import Glyphcast.Message
import Glyphcast.Reply

/-!
# The station

A hub and the sessions that are connected to it. Here a client's text is turned into commands and
replies, and here is what happens by itself: sessions that have left are released, the player and
the capture loop do what is due, and texts arrive.

Nothing that a client sends can end its session, and everything is answered: what is not
understood, or not the sender's to ask for, by `UNKNOWN_COMMAND`; what the hub refuses, by the
reason.
-/

namespace Glyphcast

/-- A hub, its sessions, and its key. -/
structure Station (δ ρ : Type) where
  /-- The hub. -/
  hub : Hub δ ρ
  /-- The sessions. -/
  floor : Floor := {}
  /-- The key that clients must present. -/
  key : ApiKey
  /-- Sessions that have left and are still to be released, with the phase they left in. -/
  departures : List (Nat × Phase) := []

namespace Station

variable {δ ρ : Type} [CaptureDevice δ] [FrameRenderer ρ]

/-! ## Messages -/

/-- The reply to a command that the hub may refuse. -/
def replyTo {α : Type} (reply : Reply) : Except HubError α → Reply
  | .ok _ => reply
  | .error refusal => .error refusal.message

/-- Carry out a command of the hub that answers something. -/
def command {α : Type} (station : Station δ ρ) (run : Hub δ ρ → α × Hub δ ρ) :
    α × Station δ ρ :=
  let (answer, hub) := run station.hub
  (answer, { station with hub })

/-- Grant the role that was asked for with the right key. Whoever has a role keeps it, and is
registered again under it. -/
def authenticate (station : Station δ ρ) (number : SeatNumber) (session : Session)
    (presented : String) (asked : Role) : List Reply × Station δ ρ :=
  if session.phase = .closed then ([], station)
  else if !station.key.isMatch presented then ([.authFailed], station)
  else
    match session.phase.role?.getD asked with
    | .controller =>
      let (result, station) := station.command (·.claimController station.floor session.id number)
      match result with
      | .error refusal => ([.error refusal.message], station)
      | .ok () =>
        let floor := station.floor.modifySession number (·.authenticate .controller)
        ([.authControllerSuccess], { station with floor })
    | .viewer =>
      let floor := station.floor.modifySession number (·.authenticate .viewer)
      let hub := station.hub.addViewer session.id number
      ([.authViewerSuccess, .status hub.isStreaming], { station with hub, floor })

/-- Start the stream for the controller, who watches what is started. -/
def configure (station : Station δ ρ) (now : Nat) (number : SeatNumber) (session : Session)
    (cameraIndex : UInt32) (resolution : Option String) (fps : Option UInt32) :
    Reply × Station δ ρ :=
  let config := station.hub.config
  let (result, station) := station.command (·.startStreaming now cameraIndex
    (resolution.getD config.defaultResolution.text) (fps.getD config.defaultFps))
  match result with
  | .ok () => (.configApplied, { station with hub := station.hub.addViewer session.id number })
  | .error refusal => (.error refusal.message, station)

/-- Carry out a message that its sender may send. Where it ends a recording, the system may refuse
to write what is left of it. -/
def perform (station : Station δ ρ) (now : Nat) (stamp : Recording.Stamp) (number : SeatNumber)
    (session : Session) (message : Message) (refused : Option OsError := none) :
    Reply × Station δ ρ :=
  match message with
  | .auth .. => (.unknownCommand, station)
  | .config cameraIndex resolution fps =>
    station.configure now number session cameraIndex resolution fps
  | .stop => (.streamStopped, { station with hub := station.hub.stopStreaming now })
  | .recordStart =>
    (station.command (·.startRecording now stamp)).map (replyTo .recordingStarted) id
  | .recordStop =>
    (station.command (·.stopRecording now refused)).map (replyTo .recordingStopped) id
  | .playbackStart filename =>
    (station.command (·.startPlayback filename session.id number)).map (replyTo .playbackStarted) id
  | .playbackPause => (.playbackPaused, (station.command (·.pausePlayback)).2)
  | .playbackResume => (.playbackResumed, (station.command (·.resumePlayback)).2)
  | .playbackStop => (.playbackStopped, (station.command (·.stopPlayback)).2)
  | .playbackSpeed speed => (.playbackSpeedChanged, (station.command (·.setPlaybackSpeed speed)).2)

/-- Whether a session in this phase is entitled to a message, the key aside. -/
def isEntitled (phase : Phase) (message : Message) : Bool :=
  phase.isAuthenticated && (!message.requiresController || phase.isController)

/-- Answer a message. -/
def dispatch (station : Station δ ρ) (now : Nat) (stamp : Recording.Stamp) (number : SeatNumber)
    (session : Session) (message : Message) (refused : Option OsError := none) :
    List Reply × Station δ ρ :=
  match message with
  | .auth presented role => station.authenticate number session presented role
  | _ =>
    if isEntitled session.phase message then
      (station.perform now stamp number session message refused).map ([·]) id
    else ([.unknownCommand], station)

/-- Answer a text, and send the replies. -/
def handleText (station : Station δ ρ) (now : Nat) (stamp : Recording.Stamp)
    (number : SeatNumber) (text : String) (refused : Option OsError := none) :
    List Reply × Station δ ρ :=
  match station.floor.seat? number with
  | none => ([], station)
  | some seat =>
    let (replies, station) := match Message.parse? text with
      | some message => station.dispatch now stamp number seat.session message refused
      | none => ([.unknownCommand], station)
    let floor := replies.foldl (fun floor reply ↦ floor.sendReply number reply.text) station.floor
    (replies, { station with floor })

/-- Close a session. What it had registered is undone a little later. -/
def teardown (station : Station δ ρ) (number : SeatNumber) : Station δ ρ :=
  match station.floor.seat? number with
  | none => station
  | some seat =>
    -- the release goes by the phase that the session had
    { station with
      floor := station.floor.modifySession number (·.close)
      departures := station.departures ++ [(seat.session.id, seat.session.phase)] }

/-! ## What happens by itself -/

/-- Release one of the sessions that have left. -/
def releaseAt (station : Station δ ρ) (now position : Nat) : Station δ ρ :=
  match station.departures[position]? with
  | none => station
  | some (id, phase) =>
    { station with
      hub := station.hub.releaseSession station.floor now id phase
      departures := station.departures.eraseIdx position }

/-- Release every session that has left, in the order in which they did. -/
def releaseAll (station : Station δ ρ) (now : Nat) : Station δ ρ :=
  station.departures.foldl (fun station _ ↦ station.releaseAt now 0) station

/-- Let the player deliver what is due. -/
def runPlayer (station : Station δ ρ) (now : Nat) : Station δ ρ :=
  let (hub, floor) := station.hub.runPlayer station.floor now
  { station with hub, floor }

/-- Let the capture loop read a frame if one is due. -/
def runCapture (station : Station δ ρ) (now : Nat) : Station δ ρ :=
  if station.hub.capture.loop?.any (·.nextTick ≤ now) then
    let (hub, floor) := station.hub.tick station.floor now
    { station with hub, floor }
  else station

/-- Do everything that is due. What comes of it are the texts that arrive. -/
def settle (station : Station δ ρ) (now : Nat) : List Floor.Delivery × Station δ ρ :=
  let station := ((station.releaseAll now).runPlayer now).runCapture now
  let (deliveries, floor) := station.floor.settle now
  (deliveries, { station with floor })

/-- When something is next due. -/
def nextDue? (station : Station δ ρ) : Option Nat :=
  [station.hub.player.nextDue?, station.hub.capture.loop?.map (·.nextTick),
    station.floor.nextDue?].reduceOption.min?

instance : Timed (Station δ ρ) Floor.Delivery := ⟨settle, nextDue?⟩

end Station

end Glyphcast
