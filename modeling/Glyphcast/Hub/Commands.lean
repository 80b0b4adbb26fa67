import Glyphcast.Hub.Basic

/-!
# The hub's other commands

Viewers and the controller, recording, and playback; and what is undone when a session leaves, and
when the hub is shut down.

A playback is started for one session and its frames go to that session alone. The one it was
started for is its owner. A playback that comes to its end by itself keeps its owner in the book,
which does no harm: another playback has another owner.
-/

namespace Glyphcast.Hub

variable {δ ρ : Type} [CaptureDevice δ] [FrameRenderer ρ]

/-! ## Viewers and the controller -/

/-- Register a session for the stream. -/
def addViewer (hub : Hub δ ρ) (id : Nat) (number : SeatNumber) : Hub δ ρ :=
  { hub with roster := (hub.roster.insert id number).2 }

/-- Strike a session off. -/
def removeViewer (hub : Hub δ ρ) (floor : Floor) (id : Nat) : Hub δ ρ :=
  { hub with roster := (hub.roster.remove floor id).2 }

/-- Send a frame to all viewers. Tells how many there are. -/
def broadcast (hub : Hub δ ρ) (floor : Floor) (text : String) : Nat × Hub δ ρ × Floor :=
  let (count, roster, floor) := hub.roster.broadcast floor text
  (count, { hub with roster }, floor)

/-- Make a session the controller, and a viewer. -/
def claimController (hub : Hub δ ρ) (floor : Floor) (id : Nat) (number : SeatNumber) :
    Except HubError Unit × Hub δ ρ :=
  match hub.roster.claim floor id number with
  | .error refusal => (.error refusal, hub)
  | .ok roster => (.ok (), { hub with roster := (roster.insert id number).2 })

/-- Undo what a session that has left had registered. A controller that still holds the slot takes
the stream with it; one whose slot has been taken over leaves its successor alone. -/
def releaseSession (hub : Hub δ ρ) (floor : Floor) (now id : Nat) (phase : Phase) : Hub δ ρ :=
  let hub := match phase with
    | .controller =>
      -- the slot may be a successor's by now, and then the stream is, too
      let (held, roster) := (hub.roster.remove floor id).2.release id
      let hub := { hub with roster }
      if held then hub.stopStreaming now else hub
    | .viewer => hub.removeViewer floor id
    | .unauthenticated | .closed => hub
  if hub.playbackOwner = some id then
    { hub with player := hub.player.stop.2, playbackOwner := none }
  else hub

/-! ## Recording -/

/-- Start recording the stream. Where a recording is open already, its path is the answer. -/
def startRecording (hub : Hub δ ρ) (now : Nat) (stamp : Recording.Stamp) :
    Except HubError String × Hub δ ρ :=
  match hub.recorder.currentPath? with
  | some path => (.ok path, hub)
  | none =>
    let (result, recorder) := hub.recorder.start now stamp
    (result.mapError (.recording ·.message), { hub with recorder })

/-- Finish the recording that is open. The system may refuse to write its foot. -/
def stopRecording (hub : Hub δ ρ) (now : Nat) (refused : Option OsError := none) :
    Except HubError (Option Recording.Summary) × Hub δ ρ :=
  let (result, recorder) := hub.recorder.finish now refused
  (result.mapError (.recording ·.message), { hub with recorder })

omit [CaptureDevice δ] [FrameRenderer ρ] in
theorem stopRecording_eq (hub : Hub δ ρ) (now : Nat) :
    hub.stopRecording now =
      (.ok (hub.recorder.stop now).1, { hub with recorder := (hub.recorder.stop now).2 }) := rfl

/-- The recordings that can be played. -/
def recordings (hub : Hub δ ρ) : Except Error (List Recording.Info) :=
  hub.recorder.folder.recordings.mapError .io

/-! ## Playback -/

/-- Load a recording into the player, by the name that a client gave. -/
def loadRecording (hub : Hub δ ρ) (filename : String) :
    Except HubError (Playback.Reader SeatNumber) := do
  match Recording.resolve? hub.config.recordingsDir filename with
  | none => throw (.playback ("invalid recording name " ++ Text.quote filename))
  | some path =>
    let data ← (hub.recorder.folder.disk.read path).mapError fun cause ↦
      .playback (Error.io cause).message
    match hub.player.load path data with
    | (.ok _, player) => return player
    | (.error fault, _) => throw (.playback (Error.format fault).message)

/-- Play a recording to a session, in place of what is being played. A request that fails leaves
the present playback as it is. -/
def startPlayback (hub : Hub δ ρ) (filename : String) (id : Nat) (number : SeatNumber) :
    Except HubError Unit × Hub δ ρ :=
  match hub.loadRecording filename with
  | .error refusal => (.error refusal, hub)
  | .ok player =>
    match player.start number with
    | (.error error, player) => (.error (.playback error.message), { hub with player })
    | (.ok (), player) => (.ok (), { hub with player, playbackOwner := some id })

/-- Suspend the playback. -/
def pausePlayback (hub : Hub δ ρ) : Bool × Hub δ ρ :=
  let (paused, player) := hub.player.pause
  (paused, { hub with player })

/-- Go on with the playback. -/
def resumePlayback (hub : Hub δ ρ) : Bool × Hub δ ρ :=
  let (resumed, player) := hub.player.resume
  (resumed, { hub with player })

/-- End the playback. -/
def stopPlayback (hub : Hub δ ρ) : Bool × Hub δ ρ :=
  let (stopped, player) := hub.player.stop
  (stopped, { hub with player, playbackOwner := none })

/-- Ask for a speed. -/
def setPlaybackSpeed (hub : Hub δ ρ) (speed : Float) : Float × Hub δ ρ :=
  let (speed, player) := hub.player.setSpeed speed
  (speed, { hub with player })

/-- Let the player deliver what is due. -/
def runPlayer (hub : Hub δ ρ) (floor : Floor) (now : Nat) : Hub δ ρ × Floor :=
  let (texts, player) := hub.player.settle now
  ({ hub with player }, texts.foldl (fun floor (number, text) ↦ floor.sendFrame number text) floor)

/-! ## Shutting down -/

/-- End the playback and the recording, and forget the viewers. -/
def windUp (hub : Hub δ ρ) (now : Nat) : Hub δ ρ :=
  let hub := hub.stopPlayback.2
  let hub := (hub.stopRecording now).2
  { hub with roster := hub.roster.clear }

/-- Stop everything: the stream first and then, as a command of its own, the rest. -/
def shutdown (hub : Hub δ ρ) (now : Nat) : Hub δ ρ := (hub.stopStreaming now).windUp now

end Glyphcast.Hub
