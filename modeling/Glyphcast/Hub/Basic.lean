import Glyphcast.Hub.Counters
import Glyphcast.Hub.Pipeline
import Glyphcast.Playback.Timer
import Glyphcast.Recording.Recorder
import Glyphcast.Roster

/-!
# The hub

The hub owns the one pipeline, the roster, the recorder and the player. Its commands change one
thing after another and are never interleaved; what runs beside them is the capture loop and the
player's timer.

## Where the pipeline is

The pipeline is with the hub while nothing is streamed, and with the capture loop while something
is. A loop that gave up by itself still has it: nobody has fetched it yet. `Capture` is these three
cases, so a pipeline is never in two places. The third case differs from the first in one respect:
`stop` after it still ends a stream, and so clears the viewers.

Nor is it ever in no place. A device that fails or crashes while it is opened or read is handed back
all the same, for the crash is caught where it happens. The pipeline is lost only with the thread
that has it, when the host breaks off a step that it was to carry out, and that is at the host's own
end. What comes after that is not described here, so no command of the hub is refused as
`deviceUnavailable`, which is how a start would be refused then.

Whether a stream is running is told by a flag beside all this. It is raised by `startStreaming` and
lowered by the loop, as the last thing that the loop does; nothing else looks at the loop itself.

## A reading is not one moment

The loop reads a frame and renders it, offers the text to the recorder, and only then counts and
sends it. Commands may come in between, and one that ends the stream is obeyed before the next of
these: what was read is dropped. So the three are functions of their own, and `Reading` is what
stands between them. `tick` is all of them, one after the other.
-/

namespace Glyphcast

/-- A reading that is under way. -/
structure Reading where
  /-- What the pipeline gave. -/
  result : Except DeviceError (Option String)
  /-- Whether the recorder has been offered it. -/
  kept : Bool := false
  deriving Repr

/-- A running capture loop. -/
structure CaptureLoop where
  /-- What the stream was started with. -/
  settings : StreamSettings
  /-- How many failures in a row end it. -/
  maxFailures : UInt32
  /-- When it reads the next frame. -/
  nextTick : Nat
  /-- How many failures there have been since the last frame. -/
  failures : Nat := 0
  /-- The reading that is under way. -/
  reading : Option Reading := none
  deriving Repr

/-- Who has the pipeline. -/
inductive Capture (δ ρ : Type) where
  /-- The hub. -/
  | idle (pipeline : Pipeline δ ρ)
  /-- A capture loop that is running. -/
  | running (pipeline : Pipeline δ ρ) (loop : CaptureLoop)
  /-- A capture loop that gave up. -/
  | finished (pipeline : Pipeline δ ρ)

namespace Capture

variable {δ ρ : Type}

/-- The pipeline, whoever has it. -/
def pipeline : Capture δ ρ → Pipeline δ ρ
  | idle pipeline => pipeline
  | running pipeline _ => pipeline
  | finished pipeline => pipeline

/-- The loop that is running. -/
def loop? : Capture δ ρ → Option CaptureLoop
  | running _ loop => some loop
  | idle _ | finished _ => none

/-- Whether there has been a loop since the hub last had the pipeline. -/
def hasLoop : Capture δ ρ → Bool
  | idle _ => false
  | running .. | finished _ => true

end Capture

/-- Everything about one live stream. -/
structure Hub (δ ρ : Type) where
  /-- The settings. -/
  config : HubConfig
  /-- The devices that there were when the hub was made. -/
  devices : List DeviceInfo
  /-- The pipeline and the capture loop. -/
  capture : Capture δ ρ
  /-- Whether a stream is running. -/
  streaming : Bool := false
  /-- What the present or the last stream was started with. -/
  settings : Option StreamSettings := none
  /-- The account of the present or the last stream. -/
  counters : Counters := {}
  /-- Who receives the stream. -/
  roster : Roster := {}
  /-- What records the stream. -/
  recorder : Recording.Recorder
  /-- What plays recordings back. -/
  player : Playback.Reader SeatNumber := {}
  /-- The id of the session that the playback was started for. -/
  playbackOwner : Option Nat := none

namespace Hub

variable {δ ρ : Type} [CaptureDevice δ] [FrameRenderer ρ]

/-- A hub for a pipeline, that records into the folder that its settings name. -/
def new (device : δ) (renderer : ρ) (config : HubConfig) (disk : Recording.Disk) : Hub δ ρ where
  config := config
  devices := CaptureDevice.infos device
  capture := .idle ⟨device, renderer⟩
  recorder := { folder := { path := config.recordingsDir, disk } }

/-- Whether a stream is running. -/
def isStreaming (hub : Hub δ ρ) : Bool := hub.streaming

/-- The word for whether a stream is running. -/
def status (hub : Hub δ ρ) : String := if hub.isStreaming then "active" else "inactive"

/-! ## Starting and stopping the stream -/

/-- The capture loop comes to its end: it closes the device and lowers the flag. -/
def endLoop (hub : Hub δ ρ) (now : Nat) (pipeline : Pipeline δ ρ) : Hub δ ρ :=
  { hub with
    capture := .finished pipeline.close
    counters := hub.counters.finish now
    streaming := false }

/-- Take the pipeline back from a loop that has ended. -/
def fetch (hub : Hub δ ρ) : Hub δ ρ := { hub with capture := .idle hub.capture.pipeline }

/-- End the capture loop, if there is one, and fetch the pipeline. -/
def join (hub : Hub δ ρ) (now : Nat) : Hub δ ρ :=
  match hub.capture with
  | .idle _ => hub
  | .running pipeline _ => (hub.endLoop now pipeline).fetch
  | .finished _ => hub.fetch

/-- What a stream that is asked for is to be started with. -/
def accept (config : HubConfig) (cameraIndex : UInt32) (resolution : String) (fps : UInt32) :
    Except HubError StreamSettings := do
  let grid ← Resolution.parse resolution
  if !grid.fitsWithin config.maxResolution then throw (.invalidResolution resolution)
  if fps = 0 then throw .invalidFps
  return ⟨cameraIndex, grid, fps⟩

/-- Start the stream. While one is running nothing is asked and nothing happens. A request that
cannot be met is refused before the device is touched. -/
def startStreaming (hub : Hub δ ρ) (now : Nat) (cameraIndex : UInt32) (resolution : String)
    (fps : UInt32) : Except HubError Unit × Hub δ ρ :=
  if hub.isStreaming then (.ok (), hub)
  else
    match accept hub.config cameraIndex resolution fps with
    | .error refusal => (.error refusal, hub)
    | .ok settings =>
      -- a loop that gave up by itself still has the pipeline
      let hub := hub.join now
      let (result, pipeline) :=
        hub.capture.pipeline.start settings hub.config.oversample hub.config.ramp
      match result with
      | .error error => (.error (.device error), { hub with capture := .idle pipeline })
      | .ok () =>
        let loop := {
          settings
          maxFailures := hub.config.maxConsecutiveFailures
          nextTick := now + settings.frameInterval }
        (.ok (), { hub with
          capture := .running pipeline loop
          streaming := true
          settings := some settings
          counters := .begin now })

/-- Stop the stream. The viewers are those of the stream, and go with it. -/
def stopStreaming (hub : Hub δ ρ) (now : Nat) : Hub δ ρ :=
  if hub.capture.hasLoop then
    let hub := hub.join now
    { hub with roster := hub.roster.clear }
  else hub

/-! ## The capture loop -/

/-- Read a frame and render it, if a stream is running and nothing is being read. -/
def read (hub : Hub δ ρ) : Hub δ ρ :=
  match hub.capture with
  | .idle _ | .finished _ => hub
  | .running pipeline loop =>
    if loop.reading.isSome then hub
    else
      let (result, pipeline) := pipeline.capture loop.settings.resolution
      { hub with capture := .running pipeline { loop with reading := some { result } } }

/-- Offer what was read to the recorder. Only a text is recorded, if a recording is open. -/
def keep (hub : Hub δ ρ) (now : Nat) : Hub δ ρ :=
  match hub.capture with
  | .idle _ | .finished _ => hub
  | .running pipeline loop =>
    match loop.reading with
    | some ⟨result, false⟩ =>
      let hub := { hub with
        capture := .running pipeline { loop with reading := some ⟨result, true⟩ } }
      match result with
      | .ok (some text) => { hub with recorder := hub.recorder.write now text }
      | .ok none | .error _ => hub
    | some ⟨_, true⟩ | none => hub

/-- Send a rendered frame to the viewers. -/
def publish (hub : Hub δ ρ) (floor : Floor) (text : String) : Hub δ ρ × Floor :=
  let (_, roster, floor) := hub.roster.broadcast floor text
  ({ hub with
      counters := { hub.counters with captured := hub.counters.captured + 1 }
      roster }, floor)

/-- A reading failed. The loop goes on, or gives up. -/
def failCapture (hub : Hub δ ρ) (now : Nat) (pipeline : Pipeline δ ρ) (loop : CaptureLoop) :
    Hub δ ρ :=
  let hub := { hub with counters := { hub.counters with errors := hub.counters.errors + 1 } }
  let failures := loop.failures + 1
  if loop.maxFailures.toNat ≤ failures then hub.endLoop now pipeline
  else { hub with capture := .running pipeline { loop with failures } }

/-- Draw the consequences of what was read, once the recorder has had it. -/
def conclude (hub : Hub δ ρ) (floor : Floor) (now : Nat) : Hub δ ρ × Floor :=
  match hub.capture with
  | .idle _ | .finished _ => (hub, floor)
  | .running pipeline loop =>
    match loop.reading with
    | some ⟨result, true⟩ =>
      -- the next wait begins here, however long the reading took
      let loop := { loop with reading := none, nextTick := now + loop.settings.frameInterval }
      match result with
      | .ok (some text) =>
        let loop := { loop with failures := 0 }
        { hub with capture := .running pipeline loop }.publish floor text
      | .ok none =>
        let counters := { hub.counters with skipped := hub.counters.skipped + 1 }
        ({ hub with capture := .running pipeline loop, counters }, floor)
      | .error _ => (hub.failCapture now pipeline loop, floor)
    | some ⟨_, false⟩ | none => (hub, floor)

/-- Read a frame and deal with it, if a stream is running. -/
def tick (hub : Hub δ ρ) (floor : Floor) (now : Nat) : Hub δ ρ × Floor :=
  (hub.read.keep now).conclude floor now

end Hub

end Glyphcast
