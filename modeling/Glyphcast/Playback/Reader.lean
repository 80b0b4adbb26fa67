import Glyphcast.Playback.Pace
import Glyphcast.Recording.Frame

/-!
# The playback reader

A reader holds one recording and delivers its frames to a listener at their recorded distances.

```text
  load          start           pause
idle ──► loaded ──────► playing ◄──────► paused
  ▲                        │     resume     │
  └──── stop, or the end ──┴────────────────┘
```

The frames are delivered by a timer. A timer is started by `start` and `resume`, and given up by
`pause`, `stop` and a new recording; giving it up is a mark on it, which it sees when it next
runs. So there may be more timers than one, but only one that is not given up. What has been
delivered is known from what is unread: a timer that waits has chosen the next frame but not taken
it, and one that is given up leaves it where it was.
-/

namespace Glyphcast.Playback

open Recording

/-- Where a reader stands. -/
inductive Status where
  /-- Nothing is loaded. -/
  | idle
  /-- A recording is loaded and has not been started. -/
  | loaded
  /-- Frames are being delivered. -/
  | playing
  /-- Delivery is suspended. -/
  | paused
  deriving DecidableEq, Repr

/-- The name of a status. -/
def Status.name : Status → String
  | idle => "idle"
  | loaded => "loaded"
  | playing => "playing"
  | paused => "paused"

/-- A recording in memory. -/
structure Tape where
  /-- The path it was read from. -/
  path : String
  /-- What its head says. -/
  header : Header
  /-- The bytes after its head. -/
  body : Bytes
  deriving DecidableEq, Repr

/-- A frame that is chosen but not taken. -/
structure Pending where
  /-- Its recorded time. -/
  elapsed : Nat
  /-- Its text. -/
  text : String
  /-- What follows it. -/
  rest : Bytes
  deriving DecidableEq, Repr

/-- Something that delivers frames to a listener. -/
structure Timer (τ : Type) where
  /-- Where the frames go. -/
  listener : τ
  /-- Whether it was given up. -/
  cancelled : Bool := false
  /-- The frame it waits to deliver and when the wait ends. A timer that has not run yet waits for
  nothing. -/
  waiting : Option (Pending × Nat) := none

/-- A player of recordings. -/
structure Reader (τ : Type) where
  /-- What is loaded. -/
  tape : Option Tape := none
  /-- Where the reader stands. -/
  status : Status := .idle
  /-- The bytes of the recording from the next frame on. -/
  unread : Bytes := []
  /-- How many frames were delivered since the last start. -/
  delivered : Nat := 0
  /-- The recorded time of the frame delivered last. -/
  lastElapsed : Option Nat := none
  /-- The speed. -/
  speed : Float := 1.0
  /-- Where the frames go. -/
  listener : Option τ := none
  /-- The timers that have not ended. -/
  timers : List (Timer τ) := []

namespace Reader

variable {τ : Type}

/-! ## Operations -/

/-- Go back to the first frame. -/
def rewind (reader : Reader τ) : Reader τ :=
  { reader with
    unread := (reader.tape.map (·.body)).getD []
    delivered := 0
    lastElapsed := none }

/-- Unload the recording. The number of frames delivered can still be asked for. -/
def close (reader : Reader τ) : Reader τ :=
  { reader with tape := none, status := .idle, unread := [], lastElapsed := none }

/-- Give up every timer. -/
def cancelTimers (reader : Reader τ) : Reader τ :=
  { reader with timers := reader.timers.map ({ · with cancelled := true }) }

/-- Start a timer for the present listener in place of the others. -/
def startTimer (reader : Reader τ) : Reader τ :=
  match reader.listener with
  | none => reader
  | some listener =>
    let reader := reader.cancelTimers
    { reader with timers := reader.timers ++ [{ listener }] }

/-- End playback and unload. Tells whether something was loaded. -/
def stop (reader : Reader τ) : Bool × Reader τ :=
  let reader := { reader.cancelTimers with listener := none }
  if reader.status = .idle then (false, reader) else (true, reader.close)

/-- Load a recording in place of the present one. A malformed one is refused, and then nothing
changes. -/
def load (reader : Reader τ) (path : String) (data : Bytes) :
    Except FormatError Header × Reader τ :=
  match Header.read data with
  | .error fault => (.error fault, reader)
  | .ok (header, body) =>
    -- only now is it certain that the present recording has to go
    let reader := { reader.stop.2 with tape := some ⟨path, header, body⟩, status := .loaded }
    (.ok header, reader.rewind)

/-- Deliver the loaded recording to a listener, from its first frame. -/
def start (reader : Reader τ) (listener : τ) : Except Error Unit × Reader τ :=
  match reader.status with
  | .idle => (.error .nothingLoaded, reader)
  | .playing | .paused => (.error .playbackInProgress, reader)
  | .loaded =>
    let reader := { reader.rewind with status := .playing, listener := some listener }
    (.ok (), reader.startTimer)

/-- Suspend delivery. Tells whether the reader was playing. -/
def pause (reader : Reader τ) : Bool × Reader τ :=
  if reader.status = .playing then (true, { reader.cancelTimers with status := .paused })
  else (false, reader)

/-- Go on where delivery was suspended. Tells whether the reader was paused. -/
def resume (reader : Reader τ) : Bool × Reader τ :=
  if reader.status = .paused then (true, { reader with status := .playing }.startTimer)
  else (false, reader)

/-- Ask for a speed. Gives the speed in effect. -/
def setSpeed (reader : Reader τ) (asked : Float) : Float × Reader τ :=
  let speed := clampSpeed reader.speed asked
  (speed, { reader with speed })

/-- The reader given up altogether. -/
def drop (reader : Reader τ) : Reader τ := reader.cancelTimers

end Reader

end Glyphcast.Playback
