/-!
# Counting a stream

How many readings of a stream gave a frame, nothing, or a failure, and how long the stream ran.
The numbers of the last stream stay until the next one starts.
-/

namespace Glyphcast

/-- The account of a stream. -/
structure Counters where
  /-- Frames rendered and sent. -/
  captured : Nat := 0
  /-- Readings that gave nothing. -/
  skipped : Nat := 0
  /-- Readings that failed. -/
  errors : Nat := 0
  /-- When the stream started, if there has been one. -/
  startedAt : Option Nat := none
  /-- When it ended, if it has. -/
  endedAt : Option Nat := none
  deriving DecidableEq, Repr

namespace Counters

/-- The account of a stream that starts now. -/
def begin (now : Nat) : Counters := { startedAt := some now }

/-- The stream ends now. -/
def finish (counters : Counters) (now : Nat) : Counters := { counters with endedAt := some now }

/-- How many milliseconds the stream has run. -/
def duration (counters : Counters) (now : Nat) : Nat :=
  match counters.startedAt, counters.endedAt with
  | some start, some stop => stop - start
  | some start, none => now - start
  | none, _ => 0

end Counters

/-- The seconds in some nanoseconds: the whole seconds, and the rest as a fraction. -/
def seconds (nanos : Nat) : Float :=
  (UInt64.ofNat (nanos / 1000000000)).toFloat +
    (UInt64.ofNat (nanos % 1000000000)).toFloat / 1000000000.0

/-- Frames a second over a time in nanoseconds; none over no time at all. -/
def measuredFps (frames nanos : Nat) : Float :=
  let time := seconds nanos
  if 0.0 < time then (UInt64.ofNat frames).toFloat / time else 0.0

end Glyphcast
