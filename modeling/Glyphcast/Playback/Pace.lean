/-!
# Pace

How long playback waits between two frames. Recorded times are milliseconds, and waits are computed
in microseconds and divided by the speed.
-/

namespace Glyphcast.Playback

/-- The slowest speed. -/
def minSpeed : Float := 0.1

/-- The fastest speed. -/
def maxSpeed : Float := 10.0

/-- The speed in effect after another one is asked for. What is no number is ignored. -/
def clampSpeed (current asked : Float) : Float :=
  if asked.isNaN then current
  else if asked < minSpeed then minSpeed
  else if maxSpeed < asked then maxSpeed
  else asked

/-- The microseconds between two recorded times, at a speed, rounded to the nearest. Times that go
backwards have no distance, and a distance beyond 64 bits is the largest of 64 bits. -/
def scheduledDelay (previous next : Nat) (speed : Float) : Nat :=
  let distance := (UInt64.ofNat (next - previous)).toFloat
  (distance * 1000.0 / speed).round.toUInt64.toNat

end Glyphcast.Playback
