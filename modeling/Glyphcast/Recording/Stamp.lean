import Glyphcast.Text.Decimal

/-!
# The clock on the wall

A recording carries the date and time of its start twice: in the name of its file and in its head.
Everything else about time is counted in milliseconds from some start, and no change of the wall
clock can touch it.
-/

namespace Glyphcast.Recording

/-- A date and a time of day. -/
structure Stamp where
  /-- The year. -/
  year : Nat
  /-- The month, from 1. -/
  month : Nat
  /-- The day of the month, from 1. -/
  day : Nat
  /-- The hour. -/
  hour : Nat
  /-- The minute. -/
  minute : Nat
  /-- The second. -/
  second : Nat
  deriving DecidableEq, Repr

namespace Stamp

open Decimal (padded)

/-- The form that stands in the head of a recording. -/
def text (s : Stamp) : String :=
  padded 4 s.year ++ "-" ++ padded 2 s.month ++ "-" ++ padded 2 s.day ++ " " ++
    padded 2 s.hour ++ ":" ++ padded 2 s.minute ++ ":" ++ padded 2 s.second

/-- What the name of a recording starts with. -/
def stem (s : Stamp) : String :=
  "ascii_stream_" ++ padded 4 s.year ++ padded 2 s.month ++ padded 2 s.day ++ "_" ++
    padded 2 s.hour ++ padded 2 s.minute ++ padded 2 s.second

end Stamp

end Glyphcast.Recording
