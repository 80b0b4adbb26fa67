/-!
# Time

Nothing here looks at a clock. Whatever acts by itself tells when it next will, and does what is
due when it is told the time, in milliseconds; time then passes from one such instant to the next.
Between two of them nothing happens, so only their order can matter, never how fast they are
reached.

A wait is asked for in microseconds. It ends at a whole millisecond, never early, and every wait
ends: one that is asked to be longer than thirty years lasts thirty years. That is not a rule of the
program, which asks for waits of any length. It is the far future of the timers that the program
waits by, the time at which they end a wait that is too long to be told; no run can tell it from a
wait without an end.
-/

namespace Glyphcast

/-- The microseconds of the longest wait, the thirty years of the timers' far future. -/
def longestWait : Nat := 30 * 365 * 86400 * 1000000

/-- When a wait of some microseconds ends that begins now. -/
def waitEnd (now micros : Nat) : Nat := now + (min micros longestWait + 999) / 1000

/-- States that act by themselves, with what comes of their acting. -/
class Timed (σ : Type) (ε : outParam Type) where
  /-- Do everything that is due at this time. -/
  settle : σ → Nat → List ε × σ
  /-- When something is next due. -/
  nextDue? : σ → Option Nat

variable {σ ε : Type} [Timed σ ε]

/-- Do all that is due at one time, and note the time of what comes of it. -/
def settleAt (state : σ) (now : Nat) : List (Nat × ε) × σ :=
  let (events, state) := Timed.settle state now
  (events.map (now, ·), state)

/-- Let time pass, with everything that is due on the way. -/
def passTime (state : σ) (now target : Nat) : List (Nat × ε) × σ :=
  match Timed.nextDue? state with
  | none => ([], state)
  | some due =>
    if now < due ∧ due ≤ target then
      let (events, state) := settleAt state due
      let (later, state) := passTime state due target
      (events ++ later, state)
    else ([], state)
termination_by target - now

end Glyphcast
