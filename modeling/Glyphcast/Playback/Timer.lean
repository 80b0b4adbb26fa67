import Glyphcast.Playback.Reader
import Glyphcast.Schedule

/-!
# Delivery

What a timer does when it runs. It chooses the next frame and the wait before it, waits, takes the
frame, delivers it, and chooses again. Each stretch between two waits is one step: whether the timer
still counts is asked, the cursor is moved, and the frame is handed to its listener, and no command
comes in between. The wait is fixed when the frame is chosen, so a change of speed counts from the
next frame on.

The first frame that a timer delivers comes without a wait, whether the playback was started or
resumed. Playback ends at the first place that has no frame, and at a frame that is no text.
-/

namespace Glyphcast.Playback

open Recording

variable {τ : Type}

/-- What a timer finds to do. -/
inductive Plan where
  /-- Deliver a frame after some microseconds. -/
  | deliver (frame : Pending) (delay : Nat)
  /-- End the playback. -/
  | finish
  /-- Nothing: the reader is not playing. -/
  | halt
  deriving DecidableEq, Repr

namespace Reader

/-- The frame to deliver next. -/
def next? (reader : Reader τ) : Option Pending :=
  match Frame.read? reader.unread with
  | .ok (some (frame, rest)) =>
    (Text.decode? frame.payload).map fun text ↦ { elapsed := frame.elapsed, text, rest }
  | _ => none

private theorem length_of_next? {reader : Reader τ} {frame : Pending}
    (h : reader.next? = some frame) : frame.rest.length < reader.unread.length := by
  unfold next? at h
  split at h
  · next read =>
    obtain ⟨text, _, rfl⟩ := Option.map_eq_some_iff.1 h
    exact Frame.length_of_read? read
  · nomatch h

/-- The wait before a frame. There is none before the first frame of a timer. -/
def delayBefore (reader : Reader τ) (immediate : Bool) (frame : Pending) : Nat :=
  match reader.lastElapsed with
  | some previous =>
    if immediate then 0 else scheduledDelay previous frame.elapsed reader.speed
  | none => 0

/-- What a timer is to do now. -/
def plan (reader : Reader τ) (immediate : Bool) : Plan :=
  if reader.status ≠ .playing ∨ reader.tape.isNone then .halt
  else
    match reader.next? with
    | some frame => .deliver frame (reader.delayBefore immediate frame)
    | none => .finish

theorem length_of_plan {reader : Reader τ} {immediate : Bool} {frame : Pending} {delay : Nat}
    (h : reader.plan immediate = .deliver frame delay) :
    frame.rest.length < reader.unread.length := by
  unfold plan at h
  split at h
  · nomatch h
  · split at h
    · next next =>
      simp only [Plan.deliver.injEq] at h
      exact h.1 ▸ length_of_next? next
    · nomatch h

/-- The reader once a frame is taken. -/
def take (reader : Reader τ) (frame : Pending) : Reader τ :=
  { reader with
    unread := frame.rest
    lastElapsed := some frame.elapsed
    delivered := reader.delivered + 1 }

end Reader

/-- What a stretch of a timer comes to. -/
structure Stretch (τ : Type) where
  /-- The reader afterwards. -/
  reader : Reader τ
  /-- The texts that were delivered. -/
  texts : List String
  /-- The timer, unless it ended. -/
  timer : Option (Timer τ)

namespace Timer

/-- Choose and deliver frames until there is one to wait for. -/
def run (timer : Timer τ) (now : Nat) (immediate : Bool) (reader : Reader τ) : Stretch τ :=
  match _h : reader.plan immediate with
  | .halt => ⟨reader, [], none⟩
  -- a timer that was given up must not unload what was loaded in its place
  | .finish => ⟨if timer.cancelled then reader else reader.close, [], none⟩
  | .deliver frame delay =>
    if delay ≠ 0 then
      ⟨reader, [], some { timer with waiting := some (frame, waitEnd now delay) }⟩
    else if timer.cancelled then ⟨reader, [], none⟩
    else
      let later := timer.run now false (reader.take frame)
      { later with texts := frame.text :: later.texts }
termination_by reader.unread.length
decreasing_by exact Reader.length_of_plan ‹_›

/-- Whether the timer has something to do now. -/
def isReady (timer : Timer τ) (now : Nat) : Bool :=
  timer.cancelled ||
    match timer.waiting with
    | none => true
    | some (_, due) => due ≤ now

/-- Let the timer run. -/
def wake (timer : Timer τ) (now : Nat) (reader : Reader τ) : Stretch τ :=
  match timer.waiting with
  | none => timer.run now true reader
  | some (frame, _) =>
    if timer.cancelled ∨ reader.status ≠ .playing then ⟨reader, [], none⟩
    else
      let later := timer.run now false (reader.take frame)
      { later with texts := frame.text :: later.texts }

end Timer

namespace Reader

/-- Let a timer run if it has something to do. -/
def runTimer (now : Nat) (state : List (τ × String) × Reader τ) (timer : Timer τ) :
    List (τ × String) × Reader τ :=
  let (texts, reader) := state
  if timer.isReady now then
    let stretch := timer.wake now reader
    (texts ++ stretch.texts.map (timer.listener, ·),
      { stretch.reader with timers := stretch.reader.timers ++ stretch.timer.toList })
  else (texts, { reader with timers := reader.timers ++ [timer] })

/-- Let every timer run that has something to do: the texts delivered, each with its listener. -/
def settle (reader : Reader τ) (now : Nat) : List (τ × String) × Reader τ :=
  reader.timers.foldl (runTimer now) ([], { reader with timers := [] })

/-- When a timer next has something to do. -/
def nextDue? (reader : Reader τ) : Option Nat :=
  (reader.timers.filterMap fun timer ↦ timer.waiting.map (·.2)).min?

instance : Timed (Reader τ) (τ × String) := ⟨settle, nextDue?⟩

end Reader

end Glyphcast.Playback
