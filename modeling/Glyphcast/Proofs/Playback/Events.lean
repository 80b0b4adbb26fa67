import Glyphcast.Playback.Timer

/-!
# What happens to a player, watched

Commands come to a player at any time, and between two of them its timers run, each in stretches of
its own and in any order. `Event` is everything that can happen, and a run is a list of events in
whatever order. That a timer runs only when its wait is over is not asked: a timer may run whenever
it likes, and is only more of a danger then.

A player counts the frames it has delivered, but does not remember them, nor which of its timers
delivered what. `Ledger` is the memory of someone who listens. It gives every timer a number when
it is started, so that a timer can be spoken of after the command that gave it up.
-/

namespace Glyphcast.Playback

open Recording

variable {τ : Type}

/-! ## Everything that can happen to a player -/

/-- Something that happens to a player. -/
inductive Event (τ : Type) where
  /-- A recording is loaded, or what is none. -/
  | load (path : String) (data : Bytes)
  /-- The recording is started for a listener. -/
  | start (listener : τ)
  /-- The playback is suspended. -/
  | pause
  /-- The playback goes on. -/
  | resume
  /-- The playback is ended. -/
  | stop
  /-- Another speed is asked for. -/
  | setSpeed (asked : Float)
  /-- The timer at a position among the timers runs. -/
  | wake (position now : Nat)

namespace Reader

/-- Let the timer at a position run, and forget it if it ends. -/
def wakeAt (reader : Reader τ) (position now : Nat) : Reader τ :=
  match reader.timers[position]? with
  | none => reader
  | some timer =>
    let stretch := timer.wake now reader
    match stretch.timer with
    | some later => { stretch.reader with timers := reader.timers.set position later }
    | none => { stretch.reader with timers := reader.timers.eraseIdx position }

/-- The player after an event. -/
def apply (reader : Reader τ) : Event τ → Reader τ
  | .load path data => (reader.load path data).2
  | .start listener => (reader.start listener).2
  | .pause => reader.pause.2
  | .resume => reader.resume.2
  | .stop => reader.stop.2
  | .setSpeed asked => (reader.setSpeed asked).2
  | .wake position now => reader.wakeAt position now

end Reader

/-- The events that give up every timer there is: the recording is replaced, started, suspended,
taken up again or ended. -/
def Event.CutsOff (reader : Reader τ) : Event τ → Prop
  | .load _ data => ∃ found, Header.read data = .ok found
  | .start _ => reader.status = .loaded
  | .pause => reader.status = .playing
  | .resume => reader.status = .paused
  | .stop => True
  | .setSpeed _ => False
  | .wake _ _ => False

/-! ## The ledger -/

/-- A text that was delivered. -/
structure Delivery (τ : Type) where
  /-- The number of the timer that delivered it. -/
  number : Nat
  /-- Who heard it. -/
  listener : τ
  /-- The text. -/
  text : String

/-- What a player's listener remembers. -/
structure Ledger (τ : Type) where
  /-- What follows the head of the recording that was loaded last. -/
  body : Bytes := []
  /-- Who it was started for, if it was. -/
  listener : Option τ := none
  /-- What was delivered since then. -/
  heard : List (Delivery τ) := []
  /-- The numbers of the timers. -/
  numbers : List Nat := []
  /-- How many timers there have been. -/
  made : Nat := 0

namespace Ledger

/-- The texts that were delivered. -/
def texts (ledger : Ledger τ) : List String := ledger.heard.map (·.text)

/-- The texts that were delivered, each with its listener. -/
def history (ledger : Ledger τ) : List (τ × String) :=
  ledger.heard.map fun delivery ↦ (delivery.listener, delivery.text)

/-- Give the next number to a new timer. -/
def enroll (ledger : Ledger τ) : Ledger τ :=
  { ledger with numbers := ledger.numbers ++ [ledger.made], made := ledger.made + 1 }

/-- What an event delivers. -/
def deliveries (ledger : Ledger τ) (reader : Reader τ) : Event τ → List (Delivery τ)
  | .wake position now =>
    match reader.timers[position]?, ledger.numbers[position]? with
    | some timer, some number =>
      (timer.wake now reader).texts.map fun text ↦ ⟨number, timer.listener, text⟩
    | _, _ => []
  | _ => []

/-- Note what an event does to a player. -/
def note (ledger : Ledger τ) (reader : Reader τ) : Event τ → Ledger τ
  | .load _ data =>
    match Header.read data with
    | .ok (_, body) => { ledger with body, listener := none, heard := [] }
    | .error _ => ledger
  | .start listener =>
    if reader.status = .loaded then { ledger.enroll with listener := some listener, heard := [] }
    else ledger
  | .resume => if reader.status = .paused then ledger.enroll else ledger
  | .wake position now =>
    match reader.timers[position]? with
    | none => ledger
    | some timer =>
      let heard := ledger.heard ++ ledger.deliveries reader (.wake position now)
      match (timer.wake now reader).timer with
      | some _ => { ledger with heard }
      | none => { ledger with heard, numbers := ledger.numbers.eraseIdx position }
  | .pause | .stop | .setSpeed _ => ledger

end Ledger

namespace Reader

/-- One event, watched. -/
def watch (state : Reader τ × Ledger τ) (event : Event τ) : Reader τ × Ledger τ :=
  (state.1.apply event, state.2.note state.1 event)

/-- A run of events, watched. -/
def watchAll (state : Reader τ × Ledger τ) (events : List (Event τ)) : Reader τ × Ledger τ :=
  events.foldl watch state

/-- A run of events, watched from the start. -/
def run (events : List (Event τ)) : Reader τ × Ledger τ := watchAll ({}, {}) events

/-! ## What the commands do -/

variable {reader : Reader τ}

theorem load_of_read {header : Header} {body data : Bytes}
    (h : Header.read data = .ok (header, body)) (path : String) :
    (reader.load path data).2 =
      { tape := some ⟨path, header, body⟩, status := .loaded, unread := body, delivered := 0,
        lastElapsed := none, speed := reader.speed, listener := none,
        timers := reader.cancelTimers.timers } := by
  unfold load stop
  rw [h]
  dsimp only
  split <;> rfl

theorem load_of_fault {fault : FormatError} {data : Bytes} (h : Header.read data = .error fault)
    (path : String) : (reader.load path data).2 = reader := by
  unfold load
  rw [h]

theorem start_of_loaded (h : reader.status = .loaded) (listener : τ) :
    (reader.start listener).2 =
      { reader with
        status := .playing, unread := (reader.tape.map (·.body)).getD [], delivered := 0,
        lastElapsed := none, listener := some listener,
        timers := reader.cancelTimers.timers ++ [{ listener }] } := by
  unfold start
  rw [h]
  rfl

theorem start_of_not_loaded (h : reader.status ≠ .loaded) (listener : τ) :
    (reader.start listener).2 = reader := by
  unfold start
  split
  · rfl
  · rfl
  · rfl
  · next loaded => exact absurd loaded h

theorem pause_of_playing (h : reader.status = .playing) :
    reader.pause.2 = { reader with status := .paused, timers := reader.cancelTimers.timers } := by
  rw [pause, if_pos h]
  rfl

theorem pause_of_not_playing (h : reader.status ≠ .playing) : reader.pause.2 = reader := by
  rw [pause, if_neg h]

theorem resume_of_paused (h : reader.status = .paused) {listener : τ}
    (hears : reader.listener = some listener) :
    reader.resume.2 =
      { reader with
        status := .playing, timers := reader.cancelTimers.timers ++ [{ listener }] } := by
  rw [resume, if_pos h]
  unfold startTimer
  dsimp only
  rw [hears]
  rfl

theorem resume_of_not_paused (h : reader.status ≠ .paused) : reader.resume.2 = reader := by
  rw [resume, if_neg h]

theorem stop_of_idle (h : reader.status = .idle) :
    reader.stop.2 = { reader with listener := none, timers := reader.cancelTimers.timers } := by
  unfold stop
  dsimp only
  split
  · rfl
  · next other => exact absurd h other

theorem stop_of_not_idle (h : reader.status ≠ .idle) :
    reader.stop.2 =
      { reader with
        tape := none, status := .idle, unread := [], lastElapsed := none, listener := none,
        timers := reader.cancelTimers.timers } := by
  unfold stop
  dsimp only
  split
  · next idle => exact absurd idle h
  · rfl

end Reader

end Glyphcast.Playback
