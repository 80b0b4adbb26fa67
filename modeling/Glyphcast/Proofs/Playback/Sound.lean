import Glyphcast.Proofs.Playback.Events
import Glyphcast.Proofs.Playback.Stretch

/-!
# One timer at a time

A timer that was given up may still be about when another has been started in its place, and both
may run at any moment. What keeps a frame from being delivered twice is that only one timer at a
time is not given up, and that the reader moves on only when a frame is delivered: whoever delivers
next begins where the last one stopped.

`Sound` is what holds of the reader by itself. The timer that delivers, if there is one, is the last
that was started; the frame it waits to deliver is the one the reader has next; and there is such a
timer as long as the reader is playing.
-/

namespace Glyphcast.Playback

open Recording

namespace Reader

variable {τ : Type} {reader : Reader τ}

/-- The last timer is the one that delivers, and the others were given up. -/
structure Live (reader : Reader τ) (given : List (Timer τ)) (timer : Timer τ) : Prop where
  timers_eq : reader.timers = given ++ [timer]
  given_up : ∀ other ∈ given, other.cancelled = true
  goes_on : timer.cancelled = false
  listener_eq : reader.listener = some timer.listener
  /-- The frame it waits to deliver is the next one. -/
  chosen : ∀ frame due, timer.waiting = some (frame, due) → reader.next? = some frame

/-- The reader's own order. -/
structure Sound (reader : Reader τ) : Prop where
  /-- Something is loaded unless the reader is idle. -/
  tape_eq_none_iff : reader.tape = none ↔ reader.status = .idle
  /-- A paused reader remembers who listens. -/
  hears : reader.status = .paused → ∃ listener, reader.listener = some listener
  /-- Unless the reader is playing every timer was given up. -/
  quiet : reader.status ≠ .playing → ∀ timer ∈ reader.timers, timer.cancelled = true
  /-- While it is playing there is one that was not. -/
  live : reader.status = .playing → ∃ given timer, reader.Live given timer

theorem Sound.tape_ne_none (h : reader.Sound) (loaded : reader.status ≠ .idle) :
    reader.tape ≠ none :=
  fun unloaded ↦ loaded (h.tape_eq_none_iff.1 unloaded)

/-! ## A timer runs -/

variable {given : List (Timer τ)} {timer : Timer τ} {position now : Nat}

theorem Live.getElem? (h : reader.Live given timer) :
    reader.timers[given.length]? = some timer := by
  rw [h.timers_eq, List.getElem?_append_right (Nat.le_refl _), Nat.sub_self]
  rfl

/-- The timer that delivers, when it runs: the reader moves on by the frames that are delivered, and
then the timer waits for the next one, or there is none and the recording is unloaded. -/
theorem Live.wakeAt (h : reader.Live given timer) (playing : reader.status = .playing)
    (loaded : reader.tape ≠ none) (now : Nat) :
    ∃ between, reader.Advances between (timer.wake now reader).texts ∧
      ((∃ frame due, between.next? = some frame ∧
          (timer.wake now reader).timer = some { timer with waiting := some (frame, due) } ∧
          reader.wakeAt given.length now =
            { between with timers := given ++ [{ timer with waiting := some (frame, due) }] }) ∨
        (between.next? = none ∧ (timer.wake now reader).timer = none ∧
          reader.wakeAt given.length now = { between.close with timers := given })) := by
  have delivers : timer.Delivers now reader (timer.wake now reader) :=
    Timer.delivers_wake playing (Option.isSome_iff_ne_none.2 loaded) h.goes_on h.chosen
  obtain ⟨between, advances, outcome⟩ := delivers
  have found := h.getElem?
  refine ⟨between, advances, ?_⟩
  rcases outcome with ⟨stopped, frame, due, next, -, waits⟩ | ⟨stopped, atEnd, ends⟩
  · refine .inl ⟨frame, due, next, waits, ?_⟩
    have put : reader.timers.set given.length { timer with waiting := some (frame, due) } =
        given ++ [{ timer with waiting := some (frame, due) }] := by
      rw [h.timers_eq, List.set_append_right _ _ (Nat.le_refl _), Nat.sub_self]
      rfl
    unfold Reader.wakeAt
    rw [found]
    dsimp only
    rw [waits, stopped]
    dsimp only
    rw [put]
  · refine .inr ⟨atEnd, ends, ?_⟩
    have left : reader.timers.eraseIdx given.length = given := by
      rw [h.timers_eq, List.eraseIdx_append_of_length_le (Nat.le_refl _), Nat.sub_self]
      exact List.append_nil given
    unfold Reader.wakeAt
    rw [found]
    dsimp only
    rw [ends, stopped]
    dsimp only
    rw [left]

/-- What becomes of the reader when the timer at a position runs. There may be no such timer; it
may have been given up, and then it only ends; or it is the one that delivers. -/
theorem Sound.wakeAt_cases (h : reader.Sound) (position now : Nat) :
    (reader.timers[position]? = none ∧ reader.wakeAt position now = reader) ∨
    (∃ timer, reader.timers[position]? = some timer ∧ timer.cancelled = true ∧
      timer.wake now reader = ⟨reader, [], none⟩ ∧
      reader.wakeAt position now = { reader with timers := reader.timers.eraseIdx position }) ∨
    (reader.status = .playing ∧ ∃ given timer, reader.Live given timer ∧
      position = given.length) := by
  cases found : reader.timers[position]? with
  | none =>
    refine .inl ⟨rfl, ?_⟩
    rw [wakeAt, found]
  | some timer =>
    refine .inr ?_
    by_cases cancelled : timer.cancelled = true
    · have ends : timer.wake now reader = ⟨reader, [], none⟩ := Timer.wake_of_cancelled cancelled
      refine .inl ⟨timer, rfl, cancelled, ends, ?_⟩
      unfold wakeAt
      rw [found]
      dsimp only
      rw [ends]
    · have playing : reader.status = .playing := Decidable.byContradiction fun other ↦
        cancelled (h.quiet other timer (List.mem_of_getElem? found))
      obtain ⟨given, last, live⟩ := h.live playing
      refine .inr ⟨playing, given, last, live, ?_⟩
      -- before the last position there are only timers that were given up
      rw [live.timers_eq] at found
      have inside := (List.getElem?_eq_some_iff.1 found).1
      rw [List.length_append, List.length_singleton] at inside
      refine Nat.le_antisymm (Nat.le_of_lt_succ inside) (Nat.le_of_not_lt fun early ↦ cancelled ?_)
      rw [List.getElem?_append_left early] at found
      exact live.given_up timer (List.mem_of_getElem? found)

theorem Live.eraseIdx (h : reader.Live given timer) {other : Timer τ}
    (found : reader.timers[position]? = some other) (cancelled : other.cancelled = true) :
    Live { reader with timers := reader.timers.eraseIdx position } (given.eraseIdx position)
      timer := by
  have early : position < given.length := by
    rw [h.timers_eq] at found
    refine Nat.lt_of_not_le fun late ↦ ?_
    rw [List.getElem?_append_right late] at found
    have last := List.mem_of_getElem? found
    rw [List.mem_singleton.1 last, h.goes_on] at cancelled
    cases cancelled
  refine ⟨?_, ?_, h.goes_on, h.listener_eq, h.chosen⟩
  · dsimp only
    rw [h.timers_eq, List.eraseIdx_append_of_lt_length early]
  · intro other mem
    exact h.given_up other (List.mem_of_mem_eraseIdx mem)

theorem Sound.wakeAt (h : reader.Sound) (position now : Nat) :
    (reader.wakeAt position now).Sound := by
  rcases h.wakeAt_cases position now with ⟨-, same⟩ | ⟨timer, found, cancelled, -, ended⟩ |
      ⟨playing, given, timer, live, rfl⟩
  · rw [same]
    exact h
  · rw [ended]
    refine ⟨h.tape_eq_none_iff, h.hears, ?_, ?_⟩
    · intro idle other mem
      exact h.quiet idle other (List.mem_of_mem_eraseIdx mem)
    · intro playing
      obtain ⟨given, last, live⟩ := h.live playing
      exact ⟨_, _, live.eraseIdx found cancelled⟩
  · have loaded : reader.tape ≠ none := h.tape_ne_none (by rw [playing]; decide)
    obtain ⟨between, advances, outcome⟩ := live.wakeAt playing loaded now
    have still : between.status = .playing := advances.status_eq.trans playing
    rcases outcome with ⟨frame, due, next, -, waits⟩ | ⟨-, -, ends⟩
    · rw [waits]
      have goesOn : Live
          { between with timers := given ++ [{ timer with waiting := some (frame, due) }] } given
          { timer with waiting := some (frame, due) } := by
        refine ⟨rfl, live.given_up, live.goes_on, advances.listener_eq.trans live.listener_eq, ?_⟩
        intro other otherDue waiting
        cases waiting
        exact next
      refine ⟨?_, ?_, ?_, fun _ ↦ ⟨_, _, goesOn⟩⟩
      · rw [advances.tape_eq, advances.status_eq]
        exact h.tape_eq_none_iff
      · intro paused
        exact nomatch still.symm.trans paused
      · intro idle
        exact absurd still idle
    · rw [ends]
      exact ⟨⟨fun _ ↦ rfl, fun _ ↦ rfl⟩, nofun, fun _ ↦ live.given_up, nofun⟩

/-! ## A command comes -/

theorem cancelled_of_mem_cancelTimers {timer : Timer τ} (mem : timer ∈ reader.cancelTimers.timers) :
    timer.cancelled = true := by
  obtain ⟨_, -, rfl⟩ := List.mem_map.1 mem
  rfl

/-- A reader that was stopped plays nothing, to nobody, and never will by itself. -/
theorem idle_stop (reader : Reader τ) :
    reader.stop.2.status = .idle ∧ reader.stop.2.listener = none ∧
      ∀ timer ∈ reader.stop.2.timers, timer.cancelled = true := by
  by_cases idle : reader.status = .idle
  · rw [stop_of_idle idle]
    exact ⟨idle, rfl, fun _ mem ↦ cancelled_of_mem_cancelTimers mem⟩
  · rw [stop_of_not_idle idle]
    exact ⟨rfl, rfl, fun _ mem ↦ cancelled_of_mem_cancelTimers mem⟩

/-- A new timer takes the place of all others. -/
theorem live_of_new {listener : τ} (hears : reader.listener = some listener)
    (timers : reader.timers = given ++ [⟨listener, false, none⟩])
    (given_up : ∀ other ∈ given, other.cancelled = true) :
    reader.Live given ⟨listener, false, none⟩ :=
  ⟨timers, given_up, rfl, hears, nofun⟩

theorem Sound.apply (h : reader.Sound) (event : Event τ) : (reader.apply event).Sound := by
  have cancelled : ∀ timer ∈ reader.cancelTimers.timers, timer.cancelled = true :=
    fun _ mem ↦ cancelled_of_mem_cancelTimers mem
  cases event with
  | load path data =>
    cases read : Header.read data with
    | error fault =>
      rw [Reader.apply, load_of_fault read]
      exact h
    | ok found =>
      obtain ⟨header, body⟩ := found
      rw [Reader.apply, load_of_read read]
      exact ⟨⟨nofun, nofun⟩, nofun, fun _ ↦ cancelled, nofun⟩
  | start listener =>
    by_cases loaded : reader.status = .loaded
    · have tape := h.tape_ne_none (by rw [loaded]; decide)
      rw [Reader.apply, start_of_loaded loaded]
      exact ⟨⟨fun unloaded ↦ absurd unloaded tape, nofun⟩, nofun, fun other ↦ absurd rfl other,
        fun _ ↦ ⟨_, _, live_of_new rfl rfl cancelled⟩⟩
    · rw [Reader.apply, start_of_not_loaded loaded]
      exact h
  | pause =>
    by_cases playing : reader.status = .playing
    · have tape := h.tape_ne_none (by rw [playing]; decide)
      obtain ⟨given, timer, live⟩ := h.live playing
      rw [Reader.apply, pause_of_playing playing]
      exact ⟨⟨fun unloaded ↦ absurd unloaded tape, nofun⟩, fun _ ↦ ⟨_, live.listener_eq⟩,
        fun _ ↦ cancelled, nofun⟩
    · rw [Reader.apply, pause_of_not_playing playing]
      exact h
  | resume =>
    by_cases paused : reader.status = .paused
    · have tape := h.tape_ne_none (by rw [paused]; decide)
      obtain ⟨listener, hears⟩ := h.hears paused
      rw [Reader.apply, resume_of_paused paused hears]
      exact ⟨⟨fun unloaded ↦ absurd unloaded tape, nofun⟩, nofun, fun other ↦ absurd rfl other,
        fun _ ↦ ⟨_, _, live_of_new hears rfl cancelled⟩⟩
    · rw [Reader.apply, resume_of_not_paused paused]
      exact h
  | stop =>
    by_cases idle : reader.status = .idle
    · rw [Reader.apply, stop_of_idle idle]
      exact ⟨h.tape_eq_none_iff, fun paused ↦ (nomatch idle.symm.trans paused), fun _ ↦ cancelled,
        fun playing ↦ (nomatch idle.symm.trans playing)⟩
    · rw [Reader.apply, stop_of_not_idle idle]
      exact ⟨⟨fun _ ↦ rfl, fun _ ↦ rfl⟩, nofun, fun _ ↦ cancelled, nofun⟩
  | setSpeed asked =>
    refine ⟨h.tape_eq_none_iff, h.hears, h.quiet, fun playing ↦ ?_⟩
    obtain ⟨given, timer, live⟩ := h.live playing
    exact ⟨given, timer, live.timers_eq, live.given_up, live.goes_on, live.listener_eq, live.chosen⟩
  | wake position now => exact h.wakeAt position now

end Reader

end Glyphcast.Playback
