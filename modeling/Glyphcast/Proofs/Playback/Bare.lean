import Glyphcast.Proofs.Playback.Audience
import Mathlib.Tactic.SplitIfs

/-!
# Timers that were given up do not count

A timer that was given up stays with its player until it next runs, and then it only ends. So two
players that differ in such timers are as good as the same: whatever is done to both, they differ in
such timers again at most, and they deliver the same. `Reader.bare` is the player without them, and
each lemma here says that an operation may be done to the bare player just as well.
-/

namespace Glyphcast.Playback.Reader

variable {τ : Type} {reader : Reader τ}

/-- The player without the timers that were given up. -/
def bare (reader : Reader τ) : Reader τ :=
  { reader with timers := reader.timers.filter (!·.cancelled) }

private theorem filter_of_cancelled {timers : List (Timer τ)}
    (h : ∀ timer ∈ timers, timer.cancelled = true) : timers.filter (!·.cancelled) = [] :=
  List.filter_eq_nil_iff.mpr fun timer mem ↦ by
    rw [h timer mem]
    decide

@[simp] theorem filter_cancelTimers (reader : Reader τ) :
    reader.cancelTimers.timers.filter (!·.cancelled) = [] :=
  filter_of_cancelled fun _ ↦ cancelled_of_mem_cancelTimers

@[simp] theorem bare_bare (reader : Reader τ) : reader.bare.bare = reader.bare := by
  rw [bare, bare, List.filter_filter]
  simp only [Bool.and_self]

/-! ## Commands -/

theorem bare_pause (reader : Reader τ) : reader.pause.2.bare = reader.bare.pause.2.bare := by
  by_cases playing : reader.status = .playing
  · have playing' : reader.bare.status = .playing := playing
    rw [pause_of_playing playing, pause_of_playing playing']
    simp only [bare, filter_cancelTimers]
  · have playing' : reader.bare.status ≠ .playing := playing
    rw [pause_of_not_playing playing, pause_of_not_playing playing', bare_bare]

theorem bare_resume (reader : Reader τ) : reader.resume.2.bare = reader.bare.resume.2.bare := by
  by_cases paused : reader.status = .paused
  · have paused' : reader.bare.status = .paused := paused
    cases hears : reader.listener with
    | some listener =>
      have hears' : reader.bare.listener = some listener := hears
      rw [resume_of_paused paused hears, resume_of_paused paused' hears']
      simp only [bare, List.filter_append, filter_cancelTimers]
    | none =>
      -- without a listener there is nothing to start a timer for
      have same (other : Reader τ) (paused : other.status = .paused)
          (hears : other.listener = none) : other.resume.2 = { other with status := .playing } := by
        rw [resume, if_pos paused, startTimer]
        dsimp only
        rw [hears]
      rw [same reader paused hears, same reader.bare paused' hears]
      simp only [bare, List.filter_filter, Bool.and_self]
  · have paused' : reader.bare.status ≠ .paused := paused
    rw [resume_of_not_paused paused, resume_of_not_paused paused', bare_bare]

theorem bare_setSpeed (reader : Reader τ) (asked : Float) :
    (reader.setSpeed asked).2.bare = (reader.bare.setSpeed asked).2.bare := by
  simp only [setSpeed, bare, List.filter_filter, Bool.and_self]

@[simp] theorem speed_stop (reader : Reader τ) : reader.stop.2.speed = reader.speed := by
  by_cases idle : reader.status = .idle
  · rw [stop_of_idle idle]
  · rw [stop_of_not_idle idle]

@[simp] theorem speed_pause (reader : Reader τ) : reader.pause.2.speed = reader.speed := by
  by_cases playing : reader.status = .playing
  · rw [pause_of_playing playing]
  · rw [pause_of_not_playing playing]

@[simp] theorem speed_resume (reader : Reader τ) : reader.resume.2.speed = reader.speed := by
  unfold resume startTimer
  split_ifs
  · dsimp only
    split <;> rfl
  · rfl

/-! ## A recording is loaded and started -/

/-- Of a player that is started on a new recording nothing is left but the speed. -/
theorem bare_start_load {header : Recording.Header} {body data : Bytes}
    (head : Recording.Header.read data = .ok (header, body)) (path : String) (listener : τ)
    (reader : Reader τ) :
    ((reader.load path data).2.start listener).2.bare =
      { tape := some ⟨path, header, body⟩, status := .playing, unread := body, delivered := 0,
        lastElapsed := none, speed := reader.speed, listener := some listener,
        timers := [{ listener }] } := by
  have ready : (reader.load path data).2.status = .loaded := by rw [load_of_read head]
  rw [start_of_loaded ready, load_of_read head]
  simp only [bare, List.filter_append, filter_cancelTimers]
  rfl

/-! ## The timers run -/

/-- Settling does not look at timers that were given up. -/
theorem Sound.settle_bare (h : reader.Sound) (now : Nat) :
    reader.settle now = reader.bare.settle now := by
  by_cases playing : reader.status = .playing
  · obtain ⟨given, timer, live⟩ := h.live playing
    have alone : reader.bare = { reader with timers := [timer] } := by
      rw [bare, live.timers_eq, List.filter_append, filter_of_cancelled live.given_up,
        List.nil_append, List.filter_cons_of_pos (by rw [live.goes_on]; rfl), List.filter_nil]
    rw [live.settle, alone, live.alone.settle]
  · have none : reader.bare.timers = [] := filter_of_cancelled (h.quiet playing)
    rw [settle, settle, foldl_runTimer_of_cancelled (h.quiet playing), none]
    rfl

@[simp] theorem speed_run (timer : Timer τ) (now : Nat) (immediate : Bool) (reader : Reader τ) :
    (timer.run now immediate reader).reader.speed = reader.speed := by
  fun_induction Timer.run timer now immediate reader with
  | case1 immediate reader plan => rfl
  | case2 immediate reader plan => dsimp only; split <;> rfl
  | case3 immediate reader frame delay plan wait => rfl
  | case4 immediate reader frame delay plan noWait cancelled => rfl
  | case5 immediate reader frame delay plan noWait goesOn stretch ih => exact ih

@[simp] theorem speed_wake (timer : Timer τ) (now : Nat) (reader : Reader τ) :
    (timer.wake now reader).reader.speed = reader.speed := by
  unfold Timer.wake
  split
  · exact speed_run timer now true reader
  · split_ifs
    · rfl
    · exact speed_run timer now false _

@[simp] theorem speed_settle (reader : Reader τ) (now : Nat) :
    (reader.settle now).2.speed = reader.speed := by
  have kept (timers : List (Timer τ)) (state : List (τ × String) × Reader τ) :
      (timers.foldl (runTimer now) state).2.speed = state.2.speed := by
    induction timers generalizing state with
    | nil => rfl
    | cons timer timers ih =>
      rw [List.foldl_cons, ih, runTimer]
      dsimp only
      split_ifs
      · exact speed_wake timer now state.2
      · rfl
  exact kept reader.timers _

end Glyphcast.Playback.Reader
