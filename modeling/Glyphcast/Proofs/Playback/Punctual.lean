import Glyphcast.Proofs.Playback.Ending

/-!
# At its time

What a player does first when it is left alone. The timer that delivers has a frame to deliver or
finds that there is none; it delivers the frame when its wait is over, neither sooner nor later, and
a timer that has not run yet delivers it at once.
-/

namespace Glyphcast.Playback

variable {τ : Type} {reader : Reader τ} {timer : Timer τ} {frame : Pending} {now : Nat}

namespace Timer

theorem wake_of_next (playing : reader.status = .playing) (loaded : reader.tape.isSome)
    (live : timer.cancelled = false)
    (chosen : ∀ frame due, timer.waiting = some (frame, due) → reader.next? = some frame)
    (next : reader.next? = some frame) :
    timer.wake now reader =
      let later := timer.run now false (reader.take frame)
      { later with texts := frame.text :: later.texts } := by
  cases waiting : timer.waiting with
  | some wait =>
    obtain ⟨same, due⟩ := wait
    obtain rfl : same = frame := Option.some.inj ((chosen same due waiting).symm.trans next)
    exact wake_of_waiting waiting live playing
  | none =>
    have plan : reader.plan true = .deliver frame (reader.delayBefore true frame) := by
      rw [plan_of_playing playing loaded, next]
    rw [wake, waiting]
    dsimp only
    rw [run_of_deliver plan, if_neg (not_not_intro (delay_eq_zero_of_plan plan)),
      if_neg (by rw [live]; decide)]

theorem wake_of_no_next (playing : reader.status = .playing) (loaded : reader.tape.isSome)
    (live : timer.cancelled = false)
    (chosen : ∀ frame due, timer.waiting = some (frame, due) → reader.next? = some frame)
    (atEnd : reader.next? = none) : timer.wake now reader = ⟨reader.close, [], none⟩ := by
  have waiting : timer.waiting = none := by
    cases waiting : timer.waiting with
    | none => rfl
    | some wait => nomatch atEnd.symm.trans (chosen wait.1 wait.2 waiting)
  have plan : reader.plan true = .finish := by
    rw [plan_of_playing playing loaded, atEnd]
  rw [wake, waiting]
  dsimp only
  rw [run_of_finish plan, live]
  rfl

end Timer

/-! ## When a wait is over -/

/-- When a timer delivers that is left alone from now on: at once if it has not run yet, and
otherwise when its wait is over. -/
def Timer.dueFrom (timer : Timer τ) (now : Nat) : Nat :=
  match timer.waiting with
  | none => now
  | some (_, due) => max now due

namespace Timer

private theorem dueFrom_of_isReady (goes_on : timer.cancelled = false)
    (ready : timer.isReady now = true) : timer.dueFrom now = now := by
  rw [isReady, goes_on, Bool.false_or] at ready
  rw [dueFrom]
  rcases waiting : timer.waiting with _ | ⟨other, due⟩
  · rfl
  · rw [waiting] at ready
    exact Nat.max_eq_left (of_decide_eq_true ready)

private theorem dueFrom_of_waiting {other : Pending} {due : Nat}
    (waiting : timer.waiting = some (other, due)) (later : now < due) :
    timer.dueFrom now = due := by
  rw [dueFrom, waiting]
  exact Nat.max_eq_right (Nat.le_of_lt later)

end Timer

namespace Reader

variable {given : List (Timer τ)} {target : Nat}

/-- At the latest when its wait is over, the timer delivers its frame first of all. -/
theorem Live.head?_leave (h : reader.Live given timer) (playing : reader.status = .playing)
    (loaded : reader.tape ≠ none) (next : reader.next? = some frame)
    (ready : timer.isReady now = true) (target : Nat) :
    (reader.leave now target).1.head? = some (now, timer.listener, frame.text) := by
  let alone : Reader τ := { reader with timers := [] }
  have woken : timer.wake now alone =
      let later := timer.run now false (alone.take frame)
      { later with texts := frame.text :: later.texts } :=
    Timer.wake_of_next playing (Option.isSome_iff_ne_none.mpr loaded) h.goes_on h.chosen next
  have first : (reader.settle now).1.head? = some (timer.listener, frame.text) := by
    rw [h.settle, runTimer]
    dsimp only
    rw [if_pos ready, woken]
    rfl
  change ((reader.settle now).1.map (now, ·) ++ _).head? = _
  rw [List.head?_append, List.head?_map, first]
  rfl

private theorem Waits.nextDue?_eq {listener : τ} {due : Nat} (h : reader.Waits now listener due) :
    Timed.nextDue? reader = some due := by
  obtain ⟨timer, frame, live, -, waiting⟩ := h.waiting
  change reader.nextDue? = some due
  rw [nextDue?, live.timers_eq, List.nil_append, List.filterMap_cons_some (by rw [waiting]; rfl)]
  rfl

private theorem Waits.passTime_of_early {listener : τ} {due target : Nat}
    (h : reader.Waits now listener due) (early : target < due) :
    Glyphcast.passTime reader now target = ([], reader) := by
  rw [Glyphcast.passTime]
  split
  · rfl
  · next found =>
    cases h.nextDue?_eq.symm.trans found
    exact if_neg fun inTime ↦ Nat.not_le_of_lt early inTime.2

/-- A timer that is left alone delivers its frame when it is due, and nothing before. -/
theorem Live.leave (h : reader.Live given timer) (playing : reader.status = .playing)
    (loaded : reader.tape ≠ none) (next : reader.next? = some frame) (le : now ≤ target) :
    (target < timer.dueFrom now → (reader.leave now target).1 = []) ∧
      (timer.dueFrom now ≤ target →
        (reader.leave now target).1.head? =
          some (timer.dueFrom now, timer.listener, frame.text)) := by
  cases ready : timer.isReady now with
  | true =>
    rw [Timer.dueFrom_of_isReady h.goes_on ready]
    exact ⟨fun early ↦ absurd le (Nat.not_le_of_lt early),
      fun _ ↦ h.head?_leave playing loaded next ready target⟩
  | false =>
    obtain ⟨other, due, waiting, later⟩ := Timer.waiting_of_not_isReady h.goes_on ready
    let alone : Reader τ := { reader with timers := [timer] }
    have live : alone.Live [] timer := ⟨rfl, nofun, h.goes_on, h.listener_eq, h.chosen⟩
    have waits : alone.Waits now timer.listener due := h.waits playing loaded waiting later
    have passes : (reader.leave now target).1 = (passTime alone now target).1 := by
      change (reader.settle now).1.map (now, ·) ++ (passTime (reader.settle now).2 now target).1 = _
      rw [h.settle_of_early ready]
      rfl
    rw [Timer.dueFrom_of_waiting waiting later, passes]
    constructor
    · intro early
      rw [waits.passTime_of_early early]
    · intro inTime
      rw [waits.passTime inTime]
      exact live.head?_leave playing loaded next (Timer.isReady_of_waiting waiting) target

/-- Only the timer that delivers was not given up, and it delivers only for a reader that plays. -/
theorem Sound.live_of_mem (h : reader.Sound) (mem : timer ∈ reader.timers)
    (goesOn : timer.cancelled = false) :
    reader.status = .playing ∧ ∃ given, reader.Live given timer := by
  have playing : reader.status = .playing := Decidable.byContradiction fun other ↦ by
    rw [h.quiet other timer mem] at goesOn
    nomatch goesOn
  obtain ⟨given, last, live⟩ := h.live playing
  rw [live.timers_eq] at mem
  rcases List.mem_append.mp mem with old | new
  · rw [live.given_up timer old] at goesOn
    nomatch goesOn
  · rw [List.mem_singleton.mp new]
    exact ⟨playing, given, live⟩

end Reader

end Glyphcast.Playback
