import Glyphcast.Proofs.Playback.Sound

/-!
# A playback that is left alone

When no command comes, time passes from one wait to the next, and whatever is due is done. Here it
is shown that a playback comes to its end in this way: each time that the wait is over at least one
frame is delivered, there are only so many of them, and at the end the recording is unloaded. How
long that takes depends on the recording and on the speed, but no wait is without an end.
-/

namespace Glyphcast.Playback

open Recording

variable {τ : Type} {reader : Reader τ} {given : List (Timer τ)} {timer : Timer τ} {now : Nat}

namespace Timer

/-- A timer that has waited for a frame delivers it. -/
theorem texts_wake_ne_nil {frame : Pending} {due : Nat}
    (waiting : timer.waiting = some (frame, due)) (goesOn : timer.cancelled = false)
    (playing : reader.status = .playing) : (timer.wake now reader).texts ≠ [] := by
  rw [wake_of_waiting waiting goesOn playing]
  exact List.cons_ne_nil _ _

theorem isReady_of_waiting {frame : Pending} {due : Nat}
    (waiting : timer.waiting = some (frame, due)) : timer.isReady due = true := by
  rw [isReady, waiting]
  exact Bool.or_eq_true_iff.mpr (.inr (decide_eq_true (Nat.le_refl due)))

theorem waiting_of_not_isReady (goesOn : timer.cancelled = false)
    (early : timer.isReady now = false) :
    ∃ frame due, timer.waiting = some (frame, due) ∧ now < due := by
  rw [isReady, goesOn, Bool.false_or] at early
  rcases waiting : timer.waiting with _ | ⟨frame, due⟩
  · rw [waiting] at early
    cases early
  · rw [waiting] at early
    exact ⟨frame, due, rfl, Nat.lt_of_not_le (of_decide_eq_false early)⟩

end Timer

namespace Reader

/-- Only the timer that delivers is left, and its wait is not over. -/
structure Waits (reader : Reader τ) (now : Nat) (listener : τ) (due : Nat) : Prop where
  playing : reader.status = .playing
  loaded : reader.tape ≠ none
  waiting : ∃ timer frame, reader.Live [] timer ∧ timer.listener = listener ∧
    timer.waiting = some (frame, due)
  later : now < due

/-- The playback has come to its end, and no timer is left. -/
structure Over (reader : Reader τ) : Prop where
  idle : reader.status = .idle
  unloaded : reader.tape = none
  done : reader.timers = []

/-! ## One instant -/

theorem foldl_runTimer_of_cancelled (cancelled : ∀ other ∈ given, other.cancelled = true)
    (state : List (τ × String) × Reader τ) : given.foldl (runTimer now) state = state := by
  induction given with
  | nil => rfl
  | cons first rest ih =>
    have gone : runTimer now state first = state := by
      have ready : first.isReady now = true := by
        rw [Timer.isReady, cancelled first List.mem_cons_self, Bool.true_or]
      rw [runTimer]
      dsimp only
      rw [if_pos ready, Timer.wake_of_cancelled (cancelled first List.mem_cons_self)]
      simp only [List.map_nil, List.append_nil, Option.toList_none]
    rw [List.foldl_cons, gone]
    exact ih fun other mem ↦ cancelled other (List.mem_cons_of_mem first mem)

theorem Live.settle (h : reader.Live given timer) (now : Nat) :
    reader.settle now = runTimer now ([], { reader with timers := [] }) timer := by
  rw [Reader.settle, h.timers_eq, List.foldl_append, foldl_runTimer_of_cancelled h.given_up]
  rfl

/-- What one instant comes to: either there is a frame to wait for, or none is left. -/
def Goes (reader after : Reader τ) (now : Nat) (listener : τ) (heard : List String) : Prop :=
  (∃ due, after.Waits now listener due ∧ texts reader.unread = heard ++ texts after.unread) ∨
    (after.Over ∧ texts reader.unread = heard)

private theorem Live.settle_of_ready (h : reader.Live given timer)
    (playing : reader.status = .playing) (loaded : reader.tape ≠ none)
    (ready : timer.isReady now = true) :
    ∃ heard, (reader.settle now).1 = heard.map (timer.listener, ·) ∧
      (timer.waiting ≠ none → heard ≠ []) ∧
      reader.Goes (reader.settle now).2 now timer.listener heard := by
  -- the other timers are gone before it runs
  let alone : Reader τ := { reader with timers := [] }
  have delivers : timer.Delivers now alone (timer.wake now alone) :=
    Timer.delivers_wake playing (Option.isSome_iff_ne_none.2 loaded) h.goes_on h.chosen
  obtain ⟨between, advances, outcome⟩ := delivers
  refine ⟨(timer.wake now alone).texts, ?_, ?_, ?_⟩
  · rw [h.settle, runTimer]
    dsimp only
    rw [if_pos ready]
    exact List.nil_append _
  · intro waits
    obtain ⟨⟨frame, due⟩, waiting⟩ := Option.ne_none_iff_exists'.1 waits
    exact Timer.texts_wake_ne_nil waiting h.goes_on playing
  · rw [h.settle, runTimer]
    dsimp only
    rw [if_pos ready]
    dsimp only
    rcases outcome with ⟨stopped, frame, due, next, later, waits⟩ | ⟨stopped, atEnd, ends⟩
    · rw [waits, stopped, advances.timers_eq]
      refine .inl ⟨due, ⟨advances.status_eq.trans playing, ?_, ?_, later⟩, advances.texts_eq⟩
      · dsimp only
        rw [advances.tape_eq]
        exact loaded
      · refine ⟨_, frame, ⟨rfl, nofun, h.goes_on, ?_, ?_⟩, rfl, rfl⟩
        · exact advances.listener_eq.trans h.listener_eq
        · intro other otherDue waiting
          cases waiting
          exact next
    · have all := advances.texts_eq
      rw [texts_of_no_next atEnd, List.append_nil] at all
      rw [ends, stopped]
      exact .inr ⟨⟨rfl, rfl, (List.append_nil _).trans advances.timers_eq⟩, all⟩

/-- A wait that is not over goes on, and the timers that were given up are gone. -/
theorem Live.settle_of_early (h : reader.Live given timer) (early : timer.isReady now = false) :
    reader.settle now = ([], { reader with timers := [timer] }) := by
  rw [h.settle, runTimer]
  dsimp only
  rw [if_neg (by rw [early]; decide)]
  rfl

theorem Live.waits (h : reader.Live given timer) (playing : reader.status = .playing)
    (loaded : reader.tape ≠ none) {frame : Pending} {due : Nat}
    (waiting : timer.waiting = some (frame, due)) (later : now < due) :
    Waits { reader with timers := [timer] } now timer.listener due :=
  ⟨playing, loaded,
    ⟨timer, frame, ⟨rfl, nofun, h.goes_on, h.listener_eq, h.chosen⟩, rfl, waiting⟩, later⟩

private theorem Live.settle_of_not_ready (h : reader.Live given timer)
    (playing : reader.status = .playing) (loaded : reader.tape ≠ none)
    (early : timer.isReady now = false) :
    (reader.settle now).1 = [] ∧ reader.Goes (reader.settle now).2 now timer.listener [] := by
  obtain ⟨frame, due, waiting, later⟩ := Timer.waiting_of_not_isReady h.goes_on early
  rw [h.settle_of_early early]
  exact ⟨rfl, .inl ⟨due, h.waits playing loaded waiting later, rfl⟩⟩

/-! ## The rest of the time -/

/-- Settle, and then let time pass. -/
def leave (reader : Reader τ) (now target : Nat) : List (Nat × (τ × String)) × Reader τ :=
  let (first, settled) := settleAt reader now
  let (later, ended) := passTime settled now target
  (first ++ later, ended)

theorem Over.passTime (h : reader.Over) (target : Nat) :
    Glyphcast.passTime reader now target = ([], reader) := by
  have never : Timed.nextDue? reader = none := by
    change reader.nextDue? = none
    rw [nextDue?, h.done]
    rfl
  rw [Glyphcast.passTime]
  split
  · rfl
  · next due found => cases never.symm.trans found

/-- While a timer waits, time passes to the end of its wait. -/
theorem Waits.passTime {listener : τ} {due target : Nat} (h : reader.Waits now listener due)
    (inTime : due ≤ target) : Glyphcast.passTime reader now target = reader.leave due target := by
  obtain ⟨timer, frame, live, -, waiting⟩ := h.waiting
  have next : Timed.nextDue? reader = some due := by
    change reader.nextDue? = some due
    rw [nextDue?, live.timers_eq, List.nil_append, List.filterMap_cons_some (by rw [waiting]; rfl)]
    rfl
  rw [Glyphcast.passTime]
  split
  · next never => cases next.symm.trans never
  · next found =>
    cases next.symm.trans found
    rw [if_pos ⟨h.later, inTime⟩]
    rfl

/-- Left alone from some time on, a playback comes to its end, and all that there is to play is
delivered to one listener. -/
def RunsOut (reader : Reader τ) (now : Nat) (listener : τ) : Prop :=
  ∃ events ended horizon, ended.Over ∧
    events.map (·.2) = (texts reader.unread).map (listener, ·) ∧
    ∀ target, horizon ≤ target → reader.leave now target = (events, ended)

/-- What one instant comes to, and what comes after it. -/
theorem Goes.runsOut {listener : τ} {heard : List String}
    (goes : reader.Goes (reader.settle now).2 now listener heard)
    (delivered : (reader.settle now).1 = heard.map (listener, ·))
    (rest : ∀ due, (reader.settle now).2.Waits now listener due →
      (reader.settle now).2.RunsOut due listener) : reader.RunsOut now listener := by
  let first := ((reader.settle now).1.map (now, ·) : List (Nat × (τ × String)))
  have heardFirst : first.map (·.2) = heard.map (listener, ·) := by
    rw [List.map_map, delivered]
    exact List.map_id' _
  rcases goes with ⟨due, waits, split⟩ | ⟨gone, all⟩
  · obtain ⟨events, ended, horizon, gone, heardLater, later⟩ := rest due waits
    refine ⟨first ++ events, ended, max due horizon, gone, ?_, fun target inTime ↦ ?_⟩
    · rw [List.map_append, heardFirst, heardLater, split, List.map_append]
    · have passed := waits.passTime (Nat.le_trans (Nat.le_max_left _ _) inTime)
      rw [later target (Nat.le_trans (Nat.le_max_right _ _) inTime)] at passed
      change (first ++ (passTime (reader.settle now).2 now target).1,
        (passTime (reader.settle now).2 now target).2) = _
      rw [passed]
  · refine ⟨first, (reader.settle now).2, 0, gone, ?_, fun target _ ↦ ?_⟩
    · rw [heardFirst, all]
    · change (first ++ (passTime (reader.settle now).2 now target).1,
        (passTime (reader.settle now).2 now target).2) = _
      rw [gone.passTime, List.append_nil]

/-- By induction on how much there is to play: when the wait is over a frame is delivered. -/
theorem Waits.runsOut {listener : τ} {due : Nat} (h : reader.Waits now listener due) :
    reader.RunsOut due listener := by
  induction left : (texts reader.unread).length using Nat.strongRecOn generalizing reader now due
    with
  | ind count ih =>
    obtain ⟨timer, frame, live, rfl, waiting⟩ := h.waiting
    have ready : timer.isReady due = true := Timer.isReady_of_waiting waiting
    obtain ⟨heard, delivered, some, goes⟩ := live.settle_of_ready h.playing h.loaded ready
    refine goes.runsOut delivered fun later waits ↦ ?_
    refine ih _ ?_ waits rfl
    rcases goes with ⟨_, -, split⟩ | ⟨gone, -⟩
    · have atLeastOne := List.length_pos_iff.2 (some (by rw [waiting]; exact nofun))
      rw [← left, split, List.length_append]
      omega
    · exact absurd waits.playing (by rw [gone.idle]; decide)

/-- A playback that is left alone comes to its end. -/
theorem Sound.runsOut (h : reader.Sound) (playing : reader.status = .playing) (now : Nat) :
    ∃ listener, reader.listener = some listener ∧ reader.RunsOut now listener := by
  have loaded := h.tape_ne_none (by rw [playing]; decide)
  obtain ⟨given, timer, live⟩ := h.live playing
  refine ⟨timer.listener, live.listener_eq, ?_⟩
  cases ready : timer.isReady now with
  | true =>
    obtain ⟨heard, delivered, -, goes⟩ := live.settle_of_ready playing loaded ready
    exact goes.runsOut delivered fun _ waits ↦ waits.runsOut
  | false =>
    obtain ⟨delivered, goes⟩ := live.settle_of_not_ready playing loaded ready
    exact goes.runsOut delivered fun _ waits ↦ waits.runsOut

end Reader

end Glyphcast.Playback
