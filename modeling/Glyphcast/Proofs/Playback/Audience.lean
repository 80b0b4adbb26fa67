import Glyphcast.Proofs.Playback.Ending
import Glyphcast.Proofs.Playback.Settle

/-!
# To whom a player plays

A timer remembers for whom it was started, and so does the player. As one timer at a time is not
given up, and that one was started for the player's listener, whatever is delivered is delivered to
the listener. Who that is changes by a start alone: any other command and any timer leaves a player
that has something loaded with the listener it had.
-/

namespace Glyphcast.Playback.Reader

variable {τ : Type} {reader : Reader τ}

/-- The player afterwards is in order, and if it has something loaded it had before, for the same
listener. -/
structure GoesOn (before after : Reader τ) : Prop where
  sound : after.Sound
  loaded : after.status ≠ .idle → before.status ≠ .idle
  listener : after.status ≠ .idle → after.listener = before.listener

theorem GoesOn.trans {first second third : Reader τ} (h : first.GoesOn second)
    (h' : second.GoesOn third) : first.GoesOn third where
  sound := h'.sound
  loaded := fun loaded ↦ h.loaded (h'.loaded loaded)
  listener := fun loaded ↦ (h'.listener loaded).trans (h.listener (h'.loaded loaded))

theorem Sound.goesOn (h : reader.Sound) : reader.GoesOn reader :=
  ⟨h, fun loaded ↦ loaded, fun _ ↦ rfl⟩

theorem Sound.goesOn_pause (h : reader.Sound) : reader.GoesOn reader.pause.2 := by
  by_cases playing : reader.status = .playing
  · refine ⟨h.apply .pause, fun _ ↦ by rw [playing]; decide, fun _ ↦ ?_⟩
    rw [pause_of_playing playing]
  · rw [pause_of_not_playing playing]
    exact h.goesOn

theorem Sound.goesOn_resume (h : reader.Sound) : reader.GoesOn reader.resume.2 := by
  by_cases paused : reader.status = .paused
  · obtain ⟨listener, hears⟩ := h.hears paused
    refine ⟨h.apply .resume, fun _ ↦ by rw [paused]; decide, fun _ ↦ ?_⟩
    rw [resume_of_paused paused hears]
  · rw [resume_of_not_paused paused]
    exact h.goesOn

theorem Sound.goesOn_stop (h : reader.Sound) : reader.GoesOn reader.stop.2 :=
  ⟨h.apply .stop, fun loaded ↦ absurd reader.idle_stop.1 loaded,
    fun loaded ↦ absurd reader.idle_stop.1 loaded⟩

theorem Sound.goesOn_setSpeed (h : reader.Sound) (asked : Float) :
    reader.GoesOn (reader.setSpeed asked).2 :=
  ⟨h.apply (.setSpeed asked), fun loaded ↦ loaded, fun _ ↦ rfl⟩

/-! ## A timer runs -/

/-- A timer delivers to the listener of a player that is playing, or nothing. -/
theorem Sound.mem_wake (h : reader.Sound) {position now : Nat} {timer : Timer τ}
    (found : reader.timers[position]? = some timer) {text : String}
    (mem : text ∈ (timer.wake now reader).texts) :
    reader.status = .playing ∧ reader.listener = some timer.listener := by
  rcases h.wakeAt_cases position now with ⟨none, -⟩ | ⟨other, found', -, ends, -⟩ |
      ⟨playing, given, last, live, rfl⟩
  · nomatch none.symm.trans found
  · cases found'.symm.trans found
    rw [ends] at mem
    nomatch mem
  · cases live.getElem?.symm.trans found
    exact ⟨playing, live.listener_eq⟩

theorem Sound.goesOn_wakeAt (h : reader.Sound) (position now : Nat) :
    reader.GoesOn (reader.wakeAt position now) := by
  have sound := h.wakeAt position now
  rcases h.wakeAt_cases position now with ⟨-, same⟩ | ⟨timer, -, -, -, ended⟩ |
      ⟨playing, given, timer, live, rfl⟩
  · rw [same]
    exact h.goesOn
  · rw [ended] at sound ⊢
    exact ⟨sound, fun loaded ↦ loaded, fun _ ↦ rfl⟩
  · have loaded : reader.status ≠ .idle := by rw [playing]; decide
    refine ⟨sound, fun _ ↦ loaded, fun later ↦ ?_⟩
    obtain ⟨between, advances, outcome⟩ := live.wakeAt playing (h.tape_ne_none loaded) now
    rcases outcome with ⟨_, _, -, -, waits⟩ | ⟨-, -, ends⟩
    · rw [waits]
      exact advances.listener_eq
    · rw [ends] at later
      exact absurd rfl later

/-! ## All timers run -/

theorem Live.alone {given : List (Timer τ)} {timer : Timer τ} (h : reader.Live given timer) :
    Live { reader with timers := [timer] } [] timer :=
  ⟨rfl, nofun, h.goes_on, h.listener_eq, h.chosen⟩

private theorem Sound.settle_cases (h : reader.Sound) (now : Nat) :
    (reader.status ≠ .playing ∧ reader.settle now = ([], { reader with timers := [] })) ∨
    (reader.status = .playing ∧ ∃ given timer, reader.Live given timer ∧
      reader.settle now = ([], { reader with timers := [timer] })) ∨
    (reader.status = .playing ∧ ∃ given timer, reader.Live given timer ∧
      reader.settle now =
        ((timer.wake now { reader with timers := [timer] }).texts.map (timer.listener, ·),
          { reader with timers := [timer] }.wakeAt 0 now)) := by
  by_cases playing : reader.status = .playing
  · obtain ⟨given, timer, live⟩ := h.live playing
    cases ready : timer.isReady now with
    | false =>
      refine .inr (.inl ⟨playing, given, timer, live, ?_⟩)
      rw [live.settle, runTimer]
      dsimp only
      rw [if_neg (by rw [ready]; decide)]
      rfl
    | true =>
      refine .inr (.inr ⟨playing, given, timer, live, ?_⟩)
      obtain ⟨later, left, ran⟩ := runTimer_eq_wakeAt live.alone.timers_eq ready
      rw [List.append_nil] at left
      rw [live.settle]
      refine (ran []).trans ?_
      rw [← left]
      rfl
  · refine .inl ⟨playing, ?_⟩
    rw [Reader.settle, foldl_runTimer_of_cancelled (h.quiet playing)]

theorem Sound.alone (h : reader.Sound) (playing : reader.status = .playing)
    {given : List (Timer τ)} {timer : Timer τ} (live : reader.Live given timer) :
    Sound { reader with timers := [timer] } :=
  ⟨h.tape_eq_none_iff, h.hears, fun other ↦ absurd playing other, fun _ ↦ ⟨[], timer, live.alone⟩⟩

theorem Sound.goesOn_settle (h : reader.Sound) (now : Nat) :
    reader.GoesOn (reader.settle now).2 := by
  rcases h.settle_cases now with
    ⟨other, settled⟩ | ⟨playing, given, timer, live, settled⟩ |
      ⟨playing, given, timer, live, settled⟩
  · rw [settled]
    exact ⟨⟨h.tape_eq_none_iff, h.hears, fun _ ↦ nofun, fun playing ↦ absurd playing other⟩,
      fun loaded ↦ loaded, fun _ ↦ rfl⟩
  · rw [settled]
    exact ⟨h.alone playing live, fun loaded ↦ loaded, fun _ ↦ rfl⟩
  · rw [settled]
    have ran := (h.alone playing live).goesOn_wakeAt 0 now
    exact ⟨ran.sound, ran.loaded, ran.listener⟩

/-- Settling delivers to the listener of a player that is playing, or nothing. -/
theorem Sound.mem_settle (h : reader.Sound) {now : Nat} {heard : τ × String}
    (mem : heard ∈ (reader.settle now).1) :
    reader.status = .playing ∧ reader.listener = some heard.1 := by
  rcases h.settle_cases now with
    ⟨-, settled⟩ | ⟨-, given, timer, -, settled⟩ | ⟨playing, given, timer, live, settled⟩
  · rw [settled] at mem
    nomatch mem
  · rw [settled] at mem
    nomatch mem
  · rw [settled] at mem
    obtain ⟨text, -, rfl⟩ := List.mem_map.mp mem
    exact ⟨playing, live.listener_eq⟩

end Glyphcast.Playback.Reader
