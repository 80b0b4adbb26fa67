import Glyphcast.Playback.Timer

/-!
# What a timer does at a stretch

A timer that runs takes one frame after the other until there is one to wait for, or none. Here its
stretch is compared with the recording alone: `texts` are the texts that can be played of some
bytes, found by reading frame after frame, and `skip` is where the reading stands after so many of
them. Neither knows of timers.

A timer that was given up does nothing, and no timer does anything unless the reader is playing.
-/

namespace Glyphcast.Playback

open Recording

/-! ## What there is to play -/

/-- The texts of the frames up to the first place that has no frame, or one that is no text. -/
def texts (bytes : Bytes) : List String :=
  (((scan bytes).frames.map fun frame ↦ Text.decode? frame.payload).takeWhile
    Option.isSome).filterMap id

/-- What follows the first frame. Where there is none the reading goes no further. -/
def afterFrame (bytes : Bytes) : Bytes :=
  match Frame.read? bytes with
  | .ok (some (_, rest)) => rest
  | _ => bytes

/-- What follows so many frames. -/
def skip : Nat → Bytes → Bytes
  | 0, bytes => bytes
  | count + 1, bytes => skip count (afterFrame bytes)

theorem skip_add (first second : Nat) (bytes : Bytes) :
    skip (first + second) bytes = skip second (skip first bytes) := by
  induction first generalizing bytes with
  | zero => rw [Nat.zero_add, skip]
  | succ first ih => rw [Nat.succ_add, skip, skip, ih]

variable {τ : Type} {reader : Reader τ} {frame : Pending}

theorem Reader.next?_eq_some_iff :
    reader.next? = some frame ↔ ∃ payload, Text.decode? payload = some frame.text ∧
      Frame.read? reader.unread = .ok (some (⟨frame.elapsed, payload⟩, frame.rest)) := by
  unfold next?
  constructor
  · intro h
    split at h
    · next recorded rest read =>
      obtain ⟨text, decoded, rfl⟩ := Option.map_eq_some_iff.1 h
      exact ⟨recorded.payload, decoded, read⟩
    · nomatch h
  · rintro ⟨payload, decoded, read⟩
    rw [read]
    dsimp only
    rw [decoded]
    rfl

theorem texts_of_next (h : reader.next? = some frame) :
    texts reader.unread = frame.text :: texts frame.rest := by
  obtain ⟨payload, decoded, read⟩ := Reader.next?_eq_some_iff.1 h
  rw [texts, scan_of_frame read]
  dsimp only
  rw [List.map_cons, decoded, List.takeWhile_cons_of_pos rfl]
  rfl

theorem texts_of_no_next (h : reader.next? = none) : texts reader.unread = [] := by
  unfold Reader.next? at h
  split at h
  · next recorded rest read =>
    rw [Option.map_eq_none_iff] at h
    rw [texts, scan_of_frame read]
    dsimp only
    rw [List.map_cons, h, List.takeWhile_cons_of_neg (by decide)]
    rfl
  · next noFrame =>
    have none : (scan reader.unread).frames = [] := by
      match read : Frame.read? reader.unread with
      | .ok (some (recorded, rest)) => exact absurd read (noFrame recorded rest)
      | .ok none => rw [scan_of_end read]
      | .error fault => rw [scan_of_fault read]
    rw [texts, none]
    rfl

theorem afterFrame_of_next (h : reader.next? = some frame) :
    afterFrame reader.unread = frame.rest := by
  obtain ⟨payload, -, read⟩ := Reader.next?_eq_some_iff.1 h
  rw [afterFrame, read]

/-! ## A stretch -/

/-- Frames were delivered, and nothing else has changed. -/
structure Reader.Advances (before after : Reader τ) (heard : List String) : Prop where
  /-- What was delivered is the first of what there was to play. -/
  texts_eq : texts before.unread = heard ++ texts after.unread
  /-- The reader stands after the frames that were delivered. -/
  unread_eq : after.unread = skip heard.length before.unread
  delivered_eq : after.delivered = before.delivered + heard.length
  tape_eq : after.tape = before.tape
  status_eq : after.status = before.status
  listener_eq : after.listener = before.listener
  timers_eq : after.timers = before.timers

namespace Reader.Advances

variable {before between after : Reader τ} {heard : List String}

theorem refl (reader : Reader τ) : reader.Advances reader [] :=
  ⟨rfl, rfl, rfl, rfl, rfl, rfl, rfl⟩

private theorem take_cons (next : before.next? = some frame)
    (h : (before.take frame).Advances after heard) :
    before.Advances after (frame.text :: heard) where
  texts_eq := by
    rw [texts_of_next next, List.cons_append, ← h.texts_eq]
    rfl
  unread_eq := by
    rw [h.unread_eq, List.length_cons, skip, afterFrame_of_next next]
    rfl
  delivered_eq := by
    rw [h.delivered_eq, List.length_cons]
    dsimp only [Reader.take]
    omega
  tape_eq := h.tape_eq
  status_eq := h.status_eq
  listener_eq := h.listener_eq
  timers_eq := h.timers_eq

end Reader.Advances

namespace Timer

variable {timer : Timer τ} {now : Nat}

/-- What a timer that was not given up does while the reader is playing: it delivers frames, and
then it waits for the next one or, where there is none, unloads the recording. -/
def Delivers (timer : Timer τ) (now : Nat) (reader : Reader τ) (stretch : Stretch τ) : Prop :=
  ∃ between, reader.Advances between stretch.texts ∧
    ((stretch.reader = between ∧ ∃ frame due, between.next? = some frame ∧ now < due ∧
        stretch.timer = some { timer with waiting := some (frame, due) }) ∨
      (stretch.reader = between.close ∧ between.next? = none ∧ stretch.timer = none))

/-! What a stretch begins with, for each plan. -/

theorem run_of_halt {immediate : Bool} (plan : reader.plan immediate = .halt) :
    timer.run now immediate reader = ⟨reader, [], none⟩ := by
  rw [run]
  split
  · rfl
  · next other => cases plan.symm.trans other
  · next other => cases plan.symm.trans other

theorem run_of_finish {immediate : Bool} (plan : reader.plan immediate = .finish) :
    timer.run now immediate reader =
      ⟨if timer.cancelled then reader else reader.close, [], none⟩ := by
  rw [run]
  split
  · next other => cases plan.symm.trans other
  · rfl
  · next other => cases plan.symm.trans other

theorem run_of_deliver {immediate : Bool} {delay : Nat}
    (plan : reader.plan immediate = .deliver frame delay) :
    timer.run now immediate reader =
      if delay ≠ 0 then
        ⟨reader, [], some { timer with waiting := some (frame, waitEnd now delay) }⟩
      else if timer.cancelled then ⟨reader, [], none⟩
      else
        let later := timer.run now false (reader.take frame)
        { later with texts := frame.text :: later.texts } := by
  rw [run]
  split
  · next other => cases plan.symm.trans other
  · next other => cases plan.symm.trans other
  · next other =>
    cases plan.symm.trans other
    rfl

private theorem lt_waitEnd {delay : Nat} (h : delay ≠ 0) : now < waitEnd now delay := by
  unfold waitEnd
  have : 0 < longestWait := by decide
  omega

private theorem Delivers.take_cons {stretch : Stretch τ} (next : reader.next? = some frame)
    (h : timer.Delivers now (reader.take frame) stretch) :
    timer.Delivers now reader { stretch with texts := frame.text :: stretch.texts } := by
  obtain ⟨between, advances, outcome⟩ := h
  exact ⟨between, advances.take_cons next, outcome⟩

/-- What a reader that is playing tells a timer is what it finds next. -/
theorem plan_of_playing (playing : reader.status = .playing) (loaded : reader.tape.isSome)
    (immediate : Bool) :
    reader.plan immediate =
      match reader.next? with
      | some frame => .deliver frame (reader.delayBefore immediate frame)
      | none => .finish := by
  have goesOn : ¬(reader.status ≠ .playing ∨ reader.tape.isNone = true) := by
    rintro (other | unloaded)
    · exact other playing
    · rw [Option.isNone_iff_eq_none.1 unloaded] at loaded
      cases loaded
  exact if_neg goesOn

theorem next?_of_plan {immediate : Bool} {delay : Nat} (playing : reader.status = .playing)
    (loaded : reader.tape.isSome) (plan : reader.plan immediate = .deliver frame delay) :
    reader.next? = some frame := by
  rw [plan_of_playing playing loaded] at plan
  split at plan
  · next next =>
    rw [next, (Plan.deliver.inj plan).1]
  · nomatch plan

theorem delay_eq_zero_of_plan {delay : Nat} (plan : reader.plan true = .deliver frame delay) :
    delay = 0 := by
  unfold Reader.plan at plan
  split at plan
  · nomatch plan
  split at plan
  · rw [← (Plan.deliver.inj plan).2, Reader.delayBefore]
    split <;> rfl
  · nomatch plan

theorem delivers_run (playing : reader.status = .playing) (loaded : reader.tape.isSome)
    (live : timer.cancelled = false) (immediate : Bool) :
    timer.Delivers now reader (timer.run now immediate reader) := by
  fun_induction Timer.run timer now immediate reader with
  | case1 immediate reader halt =>
    rw [plan_of_playing playing loaded] at halt
    split at halt <;> nomatch halt
  | case2 immediate reader finish =>
    rw [plan_of_playing playing loaded] at finish
    split at finish
    · nomatch finish
    next atEnd =>
    refine ⟨reader, .refl reader, .inr ⟨?_, atEnd, rfl⟩⟩
    rw [live]
    rfl
  | case3 immediate reader frame delay plan wait =>
    have next := next?_of_plan playing loaded plan
    exact ⟨reader, .refl reader, .inl ⟨rfl, frame, _, next, lt_waitEnd wait, rfl⟩⟩
  | case4 immediate reader frame delay plan now cancelled =>
    rw [live] at cancelled
    cases cancelled
  | case5 immediate reader frame delay plan noWait _ later ih =>
    exact .take_cons (next?_of_plan playing loaded plan) (ih playing loaded)

/-- A timer that has waited delivers the frame it waited for, and then what comes after it. -/
theorem wake_of_waiting {due : Nat} (waiting : timer.waiting = some (frame, due))
    (live : timer.cancelled = false) (playing : reader.status = .playing) :
    timer.wake now reader =
      let later := timer.run now false (reader.take frame)
      { later with texts := frame.text :: later.texts } := by
  have goesOn : ¬(timer.cancelled = true ∨ reader.status ≠ .playing) := by
    rintro (cancelled | other)
    · rw [live] at cancelled
      cases cancelled
    · exact other playing
  rw [wake, waiting]
  dsimp only
  rw [if_neg goesOn]

/-- A timer that was not given up goes on where the reader stands: the frame it waits to deliver is
the next one. -/
theorem delivers_wake (playing : reader.status = .playing) (loaded : reader.tape.isSome)
    (live : timer.cancelled = false)
    (chosen : ∀ frame due, timer.waiting = some (frame, due) → reader.next? = some frame) :
    timer.Delivers now reader (timer.wake now reader) := by
  cases waiting : timer.waiting with
  | none =>
    rw [wake, waiting]
    exact delivers_run playing loaded live true
  | some wait =>
    obtain ⟨frame, due⟩ := wait
    rw [wake_of_waiting waiting live playing]
    have taken : (reader.take frame).status = .playing := playing
    exact .take_cons (chosen frame due waiting) (delivers_run taken loaded live false)

theorem cancelled_run {later : Timer τ} {immediate : Bool}
    (h : (timer.run now immediate reader).timer = some later) :
    later.cancelled = timer.cancelled := by
  fun_induction Timer.run timer now immediate reader with
  | case1 => nomatch h
  | case2 => nomatch h
  | case3 =>
    cases h
    rfl
  | case4 => nomatch h
  | case5 immediate reader frame delay plan noWait goesOn stretch ih => exact ih h

theorem cancelled_wake {later : Timer τ} (h : (timer.wake now reader).timer = some later) :
    later.cancelled = timer.cancelled := by
  unfold wake at h
  split at h
  · exact cancelled_run h
  · split at h
    · nomatch h
    · exact cancelled_run h

theorem wake_of_not_playing (idle : reader.status ≠ .playing) :
    timer.wake now reader = ⟨reader, [], none⟩ := by
  have halt : reader.plan true = .halt := if_pos (.inl idle)
  unfold wake
  split
  · exact run_of_halt halt
  · rw [if_pos (.inr idle)]

theorem wake_of_cancelled (cancelled : timer.cancelled = true) :
    timer.wake now reader = ⟨reader, [], none⟩ := by
  unfold wake
  split
  · cases plan : reader.plan true with
    | halt => exact run_of_halt plan
    | finish => rw [run_of_finish plan, if_pos cancelled]
    | deliver frame delay =>
      rw [run_of_deliver plan, if_neg (not_not_intro (delay_eq_zero_of_plan plan)),
        if_pos cancelled]
  · rw [if_pos (.inl cancelled)]

private theorem run_congr (immediate : Bool) (timers : List (Timer τ)) :
    timer.run now immediate { reader with timers } =
      { timer.run now immediate reader with
        reader := { (timer.run now immediate reader).reader with timers } } := by
  -- the plan is made without a look at the timers
  have same (other : Reader τ) : Reader.plan { other with timers } = other.plan := rfl
  fun_induction Timer.run timer now immediate reader with
  | case1 immediate reader plan => exact run_of_halt ((congrFun (same reader) _).trans plan)
  | case2 immediate reader plan =>
    rw [run_of_finish ((congrFun (same reader) _).trans plan)]
    split <;> rfl
  | case3 immediate reader frame delay plan wait =>
    rw [run_of_deliver ((congrFun (same reader) _).trans plan), if_pos wait]
  | case4 immediate reader frame delay plan noWait cancelled =>
    rw [run_of_deliver ((congrFun (same reader) _).trans plan), if_neg noWait, if_pos cancelled]
  | case5 immediate reader frame delay plan noWait goesOn stretch ih =>
    have taken : Reader.take { reader with timers } frame = { reader.take frame with timers } := rfl
    rw [run_of_deliver ((congrFun (same reader) _).trans plan), if_neg noWait, if_neg goesOn, taken,
      ih]

theorem wake_congr (timers : List (Timer τ)) :
    timer.wake now { reader with timers } =
      { timer.wake now reader with
        reader := { (timer.wake now reader).reader with timers } } := by
  unfold wake
  split
  · exact run_congr true timers
  · dsimp only
    split
    · rfl
    · next frame due waiting goesOn =>
      have taken :
        Reader.take { reader with timers } frame = { reader.take frame with timers } := rfl
      rw [taken, run_congr]

end Timer

end Glyphcast.Playback
