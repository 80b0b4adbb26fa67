import Glyphcast.Proofs.Playback.Ending

/-!
# Every frame once, and in order

What a listener hears of a recording is compared with the recording. `Tracks` says that what was
heard and what is still to come are, put together, all there is to play; from this it follows at
every moment that nothing was left out, repeated or taken out of order, whatever commands came and
whichever timers ran in between.

## Numbers

`Numbered` speaks of the timers that could still deliver: none of them has a number below a bound.
With no bound at all it says that the numbers are kept as they should be. With the number of timers
made so far it becomes true when a command gives up all timers there are, and stays true; so from
then on whatever is delivered comes from a timer that was started later.
-/

namespace Glyphcast.Playback

open Recording

variable {τ : Type}

/-! ## Numbers -/

/-- Every timer has a number, none has one that is still to be given, and those that were not given
up have none below the bound. -/
structure Numbered (bound : Nat) (timers : List (Timer τ)) (ledger : Ledger τ) : Prop where
  length_eq : ledger.numbers.length = timers.length
  lt_made : ∀ number ∈ ledger.numbers, number < ledger.made
  bound_le : bound ≤ ledger.made
  since : ∀ (position : Nat) (timer : Timer τ) (number : Nat), timers[position]? = some timer →
    ledger.numbers[position]? = some number → timer.cancelled = false → bound ≤ number

namespace Numbered

variable {bound : Nat} {timers later : List (Timer τ)} {ledger : Ledger τ} {reader : Reader τ}

private theorem of_cancelled (h : Numbered 0 later ledger) (length : timers.length = later.length)
    (le : bound ≤ ledger.made) (cancelled : ∀ timer ∈ timers, timer.cancelled = true) :
    Numbered bound timers ledger where
  length_eq := h.length_eq.trans length.symm
  lt_made := h.lt_made
  bound_le := le
  since := fun _ timer _ found _ goesOn ↦ by
    rw [cancelled timer (List.mem_of_getElem? found)] at goesOn
    cases goesOn

theorem cancelTimers (h : Numbered 0 reader.timers ledger) (le : bound ≤ ledger.made) :
    Numbered bound reader.cancelTimers.timers ledger :=
  h.of_cancelled (List.length_map _) le fun _ mem ↦ Reader.cancelled_of_mem_cancelTimers mem

private theorem unbounded (h : Numbered bound timers ledger) : Numbered 0 timers ledger :=
  ⟨h.length_eq, h.lt_made, Nat.zero_le _, fun _ _ _ _ _ _ ↦ Nat.zero_le _⟩

theorem enroll (h : Numbered bound timers ledger) (timer : Timer τ) :
    Numbered bound (timers ++ [timer]) ledger.enroll where
  length_eq := by
    rw [Ledger.enroll, List.length_append, List.length_append, h.length_eq]
    rfl
  lt_made := by
    intro number mem
    rw [Ledger.enroll] at mem ⊢
    rcases List.mem_append.1 mem with old | new
    · exact Nat.lt_succ_of_lt (h.lt_made number old)
    · rw [List.mem_singleton.1 new]
      exact Nat.lt_succ_self _
  bound_le := Nat.le_succ_of_le h.bound_le
  since := by
    intro position other number found numbered goesOn
    rw [Ledger.enroll] at numbered
    rcases Nat.lt_or_ge position timers.length with old | new
    · rw [List.getElem?_append_left old] at found
      rw [List.getElem?_append_left (by rw [h.length_eq]; exact old)] at numbered
      exact h.since position other number found numbered goesOn
    · rw [List.getElem?_append_right (by rw [h.length_eq]; exact new)] at numbered
      rw [List.mem_singleton.1 (List.mem_of_getElem? numbered)]
      exact h.bound_le

theorem set (h : Numbered bound timers ledger) {position : Nat} {timer other : Timer τ}
    (found : timers[position]? = some timer) (same : other.cancelled = timer.cancelled) :
    Numbered bound (timers.set position other) ledger where
  length_eq := h.length_eq.trans (List.length_set).symm
  lt_made := h.lt_made
  bound_le := h.bound_le
  since := by
    intro place third number there numbered goesOn
    by_cases here : position = place
    · subst here
      have inside := (List.getElem?_eq_some_iff.1 found).1
      rw [List.getElem?_set_self inside, Option.some.injEq] at there
      subst there
      exact h.since position timer number found numbered (same ▸ goesOn)
    · rw [List.getElem?_set_ne here] at there
      exact h.since place third number there numbered goesOn

theorem eraseIdx (h : Numbered bound timers ledger) (position : Nat) (heard : List (Delivery τ)) :
    Numbered bound (timers.eraseIdx position)
      { ledger with heard, numbers := ledger.numbers.eraseIdx position } where
  length_eq := by
    dsimp only
    rw [List.length_eraseIdx, List.length_eraseIdx, h.length_eq]
  lt_made := fun number mem ↦ h.lt_made number (List.mem_of_mem_eraseIdx mem)
  bound_le := h.bound_le
  since := by
    intro place timer number found numbered goesOn
    rw [List.getElem?_eraseIdx] at found numbered
    split at found
    · next early =>
      rw [if_pos early] at numbered
      exact h.since _ timer number found numbered goesOn
    · next late =>
      rw [if_neg late] at numbered
      exact h.since _ timer number found numbered goesOn

private theorem with_heard (h : Numbered bound timers ledger) (heard : List (Delivery τ)) :
    Numbered bound timers { ledger with heard } :=
  ⟨h.length_eq, h.lt_made, h.bound_le, h.since⟩

/-- Where all timers are given up, every bound is kept that is not beyond the next number: none of
the timers that there were is left to deliver. -/
theorem cutOff (h : Numbered 0 reader.timers ledger) (sound : reader.Sound)
    (le : bound ≤ ledger.made) {event : Event τ} (cuts : event.CutsOff reader) :
    Numbered bound (reader.apply event).timers (ledger.note reader event) := by
  have cancelled := h.cancelTimers le
  cases event with
  | load path data =>
    obtain ⟨⟨header, body⟩, read⟩ := cuts
    rw [Reader.apply, Reader.load_of_read read, Ledger.note, read]
    exact ⟨cancelled.length_eq, cancelled.lt_made, cancelled.bound_le, cancelled.since⟩
  | start listener =>
    have loaded : reader.status = .loaded := cuts
    rw [Reader.apply, Reader.start_of_loaded loaded, Ledger.note, if_pos loaded]
    have new := cancelled.enroll { listener }
    exact ⟨new.length_eq, new.lt_made, new.bound_le, new.since⟩
  | pause =>
    rw [Reader.apply, Reader.pause_of_playing cuts]
    exact cancelled
  | resume =>
    have paused : reader.status = .paused := cuts
    obtain ⟨listener, hears⟩ := sound.hears paused
    rw [Reader.apply, Reader.resume_of_paused paused hears, Ledger.note, if_pos paused]
    exact cancelled.enroll { listener }
  | stop =>
    by_cases idle : reader.status = .idle
    · rw [Reader.apply, Reader.stop_of_idle idle]
      exact cancelled
    · rw [Reader.apply, Reader.stop_of_not_idle idle]
      exact cancelled
  | setSpeed asked => exact cuts.elim
  | wake position now => exact cuts.elim

theorem watch (h : Numbered bound reader.timers ledger) (sound : reader.Sound) (event : Event τ) :
    Numbered bound (reader.apply event).timers (ledger.note reader event) := by
  by_cases cuts : event.CutsOff reader
  · exact h.unbounded.cutOff sound h.bound_le cuts
  -- a command that gives up no timer does nothing to them
  cases event with
  | load path data =>
    cases read : Header.read data with
    | error fault =>
      rw [Reader.apply, Reader.load_of_fault read, Ledger.note, read]
      exact h
    | ok found => exact absurd ⟨found, read⟩ cuts
  | start listener =>
    have notLoaded : reader.status ≠ .loaded := cuts
    rw [Reader.apply, Reader.start_of_not_loaded notLoaded, Ledger.note, if_neg notLoaded]
    exact h
  | pause =>
    rw [Reader.apply, Reader.pause_of_not_playing cuts]
    exact h
  | resume =>
    have notPaused : reader.status ≠ .paused := cuts
    rw [Reader.apply, Reader.resume_of_not_paused notPaused, Ledger.note, if_neg notPaused]
    exact h
  | stop => exact absurd trivial cuts
  | setSpeed asked => exact h
  | wake position now =>
    rw [Reader.apply, Ledger.note, Reader.wakeAt]
    cases found : reader.timers[position]? with
    | none => exact h
    | some timer =>
      dsimp only
      cases waits : (timer.wake now reader).timer with
      | none => exact h.eraseIdx position _
      | some later => exact (h.set found (Timer.cancelled_wake waits)).with_heard _

/-- Whatever is delivered comes from a timer that the bound lets through. -/
theorem le_of_mem_deliveries (h : Numbered bound reader.timers ledger) {event : Event τ}
    {delivery : Delivery τ} (mem : delivery ∈ ledger.deliveries reader event) :
    bound ≤ delivery.number := by
  unfold Ledger.deliveries at mem
  split at mem
  · split at mem
    · next position now _ _ timer number found numberOf =>
      obtain ⟨text, heard, rfl⟩ := List.mem_map.1 mem
      by_cases cancelled : timer.cancelled = true
      · rw [Timer.wake_of_cancelled cancelled] at heard
        cases heard
      · exact h.since position timer number found numberOf (Bool.eq_false_iff.2 cancelled)
    · cases mem
  · cases mem

end Numbered

/-! ## What was heard -/

private theorem Ledger.deliveries_of_not_playing {reader : Reader τ}
    (idle : reader.status ≠ .playing) (ledger : Ledger τ) (event : Event τ) :
    ledger.deliveries reader event = [] := by
  unfold deliveries
  split
  · split
    · rw [Timer.wake_of_not_playing idle]
      rfl
    · rfl
  · rfl

theorem Ledger.deliveries_of_silent {reader : Reader τ} {timer : Timer τ} {position now : Nat}
    (ledger : Ledger τ) (found : reader.timers[position]? = some timer)
    (silent : (timer.wake now reader).texts = []) :
    ledger.deliveries reader (.wake position now) = [] := by
  rw [deliveries, found]
  cases ledger.numbers[position]? with
  | none => rfl
  | some number =>
    dsimp only
    rw [silent]
    rfl

/-- What was heard agrees with the reader and with the recording. -/
structure Tracks (reader : Reader τ) (ledger : Ledger τ) : Prop where
  delivered_eq : reader.delivered = ledger.heard.length
  /-- What was heard is the first of what there is to play. -/
  heard_prefix : ledger.texts <+: texts ledger.body
  /-- What was heard and what is still to come are all there is to play. -/
  heard_append : reader.status ≠ .idle → ledger.texts ++ texts reader.unread = texts ledger.body
  /-- The reader stands after the last frame that was heard. -/
  unread_eq : reader.status ≠ .idle → reader.unread = skip ledger.heard.length ledger.body
  body_eq : ∀ tape, reader.tape = some tape → tape.body = ledger.body
  heard_of_loaded : reader.status = .loaded → ledger.heard = []
  listener_eq : reader.status = .playing ∨ reader.status = .paused →
    reader.listener = ledger.listener
  /-- Nobody heard anything but the listener it was started for. -/
  audience : ∀ delivery ∈ ledger.heard, ledger.listener = some delivery.listener

namespace Tracks

variable {reader : Reader τ} {ledger : Ledger τ}

theorem of_rewound (delivered : reader.delivered = 0) (unread : reader.unread = ledger.body)
    (heard : ledger.heard = []) (body : ∀ tape, reader.tape = some tape → tape.body = ledger.body)
    (listener : reader.status = .playing ∨ reader.status = .paused →
      reader.listener = ledger.listener) : Tracks reader ledger where
  delivered_eq := by rw [delivered, heard]; rfl
  heard_prefix := by rw [Ledger.texts, heard]; exact List.nil_prefix
  heard_append := fun _ ↦ by rw [Ledger.texts, heard, unread]; rfl
  unread_eq := fun _ ↦ by rw [unread, heard]; rfl
  body_eq := body
  heard_of_loaded := fun _ ↦ heard
  listener_eq := listener
  audience := fun delivery mem ↦ by rw [heard] at mem; cases mem

/-- Frames were heard that the reader has moved on by. -/
theorem advance (h : Tracks reader ledger) (playing : reader.status = .playing)
    {between : Reader τ} {heard : List (Delivery τ)}
    (advances : reader.Advances between (heard.map (·.text)))
    (listener : ∀ delivery ∈ heard, reader.listener = some delivery.listener) :
    Tracks between { ledger with heard := ledger.heard ++ heard } := by
  have loaded : reader.status ≠ .idle := by
    rw [playing]
    decide
  have heard_append : (ledger.heard ++ heard).map (·.text) ++ texts between.unread =
      texts ledger.body := by
    rw [List.map_append, List.append_assoc, ← advances.texts_eq]
    exact h.heard_append loaded
  refine ⟨?_, ⟨_, heard_append⟩, fun _ ↦ heard_append, ?_, ?_, ?_, ?_, ?_⟩
  · rw [advances.delivered_eq, h.delivered_eq, List.length_map, List.length_append]
  · intro _
    rw [advances.unread_eq, h.unread_eq loaded, ← skip_add, List.length_map, List.length_append]
  · rw [advances.tape_eq]
    exact h.body_eq
  · intro other
    rw [advances.status_eq, playing] at other
    cases other
  · intro _
    rw [advances.listener_eq]
    exact h.listener_eq (.inl playing)
  · intro delivery mem
    rcases List.mem_append.1 mem with old | new
    · exact h.audience delivery old
    · exact (h.listener_eq (.inl playing)).symm.trans (listener delivery new)

private theorem unload (h : Tracks reader ledger) {after : Reader τ} (tape : after.tape = none)
    (idle : after.status = .idle) (delivered : after.delivered = reader.delivered) :
    Tracks after ledger where
  delivered_eq := delivered.trans h.delivered_eq
  heard_prefix := h.heard_prefix
  heard_append := fun loaded ↦ absurd idle loaded
  unread_eq := fun loaded ↦ absurd idle loaded
  body_eq := fun _ found ↦ by rw [tape] at found; cases found
  heard_of_loaded := fun loaded ↦ by rw [idle] at loaded; cases loaded
  listener_eq := fun goesOn ↦ by
    rw [idle] at goesOn
    rcases goesOn with other | other <;> cases other
  audience := h.audience

private theorem congr_ledger (h : Tracks reader ledger) (numbers : List Nat) (made : Nat) :
    Tracks reader { ledger with numbers, made } :=
  ⟨h.delivered_eq, h.heard_prefix, h.heard_append, h.unread_eq, h.body_eq, h.heard_of_loaded,
    h.listener_eq, h.audience⟩

private theorem congr_timers (h : Tracks reader ledger) (timers : List (Timer τ)) :
    Tracks { reader with timers } ledger :=
  ⟨h.delivered_eq, h.heard_prefix, h.heard_append, h.unread_eq, h.body_eq, h.heard_of_loaded,
    h.listener_eq, h.audience⟩

private theorem switch (h : Tracks reader ledger)
    (goesOn : reader.status = .playing ∨ reader.status = .paused) {status : Status}
    (still : status = .playing ∨ status = .paused) : Tracks { reader with status } ledger := by
  have loaded : reader.status ≠ .idle := by
    rintro idle
    rw [idle] at goesOn
    rcases goesOn with other | other <;> cases other
  refine ⟨h.delivered_eq, h.heard_prefix, fun _ ↦ h.heard_append loaded,
    fun _ ↦ h.unread_eq loaded, h.body_eq, ?_, fun _ ↦ h.listener_eq goesOn, h.audience⟩
  rintro rfl
  rcases still with other | other <;> cases other

theorem wakeAt (h : Tracks reader ledger) (sound : reader.Sound)
    (numbered : ledger.numbers.length = reader.timers.length) (position now : Nat) :
    Tracks (reader.wakeAt position now) (ledger.note reader (.wake position now)) := by
  rcases sound.wakeAt_cases position now with ⟨found, same⟩ | ⟨timer, found, -, ends, ended⟩ |
      ⟨playing, given, timer, live, rfl⟩
  · rw [same, Ledger.note, found]
    exact h
  · have nothing := ledger.deliveries_of_silent found (congrArg Stretch.texts ends)
    rw [ended, Ledger.note, found, nothing, List.append_nil]
    dsimp only
    rw [ends]
    exact (h.congr_timers _).congr_ledger _ _
  · have found := live.getElem?
    obtain ⟨number, numberOf⟩ : ∃ number, ledger.numbers[given.length]? = some number := by
      have inside := (List.getElem?_eq_some_iff.1 found).1
      exact ⟨_, List.getElem?_eq_getElem (by rw [numbered]; exact inside)⟩
    have heard : ledger.deliveries reader (.wake given.length now) =
        (timer.wake now reader).texts.map fun text ↦ ⟨number, timer.listener, text⟩ := by
      rw [Ledger.deliveries, found, numberOf]
    have loaded := sound.tape_ne_none (by rw [playing]; decide)
    obtain ⟨between, advances, outcome⟩ := live.wakeAt playing loaded now
    have after : Tracks between
        { ledger with
          heard := ledger.heard ++ ledger.deliveries reader (.wake given.length now) } := by
      rw [heard]
      refine h.advance playing ?_ ?_
      · rw [List.map_map]
        exact (List.map_id' _).symm ▸ advances
      · intro delivery mem
        obtain ⟨text, -, rfl⟩ := List.mem_map.1 mem
        exact live.listener_eq
    rw [Ledger.note, found]
    dsimp only
    rcases outcome with ⟨frame, due, -, waits, later⟩ | ⟨-, ends, later⟩
    · rw [waits, later]
      exact after.congr_timers _
    · rw [ends, later]
      have closed : Tracks between.close _ := after.unload rfl rfl rfl
      exact (closed.congr_timers _).congr_ledger _ _

/-- Whatever happens, what was heard agrees with the recording. -/
theorem watch (h : Tracks reader ledger) (sound : reader.Sound)
    (numbered : ledger.numbers.length = reader.timers.length) (event : Event τ) :
    Tracks (reader.apply event) (ledger.note reader event) := by
  cases event with
  | load path data =>
    cases read : Header.read data with
    | error fault =>
      rw [Reader.apply, Reader.load_of_fault read, Ledger.note, read]
      exact h
    | ok found =>
      obtain ⟨header, body⟩ := found
      rw [Reader.apply, Reader.load_of_read read, Ledger.note, read]
      refine .of_rewound rfl rfl rfl ?_ ?_
      · rintro tape ⟨⟩
        rfl
      · rintro (playing | paused)
        · cases playing
        · cases paused
  | start listener =>
    by_cases loaded : reader.status = .loaded
    · rw [Reader.apply, Reader.start_of_loaded loaded, Ledger.note, if_pos loaded]
      obtain ⟨tape, found⟩ := Option.ne_none_iff_exists'.1
        (sound.tape_ne_none (by rw [loaded]; decide))
      refine .of_rewound rfl ?_ rfl h.body_eq fun _ ↦ rfl
      dsimp only
      rw [found]
      exact h.body_eq tape found
    · rw [Reader.apply, Reader.start_of_not_loaded loaded, Ledger.note, if_neg loaded]
      exact h
  | pause =>
    by_cases playing : reader.status = .playing
    · rw [Reader.apply, Reader.pause_of_playing playing]
      exact (h.switch (.inl playing) (.inr rfl)).congr_timers _
    · rw [Reader.apply, Reader.pause_of_not_playing playing]
      exact h
  | resume =>
    by_cases paused : reader.status = .paused
    · obtain ⟨listener, hears⟩ := sound.hears paused
      rw [Reader.apply, Reader.resume_of_paused paused hears, Ledger.note, if_pos paused]
      exact ((h.switch (.inr paused) (.inl rfl)).congr_timers _).congr_ledger _ _
    · rw [Reader.apply, Reader.resume_of_not_paused paused, Ledger.note, if_neg paused]
      exact h
  | stop =>
    by_cases idle : reader.status = .idle
    · rw [Reader.apply, Reader.stop_of_idle idle]
      exact h.unload (sound.tape_eq_none_iff.2 idle) idle rfl
    · rw [Reader.apply, Reader.stop_of_not_idle idle]
      exact h.unload rfl rfl rfl
  | setSpeed asked =>
    exact ⟨h.delivered_eq, h.heard_prefix, h.heard_append, h.unread_eq, h.body_eq,
      h.heard_of_loaded, h.listener_eq, h.audience⟩
  | wake position now => exact h.wakeAt sound numbered position now

end Tracks

/-! ## Runs -/

/-- What is kept by every event. -/
structure Kept (bound : Nat) (state : Reader τ × Ledger τ) : Prop where
  sound : state.1.Sound
  numbered : Numbered bound state.1.timers state.2
  tracks : Tracks state.1 state.2

namespace Kept

variable {bound : Nat} {state : Reader τ × Ledger τ}

theorem start : Kept 0 (({}, {}) : Reader τ × Ledger τ) where
  sound := ⟨⟨fun _ ↦ rfl, fun _ ↦ rfl⟩, nofun, fun _ ↦ nofun, nofun⟩
  numbered := ⟨rfl, nofun, Nat.le_refl 0, nofun⟩
  tracks := .of_rewound rfl rfl rfl nofun fun _ ↦ rfl

theorem watch (h : Kept bound state) (event : Event τ) : Kept bound (Reader.watch state event) where
  sound := h.sound.apply event
  numbered := h.numbered.watch h.sound event
  tracks := h.tracks.watch h.sound h.numbered.length_eq event

theorem watchAll (h : Kept bound state) (events : List (Event τ)) :
    Kept bound (Reader.watchAll state events) := by
  induction events generalizing state with
  | nil => exact h
  | cons event events ih => exact ih (h.watch event)

end Kept

/-- What is promised of a player, in the middle of whatever happens to it. -/
structure Plays (state : Reader τ × Ledger τ) : Prop where
  /-- Since the last start every frame was heard once, in order, and none was left out. -/
  heard_prefix : state.2.texts <+: texts state.2.body
  /-- The player counts what was heard. -/
  delivered_eq : state.1.delivered = state.2.texts.length
  /-- It stands after the last frame that was heard. -/
  unread_eq : state.1.status ≠ .idle → state.1.unread = skip state.1.delivered state.2.body
  /-- It was heard by the listener that the recording was started for. -/
  audience : ∀ delivery ∈ state.2.heard, state.2.listener = some delivery.listener
  /-- Every timer has a number, and the number of timers made is given to none of them. -/
  numbered : state.2.numbers.length = state.1.timers.length ∧
    ∀ number ∈ state.2.numbers, number < state.2.made
  /-- After a command that gives up the timers there are, whatever else happens, only timers that
  were started by it or later deliver anything. -/
  cutOff : ∀ event : Event τ, event.CutsOff state.1 → ∀ later next,
    let after := Reader.watchAll (Reader.watch state event) later
    ∀ delivery ∈ after.2.deliveries after.1 next, state.2.made ≤ delivery.number
  /-- Nothing is delivered unless the player is playing. -/
  quiet : state.1.status ≠ .playing → ∀ event, state.2.deliveries state.1 event = []
  /-- A recording that is refused leaves everything as it is. -/
  refused : ∀ path data fault, Header.read data = .error fault →
    Reader.watch state (.load path data) = state
  /-- A playback that is left alone comes to its end: all that there is to play has been heard, and
  nothing is loaded. -/
  ending : state.1.status = .playing → ∀ now, ∃ listener events ended horizon,
    state.2.history ++ events.map (·.2) = (texts state.2.body).map (listener, ·) ∧
    ended.status = .idle ∧ ended.tape = none ∧ ended.timers = [] ∧
    ∀ target, horizon ≤ target → state.1.leave now target = (events, ended)

theorem Kept.plays {state : Reader τ × Ledger τ} (h : Kept 0 state) : Plays state where
  heard_prefix := h.tracks.heard_prefix
  delivered_eq := h.tracks.delivered_eq.trans (List.length_map _).symm
  unread_eq := fun loaded ↦ by
    rw [h.tracks.delivered_eq]
    exact h.tracks.unread_eq loaded
  audience := h.tracks.audience
  numbered := ⟨h.numbered.length_eq, h.numbered.lt_made⟩
  cutOff := by
    intro event cuts later next
    have after : Kept state.2.made (Reader.watch state event) :=
      ⟨h.sound.apply event, h.numbered.cutOff h.sound (Nat.le_refl _) cuts,
        h.tracks.watch h.sound h.numbered.length_eq event⟩
    exact fun delivery mem ↦ (after.watchAll later).numbered.le_of_mem_deliveries mem
  quiet := fun idle event ↦ state.2.deliveries_of_not_playing idle event
  refused := by
    intro path data fault read
    rw [Reader.watch, Reader.apply, Reader.load_of_fault read, Ledger.note, read]
  ending := by
    intro playing now
    obtain ⟨listener, hears, events, ended, horizon, gone, heard, later⟩ :=
      h.sound.runsOut playing now
    refine ⟨listener, events, ended, horizon, ?_, gone.idle, gone.unloaded, gone.done, later⟩
    have before : state.2.history = state.2.texts.map (listener, ·) := by
      rw [Ledger.history, Ledger.texts, List.map_map]
      refine List.map_congr_left fun delivery mem ↦ congrArg (·, delivery.text) ?_
      have same := h.tracks.audience delivery mem
      rw [← h.tracks.listener_eq (.inl playing), hears] at same
      exact (Option.some.inj same).symm
    rw [before, heard, ← List.map_append,
      h.tracks.heard_append (by rw [playing]; decide)]

/-- Whatever commands come and whichever timers run in between, a player keeps all that is
promised. -/
theorem plays_run (events : List (Event τ)) : Plays (Reader.run events) :=
  (Kept.start.watchAll events).plays

end Glyphcast.Playback
