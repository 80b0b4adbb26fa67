import Glyphcast.Proofs.Playback.Diary

/-!
# Every frame at its time

The diary of a run agrees with the player, whatever commands come and whichever timers run in
between. What carries it is where the diary stands between two events: as long as the recording is
not unloaded, the last entry is that of the wait for the frame that comes next, and if the timer
that delivers has waited at all then it was that timer's wait. So a command that gives the timer up
leaves an entry that the next timer can begin after, and one that does not, like another speed,
leaves a wait that the same timer ends.

How long a playback was suspended is nowhere in it. The wait that was broken off is not taken up
again, and the next one is counted from the frame that the new timer begins with.
-/

namespace Glyphcast.Playback

open Recording

variable {τ : Type} {reader : Reader τ} {timer : Timer τ} {frame : Pending} {now : Nat}

/-! ## The timers that go on -/

/-- Something holds of every timer that was not given up, and of its number. -/
def Each (P : Timer τ → Nat → Prop) (timers : List (Timer τ)) (numbers : List Nat) : Prop :=
  ∀ (position : Nat) (timer : Timer τ) (number : Nat), timers[position]? = some timer →
    numbers[position]? = some number → timer.cancelled = false → P timer number

section

variable {P : Timer τ → Nat → Prop} {timers given : List (Timer τ)} {numbers : List Nat}

private theorem each_of_cancelled (cancelled : ∀ timer ∈ timers, timer.cancelled = true) :
    Each P timers numbers := by
  intro position timer number found _ goesOn
  rw [cancelled timer (List.mem_of_getElem? found)] at goesOn
  nomatch goesOn

private theorem each_append_singleton (cancelled : ∀ timer ∈ given, timer.cancelled = true)
    (last : ∀ number, numbers[given.length]? = some number → P timer number) :
    Each P (given ++ [timer]) numbers := by
  intro position other number found numbered goesOn
  rcases Nat.lt_or_ge position given.length with early | late
  · rw [List.getElem?_append_left early] at found
    exact each_of_cancelled cancelled position other number found numbered goesOn
  · rw [List.getElem?_append_right late, List.getElem?_singleton] at found
    split at found
    · next here =>
      cases found
      rw [Nat.le_antisymm (Nat.le_of_sub_eq_zero here) late] at numbered
      exact last number numbered
    · nomatch found

theorem Each.eraseIdx (h : Each P timers numbers) (position : Nat) :
    Each P (timers.eraseIdx position) (numbers.eraseIdx position) := by
  intro place other number found numbered goesOn
  rw [List.getElem?_eraseIdx] at found numbered
  split at found
  · next early =>
    rw [if_pos early] at numbered
    exact h _ other number found numbered goesOn
  · next late =>
    rw [if_neg late] at numbered
    exact h _ other number found numbered goesOn

end

/-- What is written of a timer that delivers, before it runs: if it waits, the entry of its wait is
the last, and if it has not run yet there is none of it or of a later one. -/
def Timer.Placed (entries : List Entry) (index : Nat) (timer : Timer τ) (number : Nat) : Prop :=
  match timer.waiting with
  | none => ∀ entry ∈ entries, entry.number < number
  | some (_, due) =>
    ∃ before, before < due ∧ entries.getLast? = some (.booked number index before due)

/-! ## The invariant -/

/-- The diary agrees with the player. -/
structure Recorded (state : Reader τ × Ledger τ) (diary : Diary) : Prop where
  speed_eq : state.1.speed = diary.speed
  /-- The first entry is that of a timer that begins with the first frame. -/
  opening : ∀ entry, diary.entries.head? = some entry → ∃ number now, entry = .opened number 0 now
  follows : diary.entries.IsChain (Follows (times state.2.body))
  number_lt : ∀ entry ∈ diary.entries, entry.number < state.2.made
  /-- Every frame that was heard is written of, by the timer that delivered it. -/
  played_eq : diary.entries.filterMap Entry.played? = (state.2.heard.map (·.number)).zipIdx
  /-- Until the recording is unloaded there is always a frame that is waited for, unless nothing
  was heard yet. -/
  pending : state.1.status ≠ .idle → diary.entries = [] ∧ state.2.heard = [] ∨
    ∃ number before due,
      diary.entries.getLast? = some (.booked number state.2.heard.length before due)
  placed : Each (Timer.Placed diary.entries state.2.heard.length) state.1.timers state.2.numbers

namespace Recorded

variable {ledger : Ledger τ} {diary : Diary}

private theorem of_unheard (h : Recorded (reader, ledger) diary) {after : Reader τ}
    {later : Ledger τ} (speed : after.speed = reader.speed) (body : later.body = ledger.body)
    (heard : later.heard = ledger.heard) (made : ledger.made ≤ later.made)
    (loaded : after.status ≠ .idle → reader.status ≠ .idle)
    (placed : Each (Timer.Placed diary.entries ledger.heard.length) after.timers later.numbers) :
    Recorded (after, later) diary where
  speed_eq := speed.trans h.speed_eq
  opening := h.opening
  follows := body ▸ h.follows
  number_lt := fun entry mem ↦ Nat.lt_of_lt_of_le (h.number_lt entry mem) made
  played_eq := heard ▸ h.played_eq
  pending := fun goesOn ↦ heard ▸ h.pending (loaded goesOn)
  placed := heard ▸ placed

theorem of_rewound {after : Reader τ} {later : Ledger τ} (speed : after.speed = diary.speed)
    (heard : later.heard = [])
    (placed : Each (Timer.Placed [] 0) after.timers later.numbers) :
    Recorded (after, later) { diary with entries := [] } where
  speed_eq := speed
  opening := nofun
  follows := List.isChain_nil
  number_lt := nofun
  played_eq := by rw [heard]; rfl
  pending := fun _ ↦ .inl ⟨rfl, heard⟩
  placed := by rw [heard]; exact placed

theorem append (h : Recorded (reader, ledger) diary) (loaded : reader.status ≠ .idle) {number : Nat}
    (placed : timer.Placed diary.entries ledger.heard.length number) {speed : Float}
    {tail : List Entry}
    (follows : (.played number ledger.heard.length now speed :: tail).IsChain
      (Follows (times ledger.body))) :
    let entries := diary.entries ++
      (timer.opening number ledger.heard.length now ++
        .played number ledger.heard.length now speed :: tail)
    entries.IsChain (Follows (times ledger.body)) ∧
      ∀ entry, entries.head? = some entry → ∃ number now, entry = .opened number 0 now := by
  have begun (new : List Entry) (written : diary.entries ≠ []) :
      ∀ entry, (diary.entries ++ new).head? = some entry →
        ∃ number now, entry = .opened number 0 now := by
    intro entry first
    rw [List.head?_append_of_ne_nil _ written] at first
    exact h.opening entry first
  rw [Timer.Placed] at placed
  rw [Timer.opening]
  cases waiting : timer.waiting with
  | none =>
    -- a frame that was not waited for is the first of all, or a wait was broken off
    rw [waiting] at placed
    change (diary.entries ++ (.opened number ledger.heard.length now ::
      .played number ledger.heard.length now speed :: tail)).IsChain _ ∧ _
    have chain := List.isChain_cons_cons.mpr ⟨.atOnce, follows⟩
    rcases h.pending loaded with ⟨empty, unheard⟩ | ⟨earlier, before, due, booked⟩
    · rw [empty]
      refine ⟨chain, ?_⟩
      rintro entry ⟨⟩
      rw [unheard]
      exact ⟨number, now, rfl⟩
    · refine ⟨List.isChain_append.mpr ⟨h.follows, chain, ?_⟩,
        begun _ (List.ne_nil_of_mem (List.mem_of_getLast? booked))⟩
      rintro entry last _ ⟨⟩
      cases last.symm.trans booked
      exact .resumed (placed _ (List.mem_of_getLast? booked))
  | some wait =>
    rw [waiting] at placed
    obtain ⟨before, lt, booked⟩ := placed
    refine ⟨List.isChain_append.mpr ⟨h.follows, follows, ?_⟩,
      begun _ (List.ne_nil_of_mem (List.mem_of_getLast? booked))⟩
    rintro entry last _ ⟨⟩
    cases last.symm.trans booked
    exact .waited fun same ↦ absurd same (Nat.ne_of_gt lt)

private theorem wake_of_silent (h : Recorded (reader, ledger) diary) {position : Nat}
    (found : reader.timers[position]? = some timer) {after : Reader τ}
    (silent : timer.wake now reader = ⟨after, [], none⟩) (speed : after.speed = reader.speed)
    (loaded : after.status ≠ .idle → reader.status ≠ .idle) :
    Recorded (Reader.watch (reader, ledger) (.wake position now))
      (diary.note (reader, ledger) (.wake position now)) := by
  have unheard : ledger.deliveries reader (.wake position now) = [] :=
    ledger.deliveries_of_silent found (congrArg Stretch.texts silent)
  have unwritten : diary.note (reader, ledger) (.wake position now) = diary := by
    rw [Diary.note, found]
    cases ledger.numbers[position]? with
    | none => rfl
    | some number =>
      dsimp only
      rw [Timer.entries_of_silent silent, List.append_nil]
  have ended : reader.wakeAt position now =
      { after with timers := reader.timers.eraseIdx position } := by
    rw [Reader.wakeAt, found]
    dsimp only
    rw [silent]
  rw [unwritten, Reader.watch, Reader.apply, ended, Ledger.note, found]
  dsimp only
  rw [silent, unheard, List.append_nil]
  exact h.of_unheard speed rfl rfl (Nat.le_refl _) loaded (h.placed.eraseIdx position)

/-- Something is delivered and written down. -/
theorem extend (h : Recorded (reader, ledger) diary) (loaded : reader.status ≠ .idle) {number : Nat}
    (placed : timer.Placed diary.entries ledger.heard.length number) (lt : number < ledger.made)
    {stretch : Stretch τ} {new : List Entry}
    (writes : timer.Writes number now diary.speed (times ledger.body) ledger.heard.length stretch
      new)
    {after : Reader τ} {later : Ledger τ} (speed : after.speed = reader.speed)
    (body : later.body = ledger.body) (made : later.made = ledger.made)
    (heard : later.heard.map (·.number) =
      ledger.heard.map (·.number) ++ stretch.texts.map fun _ ↦ number)
    (waits : after.status ≠ .idle → ∃ due, (diary.entries ++ new).getLast? =
      some (.booked number later.heard.length now due))
    (onward : Each (Timer.Placed (diary.entries ++ new) later.heard.length) after.timers
      later.numbers) :
    Recorded (after, later) { diary with entries := diary.entries ++ new } := by
  obtain ⟨tail, new_eq, follows⟩ := writes.follows
  obtain ⟨chain, opening⟩ := h.append loaded placed follows
  rw [← new_eq] at chain opening
  refine ⟨speed.trans h.speed_eq, opening, body ▸ chain, ?_, ?_, ?_, onward⟩
  · intro entry mem
    rw [made]
    rcases List.mem_append.mp mem with old | new
    · exact h.number_lt entry old
    · rw [writes.number_eq entry new]
      exact lt
  · rw [heard, List.filterMap_append, h.played_eq, writes.played_eq, List.zipIdx_append,
      Nat.zero_add, List.length_map]
  · intro goesOn
    obtain ⟨due, last⟩ := waits goesOn
    exact .inr ⟨number, now, due, last⟩

theorem wake_of_next (h : Recorded (reader, ledger) diary) (kept : Kept 0 (reader, ledger))
    {given : List (Timer τ)} (live : reader.Live given timer) (playing : reader.status = .playing)
    (next : reader.next? = some frame) (now : Nat) :
    Recorded (Reader.watch (reader, ledger) (.wake given.length now))
      (diary.note (reader, ledger) (.wake given.length now)) := by
  have idle : reader.status ≠ .idle := by rw [playing]; decide
  have loaded := kept.sound.tape_ne_none idle
  have found := live.getElem?
  obtain ⟨number, numberOf⟩ := kept.numbered.exists_number live
  have placed := h.placed _ timer number found numberOf live.goes_on
  have lt := kept.numbered.lt_made number (List.mem_of_getElem? numberOf)
  have writes := live.written playing loaded next (kept.tracks.times_unread idle).symm number now
  rw [h.speed_eq] at writes
  have delivered : ledger.deliveries reader (.wake given.length now) =
      (timer.wake now reader).texts.map fun text ↦ ⟨number, timer.listener, text⟩ := by
    rw [Ledger.deliveries, found, numberOf]
  have heard : (ledger.heard ++ ledger.deliveries reader (.wake given.length now)).map (·.number) =
      ledger.heard.map (·.number) ++ (timer.wake now reader).texts.map fun _ ↦ number := by
    rw [delivered, List.map_append, List.map_map]
    rfl
  have speed := Reader.speed_wakeAt reader given.length now
  obtain ⟨between, -, outcome⟩ := live.wakeAt playing loaded now
  rw [Reader.watch, Reader.apply, Ledger.note, found, Diary.note, found, numberOf]
  dsimp only
  rcases outcome with ⟨frame, due, -, waits, ended⟩ | ⟨-, ends, ended⟩
  -- it waits for the frame after those that it delivered
  · have due_eq : (timer.wake now reader).due? = some due := by
      rw [Stretch.due?, waits]
      rfl
    have count : (ledger.heard ++ ledger.deliveries reader (.wake given.length now)).length =
        ledger.heard.length + (timer.wake now reader).texts.length := by
      rw [delivered, List.length_append, List.length_map]
    have last := writes.getLast?_append diary.entries due_eq
    rw [← count] at last
    rw [waits]
    refine h.extend idle placed lt writes speed rfl rfl heard (fun _ ↦ ⟨due, last⟩) ?_
    rw [ended]
    refine each_append_singleton live.given_up fun other numbered ↦ ?_
    cases numberOf.symm.trans numbered
    exact ⟨now, writes.lt_due due due_eq, last⟩
  · rw [ends]
    refine h.extend idle placed lt writes speed rfl rfl heard ?_ ?_
    · rw [ended]
      exact fun other ↦ absurd rfl other
    · rw [ended]
      exact each_of_cancelled live.given_up

theorem wake (h : Recorded (reader, ledger) diary) (kept : Kept 0 (reader, ledger))
    (position now : Nat) :
    Recorded (Reader.watch (reader, ledger) (.wake position now))
      (diary.note (reader, ledger) (.wake position now)) := by
  rcases kept.sound.wakeAt_cases position now with ⟨found, same⟩ |
    ⟨timer, found, -, ends, -⟩ | ⟨playing, given, timer, live, rfl⟩
  · rw [Reader.watch, Reader.apply, same, Ledger.note, found, Diary.note, found]
    exact h
  · exact h.wake_of_silent found ends rfl id
  · cases next : reader.next? with
    | some frame => exact h.wake_of_next kept live playing next now
    | none =>
      have loaded := kept.sound.tape_ne_none (by rw [playing]; decide)
      have ends : timer.wake now reader = ⟨reader.close, [], none⟩ :=
        Timer.wake_of_no_next playing (Option.isSome_iff_ne_none.mpr loaded) live.goes_on
          live.chosen next
      exact h.wake_of_silent live.getElem? ends rfl fun other ↦ absurd rfl other

/-- Whatever happens, the diary agrees with the player. -/
theorem record (h : Recorded (reader, ledger) diary) (kept : Kept 0 (reader, ledger))
    (event : Event τ) :
    Recorded (Reader.watch (reader, ledger) event) (diary.note (reader, ledger) event) := by
  have cancelled : ∀ timer ∈ reader.cancelTimers.timers, timer.cancelled = true :=
    fun _ mem ↦ Reader.cancelled_of_mem_cancelTimers mem
  rw [Reader.watch]
  cases event with
  | load path data =>
    cases read : Header.read data with
    | error fault =>
      rw [Reader.apply, Reader.load_of_fault read, Ledger.note, read, Diary.note, read]
      exact h
    | ok found =>
      obtain ⟨header, body⟩ := found
      rw [Reader.apply, Reader.load_of_read read, Ledger.note, read, Diary.note, read]
      exact .of_rewound h.speed_eq rfl (each_of_cancelled cancelled)
  | start listener =>
    by_cases loaded : reader.status = .loaded
    · rw [Reader.apply, Reader.start_of_loaded loaded, Ledger.note, if_pos loaded, Diary.note,
        if_pos loaded]
      refine .of_rewound h.speed_eq rfl (each_append_singleton cancelled ?_)
      exact fun _ _ _ mem ↦ absurd mem List.not_mem_nil
    · rw [Reader.apply, Reader.start_of_not_loaded loaded, Ledger.note, if_neg loaded, Diary.note,
        if_neg loaded]
      exact h
  | pause =>
    by_cases playing : reader.status = .playing
    · rw [Reader.apply, Reader.pause_of_playing playing]
      exact h.of_unheard rfl rfl rfl (Nat.le_refl _) (fun _ ↦ by rw [playing]; decide)
        (each_of_cancelled cancelled)
    · rw [Reader.apply, Reader.pause_of_not_playing playing]
      exact h
  | resume =>
    by_cases paused : reader.status = .paused
    · obtain ⟨listener, hears⟩ := kept.sound.hears paused
      rw [Reader.apply, Reader.resume_of_paused paused hears, Ledger.note, if_pos paused]
      refine h.of_unheard rfl rfl rfl (Nat.le_succ _) (fun _ ↦ by rw [paused]; decide)
        (each_append_singleton cancelled ?_)
      -- the new timer has a number that no entry has
      intro number numbered
      have length : reader.cancelTimers.timers.length = ledger.numbers.length :=
        (List.length_map _).trans kept.numbered.length_eq.symm
      rw [Ledger.enroll, length, List.getElem?_concat_length] at numbered
      cases numbered
      exact h.number_lt
    · rw [Reader.apply, Reader.resume_of_not_paused paused, Ledger.note, if_neg paused]
      exact h
  | stop =>
    by_cases idle : reader.status = .idle
    · rw [Reader.apply, Reader.stop_of_idle idle]
      exact h.of_unheard rfl rfl rfl (Nat.le_refl _) id (each_of_cancelled cancelled)
    · rw [Reader.apply, Reader.stop_of_not_idle idle]
      exact h.of_unheard rfl rfl rfl (Nat.le_refl _) (fun other ↦ absurd rfl other)
        (each_of_cancelled cancelled)
  | setSpeed asked =>
    exact { h with speed_eq := congrArg (clampSpeed · asked) h.speed_eq }
  | wake position now => exact h.wake kept position now

end Recorded

/-! ## New timers -/

/-- The events that start a timer: the recording is started, or taken up again. -/
def Event.Begins (reader : Reader τ) : Event τ → Prop
  | .start _ => reader.status = .loaded
  | .resume => reader.status = .paused
  | _ => False

/-- Such an event gives up all timers but a new one. -/
theorem Reader.Sound.apply_of_begins (h : reader.Sound) {event : Event τ}
    (begins : event.Begins reader) :
    (reader.apply event).status = .playing ∧
      ∀ timer ∈ (reader.apply event).timers, timer.cancelled = false → timer.waiting = none := by
  have fresh (listener : τ) : ∀ timer ∈ reader.cancelTimers.timers ++ [⟨listener, false, none⟩],
      timer.cancelled = false → timer.waiting = none := by
    intro timer mem goesOn
    rcases List.mem_append.mp mem with old | new
    · rw [Reader.cancelled_of_mem_cancelTimers old] at goesOn
      nomatch goesOn
    · rw [List.mem_singleton.mp new]
  cases event with
  | start listener =>
    rw [Reader.apply, Reader.start_of_loaded begins]
    exact ⟨rfl, fresh listener⟩
  | resume =>
    obtain ⟨listener, hears⟩ := h.hears begins
    rw [Reader.apply, Reader.resume_of_paused begins hears]
    exact ⟨rfl, fresh listener⟩
  | _ => exact begins.elim

/-! ## What is promised -/

/-- What is promised of the times at which a player delivers, in the middle of whatever happens to
it. -/
structure Paced (state : Reader τ × Ledger τ) (diary : Diary) : Prop where
  /-- The speed is the last one that was asked for, within its bounds. -/
  speed_eq : state.1.speed = diary.speed
  /-- The first frame is delivered at once by the timer that begins with it. -/
  opening : ∀ entry, diary.entries.head? = some entry → ∃ number now, entry = .opened number 0 now
  /-- Every entry follows the one before it: frames are delivered at once by a timer that is new,
  and otherwise after the wait that the recorded times and the speed ask for. -/
  follows : diary.entries.IsChain (Follows (times state.2.body))
  /-- Every frame that was heard is written of, by the timer that delivered it. -/
  played_eq : diary.entries.filterMap Entry.played? = (state.2.heard.map (·.number)).zipIdx
  /-- It was begun with or waited for by that timer. -/
  scheduled : ∀ number index now speed, .played number index now speed ∈ diary.entries →
    .opened number index now ∈ diary.entries ∨
      ∃ before due, .booked number index before due ∈ diary.entries
  /-- No frame is waited for twice, and none is begun with twice. -/
  booked_once : (diary.entries.filterMap Entry.booked?).Pairwise (· < ·)
  opened_once : (diary.entries.filterMap Entry.opened?).Pairwise (· < ·)
  /-- A recording that is started or taken up again is played by a timer that is new. -/
  begins : ∀ event : Event τ, event.Begins state.1 →
    (state.1.apply event).status = .playing ∧
      ∀ timer ∈ (state.1.apply event).timers, timer.cancelled = false → timer.waiting = none
  /-- While a recording is played there is a timer that was not given up, and only then. -/
  live_iff : (∃ timer ∈ state.1.timers, timer.cancelled = false) ↔ state.1.status = .playing
  /-- Its wait is the one that was written down last, whatever has come in between. -/
  waits : ∀ timer ∈ state.1.timers, timer.cancelled = false →
    ∀ frame due, timer.waiting = some (frame, due) → state.1.next? = some frame ∧
      (times state.2.body)[state.2.heard.length]? = some frame.elapsed ∧
      ∃ number before,
        diary.entries.getLast? = some (.booked number state.2.heard.length before due)
  /-- Another speed leaves it as it is. -/
  setSpeed : ∀ asked, (state.1.setSpeed asked).2.timers = state.1.timers ∧
    (state.1.setSpeed asked).2.speed = clampSpeed state.1.speed asked
  /-- Left alone, the timer delivers the next frame when its wait is over, or at once if it is new,
  and nothing before. -/
  punctual : ∀ timer ∈ state.1.timers, timer.cancelled = false →
    ∀ frame, state.1.next? = some frame → ∀ now target, now ≤ target →
      (target < timer.dueFrom now → (state.1.leave now target).1 = []) ∧
        (timer.dueFrom now ≤ target →
          (state.1.leave now target).1.head? =
            some (timer.dueFrom now, timer.listener, frame.text))

theorem Recorded.paced {state : Reader τ × Ledger τ} {diary : Diary} (h : Recorded state diary)
    (kept : Kept 0 state) : Paced state diary where
  speed_eq := h.speed_eq
  opening := h.opening
  follows := h.follows
  played_eq := h.played_eq
  scheduled := fun _ _ _ _ mem ↦ scheduled_of_played h.follows h.opening mem
  booked_once := booked_pairwise h.follows
  opened_once := opened_pairwise h.follows
  begins := fun _ begins ↦ kept.sound.apply_of_begins begins
  live_iff := by
    constructor
    · rintro ⟨timer, mem, goesOn⟩
      exact (kept.sound.live_of_mem mem goesOn).1
    · intro playing
      obtain ⟨given, timer, live⟩ := kept.sound.live playing
      exact ⟨timer, List.mem_of_getElem? live.getElem?, live.goes_on⟩
  waits := by
    intro timer mem goesOn frame due waiting
    obtain ⟨playing, given, live⟩ := kept.sound.live_of_mem mem goesOn
    have next := live.chosen frame due waiting
    refine ⟨next, ?_, ?_⟩
    · rw [← List.head?_drop, ← kept.tracks.times_unread (by rw [playing]; decide),
        times_of_next next]
      rfl
    · obtain ⟨number, numberOf⟩ := kept.numbered.exists_number live
      have placed := h.placed _ timer number live.getElem? numberOf goesOn
      rw [Timer.Placed, waiting] at placed
      obtain ⟨before, -, last⟩ := placed
      exact ⟨number, before, last⟩
  setSpeed := fun _ ↦ ⟨rfl, rfl⟩
  punctual := by
    intro timer mem goesOn frame next now target le
    obtain ⟨playing, given, live⟩ := kept.sound.live_of_mem mem goesOn
    exact live.leave playing (kept.sound.tape_ne_none (by rw [playing]; decide)) next le

/-- Whatever happens, the diary of a run agrees with the player. -/
theorem recorded_run (events : List (Event τ)) :
    Recorded (Reader.run events) (Reader.diary events) := by
  induction events using List.reverseRecOn with
  | nil =>
    have start : Recorded (({}, {}) : Reader τ × Ledger τ) { ({} : Diary) with entries := [] } :=
      .of_rewound rfl rfl (each_of_cancelled fun _ mem ↦ nomatch mem)
    exact start
  | append_singleton events event ih =>
    have goesOn : Reader.run (events ++ [event]) = Reader.watch (Reader.run events) event :=
      List.foldl_append
    rw [Reader.diary_append_singleton, goesOn]
    exact ih.record (Kept.start.watchAll events) event

/-- Whatever commands come and whichever timers run in between, every frame is delivered at its
time. -/
theorem paced_run (events : List (Event τ)) :
    Paced (Reader.run events) (Reader.diary events) :=
  (recorded_run events).paced (Kept.start.watchAll events)

end Glyphcast.Playback
