import Glyphcast.Proofs.Playback.Bare
import Glyphcast.Proofs.Playback.Punctual
import Mathlib.Data.List.Chain

/-!
# When each frame is delivered

A listener who also looks at the clock keeps a diary of a playback: when a frame was delivered, and
when the next one is due. The diary is kept from what can be seen of a timer that runs, which is how
many texts it delivers and until when it waits afterwards, and from the commands. It is kept without
a look at the reader's speed, at the recorded times or at how a wait is computed, so that the times
in it can be compared with them.

`Follows` is the comparison: which entry may come after which. A frame is delivered at once by a
timer that has delivered nothing before; every other one is due after the wait that the recorded
times and the speed ask for, counted from the moment when the one before it was delivered. The entry
of a wait that was broken off is followed by that of the timer that was started in its place.
-/

namespace Glyphcast.Playback

open Recording

variable {τ : Type}

/-! ## The recorded times -/

/-- The recorded times of the frames that can be played. -/
def times (bytes : Bytes) : List Nat :=
  ((scan bytes).frames.takeWhile fun frame ↦ (Text.decode? frame.payload).isSome).map (·.elapsed)

theorem times_of_next {reader : Reader τ} {frame : Pending} (h : reader.next? = some frame) :
    times reader.unread = frame.elapsed :: times frame.rest := by
  obtain ⟨payload, decoded, read⟩ := Reader.next?_eq_some_iff.1 h
  rw [times, scan_of_frame read]
  dsimp only
  rw [List.takeWhile_cons_of_pos (by rw [decoded]; rfl)]
  rfl

private theorem times_skip {count : Nat} {bytes : Bytes} (le : count ≤ (texts bytes).length) :
    times (skip count bytes) = (times bytes).drop count := by
  induction count generalizing bytes with
  | zero => rfl
  | succ count ih =>
    let reader : Reader Unit := { unread := bytes }
    cases next : reader.next? with
    | none =>
      rw [show texts bytes = [] from texts_of_no_next next] at le
      exact absurd le (Nat.not_succ_le_zero _)
    | some frame =>
      have first : texts bytes = frame.text :: texts frame.rest := texts_of_next next
      have time : times bytes = frame.elapsed :: times frame.rest := times_of_next next
      rw [first, List.length_cons] at le
      rw [skip, show afterFrame bytes = frame.rest from afterFrame_of_next next, time,
        List.drop_succ_cons]
      exact ih (Nat.le_of_succ_le_succ le)

/-- What is still to come, by its times. -/
theorem Tracks.times_unread {reader : Reader τ} {ledger : Ledger τ} (h : Tracks reader ledger)
    (loaded : reader.status ≠ .idle) :
    times reader.unread = (times ledger.body).drop ledger.heard.length := by
  have le : ledger.heard.length ≤ (texts ledger.body).length := by
    rw [← List.length_map (·.text)]
    exact h.heard_prefix.length_le
  rw [h.unread_eq loaded, times_skip le]

theorem Numbered.exists_number {bound : Nat} {reader : Reader τ} {ledger : Ledger τ}
    (h : Numbered bound reader.timers ledger) {given : List (Timer τ)} {timer : Timer τ}
    (live : reader.Live given timer) : ∃ number, ledger.numbers[given.length]? = some number := by
  have inside := (List.getElem?_eq_some_iff.mp live.getElem?).1
  rw [← h.length_eq] at inside
  exact ⟨_, List.getElem?_eq_getElem inside⟩

/-! ## The diary -/

/-- What is written down of a frame. Frames are known by how many came before them. -/
inductive Entry where
  /-- A timer that has just been started has a frame to deliver. -/
  | opened (number index now : Nat)
  /-- A timer waits until a frame is due, from now on. -/
  | booked (number index now due : Nat)
  /-- A timer delivers a frame, at the speed in effect. -/
  | played (number index now : Nat) (speed : Float)

namespace Entry

/-- The number of the timer. -/
def number : Entry → Nat
  | opened number _ _ => number
  | booked number _ _ _ => number
  | played number _ _ _ => number

/-- The frame that a timer delivers at once. -/
def opened? : Entry → Option Nat
  | opened _ index _ => some index
  | _ => none

/-- The frame that a timer waits for. -/
def booked? : Entry → Option Nat
  | booked _ index _ _ => some index
  | _ => none

/-- The timer that delivers a frame, and the frame. -/
def played? : Entry → Option (Nat × Nat)
  | played number index _ _ => some (number, index)
  | _ => none

end Entry

/-- A listener's diary. -/
structure Diary where
  /-- The speed in effect. -/
  speed : Float := 1.0
  /-- What was written down since the recording was started. -/
  entries : List Entry := []

/-- When the wait ends that a stretch leaves behind. -/
def Stretch.due? (stretch : Stretch τ) : Option Nat := (stretch.timer.bind (·.waiting)).map (·.2)

/-- The entries of a timer that has delivered something and now comes to the frame at an index: so
many frames more are delivered at once, and then it may wait for another. -/
def furtherEntries (number now : Nat) (speed : Float) (due? : Option Nat) (index : Nat) :
    Nat → List Entry
  | 0 => due?.toList.map (.booked number index now ·)
  | count + 1 =>
    .booked number index now now :: .played number index now speed ::
      furtherEntries number now speed due? (index + 1) count

/-- A timer that has waited for nothing yet begins with the frame at an index. -/
def Timer.opening (timer : Timer τ) (number index now : Nat) : List Entry :=
  if timer.waiting.isNone then [.opened number index now] else []

/-- The entries of a timer that runs and comes to the frame at an index. -/
def Timer.entries (timer : Timer τ) (number now : Nat) (speed : Float) (index : Nat)
    (reader : Reader τ) : List Entry :=
  let stretch := timer.wake now reader
  match stretch.texts.length with
  | 0 => furtherEntries number now speed stretch.due? index 0
  | count + 1 =>
    timer.opening number index now ++ .played number index now speed ::
      furtherEntries number now speed stretch.due? (index + 1) count

/-- Write down what an event does to a player. -/
def Diary.note (diary : Diary) (state : Reader τ × Ledger τ) : Event τ → Diary
  | .load _ data =>
    match Header.read data with
    | .ok _ => { diary with entries := [] }
    | .error _ => diary
  | .start _ => if state.1.status = .loaded then { diary with entries := [] } else diary
  | .setSpeed asked => { diary with speed := clampSpeed diary.speed asked }
  | .wake position now =>
    match state.1.timers[position]?, state.2.numbers[position]? with
    | some timer, some number =>
      { diary with
        entries := diary.entries ++
          timer.entries number now diary.speed state.2.heard.length state.1 }
    | _, _ => diary
  | .pause | .resume | .stop => diary

namespace Reader

/-- One event, watched and written down. -/
def record (state : (Reader τ × Ledger τ) × Diary) (event : Event τ) :
    (Reader τ × Ledger τ) × Diary :=
  (watch state.1 event, state.2.note state.1 event)

/-- The diary of a run. -/
def diary (events : List (Event τ)) : Diary := (events.foldl record (({}, {}), {})).2

@[simp] private theorem fst_foldl_record (events : List (Event τ)) :
    (events.foldl record (({}, {}), {})).1 = run events :=
  (List.foldl_hom Prod.fst fun _ _ ↦ rfl).symm

theorem diary_append_singleton (events : List (Event τ)) (event : Event τ) :
    diary (events ++ [event]) = (diary events).note (run events) event := by
  rw [diary, List.foldl_append, List.foldl_cons, List.foldl_nil, record, fst_foldl_record]
  rfl

end Reader

/-! ## Which entry follows which -/

/-- One entry comes after another in the diary of a recording with these times. -/
inductive Follows (times : List Nat) : Entry → Entry → Prop
  /-- A frame that a timer begins with is delivered in that instant. -/
  | atOnce {number index now : Nat} {speed : Float} :
    Follows times (.opened number index now) (.played number index now speed)
  /-- A frame that was waited for is delivered, and in the same instant if it was due at once. -/
  | waited {number index before due now : Nat} {speed : Float} (prompt : due = before → now = due) :
    Follows times (.booked number index before due) (.played number index now speed)
  /-- The wait for the next frame begins when a frame is delivered. How long it is depends on the
  two recorded times and on the speed at that moment. -/
  | next {number index now previous time : Nat} {speed : Float}
    (previous_eq : times[index]? = some previous) (time_eq : times[index + 1]? = some time) :
    Follows times (.played number index now speed)
      (.booked number (index + 1) now (waitEnd now (scheduledDelay previous time speed)))
  /-- A wait was broken off, and a timer that was started later begins with its frame. -/
  | resumed {number later index before due now : Nat} (lt : number < later) :
    Follows times (.booked number index before due) (.opened later index now)

/-- A place for every entry that a diary can have. -/
def Entry.rank : Entry → Nat
  | booked _ index _ _ => 3 * index
  | opened _ index _ => 3 * index + 1
  | played _ index _ _ => 3 * index + 2

/-- One entry has its place before another's. -/
def Entry.Precedes (first second : Entry) : Prop := first.rank < second.rank

instance : Trans Entry.Precedes Entry.Precedes Entry.Precedes := ⟨Nat.lt_trans⟩

private theorem Follows.precedes {times : List Nat} {first second : Entry}
    (h : Follows times first second) : first.Precedes second := by
  rcases h with _ | _ | _ | _ <;> simp only [Entry.Precedes, Entry.rank] <;> omega

private theorem index_pairwise {times : List Nat} {entries : List Entry}
    (follows : entries.IsChain (Follows times)) (place : Nat) {index? : Entry → Option Nat}
    (rank_eq : ∀ entry index, index? entry = some index → entry.rank = 3 * index + place) :
    (entries.filterMap index?).Pairwise (· < ·) := by
  have ordered : entries.Pairwise Entry.Precedes :=
    List.isChain_iff_pairwise.mp (follows.imp fun _ _ ↦ Follows.precedes)
  refine List.pairwise_filterMap.mpr (ordered.imp ?_)
  intro first second precedes index found later found'
  rw [Entry.Precedes, rank_eq first index found, rank_eq second later found'] at precedes
  omega

theorem booked_pairwise {times : List Nat} {entries : List Entry}
    (follows : entries.IsChain (Follows times)) :
    (entries.filterMap Entry.booked?).Pairwise (· < ·) := by
  refine index_pairwise follows 0 ?_
  rintro ⟨⟩ index ⟨⟩
  rfl

theorem opened_pairwise {times : List Nat} {entries : List Entry}
    (follows : entries.IsChain (Follows times)) :
    (entries.filterMap Entry.opened?).Pairwise (· < ·) := by
  refine index_pairwise follows 1 ?_
  rintro ⟨⟩ index ⟨⟩
  rfl

theorem scheduled_of_played {times : List Nat} {entries : List Entry}
    (follows : entries.IsChain (Follows times))
    (opening : ∀ entry, entries.head? = some entry → ∃ number now, entry = .opened number 0 now)
    {number index now : Nat} {speed : Float} (mem : .played number index now speed ∈ entries) :
    .opened number index now ∈ entries ∨
      ∃ before due, .booked number index before due ∈ entries := by
  obtain ⟨earlier, later, rfl⟩ := List.append_of_mem mem
  obtain ⟨-, -, link⟩ := List.isChain_append.mp follows
  cases last : earlier.getLast? with
  | none =>
    obtain ⟨_, _, other⟩ := opening (.played number index now speed) (by
      rw [List.getLast?_eq_none_iff.mp last]
      rfl)
    nomatch other
  | some entry =>
    have inside := List.mem_append_left (.played number index now speed :: later)
      (List.mem_of_getLast? last)
    rcases link entry last _ rfl with _ | _
    · exact .inl inside
    · exact .inr ⟨_, _, inside⟩

/-! ## What a timer writes -/

section

variable {reader : Reader τ} {timer : Timer τ} {frame : Pending} {now : Nat}

namespace Timer

/-- After its first frame the wait of a timer is the one that the recorded times ask for. -/
theorem delay_of_plan {previous delay : Nat} (last : reader.lastElapsed = some previous)
    (plan : reader.plan false = .deliver frame delay) :
    delay = scheduledDelay previous frame.elapsed reader.speed := by
  unfold Reader.plan at plan
  split at plan
  · cases plan
  split at plan
  · obtain ⟨rfl, same⟩ := Plan.deliver.inj plan
    rw [← same, Reader.delayBefore, last]
    rfl
  · cases plan

/-- From a frame that was delivered on, entry follows entry as it should. By induction on the
stretch: either the next frame is waited for, or it is delivered at once and is the one that the
rest goes on from. -/
theorem follows_run {times : List Nat} {number : Nat} {immediate : Bool}
    (later : immediate = false) (playing : reader.status = .playing) (loaded : reader.tape.isSome)
    (live : timer.cancelled = false) :
    ∀ index previous, reader.lastElapsed = some previous → times[index]? = some previous →
      times.drop (index + 1) = Playback.times reader.unread →
      (.played number index now reader.speed ::
        furtherEntries number now reader.speed (timer.run now immediate reader).due? (index + 1)
          (timer.run now immediate reader).texts.length).IsChain (Follows times) := by
  have time_of_next {reader : Reader τ} {frame : Pending} {index : Nat}
      (rest : times.drop index = Playback.times reader.unread)
      (next : reader.next? = some frame) : times[index]? = some frame.elapsed := by
    rw [← List.head?_drop, rest, times_of_next next]
    rfl
  fun_induction Timer.run timer now immediate reader with
  | case1 immediate reader halt => exact fun _ _ _ _ _ ↦ List.isChain_singleton _
  | case2 immediate reader finish => exact fun _ _ _ _ _ ↦ List.isChain_singleton _
  | case3 immediate reader frame delay plan wait =>
    intro index previous last previous_eq rest
    subst later
    rw [delay_of_plan last plan]
    have time_eq := time_of_next rest (next?_of_plan playing loaded plan)
    exact List.isChain_pair.mpr (.next previous_eq time_eq)
  | case4 immediate reader frame delay plan now cancelled =>
    rw [live] at cancelled
    cases cancelled
  | case5 immediate reader frame delay plan noWait goesOn further ih =>
    intro index previous last previous_eq rest
    subst later
    have next := next?_of_plan playing loaded plan
    have time_eq := time_of_next rest next
    have link : Follows times (.played number index now reader.speed)
        (.booked number (index + 1) now
          (waitEnd now (scheduledDelay previous frame.elapsed reader.speed))) :=
      .next previous_eq time_eq
    -- a wait of no length ends where it begins
    rw [← delay_of_plan last plan, not_ne_iff.mp noWait] at link
    have onward : times.drop (index + 2) = Playback.times (reader.take frame).unread := by
      rw [← List.tail_drop, rest, times_of_next next]
      rfl
    refine List.isChain_cons_cons.mpr ⟨link, List.isChain_cons_cons.mpr ⟨.waited fun _ ↦ rfl, ?_⟩⟩
    exact ih rfl playing loaded (index + 1) frame.elapsed rfl time_eq onward

theorem entries_of_silent {number index : Nat} {speed : Float} {after : Reader τ}
    (silent : timer.wake now reader = ⟨after, [], none⟩) :
    timer.entries number now speed index reader = [] := by
  rw [entries, silent]
  rfl

end Timer

section

variable {number now : Nat} {speed : Float}

private theorem Timer.number_of_mem_opening (timer : Timer τ) {index : Nat} {entry : Entry}
    (mem : entry ∈ timer.opening number index now) : entry.number = number := by
  rw [opening] at mem
  split at mem
  · rw [List.mem_singleton.mp mem]
    rfl
  · nomatch mem

private theorem Timer.played?_opening (timer : Timer τ) (index : Nat) :
    (timer.opening number index now).filterMap Entry.played? = [] := by
  rw [opening]
  split <;> rfl

private theorem number_of_mem_furtherEntries {due? : Option Nat} {index count : Nat} {entry : Entry}
    (mem : entry ∈ furtherEntries number now speed due? index count) : entry.number = number := by
  induction count generalizing index with
  | zero =>
    obtain ⟨due, -, rfl⟩ := List.mem_map.mp mem
    rfl
  | succ count ih =>
    rcases List.mem_cons.mp mem with rfl | mem
    · rfl
    rcases List.mem_cons.mp mem with rfl | mem
    · rfl
    · exact ih mem

private theorem played?_furtherEntries (due? : Option Nat) (index : Nat) (texts : List String) :
    (furtherEntries number now speed due? index texts.length).filterMap Entry.played? =
      (texts.map fun _ ↦ number).zipIdx index := by
  induction texts generalizing index with
  | nil => cases due? <;> rfl
  | cons text texts ih =>
    rw [List.map_cons, List.zipIdx_cons, ← ih]
    rfl

/-- A timer that goes on waiting is written of last as it begins to wait. -/
theorem getLast?_furtherEntries (entry : Entry) (due index count : Nat) :
    (entry :: furtherEntries number now speed (some due) index count).getLast? =
      some (.booked number (index + count) now due) := by
  induction count generalizing index entry with
  | zero => rfl
  | succ count ih =>
    rw [furtherEntries, List.getLast?_cons_cons, List.getLast?_cons_cons, ih,
      Nat.succ_add_eq_add_succ]

end

@[simp] theorem Reader.speed_wakeAt (reader : Reader τ) (position now : Nat) :
    (reader.wakeAt position now).speed = reader.speed := by
  unfold wakeAt
  split
  · rfl
  · dsimp only
    split <;> exact speed_wake _ now reader

/-- What a timer writes when it runs and comes to the frame at an index. -/
structure Timer.Writes (timer : Timer τ) (number now : Nat) (speed : Float) (times : List Nat)
    (index : Nat) (stretch : Stretch τ) (entries : List Entry) : Prop where
  number_eq : ∀ entry ∈ entries, entry.number = number
  /-- What it delivers is written of. -/
  played_eq : entries.filterMap Entry.played? = (stretch.texts.map fun _ ↦ number).zipIdx index
  /-- From the frame that it delivers first on, entry follows entry as it should. -/
  follows : ∃ tail,
    entries = timer.opening number index now ++ .played number index now speed :: tail ∧
    (.played number index now speed :: tail).IsChain (Follows times)
  /-- A wait is not over before it begins, and its entry is the last. -/
  lt_due : ∀ due, stretch.due? = some due → now < due
  last_eq : ∀ due, stretch.due? = some due →
    entries.getLast? = some (.booked number (index + stretch.texts.length) now due)

theorem Timer.Writes.getLast?_append {number : Nat} {speed : Float} {times : List Nat} {index : Nat}
    {stretch : Stretch τ} {entries : List Entry}
    (h : timer.Writes number now speed times index stretch entries) (before : List Entry)
    {due : Nat} (waits : stretch.due? = some due) :
    (before ++ entries).getLast? =
      some (.booked number (index + stretch.texts.length) now due) := by
  rw [List.getLast?_append, h.last_eq due waits]
  rfl

theorem Reader.Live.written {given : List (Timer τ)} (live : reader.Live given timer)
    (playing : reader.status = .playing) (loaded : reader.tape ≠ none)
    (next : reader.next? = some frame) {times : List Nat} {index : Nat}
    (rest : times.drop index = Playback.times reader.unread) (number now : Nat) :
    timer.Writes number now reader.speed times index (timer.wake now reader)
      (timer.entries number now reader.speed index reader) := by
  have loaded := Option.isSome_iff_ne_none.mpr loaded
  let further := timer.run now false (reader.take frame)
  have woken : timer.wake now reader = { further with texts := frame.text :: further.texts } :=
    Timer.wake_of_next playing loaded live.goes_on live.chosen next
  let tail := furtherEntries number now reader.speed further.due? (index + 1) further.texts.length
  have entries_eq : timer.entries number now reader.speed index reader =
      timer.opening number index now ++ .played number index now reader.speed :: tail := by
    rw [Timer.entries, woken]
    rfl
  have taken : (reader.take frame).status = .playing := playing
  rw [times_of_next next] at rest
  refine ⟨?_, ?_, ⟨tail, entries_eq, ?_⟩, ?_, ?_⟩
  · intro entry mem
    rw [entries_eq, List.mem_append] at mem
    rcases mem with first | mem
    · exact timer.number_of_mem_opening first
    rcases List.mem_cons.mp mem with rfl | mem
    · rfl
    · exact number_of_mem_furtherEntries mem
  · rw [entries_eq, List.filterMap_append, timer.played?_opening, woken, List.map_cons,
      List.zipIdx_cons, ← played?_furtherEntries]
    rfl
  · refine Timer.follows_run rfl taken loaded live.goes_on index frame.elapsed rfl ?_ ?_
    · rw [← List.head?_drop, rest]
      rfl
    · rw [← List.tail_drop, rest]
      rfl
  · intro due waits
    have delivers : timer.Delivers now reader (timer.wake now reader) :=
      Timer.delivers_wake playing loaded live.goes_on live.chosen
    obtain ⟨between, -, ⟨-, other, later, -, lt, still⟩ | ⟨-, -, ended⟩⟩ := delivers
    · rw [Stretch.due?, still] at waits
      cases waits
      exact lt
    · rw [Stretch.due?, ended] at waits
      nomatch waits
  · intro due waits
    rw [woken] at waits
    have waits : further.due? = some due := waits
    rw [entries_eq, woken, List.getLast?_append_of_ne_nil _ (List.cons_ne_nil _ _)]
    dsimp only [tail]
    rw [waits, getLast?_furtherEntries, List.length_cons, Nat.succ_add_eq_add_succ]

end

end Glyphcast.Playback
