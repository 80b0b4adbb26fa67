import Glyphcast.Proofs.Session.Passage
import Mathlib.Data.Multiset.OrderedMonoid

/-!
# Silence

A session that was closed, or to which a write has failed, takes nothing more: whoever asks is
turned away. But whoever asked before, and was told that the session is open, is not asked again at
the outbox. Such a send may come after the outbox was discarded, and then it is queued and counted,
it starts a writer where there is none, and it may be written.

## What is shown

The moment that counts is the one at which the outbox has been discarded, the last step of a closing
or of a failed write. From there on everything that happens is made up of the item at the sink, if
there is one, and of the sends that were under way (`Winds`): each of them comes to the outbox once
at most, and nobody else does. So there is silence, whatever happens (`Silent`), exactly if no send
was under way at that moment. Where calls do not interrupt each other that is always so
(`silent_of_calls`).
-/

namespace Glyphcast.Session.Traffic

/-- The step is the last one of a closing, or of a write that failed. -/
def Ends (traffic : Traffic) : Step → Prop
  | .clear => 0 < traffic.closings
  | .abort => traffic.refusal = some .flagged
  | _ => False

/-- The writer at the sink looks for its next item, or gives up. -/
def WriterActs (traffic : Traffic) : Step → Prop
  | .take => ∃ waiting, traffic.session.turns = .writer none :: waiting
  | .abort => traffic.refusal = some .flagged
  | _ => False

/-- What can be relied on from `start` on, after whatever steps. -/
structure Winds (start : Traffic) (later : List Step) : Prop where
  closed : (start.run later).session.isClosed = true
  /-- Whoever asks is turned away. -/
  ask_eq : ∀ item, (start.run later).step (.ask item) = start.run later
  /-- Of the sends that were under way each comes to the outbox once at most, and no other. -/
  sends_eq : start.queued later + (start.run later).sends = start.sends
  /-- Nothing waits but what came in that way. -/
  items_le : (start.run later).session.outbox.items ≤ start.queued later
  /-- Nothing is written but that, and what was at the sink. -/
  written_le : start.written later + (start.run later).session.hand ≤
    start.session.hand + start.queued later
  /-- The flag tells whether there is a writer, and there is one at most. -/
  writers_eq : (start.run later).writers = if (start.run later).session.outbox.writing then 1 else 0
  /-- No writer is started but for an item that came in. -/
  writers_le : (start.run later).writers ≤ start.writers + (start.queued later).card
  /-- A frame that came in is counted. -/
  enqueued_eq : (start.run later).session.tally.framesEnqueued =
    start.session.tally.framesEnqueued + (start.queued later).countP (·.isFrame)

/-- Silence from `start` on, after some steps. -/
structure Silent (start : Traffic) (later : List Step) : Prop where
  closed : (start.run later).session.isClosed = true
  /-- Nothing came to the outbox, and no frame was counted. -/
  queued_eq : start.queued later = 0
  enqueued_eq : (start.run later).session.tally.framesEnqueued = start.session.tally.framesEnqueued
  dropped_eq : (start.run later).session.tally.framesDropped = start.session.tally.framesDropped
  /-- The lanes are empty. -/
  replies_eq : (start.run later).session.outbox.replies = []
  frames_eq : (start.run later).session.outbox.frames = []
  /-- What was written, and what is at the sink, was at the sink. -/
  written_le : start.written later + (start.run later).session.hand ≤ start.session.hand
  /-- What was written is what was counted as written. -/
  framesWritten_eq : (start.run later).session.tally.framesWritten =
    start.session.tally.framesWritten + (start.written later).countP (·.isFrame)
  repliesWritten_eq : (start.run later).session.tally.repliesWritten =
    start.session.tally.repliesWritten + (start.written later).countP (!·.isFrame)
  /-- No writer was started. -/
  writers_le : (start.run later).writers ≤ start.writers
  /-- The flag tells whether there is a writer, and there is one at most. -/
  writers_eq : (start.run later).writers = if (start.run later).session.outbox.writing then 1 else 0
  /-- The writer ends the next time it acts, and there is none from then on. -/
  ended : ∀ next, (start.run later).WriterActs next → ∀ rest,
    ((start.run later).run (next :: rest)).session.outbox.writing = false ∧
      ((start.run later).run (next :: rest)).writers = 0

/-- What is promised at the moment `start`, after the last step of a closing or a failed write. -/
structure Silenced (last : Step) (start : Traffic) : Prop where
  closed : start.session.isClosed = true
  /-- Nothing waits. -/
  items_eq : start.session.outbox.items = 0
  /-- After a failed write nothing is at the sink. -/
  hand_eq : last = .abort → start.session.hand = 0
  winds : ∀ later, Winds start later
  /-- There is silence exactly if no send is under way. -/
  silent_iff : (∀ later, Silent start later) ↔ start.sends = 0

section

variable {start : Traffic}

private theorem Sound.winds (h : start.Sound) (closed : start.session.isClosed = true)
    (empty : start.session.outbox.items = 0) (later : List Step) : Winds start later := by
  have moves := h.moves_run later
  have items_le := moves.items_le
  have held_le := moves.held_le
  rw [empty, zero_add] at items_le
  rw [held, held, empty, zero_add] at held_le
  exact {
    closed := moves.isClosed closed
    ask_eq := fun item ↦ if_pos (moves.isClosed closed)
    sends_eq := moves.sends_eq closed
    items_le := items_le
    written_le := (add_le_add_right (Multiset.le_add_left _ _) _).trans held_le
    writers_eq := (h.run later).writers_eq
    writers_le := moves.writers_le
    enqueued_eq := moves.enqueued_eq }

/-- Without a writer, and without a send under way, there is no writer later on. -/
theorem Sound.rests (h : start.Sound) (closed : start.session.isClosed = true)
    (sends : start.sends = 0) (idle : start.writers = 0) (later : List Step) :
    (start.run later).session.outbox.writing = false ∧ (start.run later).writers = 0 := by
  have moves := h.moves_run later
  have queued : start.queued later = 0 := (add_eq_zero.mp ((moves.sends_eq closed).trans sends)).1
  have writers_le := moves.writers_le
  rw [queued, idle] at writers_le
  have still : (start.run later).writers = 0 := Nat.le_zero.mp writers_le
  refine ⟨?_, still⟩
  have writers_eq := (h.run later).writers_eq
  rw [still] at writers_eq
  split_ifs at writers_eq with writing
  exact Bool.eq_false_iff.mpr writing

private theorem Sound.writers_of_writerActs (h : start.Sound)
    (empty : start.session.outbox.items = 0) {next : Step} (acts : start.WriterActs next) :
    (start.step next).writers = 0 := by
  match next with
  | .take =>
    obtain ⟨waiting, turns⟩ := acts
    have taken := start.session.outbox.items_next
    rw [empty] at taken
    have nothing : start.session.outbox.next.1 = none :=
      Option.toList_eq_nil_iff.mp (Multiset.coe_eq_zero _ |>.mp (add_eq_zero.mp taken).2)
    rw [Traffic.step, take_of_turns turns, nothing]
    exact h.writers_of_turns turns
  | .abort =>
    have raised : start.refusal = some .flagged := acts
    obtain ⟨item, waiting, turns⟩ := h.refused (by simp [raised])
    rw [Traffic.step, if_pos raised, turns]
    exact h.writers_of_turns turns

theorem Sound.silent (h : start.Sound) (closed : start.session.isClosed = true)
    (empty : start.session.outbox.items = 0) (sends : start.sends = 0) (later : List Step) :
    Silent start later := by
  have moves := h.moves_run later
  have winds := h.winds closed empty later
  have queued : start.queued later = 0 := (add_eq_zero.mp (winds.sends_eq.trans sends)).1
  have rest : (start.run later).sends = 0 := (add_eq_zero.mp (winds.sends_eq.trans sends)).2
  have items : (start.run later).session.outbox.items = 0 :=
    Multiset.le_zero.mp (queued ▸ winds.items_le)
  have lanes := Outbox.items_eq_zero_iff.mp items
  have written_le := winds.written_le
  have writers_le := winds.writers_le
  have enqueued_eq := winds.enqueued_eq
  have dropped_le := moves.dropped_le
  rw [queued] at written_le writers_le enqueued_eq dropped_le
  rw [add_zero] at written_le
  exact {
    closed := winds.closed
    queued_eq := queued
    enqueued_eq := enqueued_eq
    dropped_eq := Nat.le_antisymm dropped_le moves.dropped_ge
    replies_eq := lanes.1
    frames_eq := lanes.2
    written_le := written_le
    framesWritten_eq := moves.framesWritten_eq
    repliesWritten_eq := moves.repliesWritten_eq
    writers_le := writers_le
    writers_eq := winds.writers_eq
    ended := by
      intro next acts others
      have sound := h.run later
      have step := sound.moves_step next
      have sends_eq := (step.sends_eq winds.closed).trans rest
      exact (sound.step next).rests (step.isClosed winds.closed)
        (add_eq_zero.mp sends_eq).2 (sound.writers_of_writerActs items acts) others }

/-- A send that is under way may go on. -/
theorem sends_eq_of_silent (silent : ∀ later, Silent start later) : start.sends = 0 := by
  by_contra underWay
  obtain ⟨item, mem⟩ := Multiset.exists_mem_of_ne_zero underWay
  have queued := (silent [.put item]).queued_eq
  rw [Traffic.queued, queuedBy, if_pos mem] at queued
  exact Multiset.singleton_ne_zero item (add_eq_zero.mp queued).1

/-- The last step leaves nothing that waits. -/
theorem Sound.silenced (h : start.Sound) {last : Step} (ends : start.Ends last) :
    Silenced last (start.step last) := by
  have sound := h.step last
  suffices (start.step last).session.isClosed = true ∧
      (start.step last).session.outbox.items = 0 ∧
      (last = .abort → (start.step last).session.hand = 0) by
    obtain ⟨closed, empty, hand⟩ := this
    exact {
      closed := closed
      items_eq := empty
      hand_eq := hand
      winds := sound.winds closed empty
      silent_iff := ⟨sends_eq_of_silent, sound.silent closed empty⟩ }
  match last with
  | .clear =>
    have closing : 0 < start.closings := ends
    rw [Traffic.step, if_pos closing]
    refine ⟨?_, rfl, by simp⟩
    rw [isClosed, Bool.or_eq_true, decide_eq_true_eq]
    exact .inl (h.closing closing)
  | .abort =>
    have raised : start.refusal = some .flagged := ends
    obtain ⟨item, waiting, turns⟩ := h.refused (by simp [raised])
    rw [Traffic.step, if_pos raised, turns]
    refine ⟨?_, rfl, fun _ ↦ hand_of_waiting turns h.waiting_empty rfl⟩
    rw [isClosed, Bool.or_eq_true]
    exact .inr (h.flagged raised)

end

/-- From the moment at which the outbox was discarded, whatever happened before: nothing happens but
by sends that were under way, and there is silence exactly if there was none. -/
theorem silenced_run (id capacity now : Nat) (before : List Step) (last : Step)
    (ends : (run { session := .new id capacity now } before).Ends last) :
    Silenced last (run { session := .new id capacity now } (before ++ [last])) := by
  rw [run_append]
  exact ((sound_new id capacity now).run before).silenced ends

/-- A frame is at the sink and a reply waits when the session is closed, and someone who has asked
before is still to come. -/
theorem silenced_busy :
    (run { session := .new 1 10 0 } [.ask (.frame "a"), .put (.frame "a"), .join, .take,
        .ask (.reply "r"), .put (.reply "r"), .ask (.frame "late"), .close]).Ends .clear ∧
    Silenced .clear
      { session :=
          { id := 1
            phase := .closed
            outbox := { writing := true }
            tally := { framesEnqueued := 1 }
            turns := [.writer (some (.frame "a"))] }
        sends := {.frame "late"} } :=
  ⟨Nat.one_pos, silenced_run 1 10 0 [.ask (.frame "a"), .put (.frame "a"), .join, .take,
    .ask (.reply "r"), .put (.reply "r"), .ask (.frame "late"), .close] .clear Nat.one_pos⟩

/-- Whoever asked before the session was closed may still queue a frame afterwards, and have it
counted and written by a new writer. The same goes for a write that fails. -/
theorem written_late :
    (let start := run { session := .new 1 10 0 } [.ask (.frame "late"), .close, .clear]
      let later : List Step := [.put (.frame "late"), .join, .take, .confirm]
      start.session.isClosed = true ∧ start.session.outbox.isEmpty = true ∧ start.writers = 0 ∧
        start.queued later = {.frame "late"} ∧ start.written later = {.frame "late"} ∧
        (start.run later).writers = 1 ∧ (start.run later).session.tally.framesEnqueued = 1) ∧
    (let start := run { session := .new 1 10 0 } [.ask (.reply "r"), .put (.reply "r"), .join,
        .take, .ask (.frame "late"), .refuse, .flag, .abort]
      let later : List Step := [.put (.frame "late"), .join, .take, .confirm]
      start.session.writeFailed = true ∧ start.session.outbox.isEmpty = true ∧ start.writers = 0 ∧
        start.queued later = {.frame "late"} ∧ start.written later = {.frame "late"} ∧
        (start.run later).writers = 1 ∧ (start.run later).session.tally.framesEnqueued = 1) := by
  decide

/-! ## Calls that nobody interrupts -/

/-- Where nobody comes in between the steps of a call, a session that was closed or to which a write
has failed is silent from then on. -/
theorem silent_of_calls (id capacity now : Nat) (events : List Event) {event : Event}
    (closes : event = .close ∨
      event = .fail ∧ (applyAll (.new id capacity now) events).inFlight? ≠ none)
    (later : List Step) :
    Silent { session := applyAll (.new id capacity now) (events ++ [event]) } later := by
  -- the steps of the call, all but the last
  obtain ⟨first, last, steps, ends⟩ : ∃ first last, event.steps = first ++ [last] ∧
      (run { session := applyAll (.new id capacity now) events } first).Ends last := by
    rcases closes with rfl | ⟨rfl, hand⟩
    · exact ⟨[.close], .clear, rfl, Nat.one_pos⟩
    · refine ⟨[.refuse, .flag], .abort, rfl, ?_⟩
      have atSink := Option.isSome_iff_ne_none.mpr hand
      simp [Ends, run, step, atSink]
  rw [← run_flatMap_steps, ← run_append] at ends
  have silenced := silenced_run id capacity now _ last ends
  rw [List.append_assoc, ← steps, run_append, run_flatMap_steps, run_steps] at silenced
  rw [applyAll_append]
  exact silenced.silent_iff.mpr rfl later

end Glyphcast.Session.Traffic
