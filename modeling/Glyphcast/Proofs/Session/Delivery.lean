import Glyphcast.Proofs.Session.Events
import Mathlib.Data.List.Induction

/-!
# What becomes of a session's items

What can be relied on while a session is open, in every interleaving of those who send and the
writer: there is one writer where something waits and never more, no reply is lost, and of the
frames exactly those that were pushed out.

## The invariant

Of every frame sent it is known whether it left the lane or still waits, and those that left did so
in the order in which they came. With `exits` for the frames that left,

```text
frames sent    =  exits  ++  lane
exits (taken)  =  frames written  ++  frame at the sink
```

and the same for replies, without the first line's loss. The flag `writing` says that there is
exactly one writer among the turns, and only the turn at the head can have an item.
-/

namespace Glyphcast

namespace Session

/-! ## The invariant -/

/-- The books of an open session are in order: `frames` and `replies` are what was sent to it. -/
structure Balanced (capacity : Nat) (frames replies : List String) (session : Session)
    (ledger : Ledger) : Prop where
  /-- The lane keeps the capacity that it was made with. -/
  capacity_eq : session.outbox.capacity = max capacity 1
  /-- The lane holds no more than that. -/
  lane_le : session.outbox.frames.length ≤ max capacity 1
  /-- The flag tells whether there is a writer, and there is one at most. -/
  writers_eq : session.writers = if session.outbox.writing then 1 else 0
  /-- Only the turn at the sink has an item in hand. -/
  waiting_empty : ∀ turn ∈ session.turns.tail, turn.item? = none
  /-- A frame has left the lane or is in it. -/
  frames_eq : ledger.exits.map (·.2) ++ session.outbox.frames = frames
  /-- A frame that was taken was written or is at the sink. -/
  taken_eq : ledger.left .taken = ledger.frames ++ session.frameInFlight
  /-- A reply was written, or is at the sink, or waits. -/
  replies_eq : ledger.replies ++ session.replyInFlight ++ session.outbox.replies = replies
  enqueued_eq : session.tally.framesEnqueued = frames.length
  written_eq : session.tally.framesWritten = ledger.frames.length
  dropped_eq : session.tally.framesDropped = (ledger.left .evicted).length
  repliesWritten_eq : session.tally.repliesWritten = ledger.replies.length

/-- Something waits only while there is a writer. -/
def Awake (session : Session) : Prop :=
  session.outbox.isEmpty = false → session.outbox.writing = true

variable {capacity : Nat} {frames replies : List String} {session : Session} {ledger : Ledger}

theorem Balanced.new (id capacity now : Nat) :
    Balanced capacity [] [] (.new id capacity now) {} where
  capacity_eq := rfl
  lane_le := Nat.zero_le _
  writers_eq := rfl
  waiting_empty := by simp [Session.new]
  frames_eq := rfl
  taken_eq := rfl
  replies_eq := rfl
  enqueued_eq := rfl
  written_eq := rfl
  dropped_eq := rfl
  repliesWritten_eq := rfl

private theorem awake_startWriter (session : Session) : session.startWriter.Awake := by
  intro waits
  rw [startWriter_outbox] at waits ⊢
  have : session.outbox.isEmpty = false := waits
  simp [this]

theorem Balanced.startWriter (h : Balanced capacity frames replies session ledger) :
    Balanced capacity frames replies session.startWriter ledger where
  capacity_eq := by rw [startWriter_outbox]; exact h.capacity_eq
  lane_le := by rw [startWriter_outbox]; exact h.lane_le
  writers_eq := by
    rw [startWriter_writers, startWriter_outbox, h.writers_eq]
    cases session.outbox.writing <;> cases session.outbox.isEmpty <;> rfl
  waiting_empty := by
    rw [startWriter_turns]
    split_ifs
    · exact h.waiting_empty
    · exact tail_append_empty h.waiting_empty rfl
  frames_eq := by rw [startWriter_outbox]; exact h.frames_eq
  taken_eq := by rw [frameInFlight, startWriter_inFlight?]; exact h.taken_eq
  replies_eq := by
    rw [replyInFlight, startWriter_inFlight?, startWriter_outbox]
    exact h.replies_eq
  enqueued_eq := h.enqueued_eq
  written_eq := h.written_eq
  dropped_eq := h.dropped_eq
  repliesWritten_eq := h.repliesWritten_eq

/-! ## One event -/

/-- A frame for a lane with room is put at its end. -/
theorem pushFrame_of_lt {outbox : Outbox} (room : outbox.frames.length < outbox.capacity)
    (text : String) :
    outbox.pushFrame text = (none, { outbox with frames := outbox.frames ++ [text] }) := by
  rw [Outbox.pushFrame, if_neg (by omega)]

/-- A frame for a full lane takes the place of the oldest. -/
theorem pushFrame_of_full {outbox : Outbox} {oldest : String} {rest : List String}
    (lane : outbox.frames = oldest :: rest) (full : outbox.capacity ≤ outbox.frames.length)
    (text : String) :
    outbox.pushFrame text = (some oldest, { outbox with frames := rest ++ [text] }) := by
  rw [Outbox.pushFrame, if_pos full, lane]
  rfl

/-- In a session in order a lane has room, or it is exactly full and has an oldest frame. -/
theorem Balanced.lane_cases (h : Balanced capacity frames replies session ledger) :
    session.outbox.frames.length < session.outbox.capacity ∨
      ∃ oldest rest, session.outbox.frames = oldest :: rest ∧
        session.outbox.frames.length = max capacity 1 := by
  have bound := h.lane_le
  have size := h.capacity_eq
  by_cases room : session.outbox.frames.length < session.outbox.capacity
  · exact .inl room
  · cases lane : session.outbox.frames with
    | nil => rw [lane] at room; simp only [List.length_nil] at room; omega
    | cons oldest rest => exact .inr ⟨oldest, rest, rfl, by rw [← lane]; omega⟩

theorem Balanced.enqueue (h : Balanced capacity frames replies session ledger)
    (room : session.outbox.frames.length < session.outbox.capacity) (text : String) :
    Balanced capacity (frames ++ [text]) replies
      { session with
        outbox := { session.outbox with frames := session.outbox.frames ++ [text] }
        tally := { session.tally with framesEnqueued := session.tally.framesEnqueued + 1 } }
      ledger :=
  { h with
    lane_le := by
      have := h.capacity_eq
      simp only [List.length_append, List.length_singleton]
      omega
    frames_eq := by rw [← List.append_assoc, h.frames_eq]
    enqueued_eq := by rw [h.enqueued_eq, List.length_append, List.length_singleton] }

private theorem Balanced.evict (h : Balanced capacity frames replies session ledger)
    {oldest : String} {rest : List String} (lane : session.outbox.frames = oldest :: rest)
    (text : String) :
    Balanced capacity (frames ++ [text]) replies
      { session with
        outbox := { session.outbox with frames := rest ++ [text] }
        tally := { session.tally with
          framesEnqueued := session.tally.framesEnqueued + 1
          framesDropped := session.tally.framesDropped + 1 } }
      { ledger with exits := ledger.exits ++ [(.evicted, oldest)] } :=
  { h with
    lane_le := by
      have := h.lane_le
      rw [lane] at this
      simpa using this
    frames_eq := by
      have := h.frames_eq
      rw [lane] at this
      simp [← this]
    taken_eq := by
      rw [Ledger.left_append]
      exact (List.append_nil _).trans h.taken_eq
    enqueued_eq := by rw [h.enqueued_eq, List.length_append, List.length_singleton]
    dropped_eq := by rw [Ledger.left_append, h.dropped_eq]; simp }

private theorem sendFrame_of_lt (isOpen : session.isClosed = false)
    (room : session.outbox.frames.length < session.outbox.capacity) (text : String) :
    session.sendFrame text = startWriter { session with
      outbox := { session.outbox with frames := session.outbox.frames ++ [text] }
      tally := { session.tally with framesEnqueued := session.tally.framesEnqueued + 1 } } := by
  rw [sendFrame, if_neg (by simp [isOpen]), pushFrame_of_lt room]
  rfl

private theorem sendFrame_of_full (isOpen : session.isClosed = false) {oldest : String}
    {rest : List String} (lane : session.outbox.frames = oldest :: rest)
    (full : session.outbox.capacity ≤ session.outbox.frames.length) (text : String) :
    session.sendFrame text = startWriter { session with
      outbox := { session.outbox with frames := rest ++ [text] }
      tally := { session.tally with
        framesEnqueued := session.tally.framesEnqueued + 1
        framesDropped := session.tally.framesDropped + 1 } } := by
  rw [sendFrame, if_neg (by simp [isOpen]), pushFrame_of_full lane full]
  rfl

theorem Balanced.sendFrame (h : Balanced capacity frames replies session ledger)
    (isOpen : session.isClosed = false) (text : String) :
    Balanced capacity (frames ++ [text]) replies (session.sendFrame text)
      (ledger.note session (.sendFrame text)) := by
  rw [Ledger.note, if_neg (by simp [isOpen])]
  rcases h.lane_cases with room | ⟨oldest, rest, lane, full⟩
  · rw [sendFrame_of_lt isOpen room, pushFrame_of_lt room]
    simpa using (h.enqueue room text).startWriter
  · have full : session.outbox.capacity ≤ session.outbox.frames.length :=
      Nat.le_of_eq (h.capacity_eq.trans full.symm)
    rw [sendFrame_of_full isOpen lane full, pushFrame_of_full lane full]
    exact (h.evict lane text).startWriter

/-- A reply is sent: the books stay in order, with one reply more. -/
theorem Balanced.sendReply (h : Balanced capacity frames replies session ledger)
    (isOpen : session.isClosed = false) (text : String) :
    Balanced capacity frames (replies ++ [text]) (session.sendReply text) ledger := by
  rw [Session.sendReply, if_neg (by simp [isOpen])]
  refine Balanced.startWriter { h with replies_eq := ?_ }
  rw [← h.replies_eq]
  exact (List.append_assoc ..).symm

private theorem Balanced.tail_empty (h : Balanced capacity frames replies session ledger)
    {turn : Turn} {waiting : List Turn} (turns : session.turns = turn :: waiting) :
    ∀ turn ∈ waiting, turn.item? = none := by
  have := h.waiting_empty
  rwa [turns] at this

private theorem Balanced.writers_cons (h : Balanced capacity frames replies session ledger)
    {turn : Turn} {waiting : List Turn} (turns : session.turns = turn :: waiting) :
    waiting.countP Turn.isWriter + (if turn.isWriter then 1 else 0) =
      if session.outbox.writing then 1 else 0 := by
  rw [← h.writers_eq, writers, turns, List.countP_cons]

/-- A turn at the head may be replaced by another of its kind. -/
theorem Balanced.writers_swap (h : Balanced capacity frames replies session ledger)
    {turn other : Turn} {waiting : List Turn} (turns : session.turns = turn :: waiting)
    (same : other.isWriter = turn.isWriter) :
    (other :: waiting).countP Turn.isWriter = if session.outbox.writing then 1 else 0 := by
  rw [List.countP_cons, same]
  exact h.writers_cons turns

private theorem Balanced.inFlight?_tail (h : Balanced capacity frames replies session ledger)
    {turn : Turn} {waiting : List Turn} (turns : session.turns = turn :: waiting) :
    waiting.head?.bind Turn.item? = none := by
  cases waiting with
  | nil => rfl
  | cons next others => exact h.tail_empty turns next List.mem_cons_self

private theorem Balanced.taken_of_idle (h : Balanced capacity frames replies session ledger)
    (idle : session.inFlight? = none) : ledger.left .taken = ledger.frames := by
  have taken_eq := h.taken_eq
  rw [frameInFlight, idle] at taken_eq
  exact taken_eq.trans (List.append_nil _)

private theorem Balanced.replies_of_idle (h : Balanced capacity frames replies session ledger)
    (idle : session.inFlight? = none) : ledger.replies ++ session.outbox.replies = replies := by
  have replies_eq := h.replies_eq
  rw [replyInFlight, idle] at replies_eq
  exact (congrArg (· ++ _) (List.append_nil _)).symm.trans replies_eq

private theorem Balanced.takeReply (h : Balanced capacity frames replies session ledger)
    {text : String} {rest : List String} {waiting : List Turn}
    (turns : session.turns = .writer none :: waiting)
    (lane : session.outbox.replies = text :: rest) :
    Balanced capacity frames replies
      { session with
        outbox := { session.outbox with replies := rest }
        turns := .writer (some (.reply text)) :: waiting } ledger := by
  have idle : session.inFlight? = none := inFlight?_of_turns turns
  have replies_eq := h.replies_of_idle idle
  rw [lane] at replies_eq
  exact { h with
    writers_eq := h.writers_swap turns rfl
    waiting_empty := h.tail_empty turns
    taken_eq := (h.taken_of_idle idle).trans (List.append_nil _).symm
    replies_eq := by rw [← replies_eq, List.append_assoc]; rfl }

private theorem Balanced.takeFrame (h : Balanced capacity frames replies session ledger)
    {text : String} {rest : List String} {waiting : List Turn}
    (turns : session.turns = .writer none :: waiting)
    (lane : session.outbox.frames = text :: rest) :
    Balanced capacity frames replies
      { session with
        outbox := { session.outbox with frames := rest }
        turns := .writer (some (.frame text)) :: waiting }
      { ledger with exits := ledger.exits ++ [(.taken, text)] } := by
  have idle : session.inFlight? = none := inFlight?_of_turns turns
  have lane_le := h.lane_le
  have frames_eq := h.frames_eq
  rw [lane] at lane_le frames_eq
  exact { h with
    lane_le := Nat.le_of_succ_le lane_le
    writers_eq := h.writers_swap turns rfl
    waiting_empty := h.tail_empty turns
    frames_eq := by simp [← frames_eq]
    taken_eq := by
      rw [Ledger.left_append]
      exact congrArg (· ++ [text]) (h.taken_of_idle idle)
    replies_eq := (congrArg (· ++ _) (List.append_nil _)).trans (h.replies_of_idle idle)
    dropped_eq := by rw [Ledger.left_append]; simpa using h.dropped_eq }

/-- A turn with nothing in hand ends, and the flag says who is left. -/
theorem Balanced.advance (h : Balanced capacity frames replies session ledger) {turn : Turn}
    {waiting : List Turn} (turns : session.turns = turn :: waiting) (empty : turn.item? = none)
    {writing : Bool} (left : waiting.countP Turn.isWriter = if writing then 1 else 0) :
    Balanced capacity frames replies
      { session with outbox := { session.outbox with writing }, turns := waiting } ledger := by
  have idle : session.inFlight? = none := (inFlight?_of_turns turns).trans empty
  have after := h.inFlight?_tail turns
  exact { h with
    writers_eq := left
    waiting_empty := fun turn member ↦ h.tail_empty turns turn (List.mem_of_mem_tail member)
    taken_eq := by
      rw [frameInFlight, inFlight?, after, h.taken_of_idle idle]
      exact (List.append_nil _).symm
    replies_eq := by
      rw [replyInFlight, inFlight?, after, ← h.replies_of_idle idle]
      exact congrArg (· ++ _) (List.append_nil _) }

theorem Balanced.take (h : Balanced capacity frames replies session ledger) :
    Balanced capacity frames replies session.take (ledger.note session .take) := by
  rcases session.take_cases with ⟨text, rest, waiting, turns, lane, taken⟩ |
    ⟨text, rest, waiting, turns, -, lane, taken⟩ | ⟨waiting, turns, -, taken⟩ | taken
  · have noted : ledger.note session .take = ledger := by
      rw [Ledger.note, inFlight?_of_turns turns, taken]
      rfl
    rw [noted, taken]
    exact h.takeReply turns lane
  · have noted : ledger.note session .take =
        { ledger with exits := ledger.exits ++ [(.taken, text)] } := by
      rw [Ledger.note, inFlight?_of_turns turns, taken]
      rfl
    rw [noted, taken]
    exact h.takeFrame turns lane
  · have after : session.take.inFlight? = none := by
      rw [taken]
      exact h.inFlight?_tail turns
    have noted : ledger.note session .take = ledger := by
      rw [Ledger.note, inFlight?_of_turns turns, after]
      rfl
    -- the writer that ends was the only one, so the flag may go down
    have alone : waiting.countP Turn.isWriter = 0 := by
      have := h.writers_cons turns
      simp only [Turn.isWriter, if_true] at this
      split_ifs at this
      omega
    rw [noted, taken]
    exact h.advance turns rfl alone
  -- the turn is not a writer's, or the writer has something in hand already
  · have noted : ledger.note session .take = ledger := by
      rw [Ledger.note, taken]
      cases session.inFlight? <;> rfl
    rw [noted, taken]
    exact h

theorem Balanced.confirm (h : Balanced capacity frames replies session ledger) :
    Balanced capacity frames replies session.confirm (ledger.note session .confirm) := by
  rcases session.confirm_cases with ⟨item, waiting, turns, confirmed⟩ | ⟨nothing, confirmed⟩
  · have before : session.inFlight? = some item := inFlight?_of_turns turns
    have replies_eq := h.replies_eq
    have taken_eq := h.taken_eq
    rw [replyInFlight, before] at replies_eq
    rw [frameInFlight, before] at taken_eq
    rw [Ledger.note, before, confirmed]
    cases item with
    | reply text =>
      exact { h with
        writers_eq := h.writers_swap turns rfl
        waiting_empty := h.tail_empty turns
        taken_eq := taken_eq
        replies_eq := by rw [← replies_eq]; exact congrArg (· ++ _) (List.append_nil _)
        repliesWritten_eq := by
          simp [Tally.count, Ledger.write, h.repliesWritten_eq] }
    | frame text =>
      exact { h with
        writers_eq := h.writers_swap turns rfl
        waiting_empty := h.tail_empty turns
        taken_eq := taken_eq.trans (List.append_nil _).symm
        replies_eq := replies_eq
        written_eq := by simp [Tally.count, Ledger.write, h.written_eq] }
  · rw [Ledger.note, nothing, confirmed]
    exact h

theorem Balanced.leaveSink (h : Balanced capacity frames replies session ledger) :
    Balanced capacity frames replies session.leaveSink ledger := by
  unfold Session.leaveSink
  split
  · next waiting turns => exact h.advance turns rfl (h.writers_cons turns)
  · exact h

theorem Balanced.closeSink (h : Balanced capacity frames replies session ledger) :
    Balanced capacity frames replies session.closeSink ledger := by
  have same : session.closeSink.inFlight? = session.inFlight? := head_append_empty _ rfl
  exact { h with
    writers_eq := by
      change (session.turns ++ [Turn.closer]).countP Turn.isWriter = _
      rw [List.countP_append]
      exact h.writers_eq
    waiting_empty := tail_append_empty h.waiting_empty rfl
    taken_eq := by rw [frameInFlight, same]; exact h.taken_eq
    replies_eq := by rw [replyInFlight, same]; exact h.replies_eq }

/-! ## Runs -/

private theorem isOpen_of_apply {event : Event} (h : (session.apply event).isClosed = false) :
    session.isClosed = false := by
  cases event with
  | sendFrame text => exact (session.sameStanding_sendFrame text).isClosed.symm.trans h
  | sendReply text => exact (session.sameStanding_sendReply text).isClosed.symm.trans h
  | authenticate role =>
    by_contra closed
    simp only [apply, authenticate, isClosed, Phase.authenticate] at h closed
    split_ifs at h with new <;> simp_all
  | close => simp [apply, close, isClosed] at h
  | closeSink => exact h
  | take => exact session.sameStanding_take.isClosed.symm.trans h
  | confirm => exact session.sameStanding_confirm.isClosed.symm.trans h
  | fail =>
    rcases session.fail_cases with same | ⟨-, -, failed⟩
    · rwa [apply, same] at h
    · simp [apply, isClosed, failed] at h
  | leaveSink => exact session.sameStanding_leaveSink.isClosed.symm.trans h

/-- The books stay in order whatever happens, as long as the session stays open. -/
theorem Balanced.apply (h : Balanced capacity frames replies session ledger) {event : Event}
    (isOpen : (session.apply event).isClosed = false) :
    Balanced capacity (frames ++ event.frame?.toList) (replies ++ event.reply?.toList)
      (session.apply event) (ledger.note session event) := by
  have wasOpen := isOpen_of_apply isOpen
  cases event with
  | sendFrame text =>
    rw [show replies ++ (Event.sendFrame text).reply?.toList = replies from List.append_nil _]
    exact h.sendFrame wasOpen text
  | sendReply text =>
    rw [show frames ++ (Event.sendReply text).frame?.toList = frames from List.append_nil _]
    exact h.sendReply wasOpen text
  -- an event that closes the session is excluded
  | close => simp [Session.apply, close, isClosed] at isOpen
  | fail =>
    have same : session.fail = session := by
      rcases session.fail_cases with same | ⟨-, -, failed⟩
      · exact same
      · simp [Session.apply, isClosed, failed] at isOpen
    simpa [Session.apply, same, Event.frame?, Event.reply?, Ledger.note] using h
  | authenticate role =>
    simpa [Session.apply, Event.frame?, Event.reply?, Ledger.note] using
      show Balanced capacity frames replies (session.authenticate role) ledger from { h with }
  | closeSink => simpa [Session.apply, Event.frame?, Event.reply?, Ledger.note] using h.closeSink
  | take => simpa [Session.apply, Event.frame?, Event.reply?] using h.take
  | confirm => simpa [Session.apply, Event.frame?, Event.reply?] using h.confirm
  | leaveSink => simpa [Session.apply, Event.frame?, Event.reply?, Ledger.note] using h.leaveSink

/-- What waits is waited on, whatever happens. -/
theorem Awake.apply (h : session.Awake) (event : Event) : (session.apply event).Awake := by
  cases event with
  | sendFrame text =>
    rw [Session.apply, sendFrame]
    split
    · exact h
    · exact awake_startWriter _
  | sendReply text =>
    rw [Session.apply, sendReply]
    split
    · exact h
    · exact awake_startWriter _
  | authenticate role => exact h
  | close =>
    intro waits
    cases waits
  | closeSink => exact h
  | take =>
    rw [Session.apply]
    rcases session.take_cases with ⟨text, rest, waiting, -, lane, taken⟩ |
      ⟨text, rest, waiting, -, -, lane, taken⟩ | ⟨waiting, -, empty, taken⟩ | taken
    · rw [taken]
      exact fun _ ↦ h (by rw [Outbox.isEmpty, lane]; rfl)
    · rw [taken]
      exact fun _ ↦ h (by rw [Outbox.isEmpty, lane]; simp)
    -- the writer ends only where nothing waits
    · rw [taken]
      intro waits
      exact absurd (empty.symm.trans waits) (by decide)
    · rwa [taken]
  | confirm =>
    rw [Session.apply]
    rcases session.confirm_cases with ⟨item, waiting, -, confirmed⟩ | ⟨-, confirmed⟩
    · rw [confirmed]
      exact h
    · rwa [confirmed]
  | fail =>
    rw [Session.apply, fail]
    split
    · intro waits
      cases waits
    · exact h
  | leaveSink =>
    rw [Session.apply, leaveSink]
    split
    · exact h
    · exact h

/-- After a run that leaves the session open, its books are in order and what waits is waited
on. -/
theorem balanced_run {id capacity now : Nat} {events : List Event}
    (isOpen : ((Session.new id capacity now).run events).1.isClosed = false) :
    Balanced capacity (events.filterMap Event.frame?) (events.filterMap Event.reply?)
      ((Session.new id capacity now).run events).1 ((Session.new id capacity now).run events).2 ∧
    ((Session.new id capacity now).run events).1.Awake := by
  -- from the end: who is open after the last event was open before it
  induction events using List.reverseRecOn with
  | nil => exact ⟨.new id capacity now, fun waits ↦ by cases waits⟩
  | append_singleton events event ih =>
    rw [run_append_singleton] at isOpen ⊢
    obtain ⟨balanced, awake⟩ := ih (isOpen_of_apply isOpen)
    have sent (text? : Event → Option String) : (events ++ [event]).filterMap text? =
        events.filterMap text? ++ (text? event).toList := by
      cases h : text? event <;> simp [h]
    rw [sent, sent]
    exact ⟨balanced.apply isOpen, awake.apply event⟩

/-! ## What is promised -/

/-- A frame is pushed out only by a frame that finds the lane full, and it is the oldest one. -/
theorem Balanced.evicted_cases (h : Balanced capacity frames replies session ledger)
    (event : Event) :
    (ledger.note session event).left .evicted = ledger.left .evicted ∨
      ∃ text oldest rest, event = .sendFrame text ∧
        session.outbox.frames = oldest :: rest ∧
        session.outbox.frames.length = max capacity 1 ∧
        (session.apply event).outbox.frames = rest ++ [text] ∧
        (ledger.note session event).left .evicted = ledger.left .evicted ++ [oldest] := by
  cases event with
  | sendFrame text =>
    rw [Ledger.note]
    cases isOpen : session.isClosed with
    | true => exact .inl rfl
    | false =>
      rcases h.lane_cases with room | ⟨oldest, rest, lane, full⟩
      · rw [pushFrame_of_lt room]
        exact .inl (by simp)
      · have atLeast : session.outbox.capacity ≤ session.outbox.frames.length :=
          Nat.le_of_eq (h.capacity_eq.trans full.symm)
        refine .inr ⟨text, oldest, rest, rfl, lane, full, ?_, ?_⟩
        · rw [Session.apply, sendFrame_of_full isOpen lane atLeast, startWriter_outbox]
        · rw [pushFrame_of_full lane atLeast]
          exact Ledger.left_append ..
  | take =>
    rw [Ledger.note]
    split
    · exact .inl (by simp)
    · exact .inl rfl
  | confirm =>
    rw [Ledger.note]
    split
    · next item _ => cases item <;> exact .inl rfl
    · exact .inl rfl
  | sendReply text => exact .inl rfl
  | authenticate role => exact .inl rfl
  | close => exact .inl rfl
  | closeSink => exact .inl rfl
  | fail => exact .inl rfl
  | leaveSink => exact .inl rfl

/-- A frame comes to the sink only by a writer who finds no reply, and it is the oldest one. -/
theorem Balanced.frame_taken (h : Balanced capacity frames replies session ledger) {event : Event}
    {text : String} (after : (session.apply event).inFlight? = some (.frame text))
    (before : session.inFlight? ≠ some (.frame text)) :
    event = .take ∧ session.outbox.replies = [] ∧
      ∃ rest, session.outbox.frames = text :: rest := by
  cases event with
  | sendFrame other =>
    rw [Session.apply, Session.sendFrame] at after
    split at after
    · exact absurd after before
    · rw [startWriter_inFlight?] at after
      exact absurd after before
  | sendReply other =>
    rw [Session.apply, Session.sendReply] at after
    split at after
    · exact absurd after before
    · rw [startWriter_inFlight?] at after
      exact absurd after before
  | authenticate role => exact absurd after before
  | close => exact absurd after before
  | closeSink =>
    have same : session.closeSink.inFlight? = session.inFlight? := head_append_empty _ rfl
    exact absurd (same.symm.trans after) before
  | take =>
    rw [Session.apply] at after
    rcases session.take_cases with ⟨reply, rest, waiting, -, -, taken⟩ |
      ⟨oldest, rest, waiting, -, noReply, lane, taken⟩ | ⟨waiting, turns, -, taken⟩ | taken
    · rw [taken] at after
      cases after
    · rw [taken] at after
      cases after
      exact ⟨rfl, noReply, rest, lane⟩
    · rw [taken] at after
      exact absurd ((h.inFlight?_tail turns).symm.trans after) (by simp)
    · rw [taken] at after
      exact absurd after before
  | confirm =>
    rw [Session.apply] at after
    rcases session.confirm_cases with ⟨item, waiting, -, confirmed⟩ | ⟨-, confirmed⟩
    · rw [confirmed] at after
      cases after
    · rw [confirmed] at after
      exact absurd after before
  | fail =>
    rw [Session.apply, fail] at after
    split at after
    · next item waiting turns =>
      exact absurd ((h.inFlight?_tail turns).symm.trans after) (by simp)
    · exact absurd after before
  | leaveSink =>
    rw [Session.apply, Session.leaveSink] at after
    split at after
    · next waiting turns =>
      exact absurd ((h.inFlight?_tail turns).symm.trans after) (by simp)
    · exact absurd after before

/-- The frames that were not pushed out are those that were taken, and those that wait. -/
theorem fates_survivors (session : Session) (ledger : Ledger) :
    ((session.fates ledger).filter (·.1 ≠ some .evicted)).map (·.2) =
      ledger.left .taken ++ session.outbox.frames := by
  have taken (exit : Exit × String) :
      decide (some exit.1 ≠ some Exit.evicted) = decide (exit.1 = .taken) := by
    cases exit.1 <;> rfl
  simp only [fates, Ledger.left, List.filter_append, List.map_append, List.filter_map,
    List.map_map, Function.comp_def, taken]
  simp

/-- What is promised of an open session, after the events of a run and of whatever comes next. -/
structure Served (capacity : Nat) (events : List Event) (session : Session) (ledger : Ledger) :
    Prop where
  /-- There is never a second writer. -/
  writers_le : session.writers ≤ 1
  /-- There is a writer where anything waits. -/
  writers_of_waiting : session.outbox.isEmpty = false → session.writers = 1
  /-- The lane holds no more than its capacity, where a capacity of zero counts as one. -/
  lane_le : session.outbox.frames.length ≤ max capacity 1
  /-- The lane holds the latest of the frames sent. -/
  lane_suffix : session.outbox.frames <:+ events.filterMap Event.frame?
  /-- Every reply sent was written, or is at the sink, or waits, and in that order. -/
  replies_eq : ledger.replies ++ session.replyInFlight ++ session.outbox.replies =
    events.filterMap Event.reply?
  /-- Every frame sent has its fate. -/
  fates_eq : (session.fates ledger).map (·.2) = events.filterMap Event.frame?
  /-- The frames that were not pushed out were written, or are at the sink, or wait, and in that
  order. -/
  survivors_eq : ((session.fates ledger).filter (·.1 ≠ some .evicted)).map (·.2) =
    ledger.frames ++ session.frameInFlight ++ session.outbox.frames
  /-- A frame is pushed out only by one that finds the lane full, and it is the oldest. -/
  evicted : ∀ event, (ledger.note session event).left .evicted = ledger.left .evicted ∨
    ∃ text oldest rest, event = .sendFrame text ∧ session.outbox.frames = oldest :: rest ∧
      session.outbox.frames.length = max capacity 1 ∧
      (session.apply event).outbox.frames = rest ++ [text] ∧
      (ledger.note session event).left .evicted = ledger.left .evicted ++ [oldest]
  /-- A frame comes to the sink only where no reply waits, and it is the oldest. -/
  taken : ∀ event text, (session.apply event).inFlight? = some (.frame text) →
    session.inFlight? ≠ some (.frame text) →
      event = .take ∧ session.outbox.replies = [] ∧ ∃ rest, session.outbox.frames = text :: rest
  /-- The session's own numbers are those of its frames and replies. -/
  tally_eq : session.tally =
    { framesEnqueued := (events.filterMap Event.frame?).length
      framesWritten := ledger.frames.length
      framesDropped := (ledger.left .evicted).length
      repliesWritten := ledger.replies.length }
  /-- Every frame is counted once. -/
  framesEnqueued_eq : session.tally.framesEnqueued =
    session.tally.framesWritten + session.tally.framesDropped + session.outbox.frames.length +
      session.frameInFlight.length

theorem Balanced.served {events : List Event}
    (h : Balanced capacity (events.filterMap Event.frame?) (events.filterMap Event.reply?) session
      ledger) (awake : session.Awake) : Served capacity events session ledger where
  writers_le := by
    rw [h.writers_eq]
    split_ifs <;> omega
  writers_of_waiting := fun waits ↦ by rw [h.writers_eq, if_pos (awake waits)]
  lane_le := h.lane_le
  lane_suffix := ⟨_, h.frames_eq⟩
  replies_eq := h.replies_eq
  fates_eq := by
    rw [fates, List.map_append, List.map_map, List.map_map, ← h.frames_eq]
    simp [Function.comp_def]
  survivors_eq := by rw [fates_survivors, h.taken_eq]
  evicted := h.evicted_cases
  taken := fun _ _ after before ↦ h.frame_taken after before
  tally_eq := by
    rw [← h.enqueued_eq, ← h.written_eq, ← h.dropped_eq, ← h.repliesWritten_eq]
  framesEnqueued_eq := by
    -- the two lines of the invariant, counted
    have left := congrArg List.length h.frames_eq
    have taken := congrArg List.length h.taken_eq
    rw [List.length_append] at left taken
    rw [List.length_map, ledger.length_exits, taken] at left
    rw [h.enqueued_eq, h.written_eq, h.dropped_eq]
    omega

/-- In whatever order frames and replies are sent and written, while the session is open it keeps
all that is promised. -/
theorem served_of_isOpen (id capacity now : Nat) (events : List Event)
    (isOpen : ((Session.new id capacity now).run events).1.isClosed = false) :
    Served capacity events ((Session.new id capacity now).run events).1
      ((Session.new id capacity now).run events).2 := by
  obtain ⟨balanced, awake⟩ := balanced_run isOpen
  exact balanced.served awake

/-- Three frames for a lane of one, and a reply that passes the last of them. -/
theorem served_overflow :
    ((Session.new 1 0 0).run [.sendFrame "a", .take, .sendFrame "b", .sendFrame "c",
      .sendReply "r", .confirm, .take]).1.isClosed = false ∧
    Served 0 [.sendFrame "a", .take, .sendFrame "b", .sendFrame "c", .sendReply "r", .confirm,
        .take]
      { id := 1
        outbox := { frames := ["c"], capacity := 1, writing := true }
        tally := { framesEnqueued := 3, framesWritten := 1, framesDropped := 1 }
        turns := [.writer (some (.reply "r"))] }
      { frames := ["a"], exits := [(.taken, "a"), (.evicted, "b")] } :=
  ⟨rfl, served_of_isOpen 1 0 0 _ rfl⟩

end Session

end Glyphcast
