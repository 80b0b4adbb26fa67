import Glyphcast.Proofs.Session.Traffic
import Mathlib.Algebra.Order.Group.Multiset

/-!
# What passes through a session

The items of a session are on the way to its outbox, wait there, are at the sink, or are gone.
`Moves` is the account of that: between any two moments of a run, what was written and what the
session still holds was held before or came in, and a writer was started only for what came in. In a
session that is closed nobody new sets out, so what comes in was on the way.

The order of the items plays no part in it, so they are counted as a multiset. The order in which an
open session serves them is the subject of `Served`.
-/

namespace Glyphcast

/-- What waits in the two lanes. -/
def Outbox.items (outbox : Outbox) : Multiset Item :=
  ↑(outbox.replies.map Item.reply) + ↑(outbox.frames.map Item.frame)

namespace Outbox

@[simp] private theorem items_pushReply (outbox : Outbox) (text : String) :
    (outbox.pushReply text).items = outbox.items + {.reply text} := by
  rw [pushReply, items, items, List.map_append, ← Multiset.coe_add]
  exact add_right_comm _ _ _

/-- A frame comes into its lane, and may push another one out of it. -/
private theorem items_pushFrame_le (outbox : Outbox) (text : String) :
    (outbox.pushFrame text).2.items ≤ outbox.items + {.frame text} := by
  have tail : (↑(outbox.frames.tail.map Item.frame) : Multiset Item) ≤
      ↑(outbox.frames.map Item.frame) :=
    Multiset.coe_le.mpr ((List.tail_sublist _).map _).subperm
  rw [pushFrame]
  split
  · rw [items, items, List.map_append, ← Multiset.coe_add, ← add_assoc]
    exact add_le_add_left (add_le_add_right tail _) _
  · rw [items, items, List.map_append, ← Multiset.coe_add, ← add_assoc]
    exact le_rfl

@[simp] private theorem writing_pushFrame (outbox : Outbox) (text : String) :
    (outbox.pushFrame text).2.writing = outbox.writing := by
  rw [pushFrame]
  split <;> rfl

private theorem writing_next (outbox : Outbox) :
    outbox.next.2.writing = (outbox.next.1.isSome && outbox.writing) := by
  unfold next pop
  cases outbox.replies with
  | cons text rest => rfl
  | nil => cases outbox.frames <;> rfl

theorem items_next (outbox : Outbox) :
    outbox.next.2.items + ↑outbox.next.1.toList = outbox.items := by
  unfold next pop
  cases replies : outbox.replies with
  | cons text rest =>
    rw [items, items, replies, add_right_comm]
    exact congrArg (· + _) (add_comm _ {Item.reply text})
  | nil =>
    cases frames : outbox.frames with
    | cons text rest =>
      rw [items, items, replies, frames, add_assoc]
      exact congrArg (_ + ·) (add_comm _ {Item.frame text})
    | nil => exact add_zero _

theorem items_eq_zero_iff {outbox : Outbox} :
    outbox.items = 0 ↔ outbox.replies = [] ∧ outbox.frames = [] := by
  simp [items]

end Outbox

namespace Session

/-- The item at the sink, if there is one. -/
def hand (session : Session) : Multiset Item := ↑session.inFlight?.toList

/-- What waits, and what is at the sink. -/
def held (session : Session) : Multiset Item := session.outbox.items + session.hand

section

variable {session : Session}

private theorem items_enqueue_le (session : Session) (item : Item) :
    (session.enqueue item).outbox.items ≤ session.outbox.items + {item} := by
  cases item with
  | frame text => exact session.outbox.items_pushFrame_le text
  | reply text => exact (session.outbox.items_pushReply text).le

private theorem hand_of_turns {turn : Turn} {waiting : List Turn}
    (turns : session.turns = turn :: waiting) : session.hand = ↑turn.item?.toList := by
  rw [hand, inFlight?_of_turns turns]

/-- Whoever joins those who wait for the sink leaves what is there. -/
private theorem hand_append (session : Session) {turn : Turn} (empty : turn.item? = none) :
    hand { session with turns := session.turns ++ [turn] } = session.hand :=
  congrArg (fun item : Option Item ↦ (↑item.toList : Multiset Item))
    (head_append_empty session.turns empty)

theorem hand_of_waiting {turn : Turn} {waiting : List Turn} {after : Session}
    (turns : session.turns = turn :: waiting)
    (waiting_empty : ∀ turn ∈ session.turns.tail, turn.item? = none)
    (left : after.turns = waiting) : after.hand = 0 := by
  rw [turns] at waiting_empty
  match waiting with
  | [] => rw [hand, inFlight?, left]; rfl
  | next :: others =>
    rw [hand_of_turns left, waiting_empty next List.mem_cons_self]
    rfl

/-- A writer that has nothing in hand takes what goes first, or ends. -/
theorem take_of_turns {waiting : List Turn} (turns : session.turns = .writer none :: waiting) :
    session.take = { session with
      outbox := session.outbox.next.2
      turns := (session.outbox.next.1.map fun item ↦ .writer (some item)).toList ++ waiting } := by
  rw [take, turns]
  cases session.outbox.next with
  | mk item rest => cases item <;> rfl

private theorem exists_turns_or_take_eq (session : Session) :
    (∃ waiting, session.turns = .writer none :: waiting) ∨ session.take = session := by
  unfold take
  split
  · next waiting turns => exact .inl ⟨waiting, turns⟩
  · exact .inr rfl

private theorem items_take_le (session : Session) :
    session.take.outbox.items ≤ session.outbox.items := by
  rcases session.exists_turns_or_take_eq with ⟨waiting, turns⟩ | same
  · rw [take_of_turns turns, ← session.outbox.items_next]
    exact Multiset.le_add_right _ _
  · rw [same]

private theorem held_take (waiting_empty : ∀ turn ∈ session.turns.tail, turn.item? = none) :
    session.take.held = session.held := by
  rcases session.exists_turns_or_take_eq with ⟨waiting, turns⟩ | same
  · have hand : session.take.hand = ↑session.outbox.next.1.toList := by
      rw [take_of_turns turns]
      cases session.outbox.next.1 with
      | none => exact hand_of_waiting turns waiting_empty rfl
      | some item => rfl
    rw [held, held, hand, hand_of_turns turns, take_of_turns turns]
    exact session.outbox.items_next.trans (add_zero _).symm
  · rw [same]

private theorem writers_take_le (session : Session) : session.take.writers ≤ session.writers := by
  rcases session.exists_turns_or_take_eq with ⟨waiting, turns⟩ | same
  · rw [take_of_turns turns, writers, writers, turns]
    cases session.outbox.next.1 with
    | none => exact (List.sublist_cons_self _ waiting).countP_le
    | some item => exact le_rfl
  · rw [same]

@[simp] private theorem tally_take (session : Session) : session.take.tally = session.tally := by
  rcases session.exists_turns_or_take_eq with ⟨waiting, turns⟩ | same
  · rw [take_of_turns turns]
  · rw [same]

private theorem held_confirm (session : Session) :
    session.hand + session.confirm.held = session.held := by
  rcases session.confirm_cases with ⟨item, waiting, turns, confirmed⟩ | ⟨idle, confirmed⟩
  · have after : session.confirm.hand = 0 := by rw [confirmed]; rfl
    rw [held, held, after, add_zero, confirmed, add_comm]
  · rw [confirmed, held, hand, idle]
    exact zero_add _

private theorem held_enqueue_le (session : Session) (item : Item) :
    (session.enqueue item).held ≤ session.held + {item} := by
  have hand : (session.enqueue item).hand = session.hand := by cases item <;> rfl
  rw [held, held, hand, add_right_comm]
  exact add_le_add_left (session.items_enqueue_le item) _

private theorem sameStanding_enqueue (session : Session) (item : Item) :
    session.SameStanding (session.enqueue item) := by
  cases item <;> exact ⟨rfl, rfl, rfl⟩

@[simp] private theorem turns_enqueue (session : Session) (item : Item) :
    (session.enqueue item).turns = session.turns := by
  cases item <;> rfl

@[simp] private theorem writing_enqueue (session : Session) (item : Item) :
    (session.enqueue item).outbox.writing = session.outbox.writing := by
  cases item with
  | frame text => exact session.outbox.writing_pushFrame text
  | reply text => rfl

end

namespace Traffic

/-! ## The invariant

The part of the writer is one, and the flag of the outbox says whether it is taken. Whoever has it
is on the way to the sink or has a turn there, and gives it up in the step that ends it. Only the
turn at the sink can have an item, and an item that was refused is still there until its writer has
done all that there is to do about it. -/

/-- How many have the part of the writer. -/
def writers (traffic : Traffic) : Nat := traffic.session.writers + traffic.started

/-- Everyone is where a course of steps can have brought them. -/
structure Sound (traffic : Traffic) : Prop where
  /-- The flag tells whether there is a writer, and there is one at most. -/
  writers_eq : traffic.writers = if traffic.session.outbox.writing then 1 else 0
  /-- Only the turn at the sink has an item in hand. -/
  waiting_empty : ∀ turn ∈ traffic.session.turns.tail, turn.item? = none
  /-- A closing comes to the outbox after it has changed the phase. -/
  closing : 0 < traffic.closings → traffic.session.phase = .closed
  /-- The refused item is still at the sink. -/
  refused : traffic.refusal ≠ none → ∃ item waiting,
    traffic.session.turns = .writer (some item) :: waiting
  flagged : traffic.refusal = some .flagged → traffic.session.writeFailed = true

theorem sound_new (id capacity now : Nat) : Sound { session := .new id capacity now } where
  writers_eq := rfl
  waiting_empty := by simp [Session.new]
  closing := by simp
  refused := by simp
  flagged := by simp

section

variable {traffic : Traffic}

private theorem Sound.refusal_eq_none (h : traffic.Sound) {turn : Turn} {waiting : List Turn}
    (turns : traffic.session.turns = turn :: waiting) (empty : turn.item? = none) :
    traffic.refusal = none := by
  by_contra refused
  obtain ⟨item, others, same⟩ := h.refused refused
  cases turns.symm.trans same
  cases empty

private theorem Sound.leave (h : traffic.Sound) {turn : Turn} {waiting : List Turn}
    (turns : traffic.session.turns = turn :: waiting) {after : Session}
    (left : after.turns = waiting) (standing : after.phase = traffic.session.phase)
    (writers_eq : after.writers + traffic.started = if after.outbox.writing then 1 else 0) :
    Sound { traffic with session := after, refusal := none } where
  writers_eq := writers_eq
  waiting_empty := by
    intro other member
    refine h.waiting_empty other ?_
    rw [turns]
    rw [left] at member
    exact List.mem_of_mem_tail member
  closing := fun pending ↦ standing.trans (h.closing pending)
  refused := by simp
  flagged := by simp

/-- Someone comes to the sink, with nothing in hand. -/
private theorem Sound.append (h : traffic.Sound) {turn : Turn} (empty : turn.item? = none)
    {started : Nat} (kept : started + (if turn.isWriter then 1 else 0) = traffic.started) :
    Sound { traffic with
      session := { traffic.session with turns := traffic.session.turns ++ [turn] }, started } :=
  { h with
    writers_eq := by
      have writers_eq := h.writers_eq
      rw [writers, Session.writers, ← kept] at writers_eq
      rw [writers, Session.writers, List.countP_append, List.countP_singleton, ← writers_eq]
      exact Nat.add_right_comm .. |>.trans (Nat.add_assoc ..)
    waiting_empty := tail_append_empty h.waiting_empty empty
    refused := by
      intro refused
      obtain ⟨item, waiting, turns⟩ := h.refused refused
      exact ⟨item, waiting ++ [turn], by rw [turns]; rfl⟩ }

private theorem Sound.swap (h : traffic.Sound) {item other : Option Item} {waiting : List Turn}
    (turns : traffic.session.turns = .writer item :: waiting) (unrefused : traffic.refusal = none)
    {after : Session} (swapped : after.turns = .writer other :: waiting)
    (phase : after.phase = traffic.session.phase)
    (writing : after.outbox.writing = traffic.session.outbox.writing) :
    Sound { traffic with session := after } where
  writers_eq := by
    have writers_eq := h.writers_eq
    rw [writers, Session.writers, turns, ← writing] at writers_eq
    rw [writers, Session.writers, swapped]
    exact writers_eq
  waiting_empty := by
    have waiting_empty := h.waiting_empty
    rw [turns] at waiting_empty
    rwa [swapped]
  closing := fun pending ↦ phase.trans (h.closing pending)
  refused := fun refused ↦ absurd unrefused refused
  flagged := by simp [unrefused]

theorem Sound.writers_of_turns (h : traffic.Sound) {item : Option Item} {waiting : List Turn}
    (turns : traffic.session.turns = .writer item :: waiting) :
    waiting.countP Turn.isWriter + traffic.started = 0 := by
  have writers_eq := h.writers_eq
  rw [writers, Session.writers, turns, List.countP_cons_of_pos rfl] at writers_eq
  split_ifs at writers_eq <;> omega

/-- To win the part of the writer is to be the only one who has it. -/
private theorem Sound.put (h : traffic.Sound) (item : Item) : (traffic.step (.put item)).Sound := by
  rw [step]
  split
  · have standing := traffic.session.sameStanding_enqueue item
    have turns := traffic.session.turns_enqueue item
    rw [Outbox.begin_eq, writing_enqueue]
    exact {
      writers_eq := by
        have writers_eq := h.writers_eq
        rw [writers, Session.writers] at writers_eq ⊢
        cases writing : traffic.session.outbox.writing <;>
          cases (traffic.session.enqueue item).outbox.isEmpty <;>
            simp [writing, ← add_assoc] at writers_eq ⊢ <;> omega
      waiting_empty := by
        intro turn member
        have member : turn ∈ (traffic.session.enqueue item).turns.tail := member
        exact h.waiting_empty turn (by rwa [turns] at member)
      closing := fun pending ↦ standing.phase.trans (h.closing pending)
      refused := by
        have := h.refused
        rwa [← turns] at this
      flagged := fun raised ↦ standing.writeFailed.trans (h.flagged raised) }
  · exact h

/-- Whatever step is taken, everyone is where they can be. -/
theorem Sound.step (h : traffic.Sound) (step : Step) : (traffic.step step).Sound := by
  match step with
  | .put item => exact h.put item
  | .ask item =>
    rw [Traffic.step]
    split
    · exact h
    · exact { h with }
  | .authenticate role =>
    exact { h with
      closing := fun pending ↦ Phase.authenticate_eq_closed_iff.mpr (h.closing pending) }
  | .close => exact { h with closing := fun _ ↦ rfl }
  | .clear =>
    rw [Traffic.step]
    split
    · exact { h with closing := fun _ ↦ h.closing ‹_› }
    · exact h
  | .join =>
    rw [Traffic.step]
    split
    · exact h.append rfl (Nat.sub_add_cancel ‹_›)
    · exact h
  | .closeSink => exact h.append rfl rfl
  | .leaveSink =>
    rw [Traffic.step, leaveSink]
    split
    · next waiting turns =>
      rw [h.refusal_eq_none turns rfl]
      refine h.leave turns rfl rfl ?_
      have writers_eq := h.writers_eq
      rwa [writers, Session.writers, turns, List.countP_cons_of_neg Bool.false_ne_true]
        at writers_eq
    · exact h
  | .take =>
    rw [Traffic.step]
    rcases traffic.session.exists_turns_or_take_eq with ⟨waiting, turns⟩ | same
    · have writing := traffic.session.outbox.writing_next
      have unrefused := h.refusal_eq_none turns rfl
      rw [take_of_turns turns]
      cases taken : traffic.session.outbox.next.1 with
      | none =>
        rw [taken] at writing
        rw [unrefused]
        refine h.leave turns rfl rfl ?_
        rw [writing]
        exact h.writers_of_turns turns
      | some item =>
        rw [taken] at writing
        exact h.swap turns unrefused rfl rfl writing
    · rw [same]
      exact h
  | .confirm =>
    rw [Traffic.step]
    split
    · next unrefused =>
      rcases traffic.session.confirm_cases with ⟨item, waiting, turns, confirmed⟩ | ⟨-, confirmed⟩
      · rw [confirmed]
        exact h.swap turns unrefused rfl rfl rfl
      · rw [confirmed]
        exact h
    · exact h
  | .refuse =>
    rw [Traffic.step]
    split
    · next item =>
      exact { h with
        refused := by
          intro _
          obtain ⟨item, hand⟩ := Option.isSome_iff_exists.mp item.2
          exact ⟨item, inFlight?_eq_some_iff.mp hand⟩
        flagged := by simp }
    · exact h
  | .flag =>
    rw [Traffic.step]
    split
    · next noticed =>
      exact { h with
        refused := fun _ ↦ h.refused (by simp [noticed])
        flagged := fun _ ↦ rfl }
    · exact h
  | .abort =>
    rw [Traffic.step]
    split
    · next raised =>
      obtain ⟨item, waiting, turns⟩ := h.refused (by simp [raised])
      refine h.leave turns (by rw [turns]; rfl) rfl ?_
      rw [Session.writers, turns]
      exact h.writers_of_turns turns
    · exact h

end

/-! ## What comes in and what goes out -/

/-- The item that a step puts into the outbox. -/
def queuedBy (traffic : Traffic) : Step → Multiset Item
  | .put item => if item ∈ traffic.sends then {item} else 0
  | _ => 0

/-- The item that a step writes. -/
def writtenBy (traffic : Traffic) : Step → Multiset Item
  | .confirm => if traffic.refusal = none then traffic.session.hand else 0
  | _ => 0

/-- The items that come into the outbox in the course of some steps. -/
def queued (traffic : Traffic) : List Step → Multiset Item
  | [] => 0
  | first :: rest => traffic.queuedBy first + (traffic.step first).queued rest

/-- The items that are written in the course of some steps. -/
def written (traffic : Traffic) : List Step → Multiset Item
  | [] => 0
  | first :: rest => traffic.writtenBy first + (traffic.step first).written rest

/-- What can become of a session while these items come in and these are written. -/
structure Moves (before : Traffic) (queued written : Multiset Item) (after : Traffic) : Prop where
  isClosed : before.session.isClosed = true → after.session.isClosed = true
  /-- In a closed session only those come to the outbox who were on the way, and each only once. -/
  sends_eq : before.session.isClosed = true → queued + after.sends = before.sends
  items_le : after.session.outbox.items ≤ before.session.outbox.items + queued
  /-- What is written was at the sink, or waited, or came in. -/
  held_le : written + after.session.held ≤ before.session.held + queued
  /-- An item that comes in starts one writer at most. -/
  writers_le : after.writers ≤ before.writers + queued.card
  enqueued_eq : after.session.tally.framesEnqueued =
    before.session.tally.framesEnqueued + queued.countP (·.isFrame)
  dropped_ge : before.session.tally.framesDropped ≤ after.session.tally.framesDropped
  dropped_le : after.session.tally.framesDropped ≤
    before.session.tally.framesDropped + queued.countP (·.isFrame)
  framesWritten_eq : after.session.tally.framesWritten =
    before.session.tally.framesWritten + written.countP (·.isFrame)
  repliesWritten_eq : after.session.tally.repliesWritten =
    before.session.tally.repliesWritten + written.countP (!·.isFrame)

theorem Moves.trans {first second third : Traffic}
    {queued queued' written written' : Multiset Item} (h : Moves first queued written second)
    (h' : Moves second queued' written' third) :
    Moves first (queued + queued') (written + written') third where
  isClosed := fun closed ↦ h'.isClosed (h.isClosed closed)
  sends_eq := by
    intro closed
    rw [← h.sends_eq closed, ← h'.sends_eq (h.isClosed closed), add_assoc]
  items_le := by
    rw [← add_assoc]
    exact h'.items_le.trans (add_le_add_left h.items_le _)
  held_le := by
    calc written + written' + third.session.held
        = written + (written' + third.session.held) := add_assoc ..
      _ ≤ written + (second.session.held + queued') := add_le_add_right h'.held_le _
      _ = written + second.session.held + queued' := (add_assoc ..).symm
      _ ≤ first.session.held + queued + queued' := add_le_add_left h.held_le _
      _ = first.session.held + (queued + queued') := add_assoc ..
  writers_le := by
    have := h.writers_le
    have := h'.writers_le
    rw [Multiset.card_add]
    omega
  enqueued_eq := by rw [h'.enqueued_eq, h.enqueued_eq, Multiset.countP_add, add_assoc]
  dropped_ge := h.dropped_ge.trans h'.dropped_ge
  dropped_le := by
    have := h.dropped_le
    have := h'.dropped_le
    rw [Multiset.countP_add]
    omega
  framesWritten_eq := by
    rw [h'.framesWritten_eq, h.framesWritten_eq, Multiset.countP_add, add_assoc]
  repliesWritten_eq := by
    rw [h'.repliesWritten_eq, h.repliesWritten_eq, Multiset.countP_add, add_assoc]

section

variable {traffic : Traffic}

private theorem Moves.of_still {after : Traffic}
    (isClosed : traffic.session.isClosed = true → after.session.isClosed = true)
    (sends_eq : traffic.session.isClosed = true → after.sends = traffic.sends)
    (items_le : after.session.outbox.items ≤ traffic.session.outbox.items)
    (held_le : after.session.held ≤ traffic.session.held)
    (writers_le : after.writers ≤ traffic.writers)
    (tally_eq : after.session.tally = traffic.session.tally) : Moves traffic 0 0 after where
  isClosed := isClosed
  sends_eq := fun closed ↦ (zero_add _).trans (sends_eq closed)
  items_le := items_le.trans (add_zero _).ge
  held_le := by rwa [zero_add, add_zero]
  writers_le := writers_le
  enqueued_eq := by rw [tally_eq]; rfl
  dropped_ge := by rw [tally_eq]
  dropped_le := by rw [tally_eq]; exact Nat.le_add_right ..
  framesWritten_eq := by rw [tally_eq]; rfl
  repliesWritten_eq := by rw [tally_eq]; rfl

theorem Moves.refl (traffic : Traffic) : Moves traffic 0 0 traffic :=
  .of_still (fun closed ↦ closed) (fun _ ↦ rfl) le_rfl le_rfl le_rfl rfl

private theorem moves_put {item : Item} (mem : item ∈ traffic.sends) :
    Moves traffic {item} 0 (traffic.step (.put item)) := by
  have standing := traffic.session.sameStanding_enqueue item
  rw [step, if_pos mem, Outbox.begin_eq]
  exact {
    isClosed := standing.isClosed.trans
    sends_eq := fun _ ↦ Multiset.cons_erase mem
    items_le := traffic.session.items_enqueue_le item
    held_le := (zero_add _).le.trans (traffic.session.held_enqueue_le item)
    writers_le := by
      rw [writers, writers, Session.writers, Session.writers, traffic.session.turns_enqueue]
      rw [Multiset.card_singleton]
      dsimp only
      split_ifs <;> omega
    enqueued_eq := by cases item <;> rfl
    dropped_ge := by cases item <;> simp [enqueue]
    dropped_le := by
      cases item with
      | frame text => exact Nat.add_le_add_left Option.length_toList_le _
      | reply text => exact le_rfl
    framesWritten_eq := by cases item <;> rfl
    repliesWritten_eq := by cases item <;> rfl }

/-- The item at the sink is written. -/
private theorem moves_confirm (traffic : Traffic) :
    Moves traffic 0 traffic.session.hand { traffic with session := traffic.session.confirm } := by
  rcases traffic.session.confirm_cases with ⟨item, waiting, turns, confirmed⟩ | ⟨idle, confirmed⟩
  · have held := traffic.session.held_confirm
    rw [hand_of_turns turns, confirmed] at held
    rw [hand_of_turns turns, confirmed]
    exact {
      isClosed := fun closed ↦ closed
      sends_eq := fun _ ↦ zero_add _
      items_le := (add_zero _).ge
      held_le := held.le.trans (add_zero _).ge
      writers_le := by
        rw [writers, writers, Session.writers, Session.writers, turns]
        exact le_rfl
      enqueued_eq := by cases item <;> rfl
      dropped_ge := by cases item <;> exact le_rfl
      dropped_le := by cases item <;> exact le_rfl
      framesWritten_eq := by cases item <;> rfl
      repliesWritten_eq := by cases item <;> rfl }
  · rw [confirmed, hand, idle]
    exact .refl traffic

theorem Sound.moves_step (h : traffic.Sound) (next : Step) :
    Moves traffic (traffic.queuedBy next) (traffic.writtenBy next) (traffic.step next) := by
  match next with
  | .ask item =>
    rw [Traffic.step]
    split
    · exact .refl traffic
    · next asked =>
      exact .of_still (fun closed ↦ closed) (fun closed ↦ absurd closed asked) le_rfl le_rfl le_rfl
        rfl
  | .put item =>
    change Moves traffic (if item ∈ traffic.sends then {item} else 0) 0 _
    rw [Traffic.step]
    split
    · next mem =>
      have moves := moves_put mem
      rwa [Traffic.step, if_pos mem] at moves
    · exact .refl traffic
  | .join =>
    rw [Traffic.step]
    split
    · next started =>
      have joined : (traffic.session.turns ++ [Turn.writer none]).countP Turn.isWriter =
          traffic.session.turns.countP Turn.isWriter + 1 := List.countP_append
      refine .of_still (fun closed ↦ closed) (fun _ ↦ rfl) le_rfl ?_ ?_ rfl
      · exact add_le_add_right (traffic.session.hand_append rfl).le _
      · rw [writers, writers, Session.writers, Session.writers, joined]
        change _ + 1 + (traffic.started - 1) ≤ _
        omega
    · exact .refl traffic
  | .authenticate role =>
    refine .of_still ?_ (fun _ ↦ rfl) le_rfl le_rfl le_rfl rfl
    intro closed
    rw [isClosed, Bool.or_eq_true, decide_eq_true_eq] at closed ⊢
    exact closed.imp_left Phase.authenticate_eq_closed_iff.mpr
  | .close => exact .of_still (fun _ ↦ rfl) (fun _ ↦ rfl) le_rfl le_rfl le_rfl rfl
  | .clear =>
    rw [Traffic.step]
    split
    · refine .of_still (fun closed ↦ closed) (fun _ ↦ rfl) (Multiset.zero_le _) ?_ le_rfl rfl
      exact add_le_add_left (Multiset.zero_le _) _
    · exact .refl traffic
  | .closeSink =>
    have joined : (traffic.session.turns ++ [Turn.closer]).countP Turn.isWriter =
        traffic.session.turns.countP Turn.isWriter := List.countP_append
    refine .of_still (fun closed ↦ closed) (fun _ ↦ rfl) le_rfl ?_ ?_ rfl
    · exact add_le_add_right (traffic.session.hand_append rfl).le _
    · exact Nat.add_le_add_right joined.le _
  | .leaveSink =>
    rw [Traffic.step, leaveSink]
    split
    · next waiting turns =>
      refine .of_still (fun closed ↦ closed) (fun _ ↦ rfl) le_rfl ?_ ?_ rfl
      · rw [held, hand_of_waiting turns h.waiting_empty rfl, add_zero]
        exact Multiset.le_add_right _ _
      · rw [writers, writers, Session.writers, Session.writers, turns]
        exact le_rfl
    · exact .refl traffic
  | .take =>
    have standing := traffic.session.sameStanding_take
    exact .of_still standing.isClosed.trans (fun _ ↦ rfl) traffic.session.items_take_le
      (held_take h.waiting_empty).le (Nat.add_le_add_right traffic.session.writers_take_le _)
      traffic.session.tally_take
  | .confirm =>
    change Moves traffic 0 (if traffic.refusal = none then traffic.session.hand else 0) _
    rw [Traffic.step]
    split
    · exact traffic.moves_confirm
    · exact .refl traffic
  | .refuse =>
    rw [Traffic.step]
    split
    · exact .of_still (fun closed ↦ closed) (fun _ ↦ rfl) le_rfl le_rfl le_rfl rfl
    · exact .refl traffic
  | .flag =>
    rw [Traffic.step]
    split
    · exact .of_still (fun _ ↦ Bool.or_true _) (fun _ ↦ rfl) le_rfl le_rfl le_rfl rfl
    · exact .refl traffic
  | .abort =>
    rw [Traffic.step]
    split
    · next raised =>
      obtain ⟨item, waiting, turns⟩ := h.refused (by simp [raised])
      have left : traffic.session.turns.tail = waiting := by rw [turns]; rfl
      refine .of_still (fun closed ↦ closed) (fun _ ↦ rfl) (Multiset.zero_le _) ?_ ?_ rfl
      · rw [held, hand_of_waiting turns h.waiting_empty left]
        exact Multiset.zero_le _
      · exact Nat.add_le_add_right (List.tail_sublist _).countP_le _
    · exact .refl traffic

theorem Sound.run (h : traffic.Sound) (steps : List Step) : (traffic.run steps).Sound := by
  induction steps generalizing traffic with
  | nil => exact h
  | cons first rest ih => exact ih (h.step first)

theorem Sound.moves_run (h : traffic.Sound) (steps : List Step) :
    Moves traffic (traffic.queued steps) (traffic.written steps) (traffic.run steps) := by
  induction steps generalizing traffic with
  | nil => exact .refl traffic
  | cons first rest ih => exact (h.moves_step first).trans (ih (h.step first))

end

end Traffic

end Session

end Glyphcast
