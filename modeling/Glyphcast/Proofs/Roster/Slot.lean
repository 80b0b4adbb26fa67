import Glyphcast.Proofs.Roster.Broadcast
import Glyphcast.Proofs.Session.Delivery

/-!
# Two views of the controller's slot

Whether there is a controller can be asked of the roster, or found out by claiming the slot. Both
look at the session in the slot, but not for the same thing: the roster asks whether anything still
holds on to it, a claim whether it still takes what is sent to it. Most of the time these come to
the same.

```text
                        the roster tells of one      a claim is refused
holder open                       yes                       yes
holder closed, held on to         yes                       no
holder gone                       no                        no
```

The line in the middle is where a controller has been closed, or a write to it has failed, and
nobody has let go of it yet. `Viewed` says that it is the only difference, whatever has happened to
the roster and to the sessions.

## Who is another session

The slot remembers an id and a seat, and a claim compares ids. That this tells one session from
another is an invariant: no id is given twice, and in the seat that the slot names is the session
whose id it remembers.
-/

namespace Glyphcast

/-- A roster, and the sessions that there have been. -/
structure Assembly where
  /-- Who is registered. -/
  roster : Roster := {}
  /-- The sessions. -/
  floor : Floor := {}
  deriving DecidableEq, Repr

@[simp] private theorem Session.id_apply (session : Session) (event : Session.Event) :
    (session.apply event).id = session.id := by
  cases event with
  | sendFrame text => exact (session.sameStanding_sendFrame text).id
  | sendReply text => exact (session.sameStanding_sendReply text).id
  | authenticate role => rfl
  | close => rfl
  | closeSink => rfl
  | take => exact session.sameStanding_take.id
  | confirm => exact session.sameStanding_confirm.id
  | fail =>
    rcases session.fail_cases with same | ⟨id, -, -⟩
    · exact congrArg Session.id same
    · exact id
  | leaveSink => exact session.sameStanding_leaveSink.id

/-- The session in a seat has the id that it had. -/
def Seat.SameId (before after : Seat) : Prop := after.session.id = before.session.id

private theorem Seat.sameId_refl (seat : Seat) : seat.SameId seat := rfl

namespace Assembly

/-! ## Everything that can happen -/

/-- Something that happens to a roster or to the sessions. -/
inductive Event where
  /-- A session is made. -/
  | connect (id capacity now : Nat)
  /-- A session is registered. -/
  | insert (number : SeatNumber)
  /-- A session claims the controller's slot. -/
  | claim (number : SeatNumber)
  /-- An id is struck off. -/
  | remove (id : Nat)
  /-- Every viewer is struck off. -/
  | clear
  /-- An id gives the controller's slot up. -/
  | release (id : Nat)
  /-- A frame is broadcast. -/
  | broadcast (text : String)
  /-- Something happens to a session. -/
  | session (number : SeatNumber) (event : Session.Event)
  /-- A seat is let go. -/
  | drop (number : SeatNumber)

/-- What is left by an event. Ids are given once, and only a living session is registered, claims
anything, or has anything happen to it. -/
def apply (assembly : Assembly) : Event → Assembly
  | .connect id capacity now =>
    if assembly.floor.seats.any (·.session.id == id) then assembly
    else { assembly with floor := (assembly.floor.enroll (.new id capacity now) {}).2 }
  | .insert number =>
    match assembly.floor.alive? number with
    | none => assembly
    | some session =>
      { assembly with roster := (assembly.roster.insert session.id number).2 }
  | .claim number =>
    match assembly.floor.alive? number with
    | none => assembly
    | some session =>
      match assembly.roster.claim assembly.floor session.id number with
      | .error _ => assembly
      | .ok roster => { assembly with roster }
  | .remove id => { assembly with roster := (assembly.roster.remove assembly.floor id).2 }
  | .clear => { assembly with roster := assembly.roster.clear }
  | .release id => { assembly with roster := (assembly.roster.release id).2 }
  | .broadcast text =>
    let (_, roster, floor) := assembly.roster.broadcast assembly.floor text
    { roster, floor }
  | .session number event =>
    if assembly.floor.isAlive number then
      { assembly with floor := assembly.floor.modifySession number (·.apply event) }
    else assembly
  | .drop number => { assembly with floor := assembly.floor.release number }

/-- What is left by some events. -/
def run (events : List Event) : Assembly := events.foldl apply {}

/-! ## Who is in the slot -/

/-- No id is given twice, and the slot remembers a session by its id and by its seat. -/
structure Kept (assembly : Assembly) : Prop where
  ids : ∀ {number number' seat seat'}, assembly.floor.seat? number = some seat →
    assembly.floor.seat? number' = some seat' → seat.session.id = seat'.session.id →
      number = number'
  slot : ∀ entry, assembly.roster.controller = some entry →
    ∃ seat, assembly.floor.seat? entry.2 = some seat ∧ seat.session.id = entry.1

variable {assembly after : Assembly}

/-- Where everybody keeps the id and nobody new gets into the slot, the order is kept. -/
theorem Kept.of_each (h : assembly.Kept) (same : assembly.floor.Each Seat.SameId after.floor)
    (slot : after.roster.controller = none ∨
      after.roster.controller = assembly.roster.controller) : after.Kept where
  ids := by
    intro number number' seat seat' found found' alike
    obtain ⟨before, seated, id⟩ := same.seat?_before found
    obtain ⟨before', seated', id'⟩ := same.seat?_before found'
    exact h.ids seated seated' (id.symm.trans (alike.trans id'))
  slot := by
    intro entry held
    rcases slot with none | kept
    · nomatch none.symm.trans held
    · obtain ⟨seat, found, own⟩ := h.slot entry (kept.symm.trans held)
      obtain ⟨later, found', id⟩ := same.seat? found
      exact ⟨later, found', id.trans own⟩

theorem Kept.connect (h : assembly.Kept) (id capacity now : Nat) :
    (assembly.apply (.connect id capacity now)).Kept := by
  rw [apply]
  by_cases given : assembly.floor.seats.any (·.session.id == id) = true
  · rw [if_pos given]
    exact h
  rw [if_neg given]
  have fresh {number : SeatNumber} {seat : Seat} (found : assembly.floor.seat? number = some seat) :
      seat.session.id ≠ id := by
    intro taken
    exact given (List.any_eq_true.mpr ⟨seat, List.mem_of_getElem? found, beq_iff_eq.mpr taken⟩)
  constructor
  · intro number number' seat seat' found found' same
    rw [Floor.seat?_enroll] at found found'
    split_ifs at found found' with new new' new'
    · exact new.trans new'.symm
    · cases found
      exact absurd same.symm (fresh found')
    · cases found'
      exact absurd same (fresh found)
    · exact h.ids found found' same
  · intro entry held
    obtain ⟨seat, found, own⟩ := h.slot entry held
    refine ⟨seat, ?_, own⟩
    have old : entry.2 < assembly.floor.seats.length := (List.getElem?_eq_some_iff.mp found).1
    rw [Floor.seat?_enroll, if_neg (Nat.ne_of_lt old)]
    exact found

theorem Kept.claim (h : assembly.Kept) (number : SeatNumber) :
    (assembly.apply (.claim number)).Kept := by
  rw [apply]
  split
  · exact h
  next session alive =>
  obtain ⟨seat, found, -, rfl⟩ := Floor.alive?_eq_some_iff.mp alive
  split
  · exact h
  next roster claimed =>
  obtain ⟨rfl, -⟩ := Roster.claim_eq_ok_iff.mp claimed
  constructor
  · exact h.ids
  · intro entry held
    cases held
    exact ⟨seat, found, rfl⟩

theorem Kept.apply (h : assembly.Kept) (event : Event) : (assembly.apply event).Kept := by
  have unmoved : assembly.floor.Each Seat.SameId assembly.floor :=
    Floor.Each.refl Seat.sameId_refl _
  cases event with
  | connect id capacity now => exact h.connect id capacity now
  | claim number => exact h.claim number
  | insert number =>
    rw [Assembly.apply]
    split
    · exact h
    · exact h.of_each unmoved (.inr rfl)
  | remove id => exact h.of_each unmoved (.inr rfl)
  | clear => exact h.of_each unmoved (.inr rfl)
  | release id =>
    refine h.of_each unmoved ?_
    rw [Assembly.apply, Roster.release]
    split
    · exact .inl rfl
    · exact .inr rfl
  | broadcast text =>
    have sent := Floor.stays_foldl_sendFrame Prod.snd (fun _ ↦ text)
      (assembly.roster.living assembly.floor) assembly.floor
    exact h.of_each (sent.mono Seat.Stays.id) (.inr rfl)
  | session number event =>
    rw [Assembly.apply]
    split
    · refine h.of_each (Floor.each_modify Seat.sameId_refl fun seat _ ↦ ?_) (.inr rfl)
      exact seat.session.id_apply event
    · exact h
  | drop number =>
    exact h.of_each ((assembly.floor.stays_release number).mono Seat.Stays.id) (.inr rfl)

/-- Whatever happens, the order is kept. -/
theorem kept_run (events : List Event) : (run events).Kept := by
  induction events using List.reverseRecOn with
  | nil => exact ⟨nofun, nofun⟩
  | append_singleton events event ih =>
    rw [run, List.foldl_append]
    exact ih.apply event

/-! ## The two views -/

/-- A controller that is closed, or to which a write has failed, and that something still holds on
to. -/
def Lingers (assembly : Assembly) : Prop :=
  ∃ entry, assembly.roster.controller = some entry ∧ assembly.floor.isAlive entry.2 = true ∧
    assembly.floor.accepts entry.2 = false

end Assembly

namespace Roster

variable {roster : Roster} {floor : Floor}

/-- The roster tells of a controller exactly if something holds on to whoever is in the slot. -/
theorem hasController_iff : roster.hasController floor = true ↔
    ∃ entry, roster.controller = some entry ∧ floor.isAlive entry.2 = true := by
  rw [hasController, controllerId?]
  constructor
  · intro told
    obtain ⟨id, told⟩ := Option.isSome_iff_exists.mp told
    obtain ⟨entry, held, alive⟩ := Option.bind_eq_some_iff.mp told
    refine ⟨entry, held, ?_⟩
    by_contra gone
    exact nomatch (if_neg gone).symm.trans alive
  · rintro ⟨entry, held, alive⟩
    rw [held]
    exact congrArg Option.isSome (if_pos alive)

/-- A claim by another id is refused exactly if whoever is in the slot takes what is sent to it. -/
theorem claim_eq_error_iff {id : Nat} {number : SeatNumber}
    (other : ∀ entry, roster.controller = some entry → entry.1 ≠ id) :
    roster.claim floor id number = .error .controllerTaken ↔
      ∃ entry, roster.controller = some entry ∧ floor.accepts entry.2 = true := by
  unfold claim
  constructor
  · intro refused
    cases held : roster.controller with
    | none =>
      rw [held] at refused
      nomatch refused
    | some entry =>
      rw [held] at refused
      refine ⟨entry, rfl, ?_⟩
      by_contra closed
      have free : (entry.1 != id && (floor.alive? entry.2).any (!·.isClosed)) ≠ true :=
        fun taken ↦ closed (Bool.and_eq_true_iff.mp taken).2
      exact nomatch (if_neg free).symm.trans refused
  · rintro ⟨entry, held, accepts⟩
    rw [held]
    have taken : (entry.1 != id && (floor.alive? entry.2).any (!·.isClosed)) = true :=
      Bool.and_eq_true_iff.mpr ⟨bne_iff_ne.mpr (other entry held), accepts⟩
    exact if_pos taken

/-- There is no other refusal. -/
theorem claim_cases (roster : Roster) (floor : Floor) (id : Nat) (number : SeatNumber) :
    roster.claim floor id number = .error .controllerTaken ∨
      roster.claim floor id number = .ok { roster with controller := some (id, number) } := by
  unfold claim
  dsimp only
  split_ifs
  · exact .inl rfl
  · exact .inr rfl

end Roster

namespace Assembly

variable {assembly : Assembly}

/-- What is to be said to a session that asks who the controller is. -/
structure Viewed (assembly : Assembly) (number : SeatNumber) (session : Session) : Prop where
  /-- The roster tells of a controller while something holds on to whoever is in the slot. -/
  told_iff : assembly.roster.hasController assembly.floor = true ↔
    ∃ entry, assembly.roster.controller = some entry ∧ assembly.floor.isAlive entry.2 = true
  /-- A claim is refused while whoever is in the slot takes what is sent to it. -/
  refused_iff :
    assembly.roster.claim assembly.floor session.id number = .error .controllerTaken ↔
      ∃ entry, assembly.roster.controller = some entry ∧ assembly.floor.accepts entry.2 = true
  /-- Whoever is refused is told of a controller. -/
  told_of_refused :
    assembly.roster.claim assembly.floor session.id number = .error .controllerTaken →
      assembly.roster.hasController assembly.floor = true
  /-- The two agree but for a controller that is closed and still there. -/
  agree_iff : (assembly.roster.hasController assembly.floor = true ↔
    assembly.roster.claim assembly.floor session.id number = .error .controllerTaken) ↔
      ¬assembly.Lingers
  /-- A claim that is refused leaves everything as it is. -/
  refused : assembly.roster.claim assembly.floor session.id number = .error .controllerTaken →
    assembly.apply (.claim number) = assembly
  /-- One that is not refused fills the slot and changes nothing else, and then the roster names
  the claimant. -/
  granted : assembly.roster.claim assembly.floor session.id number ≠ .error .controllerTaken →
    assembly.apply (.claim number) = { assembly with
        roster := { assembly.roster with controller := some (session.id, number) } } ∧
      (assembly.apply (.claim number)).roster.controllerId? assembly.floor = some session.id

theorem Kept.other (h : assembly.Kept) {number : SeatNumber} {session : Session}
    (alive : assembly.floor.alive? number = some session)
    (other : ∀ entry, assembly.roster.controller = some entry → entry.2 ≠ number) :
    ∀ entry, assembly.roster.controller = some entry → entry.1 ≠ session.id := by
  intro entry held same
  obtain ⟨seat, found, -, rfl⟩ := Floor.alive?_eq_some_iff.mp alive
  obtain ⟨seat', found', own⟩ := h.slot entry held
  exact other entry held (h.ids found' found (own.trans same))

private theorem Kept.viewed (h : assembly.Kept) {number : SeatNumber} {session : Session}
    (alive : assembly.floor.alive? number = some session)
    (other : ∀ entry, assembly.roster.controller = some entry → entry.2 ≠ number) :
    assembly.Viewed number session := by
  have refused_iff :
      assembly.roster.claim assembly.floor session.id number = .error .controllerTaken ↔
        ∃ entry, assembly.roster.controller = some entry ∧
          assembly.floor.accepts entry.2 = true :=
    Roster.claim_eq_error_iff (h.other alive other)
  have told_of_refused
      (refused : assembly.roster.claim assembly.floor session.id number =
        .error .controllerTaken) : assembly.roster.hasController assembly.floor = true := by
    obtain ⟨entry, held, accepts⟩ := refused_iff.mp refused
    exact Roster.hasController_iff.mpr ⟨entry, held, Floor.isAlive_of_accepts accepts⟩
  constructor
  · exact Roster.hasController_iff
  · exact refused_iff
  · exact told_of_refused
  · constructor
    · rintro agree ⟨entry, held, alive, closed⟩
      -- the slot has one entry, so whoever is refused is refused because of this one
      obtain ⟨entry', held', accepts⟩ :=
        refused_iff.mp (agree.mp (Roster.hasController_iff.mpr ⟨entry, held, alive⟩))
      cases held.symm.trans held'
      nomatch closed.symm.trans accepts
    · intro settled
      refine ⟨fun told ↦ ?_, told_of_refused⟩
      obtain ⟨entry, held, alive⟩ := Roster.hasController_iff.mp told
      refine refused_iff.mpr ⟨entry, held, ?_⟩
      by_contra closed
      exact settled ⟨entry, held, alive, Bool.eq_false_iff.mpr closed⟩
  · intro refused
    rw [Assembly.apply, alive]
    dsimp only
    rw [refused]
  · intro free
    have claimed := (assembly.roster.claim_cases assembly.floor session.id number).resolve_left free
    have filled : assembly.apply (.claim number) = { assembly with
        roster := { assembly.roster with controller := some (session.id, number) } } := by
      rw [Assembly.apply, alive]
      dsimp only
      rw [claimed]
    refine ⟨filled, ?_⟩
    rw [filled, Roster.controllerId?]
    dsimp only
    rw [Option.bind_some, Floor.isAlive, alive]
    rfl

/-- Whatever has happened, the roster and a claim by another session differ over a controller that
is closed and still there, and over nothing else. -/
theorem viewed_run (events : List Event) {number : SeatNumber} {session : Session}
    (alive : (run events).floor.alive? number = some session)
    (other : ∀ entry, (run events).roster.controller = some entry → entry.2 ≠ number) :
    (run events).Viewed number session :=
  (kept_run events).viewed alive other

/-- A controller was closed and another session has taken its place: a third one is told of the
second and is refused. -/
theorem viewed_successor :
    let events : List Event :=
      [.connect 1 10 0, .connect 2 10 0, .claim 0, .session 0 .close, .claim 1, .connect 3 10 0]
    (run events).floor.alive? 2 = some (.new 3 10 0) ∧
      (∀ entry, (run events).roster.controller = some entry → entry.2 ≠ 2) ∧
      (run events).Viewed 2 (.new 3 10 0) ∧
      (run events).roster.claim (run events).floor 3 2 = .error .controllerTaken :=
  have other (entry : Nat × SeatNumber) (held : some (2, 1) = some entry) : entry.2 ≠ 2 := by
    cases held
    decide
  ⟨by decide, other, viewed_run _ (by decide) other, rfl⟩

/-- A controller that was closed is told of for as long as something holds on to it, and yet the
next session that claims the slot gets it. -/
theorem closed_controller_told :
    let closed := run [.connect 1 10 0, .connect 2 10 0, .claim 0, .session 0 .close]
    closed.floor.isAlive 1 = true ∧ closed.roster.controller = some (1, 0) ∧
      closed.roster.hasController closed.floor = true ∧
      closed.roster.claim closed.floor 2 1 = .ok { controller := some (2, 1) } :=
  ⟨by decide, by decide, by decide, rfl⟩

end Assembly

end Glyphcast
