import Glyphcast.Proofs.Station.Run

/-!
# Who may do what

A client's text is heard if its sender has a role, or brings the key. Until then, and after the
session was closed, it changes nothing but its sender's outbox; a viewer's text changes nothing
that takes a controller; and a session that has a role keeps it until it is closed.

The first two are read off the cases of `Station.Answers`. The third is about runs: every event
moves every session forward or not at all, and `Phase.Leads`, the order in which phases follow
each other, is transitive.
-/

namespace Glyphcast

/-! ## The order of phases -/

/-- A session may come from one phase to the other: it has no role yet, or it is closed. -/
def Phase.Leads (before after : Phase) : Prop :=
  before = after ∨ before = .unauthenticated ∨ after = .closed

namespace Phase.Leads

theorem refl (phase : Phase) : phase.Leads phase := .inl rfl

theorem trans {first second third : Phase} (h : first.Leads second) (h' : second.Leads third) :
    first.Leads third := by
  rcases h with rfl | new | closed
  · exact h'
  · exact .inr (.inl new)
  · subst closed
    rcases h' with same | old | closed
    · exact .inr (.inr same.symm)
    · nomatch old
    · exact .inr (.inr closed)

theorem eq_closed {phase : Phase} (h : Phase.closed.Leads phase) : phase = .closed := by
  rcases h with same | new | closed
  · exact same.symm
  · nomatch new
  · exact closed

end Phase.Leads

private theorem Phase.leads_authenticate (phase : Phase) (role : Role) :
    phase.Leads (phase.authenticate role) := by
  unfold Phase.authenticate
  split
  · next new => exact .inr (.inl new)
  · exact .refl phase

/-- The session in a seat is who it was, and moved forward or not at all. -/
structure Seat.Leads (before after : Seat) : Prop where
  id : after.session.id = before.session.id
  phase : before.session.phase.Leads after.session.phase

namespace Seat.Leads

theorem refl (seat : Seat) : seat.Leads seat := ⟨rfl, .refl _⟩

theorem trans {first second third : Seat} (h : first.Leads second) (h' : second.Leads third) :
    first.Leads third :=
  ⟨h'.id.trans h.id, h.phase.trans h'.phase⟩

theorem of_stays {before after : Seat} (h : before.Stays after) : before.Leads after :=
  ⟨h.id, .inl h.phase.symm⟩

end Seat.Leads

/-- The phase of the session in a seat. -/
def Floor.phase? (floor : Floor) (number : SeatNumber) : Option Phase :=
  (floor.seat? number).map (·.session.phase)

private theorem Floor.phase?_eq_some_iff {floor : Floor} {number : SeatNumber} {phase : Phase} :
    floor.phase? number = some phase ↔
      ∃ seat, floor.seat? number = some seat ∧ seat.session.phase = phase := by
  rw [phase?, Option.map_eq_some_iff]

theorem Floor.phase?_modifySession_self {floor : Floor} {number : SeatNumber} {seat : Seat}
    (found : floor.seat? number = some seat) (change : Session → Session) :
    (floor.modifySession number change).phase? number = some (change seat.session).phase := by
  rw [phase?, modifySession, seat?_modify_self, found]
  rfl

/-- A change that leaves a session's phase alone leaves every phase alone. -/
theorem Floor.phase?_modifySession (floor : Floor) (number other : SeatNumber)
    {change : Session → Session} (h : ∀ session, (change session).phase = session.phase) :
    (floor.modifySession number change).phase? other = floor.phase? other := by
  by_cases same : number = other
  · rw [phase?, phase?, modifySession, same, seat?_modify_self, Option.map_map]
    exact congrArg (Option.map · _) (funext fun seat ↦ h seat.session)
  · rw [phase?, phase?, modifySession, seat?_modify_of_ne _ same]

namespace Station

variable {δ ρ : Type} [CaptureDevice δ] [FrameRenderer ρ] {station answered : Station δ ρ}
  {now : Nat} {stamp : Recording.Stamp} {number : SeatNumber} {session : Session} {text : String}
  {replies : List Reply}

/-! ## Texts that are not heard -/

/-- Whether a text of a session in this phase is not heard: the session is closed, or it has no
role and does not bring the key. -/
def Unheard (station : Station δ ρ) (phase : Phase) (text : String) : Prop :=
  phase = .closed ∨
    phase = .unauthenticated ∧ ∀ asked, Message.parse? text ≠ some (.auth station.key.text asked)

/-- What is not heard changes nothing. -/
theorem Unheard.answered_eq (deaf : station.Unheard session.phase text)
    (answers : station.Answers now stamp number session (Message.parse? text) replies answered) :
    answered = station ∧
      (replies = [] ∨ replies = [.authFailed] ∨ replies = [.unknownCommand]) := by
  generalize parsed : Message.parse? text = message at answers
  -- the answers that grant or refuse a role are for those who bring the key
  have keyless {asked : Role} (notClosed : session.phase ≠ .closed)
      (auth : message = some (.auth station.key.text asked)) : False := by
    rcases deaf with closed | ⟨-, other⟩
    · exact notClosed closed
    · exact other asked (parsed.trans auth)
  cases answers with
  | closed _ => exact ⟨rfl, .inl rfl⟩
  | mismatch _ _ => exact ⟨rfl, .inr (.inl rfl)⟩
  | unknown _ => exact ⟨rfl, .inr (.inr rfl)⟩
  | refused notClosed _ _ => exact (keyless notClosed rfl).elim
  | controller notClosed _ _ => exact (keyless notClosed rfl).elim
  | viewer notClosed _ => exact (keyless notClosed rfl).elim
  | performed _ entitled =>
    have role : session.phase.isAuthenticated = true := (Bool.and_eq_true_iff.mp entitled).1
    rcases deaf with closed | ⟨new, -⟩
    · rw [closed] at role
      exact absurd role (by decide)
    · rw [new] at role
      exact absurd role (by decide)

@[simp]
private theorem phase?_replies (floor : Floor) (number other : SeatNumber) (replies : List Reply) :
    (floor.modifySession number (·.sendReplies (replies.map Reply.text))).phase? other =
      floor.phase? other :=
  floor.phase?_modifySession number other fun session ↦ (session.sameStanding_sendReplies _).phase

private theorem handleText_of_unheard {phase : Phase}
    (found : station.floor.phase? number = some phase) (deaf : station.Unheard phase text) :
    (station.handleText now stamp number text).2.hub = station.hub ∧
      (∀ other, (station.handleText now stamp number text).2.floor.phase? other =
        station.floor.phase? other) ∧
      ((station.handleText now stamp number text).1 = [] ∨
        (station.handleText now stamp number text).1 = [.authFailed] ∨
        (station.handleText now stamp number text).1 = [.unknownCommand]) := by
  obtain ⟨seat, seated, rfl⟩ := Floor.phase?_eq_some_iff.mp found
  obtain ⟨replies, answered, answers, handled⟩ :=
    station.handleText_cases now stamp number seated text
  obtain ⟨rfl, known⟩ := deaf.answered_eq answers
  rw [handled]
  exact ⟨rfl, fun other ↦ phase?_replies answered.floor number other replies, known⟩

/-! ## Viewers -/

/-- A viewer can only be registered again, or have a command carried out that takes no
controller. -/
theorem sameControl_of_viewer (viewer : session.phase = .viewer) {message : Option Message}
    (answers : station.Answers now stamp number session message replies answered) :
    station.hub.SameControl answered.hub ∧ (answered.floor = station.floor ∨
      answered.floor = station.floor.modifySession number (·.authenticate .viewer)) := by
  have same : station.hub.SameControl station.hub := ⟨rfl, rfl, rfl, rfl, rfl, rfl⟩
  cases answers with
  | closed _ => exact ⟨same, .inl rfl⟩
  | mismatch _ _ => exact ⟨same, .inl rfl⟩
  | unknown _ => exact ⟨same, .inl rfl⟩
  | refused _ role _ => rw [viewer] at role; cases role
  | controller _ role _ => rw [viewer] at role; cases role
  | viewer _ _ => exact ⟨{ same with }, .inr rfl⟩
  | performed _ entitled =>
    rw [isEntitled, viewer] at entitled
    -- a viewer is entitled to a command only because it takes no controller
    have unprivileged := (Bool.or_eq_true_iff.mp (Bool.and_eq_true_iff.mp entitled).2).resolve_right
      Bool.false_ne_true
    refine ⟨station.sameControl_perform now stamp number session ?_, .inl rfl⟩
    exact (Bool.not_eq_true' _).mp unprivileged

/-- A viewer's text leaves alone what takes a controller, and leaves the viewer a viewer. -/
theorem handleText_of_viewer (viewer : station.floor.phase? number = some .viewer) :
    station.hub.SameControl (station.handleText now stamp number text).2.hub ∧
      (station.handleText now stamp number text).2.floor.phase? number = some .viewer := by
  obtain ⟨seat, seated, phase⟩ := Floor.phase?_eq_some_iff.mp viewer
  obtain ⟨replies, answered, answers, handled⟩ :=
    station.handleText_cases now stamp number seated text
  obtain ⟨same, floor⟩ := sameControl_of_viewer phase answers
  rw [handled]
  refine ⟨same, (phase?_replies answered.floor number number replies).trans ?_⟩
  rcases floor with unchanged | granted
  · rw [unchanged, viewer]
  · rw [granted, Floor.phase?_modifySession_self seated, Session.authenticate, phase]
    rfl

/-! ## Runs -/

private theorem leads_answers {message : Option Message}
    (answers : station.Answers now stamp number session message replies answered) :
    station.floor.Each Seat.Leads answered.floor := by
  rcases answers.floor_cases with same | ⟨role, granted⟩
  · rw [same]
    exact .refl Seat.Leads.refl _
  · rw [granted]
    exact Floor.each_modify Seat.Leads.refl fun seat _ ↦
      ⟨rfl, seat.session.phase.leads_authenticate role⟩

private theorem leads_handleText (station : Station δ ρ) (now : Nat) (stamp : Recording.Stamp)
    (number : SeatNumber) (text : String) :
    station.floor.Each Seat.Leads (station.handleText now stamp number text).2.floor := by
  cases found : station.floor.seat? number with
  | none =>
    rw [handleText, found]
    exact .refl Seat.Leads.refl _
  | some seat =>
    obtain ⟨replies, answered, answers, handled⟩ :=
      station.handleText_cases now stamp number found text
    rw [handled]
    refine (leads_answers answers).trans Seat.Leads.trans ?_
    refine Floor.each_modify Seat.Leads.refl fun seat _ ↦ ?_
    have same := seat.session.sameStanding_sendReplies (replies.map Reply.text)
    exact ⟨same.id, .inl same.phase.symm⟩

omit [CaptureDevice δ] [FrameRenderer ρ] in
private theorem leads_teardown (station : Station δ ρ) (number : SeatNumber) :
    station.floor.Each Seat.Leads (station.teardown number).floor := by
  unfold teardown
  split
  · exact .refl Seat.Leads.refl _
  · exact Floor.each_modify Seat.Leads.refl fun seat _ ↦ ⟨rfl, .inr (.inr rfl)⟩

/-- Whether an event brings somebody new. -/
def Event.isConnect : Event → Bool
  | connect .. => true
  | _ => false

theorem each_leads_apply (station : Station δ ρ) {event : Event} (old : event.isConnect = false) :
    station.floor.Each Seat.Leads (station.apply event).floor := by
  have same : station.floor.Each Seat.Leads station.floor := .refl Seat.Leads.refl _
  cases quiet : event.isQuiet with
  | true => exact (station.stays_apply quiet).mono Seat.Leads.of_stays
  | false =>
    cases event with
    | connect id capacity now => cases old
    | text now stamp number text =>
      rw [apply]
      split
      · exact station.leads_handleText now stamp number text
      · exact same
    | teardown number =>
      rw [apply]
      split
      · exact station.leads_teardown number
      · exact same
    | _ => cases quiet

theorem seat?_connect (station : Station δ ρ) (id capacity now : Nat) {number : SeatNumber}
    {seat : Seat} (found : station.floor.seat? number = some seat) :
    (station.apply (.connect id capacity now)).floor.seat? number = some seat := by
  rw [apply]
  split
  · exact found
  · rw [Floor.seat?_enroll, if_neg, found]
    rintro rfl
    rw [Floor.seat?, List.getElem?_eq_none (Nat.le_refl _)] at found
    cases found

/-- Every event leaves every session in its seat, and moves it forward or not at all. -/
theorem leads_apply (station : Station δ ρ) (event : Event) {number : SeatNumber} {seat : Seat}
    (found : station.floor.seat? number = some seat) :
    ∃ later, (station.apply event).floor.seat? number = some later ∧ seat.Leads later := by
  cases old : event.isConnect with
  | false => exact (station.each_leads_apply old).seat? found
  | true =>
    cases event with
    | connect id capacity now =>
      exact ⟨seat, station.seat?_connect id capacity now found, .refl seat⟩
    | _ => cases old

theorem leads_run (station : Station δ ρ) (events : List Event) {number : SeatNumber} {seat : Seat}
    (found : station.floor.seat? number = some seat) :
    ∃ later, (station.run events).floor.seat? number = some later ∧ seat.Leads later := by
  induction events generalizing station seat with
  | nil => exact ⟨seat, found, .refl seat⟩
  | cons event events ih =>
    obtain ⟨next, found', first⟩ := station.leads_apply event found
    obtain ⟨later, found'', rest⟩ := ih (station.apply event) found'
    exact ⟨later, found'', first.trans rest⟩

/-- A text is heard from those who have a role or bring the key, a viewer's text changes nothing
that takes a controller, and a role is kept from the time it is granted until the session is
closed. -/
theorem authority_handleText (station : Station δ ρ) :
    (∀ now stamp number text phase, station.floor.phase? number = some phase →
      station.Unheard phase text →
        (station.handleText now stamp number text).2.hub = station.hub ∧
        (∀ other, (station.handleText now stamp number text).2.floor.phase? other =
          station.floor.phase? other) ∧
        ((station.handleText now stamp number text).1 = [] ∨
          (station.handleText now stamp number text).1 = [.authFailed] ∨
          (station.handleText now stamp number text).1 = [.unknownCommand])) ∧
    (∀ now stamp number text, station.floor.phase? number = some .viewer →
      station.hub.SameControl (station.handleText now stamp number text).2.hub ∧
      (station.handleText now stamp number text).2.floor.phase? number = some .viewer) ∧
    ∀ events number phase, station.floor.phase? number = some phase →
      ∃ later, (station.run events).floor.phase? number = some later ∧ phase.Leads later := by
  refine ⟨fun now stamp number text phase found deaf ↦ handleText_of_unheard found deaf,
    fun now stamp number text viewer ↦ handleText_of_viewer viewer,
    fun events number phase found ↦ ?_⟩
  obtain ⟨seat, seated, rfl⟩ := Floor.phase?_eq_some_iff.mp found
  obtain ⟨later, seated', leads⟩ := station.leads_run events seated
  exact ⟨later.session.phase, Floor.phase?_eq_some_iff.mpr ⟨later, seated', rfl⟩, leads.phase⟩

/-- A session without a role that asks for the stream to be stopped. -/
theorem authority_keyless :
    let station := { rehearsal with floor := ⟨[{ session := { id := 1 } }]⟩ }
    let noon : Recording.Stamp := ⟨2026, 1, 1, 12, 0, 0⟩
    let stop := "[\"stop\"]"
    (station.handleText 0 noon 0 stop).2.hub = station.hub ∧
      ∃ later, (station.run [.text 0 noon 0 stop, .teardown 0]).floor.phase? 0 = some later ∧
        Phase.Leads .unauthenticated later := by
  have parsed : Message.parse? "[\"stop\"]" = some .stop := by cbv
  intro station noon stop
  obtain ⟨unheard, -, leads⟩ := authority_handleText station
  refine ⟨(unheard 0 noon 0 stop .unauthenticated rfl (.inr ⟨rfl, fun asked h ↦ ?_⟩)).1,
    leads _ 0 _ rfl⟩
  cases parsed.symm.trans h

end Station

end Glyphcast
