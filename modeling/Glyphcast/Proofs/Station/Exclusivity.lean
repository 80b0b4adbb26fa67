import Glyphcast.Proofs.Station.Authority
import Mathlib.Data.List.Induction

/-!
# One controller

The controller's role is written down twice: a session knows its phase, and the roster has a slot.
A claim is refused while the slot is held by another session that is alive and not closed. Here
the two are compared in every state that a run can lead to.

## Where they part

A session to which a write has failed counts as closed when its slot is asked for, but its phase
is left as it was: the phase says `controller` until the teardown, and until then the session's
texts are carried out. So a session can lose its slot and stay a controller. `Displaces` is that
moment, and `not_exclusive_apply_iff` says that there is no other way for two sessions to be
controllers at once.

## The invariant

What is needed of a state is that ids are not shared, that a session which has left is closed, and
that a living controller either holds the slot or has had a write fail. The last is carried
through runs by `accounts_apply`: whoever is a controller after an event holds the slot then, or
was one before and did not hold it, or is displaced by this very event.
-/

namespace Glyphcast

/-! ## Controllers and the slot -/

/-- A later state of a seat in which the session is no more of a controller than before. -/
structure Seat.Yields (before after : Seat) : Prop where
  id : after.session.id = before.session.id
  controller : after.session.phase = .controller → before.session.phase = .controller
  failed : before.session.writeFailed = true → after.session.writeFailed = true
  alive : after.isAlive = true → before.isAlive = true

namespace Seat.Yields

theorem of_stays {before after : Seat} (h : before.Stays after) : before.Yields after :=
  ⟨h.id, fun controller ↦ h.phase.symm.trans controller, h.failed, h.alive⟩

theorem refl (seat : Seat) : seat.Yields seat := .of_stays (.refl seat)

theorem trans {first second third : Seat} (h : first.Yields second) (h' : second.Yields third) :
    first.Yields third :=
  ⟨h'.id.trans h.id, fun controller ↦ h.controller (h'.controller controller),
    fun failed ↦ h'.failed (h.failed failed), fun alive ↦ h.alive (h'.alive alive)⟩

end Seat.Yields

namespace Station

variable {δ ρ : Type}

/-- A living session that is in the controller's phase. -/
structure Controls (station : Station δ ρ) (number : SeatNumber) (session : Session) : Prop where
  alive : station.floor.alive? number = some session
  phase : session.phase = .controller

/-- Whether the session in a seat is the one in the controller's slot. -/
def HoldsSlot (station : Station δ ρ) (number : SeatNumber) (session : Session) : Prop :=
  station.hub.roster.controller = some (session.id, number)

/-- Every controller holds the slot. -/
def Exclusive (station : Station δ ρ) : Prop :=
  ∀ number session, station.Controls number session → station.HoldsSlot number session

theorem HoldsSlot.unique {station : Station δ ρ} {number number' : SeatNumber}
    {session session' : Session} (h : station.HoldsSlot number session)
    (h' : station.HoldsSlot number' session') : number = number' :=
  congrArg Prod.snd (Option.some.inj (h.symm.trans h'))

/-- A session takes the slot over from another that is still in the controller's phase, but to
which a write has failed. -/
inductive Displaces (station : Station δ ρ) : Event → Prop where
  /-- The session is served, and brings the key. -/
  | takeOver {now : Nat} {stamp : Recording.Stamp} {number holder : SeatNumber} {text : String}
    {asked : Role} {seat : Seat} {session : Session}
    (seated : station.floor.seat? number = some seat) (served : seat.held = true)
    (notClosed : seat.session.phase ≠ .closed)
    (parsed : Message.parse? text = some (.auth station.key.text asked))
    (role : seat.session.phase.role?.getD asked = .controller) (other : holder ≠ number)
    (controls : station.Controls holder session) (holds : station.HoldsSlot holder session)
    (failed : session.writeFailed = true) : Displaces station (.text now stamp number text)

/-- What is known of the sessions of a station: ids are not shared, and whoever has left is
closed. -/
structure Seated (station : Station δ ρ) : Prop where
  ids : ∀ {number number' seat seat'}, station.floor.seat? number = some seat →
    station.floor.seat? number' = some seat' → seat.session.id = seat'.session.id →
      number = number'
  departed : ∀ {id phase}, (id, phase) ∈ station.departures → ∃ number seat,
    station.floor.seat? number = some seat ∧ seat.session.id = id ∧ seat.session.phase = .closed

/-- What an event leaves of the controllers: whoever is one afterwards holds the slot then, or was
one before and did not hold it, or is displaced by the event. -/
def Accounts (station after : Station δ ρ) (event : Event) : Prop :=
  ∀ number session', after.Controls number session' →
    after.HoldsSlot number session' ∨
      ∃ session, station.Controls number session ∧ session'.id = session.id ∧
        (session.writeFailed = true → session'.writeFailed = true) ∧
        (station.HoldsSlot number session →
          session.writeFailed = true ∧ station.Displaces event)

/-! ## Where nobody claims the slot -/

variable {station after : Station δ ρ} {event : Event}

private theorem controls_iff {number : SeatNumber} {session : Session} :
    station.Controls number session ↔
      ∃ seat, station.floor.seat? number = some seat ∧ seat.isAlive = true ∧
        seat.session = session ∧ session.phase = .controller := by
  constructor
  · rintro ⟨alive, phase⟩
    obtain ⟨seat, found, living, rfl⟩ := Floor.alive?_eq_some_iff.mp alive
    exact ⟨seat, found, living, rfl, phase⟩
  · rintro ⟨seat, found, living, rfl, phase⟩
    exact ⟨Floor.alive?_eq_some_iff.mpr ⟨seat, found, living, rfl⟩, phase⟩

private theorem Controls.of_yields (yields : station.floor.Each Seat.Yields after.floor)
    {number : SeatNumber} {session' : Session} (h : after.Controls number session') :
    ∃ session, station.Controls number session ∧ session'.id = session.id ∧
      (session.writeFailed = true → session'.writeFailed = true) := by
  obtain ⟨seat', found', living, rfl, phase⟩ := controls_iff.mp h
  obtain ⟨seat, found, yielded⟩ := yields.seat?_before found'
  exact ⟨seat.session, controls_iff.mpr ⟨seat, found, yielded.alive living, rfl,
    yielded.controller phase⟩, yielded.id, yielded.failed⟩

/-- Where controllers keep the slot, nobody is displaced. -/
theorem accounts_of_yields (yields : station.floor.Each Seat.Yields after.floor)
    (slot : ∀ number session, station.Controls number session →
      station.HoldsSlot number session → after.HoldsSlot number session) :
    station.Accounts after event := by
  intro number session' h
  obtain ⟨session, controls, id, failed⟩ := h.of_yields yields
  by_cases holds : station.HoldsSlot number session
  · refine .inl ?_
    rw [HoldsSlot, id]
    exact slot number session controls holds
  · exact .inr ⟨session, controls, id, failed, fun holds' ↦ absurd holds' holds⟩

private theorem accounts_refl (station : Station δ ρ) (event : Event) :
    station.Accounts station event :=
  accounts_of_yields (.refl Seat.Yields.refl _) fun _ _ _ holds ↦ holds

variable [CaptureDevice δ] [FrameRenderer ρ]

omit [FrameRenderer ρ] in
private theorem controller_releaseAt (seated : station.Seated) {number : SeatNumber}
    {session : Session} (controls : station.Controls number session)
    (holds : station.HoldsSlot number session)
    (now position : Nat) : (station.releaseAt now position).HoldsSlot number session := by
  unfold releaseAt
  split
  · exact holds
  · next id phase departure =>
    rw [HoldsSlot, Hub.controller_releaseSession, if_neg, ← HoldsSlot]
    · exact holds
    -- whoever has left is closed and shares its id with nobody, so it is not this controller
    rintro ⟨-, held⟩
    obtain ⟨seat, found, -, rfl, controller⟩ := controls_iff.mp controls
    obtain ⟨other, left, found', same, closed⟩ := seated.departed (List.mem_of_getElem? departure)
    rw [holds, Option.any_some, beq_iff_eq] at held
    cases seated.ids found found' (held.trans same.symm)
    cases found.symm.trans found'
    exact absurd (closed.symm.trans controller) (by decide)

private theorem holdsSlot_of_quiet (seated : station.Seated) {number : SeatNumber}
    {session : Session} (controls : station.Controls number session)
    (holds : station.HoldsSlot number session) (quiet : event.isQuiet = true) :
    (station.apply event).HoldsSlot number session := by
  cases event with
  | connect id capacity now => cases quiet
  | text now stamp other text => cases quiet
  | teardown other => cases quiet
  | bytes other => rw [apply]; split <;> exact holds
  | closeSink other => rw [apply]; split <;> exact holds
  | drop other => exact holds
  | release now position => exact controller_releaseAt seated controls holds now position
  | sink other move sink => exact holds
  | runPlayer now => exact holds
  | read => exact (station.hub.controller_read).trans holds
  | keep now => exact (station.hub.controller_keep now).trans holds
  | conclude now => exact (station.hub.controller_conclude station.floor now).trans holds
  | shutdown now => exact (station.hub.controller_stopStreaming now).trans holds

/-! ## Texts -/

/-- A text that does not take the slot leaves it as it is, and makes nobody a controller. -/
theorem yields_answers {now : Nat} {stamp : Recording.Stamp} {number : SeatNumber} {seat : Seat}
    {message : Option Message} {replies : List Reply}
    (answers : station.Answers now stamp number seat.session message replies after) :
    (station.floor.Each Seat.Yields after.floor ∧
      after.hub.roster.controller = station.hub.roster.controller) ∨
    ∃ asked roster, message = some (.auth station.key.text asked) ∧
      seat.session.phase ≠ .closed ∧ seat.session.phase.role?.getD asked = .controller ∧
      station.hub.roster.claim station.floor seat.session.id number = .ok roster ∧
      after = { station with
        hub := { station.hub with roster := (roster.insert seat.session.id number).2 }
        floor := station.floor.modifySession number (·.authenticate .controller) } := by
  have same : station.floor.Each Seat.Yields station.floor := .refl Seat.Yields.refl _
  cases answers with
  | closed _ => exact .inl ⟨same, rfl⟩
  | mismatch _ _ => exact .inl ⟨same, rfl⟩
  | refused _ _ _ => exact .inl ⟨same, rfl⟩
  | unknown _ => exact .inl ⟨same, rfl⟩
  | controller notClosed role claim => exact .inr ⟨_, _, rfl, notClosed, role, claim, rfl⟩
  | viewer _ _ =>
    refine .inl ⟨Floor.each_modify Seat.Yields.refl fun seat _ ↦ ?_, rfl⟩
    refine ⟨rfl, fun controller ↦ ?_, fun failed ↦ failed, fun alive ↦ alive⟩
    simp only [Session.authenticate, Phase.authenticate] at controller
    split at controller
    · exact absurd controller (by decide)
    · exact controller
  | performed _ _ => exact .inl ⟨same, station.controller_perform now stamp number _ _⟩

private theorem yields_replies {now : Nat} {stamp : Recording.Stamp} {number : SeatNumber}
    {seat : Seat} {message : Option Message} {replies : List Reply}
    (found : station.floor.seat? number = some seat) (held : seat.held = true)
    (answers : station.Answers now stamp number seat.session message replies after) :
    after.floor.Each Seat.Yields
      (after.floor.modifySession number (·.sendReplies (replies.map Reply.text))) := by
  refine (Floor.stays_modifySession ?_ fun session ↦
    session.sameStanding_sendReplies (replies.map Reply.text)).mono Seat.Yields.of_stays
  intro later found'
  refine Floor.isAlive_of_held ?_
  rcases answers.floor_cases with same | ⟨role, granted⟩
  · rw [same, found] at found'
    cases found'
    exact held
  · rw [granted, Floor.modifySession, Floor.seat?_modify_self, found] at found'
    cases found'
    exact held

private theorem accounts_handleText (seated : station.Seated) {now : Nat} {stamp : Recording.Stamp}
    {number : SeatNumber} {seat : Seat} {text : String}
    (found : station.floor.seat? number = some seat) (held : seat.held = true) :
    station.Accounts (station.handleText now stamp number text).2
      (.text now stamp number text) := by
  obtain ⟨replies, answered, answers, handled⟩ :=
    station.handleText_cases now stamp number found text
  have replied := yields_replies found held answers
  rw [handled]
  rcases yields_answers answers with
    ⟨yields, slot⟩ | ⟨asked, roster, parsed, notClosed, role, claim, rfl⟩
  · exact accounts_of_yields (yields.trans Seat.Yields.trans replied)
      fun _ _ _ holds ↦ slot.trans holds
  · obtain ⟨rfl, free⟩ := Roster.claim_eq_ok_iff.mp claim
    intro other session' h
    obtain ⟨session, controls, id, failed⟩ := h.of_yields replied
    obtain ⟨claimant, taken, living, rfl, phase⟩ := controls_iff.mp controls
    by_cases own : other = number
    -- the claimant holds the slot now
    · subst own
      rw [Floor.modifySession, Floor.seat?_modify_self, found] at taken
      cases taken
      refine .inl ?_
      rw [HoldsSlot, id]
      rfl
    -- another who held it can have lost it only because a write had failed
    · rw [Floor.modifySession, Floor.seat?_modify_of_ne _ (Ne.symm own)] at taken
      have before : station.Controls other claimant.session :=
        controls_iff.mpr ⟨claimant, taken, living, rfl, phase⟩
      refine .inr ⟨claimant.session, before, id, failed, fun holds ↦ ?_⟩
      have closed := free claimant.session.id other holds
        (fun same ↦ own (seated.ids taken found same)) claimant.session before.alive
      rw [Session.isClosed, phase] at closed
      have failed : claimant.session.writeFailed = true := by simpa using closed
      exact ⟨failed, .takeOver found held notClosed parsed role own before holds failed⟩

/-! ## Events -/

omit [CaptureDevice δ] [FrameRenderer ρ] in
private theorem yields_teardown (station : Station δ ρ) (number : SeatNumber) :
    station.floor.Each Seat.Yields (station.teardown number).floor := by
  unfold teardown
  split
  · exact .refl Seat.Yields.refl _
  · exact Floor.each_modify Seat.Yields.refl fun seat _ ↦
      ⟨rfl, nofun, fun failed ↦ failed, fun alive ↦ alive⟩

omit [CaptureDevice δ] [FrameRenderer ρ] in
private theorem holdsSlot_teardown (number : SeatNumber) {other : SeatNumber} {session : Session}
    (holds : station.HoldsSlot other session) :
    (station.teardown number).HoldsSlot other session := by
  unfold teardown
  split <;> exact holds

private theorem accounts_connect (station : Station δ ρ) (id capacity now : Nat) :
    station.Accounts (station.apply (.connect id capacity now)) (.connect id capacity now) := by
  rw [apply]
  split
  · exact station.accounts_refl _
  intro number session' h
  obtain ⟨seat, found, living, rfl, phase⟩ := controls_iff.mp h
  rw [Floor.seat?_enroll] at found
  split at found
  · cases found
    cases phase
  · have before : station.Controls number seat.session :=
      controls_iff.mpr ⟨seat, found, living, rfl, phase⟩
    by_cases holds : station.HoldsSlot number seat.session
    · exact .inl holds
    · exact .inr ⟨_, before, rfl, fun failed ↦ failed, fun holds' ↦ absurd holds' holds⟩

private theorem accounts_apply (seated : station.Seated) (event : Event) :
    station.Accounts (station.apply event) event := by
  cases quiet : event.isQuiet with
  | true =>
    exact accounts_of_yields ((station.stays_apply quiet).mono Seat.Yields.of_stays)
      fun _ _ controls holds ↦ holdsSlot_of_quiet seated controls holds quiet
  | false =>
    cases event with
    | connect id capacity now => exact station.accounts_connect id capacity now
    | text now stamp number text =>
      rw [apply]
      split
      · next served =>
        obtain ⟨seat, found, held⟩ := isServed_iff.mp served
        exact accounts_handleText seated found held
      · exact station.accounts_refl _
    | teardown number =>
      rw [apply]
      split
      · exact accounts_of_yields (station.yields_teardown number)
          fun _ _ _ holds ↦ holdsSlot_teardown number holds
      · exact station.accounts_refl _
    | _ => cases quiet

/-! ## Ids and departures -/

private theorem mem_departures_apply {id : Nat} {phase : Phase}
    (h : (id, phase) ∈ (station.apply event).departures) :
    (id, phase) ∈ station.departures ∨
      ∃ number seat, (station.apply event).floor.seat? number = some seat ∧
        seat.session.id = id ∧ seat.session.phase = .closed := by
  cases event with
  | connect id capacity now =>
    rw [apply] at h
    split at h <;> exact .inl h
  | text now stamp number text =>
    rw [apply] at h
    split at h
    · next served =>
      obtain ⟨seat, found, -⟩ := isServed_iff.mp served
      obtain ⟨replies, answered, answers, handled⟩ :=
        station.handleText_cases now stamp number found text
      rw [handled] at h
      exact .inl (answers.departures ▸ h)
    · exact .inl h
  | bytes number => rw [apply] at h; split at h <;> exact .inl h
  | closeSink number => rw [apply] at h; split at h <;> exact .inl h
  | teardown number =>
    rw [apply] at h ⊢
    split at h
    · next served =>
      obtain ⟨seat, found, -⟩ := isServed_iff.mp served
      simp only [if_pos served, teardown, found, List.mem_append, List.mem_singleton] at h ⊢
      rcases h with old | new
      · exact .inl old
      · cases new
        refine .inr ⟨number, { seat with session := seat.session.close }, ?_, rfl, rfl⟩
        rw [Floor.modifySession, Floor.seat?_modify_self, found]
        rfl
    · exact .inl h
  | release now position =>
    rw [apply, releaseAt] at h
    split at h
    · exact .inl h
    · exact .inl (List.mem_of_mem_eraseIdx h)
  | drop number => exact .inl h
  | sink number move sink => exact .inl h
  | runPlayer now => exact .inl h
  | read => exact .inl h
  | keep now => exact .inl h
  | conclude now => exact .inl h
  | shutdown now => exact .inl h

private theorem Seated.ids_connect (h : station.Seated) (id capacity now : Nat)
    {number number' : SeatNumber} {seat seat' : Seat}
    (found : (station.apply (.connect id capacity now)).floor.seat? number = some seat)
    (found' : (station.apply (.connect id capacity now)).floor.seat? number' = some seat')
    (same : seat.session.id = seat'.session.id) : number = number' := by
  rw [Station.apply] at found found'
  by_cases known : station.hasId id = true
  · rw [if_pos known] at found found'
    exact h.ids found found' same
  have fresh {number : SeatNumber} {seat : Seat} (found : station.floor.seat? number = some seat) :
      seat.session.id ≠ id := by
    intro taken
    refine known (List.any_eq_true.mpr ⟨seat, ?_, beq_iff_eq.mpr taken⟩)
    exact List.mem_of_getElem? found
  rw [if_neg known, Floor.seat?_enroll] at found found'
  split_ifs at found found' with new new' new'
  · exact new.trans new'.symm
  · cases found
    exact absurd same.symm (fresh found')
  · cases found'
    exact absurd same (fresh found)
  · exact h.ids found found' same

theorem Seated.apply (h : station.Seated) (event : Event) : (station.apply event).Seated where
  ids := by
    intro number number' seat seat' found found' same
    cases old : event.isConnect with
    | false =>
      have leads := station.each_leads_apply old
      obtain ⟨before, seated, led⟩ := leads.seat?_before found
      obtain ⟨before', seated', led'⟩ := leads.seat?_before found'
      exact h.ids seated seated' (led.id.symm.trans (same.trans led'.id))
    | true =>
      cases event with
      | connect id capacity now => exact h.ids_connect id capacity now found found' same
      | _ => cases old
  departed := by
    intro id phase departed
    rcases mem_departures_apply departed with old | left
    · obtain ⟨number, seat, found, same, closed⟩ := h.departed old
      obtain ⟨later, found', leads⟩ := station.leads_apply event found
      exact ⟨number, later, found', leads.id.trans same, (closed ▸ leads.phase).eq_closed⟩
    · exact left

/-! ## Runs -/

/-- Every controller holds the slot, or has had a write fail. -/
def Accountable (station : Station δ ρ) : Prop :=
  ∀ number session, station.Controls number session →
    session.writeFailed = true ∨ station.HoldsSlot number session

theorem Accountable.apply (h : station.Accountable) (seated : station.Seated) (event : Event) :
    (station.apply event).Accountable := by
  intro number session' controls
  rcases accounts_apply seated event number session' controls with
    holds | ⟨session, before, -, failed, displaced⟩
  · exact .inr holds
  · rcases h number session before with lost | holds
    · exact .inl (failed lost)
    · exact .inl (failed (displaced holds).1)

theorem accountable_run (hub : Hub δ ρ) (key : ApiKey) (events : List Event) :
    (run { hub, key } events).Seated ∧ (run { hub, key } events).Accountable := by
  -- both at once, since the second is carried by the ids of the first
  have kept (station : Station δ ρ) (h : station.Seated) (h' : station.Accountable) :
      (station.run events).Seated ∧ (station.run events).Accountable := by
    induction events generalizing station with
    | nil => exact ⟨h, h'⟩
    | cons event events ih => exact ih (station.apply event) (h.apply event) (h'.apply h event)
  refine kept _ ⟨fun found ↦ ?_, fun departed ↦ ?_⟩ fun number session controls ↦ ?_
  · cases found
  · cases departed
  · cases controls.alive

/-! ## The exact condition -/

/-- A claim that is granted is answered by handing over the slot. -/
theorem holdsSlot_of_claim (now : Nat) (stamp : Recording.Stamp) {number : SeatNumber}
    {seat : Seat} {text : String} {asked : Role} {roster : Roster}
    (found : station.floor.seat? number = some seat) (notClosed : seat.session.phase ≠ .closed)
    (parsed : Message.parse? text = some (.auth station.key.text asked))
    (role : seat.session.phase.role?.getD asked = .controller)
    (claim : station.hub.roster.claim station.floor seat.session.id number = .ok roster) :
    (station.handleText now stamp number text).2.HoldsSlot number seat.session := by
  obtain ⟨replies, answered, answers, handled⟩ :=
    station.handleText_cases now stamp number found text
  rw [handled]
  rw [parsed] at answers
  cases answers with
  | controller _ _ claim => rw [(Roster.claim_eq_ok_iff.mp claim).1]; rfl
  | closed closed => exact absurd closed notClosed
  | mismatch _ wrong => exact absurd rfl wrong
  | refused _ _ refused => exact absurd (claim.symm.trans refused) (by simp)
  | viewer _ viewer => exact absurd (role.symm.trans viewer) (by decide)
  | unknown unentitled => cases (unentitled _ rfl).1
  | performed isCommand _ => cases isCommand

private theorem Displaces.not_exclusive (h : station.Displaces event) :
    ¬(station.apply event).Exclusive := by
  cases h with
  | @takeOver now stamp number holder text asked seat session found held notClosed parsed role
      other controls holds failed =>
    have claim : station.hub.roster.claim station.floor seat.session.id number =
        .ok { station.hub.roster with controller := some (seat.session.id, number) } := by
      refine Roster.claim_eq_ok_iff.mpr ⟨rfl, fun id seat slot _ session' alive ↦ ?_⟩
      cases holds.symm.trans slot
      cases controls.alive.symm.trans alive
      rw [Session.isClosed, failed, Bool.or_true]
    have taken := holdsSlot_of_claim now stamp found notClosed parsed role claim
    obtain ⟨holding, seated, living, rfl, phase⟩ := controls_iff.mp controls
    have still : (station.handleText now stamp number text).2.Controls holder holding.session := by
      refine controls_iff.mpr ⟨holding, ?_, living, rfl, phase⟩
      rw [seat?_handleText_of_ne _ _ _ _ other.symm, seated]
    intro exclusive
    rw [Station.apply, if_pos (isServed_iff.mpr ⟨seat, found, held⟩)] at exclusive
    exact other (taken.unique (exclusive holder holding.session still)).symm

/-- Two sessions come to be controllers at once where one displaces the other, and in no other
way. -/
theorem not_exclusive_apply_iff (seated : station.Seated) (h : station.Exclusive) (event : Event) :
    ¬(station.apply event).Exclusive ↔ station.Displaces event := by
  refine ⟨fun broken ↦ ?_, Displaces.not_exclusive⟩
  by_contra none
  refine broken fun number session' controls ↦ ?_
  rcases accounts_apply seated event number session' controls with
    holds | ⟨session, before, -, -, displaced⟩
  · exact holds
  · exact absurd (displaced (h number session before)).2 none

/-- In a run that starts before anybody has come, every state has one controller at most, the one
in the slot, exactly if nobody is displaced on the way. -/
theorem exclusive_run_iff (hub : Hub δ ρ) (key : ApiKey) (events : List Event) :
    (∀ earlier, earlier <+: events → (run { hub, key } earlier).Exclusive) ↔
      ∀ earlier event, earlier ++ [event] <+: events →
        ¬(run { hub, key } earlier).Displaces event := by
  constructor
  · intro exclusive earlier event before displaces
    have after := exclusive (earlier ++ [event]) before
    rw [run_append_singleton] at after
    exact displaces.not_exclusive after
  · intro kept earlier
    induction earlier using List.reverseRecOn with
    | nil => exact fun _ number session controls ↦ nomatch controls.alive
    | append_singleton earlier event ih =>
      intro before
      have exclusive := ih ((List.prefix_append earlier [event]).trans before)
      have seated := (accountable_run hub key earlier).1
      rw [run_append_singleton]
      by_contra broken
      exact kept earlier event before
        ((not_exclusive_apply_iff seated exclusive event).mp broken)

/-! ## What a controller's text can do -/

/-- Only a controller's text changes the stream or the recorder. -/
theorem sameStream_handleText {now : Nat} {stamp : Recording.Stamp} {number : SeatNumber}
    {seat : Seat} {text : String} (found : station.floor.seat? number = some seat) :
    (station.hub.SameStream (station.handleText now stamp number text).2.hub ∧
      (station.handleText now stamp number text).2.hub.recorder = station.hub.recorder) ∨
    seat.session.phase = .controller := by
  obtain ⟨replies, answered, answers, handled⟩ :=
    station.handleText_cases now stamp number found text
  rw [handled]
  generalize Message.parse? text = message at answers
  cases answers with
  | @performed message _ entitled =>
    cases privileged : message.requiresController with
    | false =>
      have same := station.sameControl_perform now stamp number seat.session privileged
      exact .inl ⟨⟨same.config, same.capture, same.streaming, same.settings⟩, same.recorder⟩
    | true =>
      rw [isEntitled, privileged, Bool.not_true, Bool.false_or, Bool.and_eq_true] at entitled
      exact .inr (beq_iff_eq.mp entitled.2)
  | _ => exact .inl ⟨⟨rfl, rfl, rfl, rfl⟩, rfl⟩

/-- In whatever order sessions claim the slot, fail, leave and are released: a controller holds the
slot unless a write to it has failed, so there is one controller whose writes have not failed; two
come to be controllers at once where one displaces the other, and in no other way, so a run in which
nobody is displaced has one controller at a time; and a text that changes the stream or the recorder
is a controller's. -/
theorem controllers_of_run (hub : Hub δ ρ) (key : ApiKey) (events : List Event) :
    let station := run { hub, key } events
    (∀ number session, station.Controls number session →
      session.writeFailed = true ∨ station.HoldsSlot number session) ∧
    (∀ number number' session session', station.Controls number session →
      station.Controls number' session' → session.writeFailed = false →
        session'.writeFailed = false → number = number') ∧
    (∀ event, station.Exclusive → (¬(station.apply event).Exclusive ↔ station.Displaces event)) ∧
    ((∀ earlier, earlier <+: events → (run { hub, key } earlier).Exclusive) ↔
      ∀ earlier event, earlier ++ [event] <+: events →
        ¬(run { hub, key } earlier).Displaces event) ∧
    ∀ now stamp number seat text, station.floor.seat? number = some seat → seat.held = true →
      (station.hub.SameStream (station.handleText now stamp number text).2.hub ∧
        (station.handleText now stamp number text).2.hub.recorder = station.hub.recorder) ∨
      station.Controls number seat.session ∧
        (seat.session.writeFailed = true ∨ station.HoldsSlot number seat.session) := by
  obtain ⟨seated, accountable⟩ := accountable_run hub key events
  intro station
  refine ⟨accountable, fun number number' session session' first second sound sound' ↦ ?_,
    fun event exclusive ↦ not_exclusive_apply_iff seated exclusive event,
    exclusive_run_iff hub key events, fun now stamp number seat text found held ↦ ?_⟩
  · have holds := (accountable number session first).resolve_left (Bool.eq_false_iff.mp sound)
    have holds' := (accountable number' session' second).resolve_left (Bool.eq_false_iff.mp sound')
    exact holds.unique holds'
  · refine (sameStream_handleText found).imp_right fun phase ↦ ?_
    have controls : station.Controls number seat.session :=
      controls_iff.mpr ⟨seat, found, Floor.isAlive_of_held held, rfl, phase⟩
    exact ⟨controls, accountable number seat.session controls⟩

/-- A controller that cannot be reached, a second controller, and a stream that the first of them
starts although the slot is the other's. -/
theorem two_controllers :
    let noon : Recording.Stamp := ⟨2026, 1, 1, 12, 0, 0⟩
    let claim := "[\"auth\",\"k3y\",\"controller\"]"
    let station := rehearsal.run [.connect 1 10 0, .text 0 noon 0 claim, .sink 0 .take {},
      .sink 0 .fail {}, .connect 2 10 0, .text 0 noon 1 claim]
    (station.floor.alive? 0).map (·.phase) = some .controller ∧
      (station.floor.alive? 1).map (·.phase) = some .controller ∧
      station.hub.roster.controller = some (2, 1) ∧
      station.hub.isStreaming = false ∧
      (station.handleText 0 noon 0 "[\"config\"]").2.hub.isStreaming = true := by
  decide +kernel

end Station

end Glyphcast
