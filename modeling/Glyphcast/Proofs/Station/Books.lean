import Glyphcast.Proofs.Hub.Books
import Glyphcast.Proofs.Session.Events
import Glyphcast.Proofs.Station.Exclusivity

/-!
# Every name is accounted for

A name comes onto the books of a hub because its session has a role, and it is struck out by the
release that follows the session's teardown. The two are apart in time, and the teardown takes the
role away, so a name cannot be accounted for by the phase of its session alone. It is `Expected` if
the session has the role that the book is for, or if a departure is still to be dealt with that says
that it had.

This holds after every event. A release goes by the phase in the departure, so it finds the names
that this departure was needed for, and strikes them out.
-/

namespace Glyphcast

/-- A seat holds the session with this id, in a phase that satisfies a property. -/
def Floor.Seats (floor : Floor) (P : Phase → Prop) (entry : Nat × SeatNumber) : Prop :=
  ∃ seat, floor.seat? entry.2 = some seat ∧ seat.session.id = entry.1 ∧ P seat.session.phase

private theorem Phase.isAuthenticated_of_eq {phase : Phase} (h : phase = .controller) :
    phase.isAuthenticated = true := by
  rw [h]
  rfl

private theorem Phase.isAuthenticated_authenticate {phase : Phase} (h : phase ≠ .closed)
    (role : Role) : (phase.authenticate role).isAuthenticated = true := by
  cases phase <;> cases role <;> first | rfl | exact absurd rfl h

theorem Floor.Seats.replies {floor : Floor} {P : Phase → Prop} {entry : Nat × SeatNumber}
    (h : floor.Seats P entry) (number : SeatNumber) (texts : List String) :
    (floor.modifySession number (·.sendReplies texts)).Seats P entry := by
  obtain ⟨seat, found, id, phase⟩ := h
  by_cases own : number = entry.2
  · have same := seat.session.sameStanding_sendReplies texts
    refine ⟨{ seat with session := seat.session.sendReplies texts }, ?_, same.id.trans id, ?_⟩
    · rw [modifySession, own, seat?_modify_self, found]
      rfl
    · rwa [← same.phase] at phase
  · exact ⟨seat, (seat?_modify_of_ne floor own _).trans found, id, phase⟩

namespace Station

variable {δ ρ : Type} [CaptureDevice δ] [FrameRenderer ρ]

/-! ## What an event asks of the hub -/

section

variable (station : Station δ ρ) (now : Nat) (stamp : Recording.Stamp) (number : SeatNumber)

/-- A command of a session is one of the hub, or two. It writes no name but the session's own. -/
theorem commands_perform (session : Session) (message : Message) :
    ∃ commands, (station.perform now stamp number session message).2.hub =
        station.hub.run commands ∧
      ∀ {viewer slot : Nat × SeatNumber → Prop} {owner : Nat → Prop},
        viewer (session.id, number) → owner session.id →
          ∀ command ∈ commands, command.Admits viewer slot owner := by
  -- most commands write no name
  have nameless (command : Hub.Command) {after : Hub δ ρ} (same : after = station.hub.apply command)
      (none : ∀ {viewer slot owner}, command.Admits viewer slot owner) :
      ∃ commands, after = station.hub.run commands ∧
        ∀ {viewer slot : Nat × SeatNumber → Prop} {owner : Nat → Prop},
          viewer (session.id, number) → owner session.id →
            ∀ command ∈ commands, command.Admits viewer slot owner := by
    refine ⟨[command], same, fun _ _ other mem ↦ ?_⟩
    cases List.mem_singleton.mp mem
    exact none
  cases message with
  | auth presented role => exact ⟨[], rfl, nofun⟩
  | config cameraIndex resolution fps =>
    let started := Hub.Command.startStreaming now cameraIndex
      (resolution.getD station.hub.config.defaultResolution.text)
      (fps.getD station.hub.config.defaultFps)
    simp only [perform, configure, command]
    split
    · refine ⟨[started, .addViewer session.id number], rfl, fun admitted _ other mem ↦ ?_⟩
      rcases List.mem_cons.mp mem with rfl | last
      · exact trivial
      · cases List.mem_singleton.mp last
        exact admitted
    · exact nameless started rfl trivial
  | playbackStart filename =>
    refine ⟨[.startPlayback filename session.id number], rfl, fun _ owner other mem ↦ ?_⟩
    cases List.mem_singleton.mp mem
    exact owner
  | stop => exact nameless (.stopStreaming now) rfl trivial
  | recordStart => exact nameless (.startRecording now stamp) rfl trivial
  | recordStop => exact nameless (.stopRecording now) rfl trivial
  | playbackPause => exact nameless .pausePlayback rfl trivial
  | playbackResume => exact nameless .resumePlayback rfl trivial
  | playbackStop => exact nameless .stopPlayback rfl trivial
  | playbackSpeed speed => exact nameless (.setPlaybackSpeed speed) rfl trivial

/-- Whether commands write only the names of sessions that are on this floor with the role that the
book is for. -/
def AdmitAll (floor : Floor) (commands : List Hub.Command) : Prop :=
  ∀ command ∈ commands, command.Admits (floor.Seats (·.isAuthenticated = true))
    (floor.Seats (· = .controller))
    fun id ↦ ∃ number, floor.Seats (·.isAuthenticated = true) (id, number)

private theorem admitAll_nil (floor : Floor) : AdmitAll floor [] := nofun

private theorem commands_answers {seat : Seat} (found : station.floor.seat? number = some seat)
    {message : Option Message} {replies : List Reply} {answered : Station δ ρ}
    (answers : station.Answers now stamp number seat.session message replies answered) :
    ∃ commands, answered.hub = station.hub.run commands ∧ AdmitAll answered.floor commands := by
  have granted (role : Role) :
      (station.floor.modifySession number (·.authenticate role)).seat? number =
        some { seat with session := seat.session.authenticate role } := by
    rw [Floor.modifySession, Floor.seat?_modify_self, found]
    rfl
  cases answers with
  | closed _ => exact ⟨[], rfl, admitAll_nil _⟩
  | mismatch _ _ => exact ⟨[], rfl, admitAll_nil _⟩
  | refused _ _ _ => exact ⟨[], rfl, admitAll_nil _⟩
  | unknown _ => exact ⟨[], rfl, admitAll_nil _⟩
  | controller notClosed role claim =>
    refine ⟨[.claimController station.floor seat.session.id number], ?_, fun command mem ↦ ?_⟩
    · change _ = (station.hub.claimController station.floor seat.session.id number).2
      rw [Hub.claimController, claim]
    · cases List.mem_singleton.mp mem
      refine ⟨⟨_, granted .controller, rfl, Phase.isAuthenticated_authenticate notClosed _⟩,
        ⟨_, granted .controller, rfl, ?_⟩⟩
      -- a viewer keeps its role, but a viewer is not one who claims the slot
      change seat.session.phase.authenticate .controller = .controller
      generalize seat.session.phase = phase at role notClosed
      cases phase with
      | unauthenticated => rfl
      | viewer => cases role
      | controller => rfl
      | closed => exact absurd rfl notClosed
  | viewer notClosed _ =>
    refine ⟨[.addViewer seat.session.id number], rfl, fun command mem ↦ ?_⟩
    cases List.mem_singleton.mp mem
    exact ⟨_, granted .viewer, rfl, Phase.isAuthenticated_authenticate notClosed _⟩
  | performed _ entitled =>
    obtain ⟨commands, ran, admitted⟩ := station.commands_perform now stamp number seat.session _
    have role : seat.session.phase.isAuthenticated = true := (Bool.and_eq_true_iff.mp entitled).1
    have seated : station.floor.Seats (·.isAuthenticated = true) (seat.session.id, number) :=
      ⟨seat, found, rfl, role⟩
    exact ⟨commands, ran, admitted seated ⟨number, seated⟩⟩

end

/-- What an event does to the hub is done by commands of the hub, and the names that they write are
those of sessions with the role for it. -/
theorem commands_apply (station : Station δ ρ) (event : Event) :
    ∃ commands, (station.apply event).hub = station.hub.run commands ∧
      AdmitAll (station.apply event).floor commands := by
  have none {after : Station δ ρ} (same : after.hub = station.hub) :
      ∃ commands, after.hub = station.hub.run commands ∧ AdmitAll after.floor commands :=
    ⟨[], same, admitAll_nil _⟩
  have nameless (command : Hub.Command) {after : Station δ ρ}
      (same : after.hub = station.hub.apply command)
      (none : ∀ {viewer slot owner}, command.Admits viewer slot owner) :
      ∃ commands, after.hub = station.hub.run commands ∧ AdmitAll after.floor commands := by
    refine ⟨[command], same, fun other mem ↦ ?_⟩
    cases List.mem_singleton.mp mem
    exact none
  cases event with
  | text now stamp number text =>
    rw [apply]
    split
    · next served =>
      obtain ⟨seat, found, -⟩ := isServed_iff.mp served
      obtain ⟨replies, answered, answers, handled⟩ :=
        station.handleText_cases now stamp number found text
      obtain ⟨commands, ran, admitted⟩ := station.commands_answers now stamp number found answers
      rw [handled]
      refine ⟨commands, ran, fun command mem ↦ (admitted command mem).mono ?_ ?_ ?_⟩
      · exact fun _ seats ↦ seats.replies number _
      · exact fun _ seats ↦ seats.replies number _
      · rintro _ ⟨owner, seats⟩
        exact ⟨owner, seats.replies number _⟩
    · exact none rfl
  | release now position =>
    rw [apply, releaseAt]
    split
    · exact none rfl
    · next id phase _ => exact nameless (.releaseSession station.floor now id phase) rfl trivial
  | runPlayer now => exact nameless (.runPlayer station.floor now) rfl trivial
  | read => exact nameless .read rfl trivial
  | keep now => exact nameless (.keep now) rfl trivial
  | conclude now => exact nameless (.conclude station.floor now) rfl trivial
  | shutdown now => exact nameless (.shutdown now) rfl trivial
  | _ => exact none (station.hub_apply rfl)

/-! ## Departures -/

/-- The seat whose session an event closes. -/
def Event.leaver? : Event → Option SeatNumber
  | teardown number => some number
  | _ => none

/-- What an event does to the departures: nothing, or a teardown adds one, or a release takes one
away. -/
theorem departures_cases (station : Station δ ρ) (event : Event) :
    (station.apply event).departures = station.departures ∨
      (∃ number seat, event = .teardown number ∧ station.floor.seat? number = some seat ∧
        seat.held = true ∧ (station.apply event).departures =
          station.departures ++ [(seat.session.id, seat.session.phase)]) ∨
      ∃ now position, event = .release now position ∧
        (station.apply event).departures = station.departures.eraseIdx position := by
  cases event with
  | connect id capacity now => rw [apply]; split <;> exact .inl rfl
  | text now stamp number text =>
    rw [apply]
    split
    · next served =>
      obtain ⟨seat, found, -⟩ := isServed_iff.mp served
      obtain ⟨replies, answered, answers, handled⟩ :=
        station.handleText_cases now stamp number found text
      rw [handled]
      exact .inl answers.departures
    · exact .inl rfl
  | bytes number => rw [apply]; split <;> exact .inl rfl
  | closeSink number => rw [apply]; split <;> exact .inl rfl
  | teardown number =>
    rw [apply]
    split
    · next served =>
      obtain ⟨seat, found, held⟩ := isServed_iff.mp served
      rw [teardown, found]
      exact .inr (.inl ⟨number, seat, rfl, found, held, rfl⟩)
    · exact .inl rfl
  | release now position =>
    refine .inr (.inr ⟨now, position, rfl, ?_⟩)
    rw [apply, releaseAt]
    split
    · next beyond =>
      exact (List.eraseIdx_of_length_le (List.getElem?_eq_none_iff.mp beyond)).symm
    · rfl
  | drop number => exact .inl rfl
  | sink number move sink => exact .inl rfl
  | runPlayer now => exact .inl rfl
  | read => exact .inl rfl
  | keep now => exact .inl rfl
  | conclude now => exact .inl rfl
  | shutdown now => exact .inl rfl

private theorem closed_of_handleText {station : Station δ ρ} {now : Nat} {stamp : Recording.Stamp}
    {number : SeatNumber} {text : String} {seat later : Seat}
    (found : station.floor.seat? number = some seat)
    (found' : (station.handleText now stamp number text).2.floor.seat? number = some later)
    (closed : later.session.phase = .closed) : seat.session.phase = .closed := by
  obtain ⟨replies, answered, answers, handled⟩ :=
    station.handleText_cases now stamp number found text
  rw [handled] at found'
  dsimp only at found'
  rw [Floor.modifySession, Floor.seat?_modify_self] at found'
  obtain ⟨between, reached, rfl⟩ := Option.map_eq_some_iff.mp found'
  have same := between.session.sameStanding_sendReplies (replies.map Reply.text)
  have closed := same.phase.symm.trans closed
  rcases answers.floor_cases with unchanged | ⟨role, granted⟩
  · rw [unchanged, found] at reached
    cases reached
    exact closed
  · rw [granted, Floor.modifySession, Floor.seat?_modify_self, found] at reached
    cases reached
    exact Phase.authenticate_eq_closed_iff.mp closed

/-- Whoever is closed by an event leaves a departure behind, with the phase that it left in. -/
theorem departs_apply (station : Station δ ρ) (event : Event) {number : SeatNumber}
    {seat later : Seat} (found : station.floor.seat? number = some seat)
    (found' : (station.apply event).floor.seat? number = some later)
    (closed : later.session.phase = .closed) :
    seat.session.phase = .closed ∨
      (seat.session.id, seat.session.phase) ∈ (station.apply event).departures := by
  cases quiet : event.isQuiet with
  | true =>
    obtain ⟨after, found'', stays⟩ := (station.stays_apply quiet).seat? found
    cases found'.symm.trans found''
    exact .inl (stays.phase.symm.trans closed)
  | false =>
    cases event with
    | connect id capacity now =>
      cases found'.symm.trans (station.seat?_connect id capacity now found)
      exact .inl closed
    | text now stamp other text =>
      rw [apply] at found'
      split at found'
      · by_cases own : other = number
        · subst own
          exact .inl (closed_of_handleText found found' closed)
        · rw [seat?_handleText_of_ne _ _ _ _ own, found] at found'
          cases found'
          exact .inl closed
      · cases found.symm.trans found'
        exact .inl closed
    | teardown other =>
      rw [apply] at found' ⊢
      split at found'
      · next served =>
        rw [if_pos served]
        obtain ⟨leaver, seated, -⟩ := isServed_iff.mp served
        simp only [teardown, seated] at found' ⊢
        by_cases own : other = number
        · subst own
          cases seated.symm.trans found
          exact .inr (List.mem_append_right _ List.mem_cons_self)
        · rw [Floor.modifySession, Floor.seat?_modify_of_ne _ own, found] at found'
          cases found'
          exact .inl closed
      · cases found.symm.trans found'
        exact .inl closed
    | _ => cases quiet

/-! ## Names that are expected -/

/-- The session in this seat has the id, and is in a phase with a property; or it left in one, and
the departure that says so is still to be dealt with. -/
def Expected (station : Station δ ρ) (P : Phase → Prop) (entry : Nat × SeatNumber) : Prop :=
  ∃ seat, station.floor.seat? entry.2 = some seat ∧ seat.session.id = entry.1 ∧
    (P seat.session.phase ∨ ∃ phase, P phase ∧ (entry.1, phase) ∈ station.departures)

omit [CaptureDevice δ] [FrameRenderer ρ] in
private theorem expected_of_seats {station : Station δ ρ} {P : Phase → Prop}
    {entry : Nat × SeatNumber} (h : station.floor.Seats P entry) : station.Expected P entry := by
  obtain ⟨seat, found, id, phase⟩ := h
  exact ⟨seat, found, id, .inl phase⟩

theorem Expected.apply {station : Station δ ρ} {P : Phase → Prop} {entry : Nat × SeatNumber}
    (h : station.Expected P entry) (role : ∀ {phase}, P phase → phase.isAuthenticated = true)
    (event : Event) :
    (station.apply event).Expected P entry ∨
      ∃ now position phase, event = .release now position ∧ P phase ∧
        station.departures[position]? = some (entry.1, phase) := by
  obtain ⟨seat, found, id, expected⟩ := h
  obtain ⟨later, found', leads⟩ := station.leads_apply event found
  have sameId := leads.id.trans id
  rcases expected with phase | ⟨phase, had, departing⟩
  · refine .inl ⟨later, found', sameId, ?_⟩
    rcases leads.phase with same | new | closed
    · exact .inl (same ▸ phase)
    · have := role phase
      rw [new] at this
      cases this
    · rcases station.departs_apply event found found' closed with before | left
      · have := role phase
        rw [before] at this
        cases this
      · exact .inr ⟨_, phase, id ▸ left⟩
  · have kept (h : (entry.1, phase) ∈ (station.apply event).departures) :
        (station.apply event).Expected P entry :=
      ⟨later, found', sameId, .inr ⟨phase, had, h⟩⟩
    rcases station.departures_cases event with
      same | ⟨number, leaver, -, -, -, longer⟩ | ⟨now, position, rfl, shorter⟩
    · exact .inl (kept (same ▸ departing))
    · exact .inl (kept (longer ▸ List.mem_append_left _ departing))
    · obtain ⟨index, there⟩ := List.mem_iff_getElem?.mp departing
      by_cases this : index = position
      · exact .inr ⟨now, position, phase, rfl, had, this ▸ there⟩
      · refine .inl (kept ?_)
        rw [shorter]
        exact List.mem_eraseIdx_iff_getElem?.mpr ⟨index, this, there⟩

/-- Whoever is on a book is expected there. -/
def Accounted (station : Station δ ρ) : Prop :=
  station.hub.Books (station.Expected (·.isAuthenticated = true))
    (station.Expected (· = .controller))
    fun id ↦ ∃ number, station.Expected (·.isAuthenticated = true) (id, number)

variable {station : Station δ ρ}

/-- A release strikes out whom only its departure accounted for. -/
theorem Accounted.release (h : station.Accounted) (now position : Nat) :
    (station.apply (.release now position)).Accounted := by
  cases departure : station.departures[position]? with
  | none =>
    have same : station.apply (.release now position) = station := by
      rw [Station.apply, releaseAt, departure]
    rwa [same]
  | some departing =>
    obtain ⟨id, phase⟩ := departing
    have released : (station.apply (.release now position)).hub =
        station.hub.releaseSession station.floor now id phase := by
      rw [Station.apply, releaseAt, departure]
    have kept {P : Phase → Prop} (role : ∀ {phase}, P phase → phase.isAuthenticated = true)
        {entry : Nat × SeatNumber} (expected : station.Expected P entry)
        (other : P phase → entry.1 ≠ id) :
        (station.apply (.release now position)).Expected P entry := by
      rcases expected.apply role (.release now position) with
        still | ⟨_, _, left, same, had, dealt⟩
      · exact still
      · cases same
        cases departure.symm.trans dealt
        exact absurd rfl (other had)
    rw [Accounted, released]
    refine (Hub.Books.releaseSession h station.floor now id phase).mono ?_ ?_ ?_
    · rintro _ ⟨expected, other⟩
      exact kept (fun h ↦ h) expected other
    · rintro _ ⟨expected, other⟩
      exact kept Phase.isAuthenticated_of_eq expected other
    · rintro _ ⟨⟨number, expected⟩, other⟩
      exact ⟨number, kept (fun h ↦ h) expected fun _ ↦ other⟩

theorem Accounted.apply (h : station.Accounted) (event : Event) :
    (station.apply event).Accounted := by
  by_cases release : ∃ now position, event = .release now position
  · obtain ⟨now, position, rfl⟩ := release
    exact h.release now position
  have kept {P : Phase → Prop} (role : ∀ {phase}, P phase → phase.isAuthenticated = true)
      {entry : Nat × SeatNumber} (expected : station.Expected P entry) :
      (station.apply event).Expected P entry := by
    refine (expected.apply role event).resolve_right ?_
    rintro ⟨now, position, -, same, -⟩
    exact release ⟨now, position, same⟩
  obtain ⟨commands, ran, admitted⟩ := station.commands_apply event
  rw [Accounted, ran]
  refine Hub.Books.run (h.mono ?_ ?_ ?_) fun command mem ↦ (admitted command mem).mono ?_ ?_ ?_
  · exact fun _ expected ↦ kept (fun h ↦ h) expected
  · exact fun _ expected ↦ kept Phase.isAuthenticated_of_eq expected
  · exact fun _ ⟨number, expected⟩ ↦ ⟨number, kept (fun h ↦ h) expected⟩
  · exact fun _ ↦ expected_of_seats
  · exact fun _ ↦ expected_of_seats
  · exact fun _ ⟨number, seats⟩ ↦ ⟨number, expected_of_seats seats⟩

/-- In every state of every run each name on the books is accounted for. -/
theorem accounted_run (h : station.Accounted) (events : List Event) :
    (station.run events).Accounted := by
  induction events generalizing station with
  | nil => exact h
  | cons event events ih => exact ih (h.apply event)

omit [FrameRenderer ρ] in
theorem accounted_new (device : δ) (renderer : ρ) (config : HubConfig) (disk : Recording.Disk)
    (key : ApiKey) : Accounted { hub := Hub.new device renderer config disk, key } :=
  ⟨.nil, nofun, nofun, nofun⟩

end Station

end Glyphcast
