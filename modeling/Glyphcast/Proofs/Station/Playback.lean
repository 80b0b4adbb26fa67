import Glyphcast.Proofs.Hub.Playback
import Glyphcast.Proofs.Session.Fanout
import Glyphcast.Proofs.Station.Exclusivity

/-!
# Whose playback it is

A playback belongs to whoever started it last, and plays to nobody else. Three things have to agree
for that: what the hub has written down as the owner, the listener that the player was given, and
the listener that each timer was given. A start writes all three; a stop, a shutdown and the release
of the owner end the playback; and a playback that comes to its end by itself leaves the owner
written down, which does no harm, as nothing is loaded then.

A timer may run at any time, also when a command has given it up, so a step here is an event or the
run of a single timer. Such a run is a stretch between two of the timer's waits, from its look at
whether it still counts to the delivery of the frame, with no command in between; a command, too, is
one step. Who started the last playback is remembered by someone who watches (`Playbill`), and so is
who has been released.
-/

namespace Glyphcast.Station

variable {δ ρ : Type} [CaptureDevice δ] [FrameRenderer ρ]

/-! ## Steps, watched -/

/-- Something that happens to a station, or one of the player's timers runs. -/
inductive Step where
  /-- An event. -/
  | event (event : Event)
  /-- The timer at a position runs, when it is due or at any other time. -/
  | wake (position now : Nat)

/-- The frames of a playback that a step delivers, each with the seat of its listener. -/
def played (station : Station δ ρ) : Step → List (SeatNumber × String)
  | .event (.runPlayer now) => (station.hub.player.settle now).1
  | .event _ => []
  | .wake position now =>
    match station.hub.player.timers[position]? with
    | none => []
    | some timer =>
      (timer.wake now station.hub.player).texts.map (timer.listener, ·)

/-- The station after a step. What a timer delivers is sent to its listener at once. -/
def step (station : Station δ ρ) : Step → Station δ ρ
  | .event event => station.apply event
  | .wake position now =>
    { station with
      hub := { station.hub with player := station.hub.player.wakeAt position now }
      floor := (station.played (.wake position now)).foldl
        (fun floor (number, text) ↦ floor.sendFrame number text) station.floor }

/-- The seat whose session starts a playback by a step: it is told so. -/
def starter? (station : Station δ ρ) : Step → Option SeatNumber
  | .event (.text now stamp number text) =>
    if station.isServed number ∧
        (station.handleText now stamp number text).1 = [.playbackStarted] then some number
    else none
  | _ => none

/-- The id that is released by a step. -/
def released? (station : Station δ ρ) : Step → Option Nat
  | .event (.release _ position) => (station.departures[position]?).map (·.1)
  | _ => none

/-- What someone remembers who watches the playbacks. -/
structure Playbill where
  /-- The seat whose session started the last playback. -/
  starter : Option SeatNumber := none
  /-- The ids that have been released. -/
  released : List Nat := []

/-- Note what a step does. -/
def Playbill.note (bill : Playbill) (station : Station δ ρ) (step : Step) : Playbill where
  starter := (station.starter? step).or bill.starter
  released := bill.released ++ (station.released? step).toList

/-- One step, watched. -/
def watch (state : Station δ ρ × Playbill) (step : Step) : Station δ ρ × Playbill :=
  (state.1.step step, state.2.note state.1 step)

/-- Some steps, watched. -/
def watchAll (state : Station δ ρ × Playbill) (steps : List Step) : Station δ ρ × Playbill :=
  steps.foldl watch state

/-! ## What a step leaves of the sessions -/

variable {station : Station δ ρ} {bill : Playbill}

private theorem stays_wake (station : Station δ ρ) (position now : Nat) :
    station.floor.Each Seat.Stays (station.step (.wake position now)).floor :=
  Floor.stays_foldl_sendFrame Prod.fst Prod.snd _ station.floor

private theorem leads_step (station : Station δ ρ) (step : Step) {number : SeatNumber} {seat : Seat}
    (found : station.floor.seat? number = some seat) :
    ∃ later, (station.step step).floor.seat? number = some later ∧ seat.Leads later := by
  cases step with
  | event event => exact station.leads_apply event found
  | wake position now =>
    obtain ⟨later, found', stays⟩ := (station.stays_wake position now).seat? found
    exact ⟨later, found', .of_stays stays⟩

theorem Seated.step (h : station.Seated) (step : Step) : (station.step step).Seated := by
  cases step with
  | event event => exact h.apply event
  | wake position now =>
    have stays := station.stays_wake position now
    refine ⟨fun found found' same ↦ ?_, fun mem ↦ ?_⟩
    · obtain ⟨seat, before, same'⟩ := stays.seat?_before found
      obtain ⟨seat', before', same''⟩ := stays.seat?_before found'
      exact h.ids before before' (same'.id.symm.trans (same.trans same''.id))
    · obtain ⟨number, seat, found, id, closed⟩ := h.departed mem
      obtain ⟨later, found', same⟩ := stays.seat? found
      exact ⟨number, later, found', same.id.trans id, same.phase.trans closed⟩

/-! ## What a text does to the playback -/

/-- A command of a session starts a playback for it, and it is told so; or it leaves the playback to
whom it belongs. -/
theorem perform_cases (station : Station δ ρ) (sound : station.hub.player.Sound) (now : Nat)
    (stamp : Recording.Stamp) (number : SeatNumber) (session : Session) (message : Message) :
    ((station.perform now stamp number session message).1 = .playbackStarted ∧
        (station.perform now stamp number session message).2.hub.Starts session.id number) ∨
      ((station.perform now stamp number session message).1 ≠ .playbackStarted ∧
        station.hub.PlaysOn (station.perform now stamp number session message).2.hub) := by
  -- every other command is one of the hub that starts nothing
  have other {reply : Reply} (command : Hub.Command) (told : reply ≠ .playbackStarted)
      (starts : command.isStartPlayback = false := by rfl) :
      reply ≠ .playbackStarted ∧ station.hub.PlaysOn (station.hub.apply command) :=
    ⟨told, Hub.playsOn_apply sound starts⟩
  cases message with
  | auth presented role => exact .inr ⟨by rintro ⟨⟩, Hub.playsOn_of_eq sound rfl rfl⟩
  | config cameraIndex resolution fps =>
    have started := (@other .configApplied (.startStreaming now cameraIndex
      (resolution.getD station.hub.config.defaultResolution.text)
      (fps.getD station.hub.config.defaultFps)) (by rintro ⟨⟩) rfl).2
    simp only [perform, configure, command]
    split
    · exact .inr ⟨by rintro ⟨⟩, started.trans (Hub.playsOn_of_eq started.player.sound rfl rfl)⟩
    · exact .inr ⟨by rintro ⟨⟩, started⟩
  | playbackStart filename =>
    simp only [perform, command, Prod.map, id]
    rcases Hub.starts_startPlayback sound filename session.id number with
      ⟨refusal, refused⟩ | ⟨after, granted, starts⟩
    · rw [refused]
      exact .inr ⟨by rintro ⟨⟩, Hub.playsOn_of_eq sound rfl rfl⟩
    · rw [granted]
      exact .inl ⟨rfl, starts⟩
  | stop => exact .inr (other (.stopStreaming now) (by rintro ⟨⟩))
  | recordStart =>
    have told (result : Except HubError String) :
        replyTo .recordingStarted result ≠ .playbackStarted := by
      cases result <;> rintro ⟨⟩
    exact .inr (other (.startRecording now stamp) (told _))
  | recordStop => exact .inr (other (.stopRecording now) (by rintro ⟨⟩))
  | playbackPause => exact .inr (other .pausePlayback (by rintro ⟨⟩))
  | playbackResume => exact .inr (other .resumePlayback (by rintro ⟨⟩))
  | playbackStop => exact .inr (other .stopPlayback (by rintro ⟨⟩))
  | playbackSpeed speed => exact .inr (other (.setPlaybackSpeed speed) (by rintro ⟨⟩))

/-- A text starts a playback for its sender, who has a role and is told so; or it leaves the
playback to whom it belongs. -/
theorem handleText_playback (sound : station.hub.player.Sound) (now : Nat)
    (stamp : Recording.Stamp) {number : SeatNumber} {seat : Seat} (text : String)
    (found : station.floor.seat? number = some seat) :
    ((station.handleText now stamp number text).1 = [.playbackStarted] ∧
        seat.session.phase.isAuthenticated = true ∧
        (station.handleText now stamp number text).2.hub.Starts seat.session.id number) ∨
      ((station.handleText now stamp number text).1 ≠ [.playbackStarted] ∧
        station.hub.PlaysOn (station.handleText now stamp number text).2.hub) := by
  obtain ⟨replies, answered, answers, handled⟩ :=
    station.handleText_cases now stamp number found text
  have same : station.hub.PlaysOn station.hub := Hub.playsOn_of_eq sound rfl rfl
  rw [handled]
  generalize Message.parse? text = message at answers
  cases answers with
  | closed _ => exact .inr ⟨nofun, same⟩
  | mismatch _ _ => exact .inr ⟨nofun, same⟩
  | refused _ _ _ => exact .inr ⟨nofun, same⟩
  | unknown _ => exact .inr ⟨nofun, same⟩
  | controller _ _ _ => exact .inr ⟨nofun, Hub.playsOn_of_eq sound rfl rfl⟩
  | viewer _ _ => exact .inr ⟨nofun, Hub.playsOn_of_eq sound rfl rfl⟩
  | performed _ entitled =>
    have role : seat.session.phase.isAuthenticated = true := (Bool.and_eq_true_iff.mp entitled).1
    rcases station.perform_cases sound now stamp number seat.session _ with
      ⟨told, starts⟩ | ⟨told, playsOn⟩
    · exact .inl ⟨congrArg ([·]) told, role, starts⟩
    · exact .inr ⟨fun h ↦ told (List.singleton_inj.mp h), playsOn⟩

/-! ## The invariant -/

/-- The player is in order; what is loaded is for the last starter, who owns it and has not been
released; and whoever has been released is closed. -/
structure Billed (station : Station δ ρ) (bill : Playbill) : Prop where
  seated : station.Seated
  sound : station.hub.player.Sound
  started : station.hub.player.status ≠ .idle → ∃ number seat, bill.starter = some number ∧
    station.floor.seat? number = some seat ∧ station.hub.player.listener = some number ∧
    station.hub.playbackOwner = some seat.session.id ∧ seat.session.id ∉ bill.released
  closed : ∀ id ∈ bill.released, ∃ number seat, station.floor.seat? number = some seat ∧
    seat.session.id = id ∧ seat.session.phase = .closed

omit [CaptureDevice δ] [FrameRenderer ρ] in
theorem billed_new (hub : Hub δ ρ) (key : ApiKey) (new : hub.player = {}) :
    Billed { hub, key } {} where
  seated := ⟨nofun, nofun⟩
  sound := by
    rw [new]
    exact ⟨⟨fun _ ↦ rfl, fun _ ↦ rfl⟩, nofun, fun _ ↦ nofun, nofun⟩
  started := fun loaded ↦ absurd (congrArg (·.status) new) loaded
  closed := nofun

omit [CaptureDevice δ] [FrameRenderer ρ] in
private theorem departed_of_released? {step : Step} {id : Nat}
    (h : station.released? step = some id) : ∃ phase, (id, phase) ∈ station.departures := by
  cases step with
  | wake position now => nomatch h
  | event event =>
    cases event with
    | release now position =>
      obtain ⟨⟨_, phase⟩, found, rfl⟩ := Option.map_eq_some_iff.mp h
      exact ⟨phase, List.mem_of_getElem? found⟩
    | _ => nomatch h

private theorem Billed.closed_step (h : station.Billed bill) (step : Step) :
    ∀ id ∈ (bill.note station step).released, ∃ number seat,
      (station.step step).floor.seat? number = some seat ∧ seat.session.id = id ∧
        seat.session.phase = .closed := by
  intro id mem
  have closed : ∃ number seat, station.floor.seat? number = some seat ∧ seat.session.id = id ∧
      seat.session.phase = .closed := by
    rw [Playbill.note, List.mem_append, Option.mem_toList] at mem
    rcases mem with old | new
    · exact h.closed id old
    · obtain ⟨phase, departed⟩ := departed_of_released? new
      exact h.seated.departed departed
  obtain ⟨number, seat, found, rfl, closed⟩ := closed
  obtain ⟨later, found', leads⟩ := station.leads_step step found
  exact ⟨number, later, found', leads.id, (closed ▸ leads.phase).eq_closed⟩

/-- Where a step starts nothing, what is loaded belongs to whom it belonged. -/
theorem Billed.of_playsOn (h : station.Billed bill) {step : Step}
    (playsOn : station.hub.PlaysOn (station.step step).hub) (quiet : station.starter? step = none)
    (others : (station.step step).hub.player.status ≠ .idle → ∀ id,
      station.released? step = some id → station.hub.playbackOwner ≠ some id) :
    (station.step step).Billed (bill.note station step) where
  seated := h.seated.step step
  sound := playsOn.player.sound
  started := fun loaded ↦ by
    obtain ⟨number, seat, starter, found, listener, owner, apart⟩ :=
      h.started (playsOn.player.loaded loaded)
    obtain ⟨later, found', leads⟩ := station.leads_step step found
    refine ⟨number, later, ?_, found', (playsOn.player.listener loaded).trans listener, ?_, ?_⟩
    · rw [Playbill.note, quiet, Option.none_or, starter]
    · rw [playsOn.owner loaded, owner, leads.id]
    · rw [Playbill.note, leads.id, List.mem_append, Option.mem_toList]
      rintro (old | new)
      · exact apart old
      · exact others loaded _ new owner
  closed := h.closed_step step

theorem Billed.text (h : station.Billed bill) (now : Nat) (stamp : Recording.Stamp)
    (number : SeatNumber) (text : String) :
    (station.step (.event (.text now stamp number text))).Billed
      (bill.note station (.event (.text now stamp number text))) := by
  cases served : station.isServed number with
  | false =>
    have unheard : station.step (.event (.text now stamp number text)) = station := by
      rw [step, apply, if_neg (by rw [served]; decide)]
    refine h.of_playsOn ?_ ?_ ?_
    · rw [unheard]
      exact Hub.playsOn_of_eq h.sound rfl rfl
    · rw [starter?, if_neg (by rw [served]; rintro ⟨⟨⟩, -⟩)]
    · rintro - id ⟨⟩
  | true =>
    obtain ⟨seat, found, -⟩ := isServed_iff.mp served
    have heard : station.step (.event (.text now stamp number text)) =
        (station.handleText now stamp number text).2 := by
      rw [step, apply, if_pos served]
    rcases handleText_playback h.sound now stamp text found with
      ⟨told, role, starts⟩ | ⟨told, playsOn⟩
    · rw [← heard] at starts
      obtain ⟨later, found', leads⟩ :=
        station.leads_step (.event (.text now stamp number text)) found
      refine ⟨h.seated.step _, starts.sound, fun _ ↦ ⟨number, later, ?_, found', starts.listener,
        leads.id ▸ starts.owner, fun mem ↦ ?_⟩, h.closed_step _⟩
      · rw [Playbill.note, starter?, if_pos ⟨served, told⟩, Option.some_or]
      · -- who has been released is closed, and would not have been heard
        have none : station.released? (.event (.text now stamp number text)) = none := rfl
        rw [Playbill.note, none, Option.toList_none, List.append_nil] at mem
        obtain ⟨_, seat', found'', same, closed⟩ := h.closed _ mem
        cases h.seated.ids found'' found (same.trans leads.id)
        cases found''.symm.trans found
        rw [closed] at role
        cases role
    · refine h.of_playsOn (heard ▸ playsOn) ?_ ?_
      · rw [starter?, if_neg fun h ↦ told h.2]
      · rintro - id ⟨⟩

theorem Billed.release (h : station.Billed bill) (now position : Nat) :
    (station.step (.event (.release now position))).Billed
      (bill.note station (.event (.release now position))) := by
  cases departure : station.departures[position]? with
  | none =>
    have same : station.step (.event (.release now position)) = station := by
      rw [step, apply, releaseAt, departure]
    refine h.of_playsOn ?_ rfl fun _ id released ↦ ?_
    · rw [same]
      exact Hub.playsOn_of_eq h.sound rfl rfl
    · rw [released?, departure] at released
      cases released
  | some departing =>
    obtain ⟨id, phase⟩ := departing
    have released : (station.step (.event (.release now position))).hub =
        station.hub.releaseSession station.floor now id phase := by
      rw [step, apply, releaseAt, departure]
    obtain ⟨playsOn, others⟩ := Hub.playsOn_releaseSession h.sound station.floor now id phase
    refine h.of_playsOn (released ▸ playsOn) rfl fun loaded id' same ↦ ?_
    rw [released?, departure] at same
    cases same
    exact others (released ▸ loaded)

/-- Every step keeps the invariant. -/
theorem Billed.step (h : station.Billed bill) (step : Step) :
    (station.step step).Billed (bill.note station step) := by
  have same {step : Step} (hub : (station.step step).hub = station.hub)
      (quiet : station.starter? step = none) (others : station.released? step = none) :
      (station.step step).Billed (bill.note station step) := by
    refine h.of_playsOn ?_ quiet fun _ id released ↦ nomatch others.symm.trans released
    rw [hub]
    exact Hub.playsOn_of_eq h.sound rfl rfl
  have commanded {event : Event} (command : Hub.Command)
      (hub : (station.apply event).hub = station.hub.apply command)
      (starts : command.isStartPlayback = false) (quiet : station.starter? (.event event) = none)
      (others : station.released? (.event event) = none) :
      (station.step (.event event)).Billed (bill.note station (.event event)) := by
    refine h.of_playsOn ?_ quiet fun _ id released ↦ nomatch others.symm.trans released
    exact hub ▸ Hub.playsOn_apply h.sound starts
  cases step with
  | wake position now =>
    exact h.of_playsOn ⟨h.sound.goesOn_wakeAt position now, fun _ ↦ rfl⟩ rfl fun _ ↦ nofun
  | event event =>
    cases event with
    | text now stamp number text => exact h.text now stamp number text
    | release now position => exact h.release now position
    | runPlayer now => exact commanded (.runPlayer station.floor now) rfl rfl rfl rfl
    | read => exact commanded .read rfl rfl rfl rfl
    | keep now => exact commanded (.keep now) rfl rfl rfl rfl
    | conclude now => exact commanded (.conclude station.floor now) rfl rfl rfl rfl
    | shutdown now => exact commanded (.shutdown now) rfl rfl rfl rfl
    | _ => exact same (station.hub_apply rfl) rfl rfl

theorem Billed.watchAll {state : Station δ ρ × Playbill} (h : state.1.Billed state.2)
    (steps : List Step) : (watchAll state steps).1.Billed (watchAll state steps).2 := by
  induction steps generalizing state with
  | nil => exact h
  | cons step steps ih => exact ih (h.step step)

/-! ## What is promised -/

omit [CaptureDevice δ] [FrameRenderer ρ] in
private theorem Billed.mem_played (h : station.Billed bill) {step : Step}
    {frame : SeatNumber × String} (mem : frame ∈ station.played step) :
    bill.starter = some frame.1 := by
  have playing : station.hub.player.status = .playing ∧
      station.hub.player.listener = some frame.1 := by
    cases step with
    | wake position now =>
      rw [played] at mem
      split at mem
      · nomatch mem
      · next timer found =>
        obtain ⟨text, heard, rfl⟩ := List.mem_map.mp mem
        exact h.sound.mem_wake found heard
    | event event =>
      cases event with
      | runPlayer now => exact h.sound.mem_settle mem
      | _ => nomatch mem
  obtain ⟨number, seat, starter, -, listener, -⟩ := h.started (by rw [playing.1]; decide)
  rw [starter, ← listener, playing.2]

/-- Who did not start the last playback starts one, or stays one who did not. -/
theorem Billed.starter_ne (h : station.Billed bill) {number : SeatNumber}
    (other : bill.starter ≠ some number) {steps : List Step}
    (never : ∀ first step rest, steps = first ++ step :: rest →
      (Station.watchAll (station, bill) first).1.starter? step ≠ some number) :
    (Station.watchAll (station, bill) steps).2.starter ≠ some number := by
  induction steps generalizing station bill with
  | nil => exact other
  | cons step steps ih =>
    refine ih (h.step step) ?_ fun first later rest split ↦ ?_
    · rw [Playbill.note]
      cases starter : station.starter? step with
      | none => rwa [Option.none_or]
      | some starter' =>
        rw [Option.some_or, ← starter]
        exact never [] step steps rfl
    · exact never (step :: first) later rest (congrArg (step :: ·) split)

/-- What is promised of the playback in a state, by what has happened before. -/
structure Staged (station : Station δ ρ) (bill : Playbill) : Prop where
  /-- Unless the player is idle, the owner is the session that started the last playback, and it has
  not been released. -/
  owned : station.hub.player.status ≠ .idle → ∃ number seat, bill.starter = some number ∧
    station.floor.seat? number = some seat ∧
    station.hub.playbackOwner = some seat.session.id ∧ seat.session.id ∉ bill.released
  /-- Whatever is delivered by any step is delivered to that session. -/
  audience : ∀ step, ∀ frame ∈ station.played step, bill.starter = some frame.1
  /-- When the player runs, or one of its timers, no other session is touched. -/
  others : ∀ now number, bill.starter ≠ some number →
    (station.step (.event (.runPlayer now))).floor.seat? number = station.floor.seat? number ∧
    ∀ position, (station.step (.wake position now)).floor.seat? number =
      station.floor.seat? number
  /-- Whoever else has had a playback gets nothing more until it starts one again. -/
  handedOver : ∀ number, bill.starter ≠ some number → ∀ steps,
    (∀ first step rest, steps = first ++ step :: rest →
      (watchAll (station, bill) first).1.starter? step ≠ some number) →
    ∀ step, ∀ frame ∈ (watchAll (station, bill) steps).1.played step, frame.1 ≠ number
  /-- The release of anyone else leaves the playback as it is. -/
  undisturbed : station.hub.player.status ≠ .idle → ∀ now position id phase,
    station.departures[position]? = some (id, phase) →
    (∀ number seat, bill.starter = some number → station.floor.seat? number = some seat →
      seat.session.id ≠ id) →
    (station.apply (.release now position)).hub.player = station.hub.player ∧
      (station.apply (.release now position)).hub.playbackOwner = station.hub.playbackOwner

private theorem Billed.staged (h : station.Billed bill) : station.Staged bill where
  owned := fun loaded ↦ by
    obtain ⟨number, seat, starter, found, -, owner, apart⟩ := h.started loaded
    exact ⟨number, seat, starter, found, owner, apart⟩
  audience := fun _ _ mem ↦ h.mem_played mem
  others := fun now number other ↦ by
    have apart (step : Step) : ∀ frame ∈ station.played step, frame.1 ≠ number := by
      rintro frame mem rfl
      exact other (h.mem_played mem)
    exact ⟨Floor.seat?_foldl_sendFrame_of_ne Prod.fst Prod.snd _ (apart (.event (.runPlayer now))),
      fun position ↦ Floor.seat?_foldl_sendFrame_of_ne Prod.fst Prod.snd _
        (apart (.wake position now))⟩
  handedOver := fun number other steps never step frame mem ↦ by
    have later := @Billed.watchAll _ _ _ _ (station, bill) h steps
    rintro rfl
    exact h.starter_ne other never (later.mem_played mem)
  undisturbed := fun loaded now position id phase departure apart ↦ by
    obtain ⟨number, seat, starter, found, -, owner, -⟩ := h.started loaded
    obtain ⟨player, sameOwner, -⟩ :=
      station.hub.player_unregister station.floor now id phase
    have free : station.hub.playbackOwner ≠ some id := by
      rw [owner]
      exact fun same ↦ apart number seat starter found (Option.some.inj same)
    rw [apply, releaseAt, departure]
    dsimp only
    rw [Hub.releaseSession_eq, Hub.endPlayback, if_neg (by rwa [sameOwner])]
    exact ⟨player, sameOwner⟩

/-- Whatever clients send, whoever leaves and is released, and whenever timers run: a playback
belongs to the session that started the last one and plays to it alone, and nobody's leaving stops
another's playback. -/
theorem staged_run (device : δ) (renderer : ρ) (config : HubConfig) (disk : Recording.Disk)
    (key : ApiKey) (steps : List Step) :
    let state := watchAll ({ hub := Hub.new device renderer config disk, key }, {}) steps
    state.1.Staged state.2 :=
  ((billed_new (Hub.new device renderer config disk) key rfl).watchAll steps).staged

end Glyphcast.Station
