import Glyphcast.Proofs.Hub.Alike
import Glyphcast.Proofs.Station.Outline
import Glyphcast.Proofs.Station.Playback

/-!
# Two stations that are alike

Two stations are `Alike` if someone who looks away from those aside cannot tell them apart:
everybody else is in the same state, and the hubs are alike. There are two steps. An event that is
not seen may happen to one of them alone (`Alike.unseen`), and an event that is seen happens to
both, and deals the same to whoever is not aside (`Alike.seen`).

Sessions share a hub, and three things on it could carry what becomes of one to another. The slot
of the controller is given away when its holder is gone or a write to it has failed; but its holder
is never aside. The viewers are struck out when they have gone; but whoever is alive is struck out
by its own id alone. And a playback ends with its owner; but it is its owner's alone. The first of
these and the last are known of every single station in a run (`Guarded`).
-/

namespace Glyphcast

variable {aside : Nat → Bool}

/-- Two states of a seat that are the same, unless the session in it is aside; and then it has the
same id, and stands where it did until it is closed. -/
structure Seat.Alike (aside : Nat → Bool) (first second : Seat) : Prop where
  id : second.session.id = first.session.id
  same : aside first.session.id = false → second = first
  phase : first.session.phase ≠ .closed → second.session.phase ≠ .closed →
    second.session.phase = first.session.phase

namespace Seat.Alike

theorem refl (aside : Nat → Bool) (seat : Seat) : seat.Alike aside seat :=
  ⟨rfl, fun _ ↦ rfl, fun _ _ ↦ rfl⟩

theorem symm {first second : Seat} (h : first.Alike aside second) : second.Alike aside first :=
  ⟨h.id.symm, fun counts ↦ (h.same (h.id ▸ counts)).symm,
    fun notClosed notClosed' ↦ (h.phase notClosed' notClosed).symm⟩

end Seat.Alike

namespace Station

variable {δ ρ : Type} {first second : Station δ ρ}

/-- Whether an entry of the roster is of a session that is alive and not aside. -/
def Counts (aside : Nat → Bool) (station : Station δ ρ) (entry : Nat × SeatNumber) : Prop :=
  ∃ seat, station.floor.seat? entry.2 = some seat ∧ seat.session.id = entry.1 ∧
    aside entry.1 = false ∧ seat.isAlive = true

theorem Counts.isAlive {station : Station δ ρ} {entry : Nat × SeatNumber}
    (h : station.Counts aside entry) : station.floor.isAlive entry.2 = true := by
  obtain ⟨seat, found, -, -, alive⟩ := h
  exact (Floor.isAlive_eq found).trans alive

/-- Two stations that differ in what concerns those aside at most. -/
structure Alike (aside : Nat → Bool) (first second : Station δ ρ) : Prop where
  key : second.key = first.key
  floor : first.floor.Each (Seat.Alike aside) second.floor
  hub : first.hub.Alike aside (first.Counts aside) second.hub

theorem Alike.counts (h : first.Alike aside second) {entry : Nat × SeatNumber}
    (counts : second.Counts aside entry) : first.Counts aside entry := by
  obtain ⟨seat', found', id, apart, alive⟩ := counts
  obtain ⟨seat, found, same⟩ := h.floor.seat?_before found'
  have id' := same.id.symm.trans id
  cases same.same (id' ▸ apart)
  exact ⟨seat', found, id, apart, alive⟩

theorem Alike.symm (h : first.Alike aside second) : second.Alike aside first where
  key := h.key.symm
  floor := h.floor.symm Seat.Alike.symm
  hub := h.hub.symm.mono fun _ ↦ h.counts

theorem Alike.isAside (h : first.Alike aside second) (number : SeatNumber) :
    second.isAside aside number = first.isAside aside number := by
  rw [Station.isAside, Station.isAside]
  cases found : first.floor.seat? number with
  | none => rw [h.floor.seat?_eq_none_iff.mpr found]
  | some seat =>
    obtain ⟨seat', found', same⟩ := h.floor.seat? found
    rw [found', Option.any_some, Option.any_some, same.id]

/-! ## What is known of each -/

/-- What is known of a station in which nobody aside is or has left as a controller. -/
structure Guarded (aside : Nat → Bool) (station : Station δ ρ) : Prop where
  accounted : station.Accounted
  billed : ∃ bill, station.Billed bill
  humble : station.Humble aside
  departed : ∀ {id phase}, (id, phase) ∈ station.departures → aside id = true → phase ≠ .controller

theorem Guarded.slot {station : Station δ ρ} (h : station.Guarded aside) {entry : Nat × SeatNumber}
    (slot : station.hub.roster.controller = some entry) :
    ∃ seat, station.floor.seat? entry.2 = some seat ∧ aside seat.session.id = false := by
  obtain ⟨seat, found, id, expected⟩ := h.accounted.controller entry slot
  refine ⟨seat, found, Bool.eq_false_iff.mpr fun isAside ↦ ?_⟩
  rcases expected with phase | ⟨phase, controller, departed⟩
  · exact h.humble seat (List.mem_of_getElem? found) isAside phase
  · exact h.departed departed (id ▸ isAside) controller

variable [CaptureDevice δ] [FrameRenderer ρ]

theorem Guarded.apply {station : Station δ ρ} (h : station.Guarded aside) {event : Event}
    (humble : (station.apply event).Humble aside) : (station.apply event).Guarded aside where
  accounted := h.accounted.apply event
  billed := by
    obtain ⟨bill, billed⟩ := h.billed
    exact ⟨_, billed.step (.event event)⟩
  humble := humble
  departed := fun {id phase} mem isAside ↦ by
    rcases station.departures_cases event with
      same | ⟨number, seat, -, found, -, longer⟩ | ⟨now, position, -, shorter⟩
    · exact h.departed (same ▸ mem) isAside
    · rw [longer, List.mem_append, List.mem_singleton] at mem
      rcases mem with old | new
      · exact h.departed old isAside
      · cases new
        exact h.humble seat (List.mem_of_getElem? found) isAside
    · exact h.departed ((List.eraseIdx_sublist _ _).subset (shorter ▸ mem)) isAside

/-! ## Texts -/

section

variable (h : first.Alike aside second) (guarded : first.Guarded aside)
  (guarded' : second.Guarded aside) {session session' : Session} (id : session'.id = session.id)
  (phase : session'.phase = session.phase) (number : SeatNumber)

include h guarded guarded' id phase

omit [CaptureDevice δ] [FrameRenderer ρ] in
/-- An attempt to be granted a role is answered alike. -/
theorem Alike.authenticate (presented : String) (asked : Role) :
    (second.authenticate number session' presented asked).1 =
        (first.authenticate number session presented asked).1 ∧
      (first.authenticate number session presented asked).2.hub.Alike aside (first.Counts aside)
        (second.authenticate number session' presented asked).2.hub := by
  have sorted := guarded.accounted.sorted
  have sorted' := guarded'.accounted.sorted
  -- whoever is in the slot counts, and so is alive for both or for none
  have holder (entry : Nat × SeatNumber) (slot : first.hub.roster.controller = some entry) :
      second.floor.alive? entry.2 = first.floor.alive? entry.2 := by
    obtain ⟨seat, found, counts⟩ := guarded.slot slot
    obtain ⟨seat', found', same⟩ := h.floor.seat? found
    rw [Floor.alive?, Floor.alive?, found, found', same.same counts]
  unfold Station.authenticate
  rw [phase, h.key, id]
  split_ifs
  · exact ⟨rfl, h.hub⟩
  · exact ⟨rfl, h.hub⟩
  · cases session.phase.role?.getD asked with
    | controller =>
      obtain ⟨result, hub⟩ := h.hub.claimController sorted sorted' holder session.id number
      simp only [command, result]
      cases (first.hub.claimController first.floor session.id number).1 with
      | error refusal => exact ⟨rfl, hub⟩
      | ok _ => exact ⟨rfl, hub⟩
    | viewer =>
      have streaming := h.hub.control.streaming
      refine ⟨?_, h.hub.addViewer sorted sorted' session.id number⟩
      simp only [Hub.addViewer, Hub.isStreaming, streaming]

omit phase in
theorem Alike.perform (now : Nat) (stamp : Recording.Stamp) (message : Message) :
    (second.perform now stamp number session' message).1 =
        (first.perform now stamp number session message).1 ∧
      (first.perform now stamp number session message).2.hub.Alike aside (first.Counts aside)
        (second.perform now stamp number session' message).2.hub := by
  cases message with
  | auth presented asked => exact ⟨rfl, h.hub⟩
  | config cameraIndex resolution fps =>
    simp only [Station.perform, configure, command, h.hub.control.config]
    set grid := resolution.getD first.hub.config.defaultResolution.text
    set rate := fps.getD first.hub.config.defaultFps
    obtain ⟨result, hub⟩ := h.hub.startStreaming now cameraIndex grid rate
    rw [result, id]
    cases (first.hub.startStreaming now cameraIndex grid rate).1 with
    | error refusal => exact ⟨rfl, hub⟩
    | ok _ =>
      refine ⟨rfl, hub.addViewer ?_ ?_ session.id number⟩
      · exact Hub.roster_startStreaming first.hub .. ▸ guarded.accounted.sorted
      · exact Hub.roster_startStreaming second.hub .. ▸ guarded'.accounted.sorted
  | stop => exact ⟨rfl, h.hub.stopStreaming now⟩
  | recordStart =>
    obtain ⟨result, hub⟩ := h.hub.startRecording now stamp
    exact ⟨congrArg (replyTo .recordingStarted) result, hub⟩
  | recordStop => exact ⟨rfl, h.hub.stopRecording now⟩
  | playbackStart filename =>
    obtain ⟨result, hub⟩ := h.hub.startPlayback filename session.id number
    simp only [Station.perform, command, Prod.map, id, result]
    exact ⟨trivial, hub⟩
  | playbackPause => exact ⟨rfl, h.hub.pausePlayback⟩
  | playbackResume => exact ⟨rfl, h.hub.resumePlayback⟩
  | playbackStop => exact ⟨rfl, h.hub.stopPlayback⟩
  | playbackSpeed speed => exact ⟨rfl, h.hub.setPlaybackSpeed speed⟩

theorem Alike.dispatch (now : Nat) (stamp : Recording.Stamp) (message : Message) :
    (second.dispatch now stamp number session' message).1 =
        (first.dispatch now stamp number session message).1 ∧
      (first.dispatch now stamp number session message).2.hub.Alike aside (first.Counts aside)
        (second.dispatch now stamp number session' message).2.hub := by
  unfold Station.dispatch
  rw [phase]
  split
  · exact h.authenticate guarded guarded' id phase number _ _
  · split_ifs
    · obtain ⟨reply, hub⟩ := h.perform guarded guarded' id number now stamp message
      exact ⟨congrArg ([·]) reply, hub⟩
    · exact ⟨rfl, h.hub⟩

end

/-- A text is answered alike, if its sender has the same id and stands where it stands. -/
theorem Alike.handleText (h : first.Alike aside second) (guarded : first.Guarded aside)
    (guarded' : second.Guarded aside) {number : SeatNumber} {seat seat' : Seat}
    (found : first.floor.seat? number = some seat) (found' : second.floor.seat? number = some seat')
    (id : seat'.session.id = seat.session.id) (phase : seat'.session.phase = seat.session.phase)
    (now : Nat) (stamp : Recording.Stamp) (text : String) :
    (second.handleText now stamp number text).1 = (first.handleText now stamp number text).1 ∧
      (first.handleText now stamp number text).2.hub.Alike aside (first.Counts aside)
        (second.handleText now stamp number text).2.hub := by
  unfold Station.handleText
  rw [found, found']
  cases Message.parse? text with
  | none => exact ⟨rfl, h.hub⟩
  | some message => exact h.dispatch guarded guarded' id phase number now stamp message

/-! ## What one session is dealt -/

omit [CaptureDevice δ] [FrameRenderer ρ] in
private theorem Guarded.filter_settle {station : Station δ ρ} (h : station.Guarded aside)
    (plays : station.hub.PlaysAside aside) {number : SeatNumber} {seat : Seat}
    (found : station.floor.seat? number = some seat) (apart : aside seat.session.id = false)
    (now : Nat) : (station.hub.player.settle now).1.filter (·.1 = number) = [] := by
  refine List.filter_eq_nil_iff.mpr fun frame mem ↦ ?_
  rw [decide_eq_true_eq]
  rintro rfl
  obtain ⟨bill, billed⟩ := h.billed
  obtain ⟨playing, listener⟩ := billed.sound.mem_settle mem
  obtain ⟨number, seat', -, found', listener', owner, -⟩ := billed.started (by rw [playing]; decide)
  cases listener.symm.trans listener'
  cases found.symm.trans found'
  exact Bool.false_ne_true (apart.symm.trans (plays _ owner))

theorem Alike.deal (h : first.Alike aside second) (guarded : first.Guarded aside)
    (guarded' : second.Guarded aside) {number : SeatNumber} {seat : Seat}
    (found : first.floor.seat? number = some seat) (found' : second.floor.seat? number = some seat)
    (apart : aside seat.session.id = false) (event : Event) :
    second.deal number event = first.deal number event := by
  have served : second.isServed number = first.isServed number := by
    rw [isServed_eq found, isServed_eq found']
  cases event with
  | text now stamp sender text =>
    obtain ⟨replies, -⟩ := h.handleText guarded guarded' found found' rfl rfl now stamp text
    rw [Station.deal, Station.deal, served, replies]
  | bytes sender => rw [Station.deal, Station.deal, served]
  | teardown other => rw [Station.deal, Station.deal, served]
  | closeSink other => rw [Station.deal, Station.deal, served]
  | runPlayer now =>
    rw [Station.deal, Station.deal, Floor.isAlive_eq found, Floor.isAlive_eq found']
    rcases h.hub.playback.same with ⟨plays, plays'⟩ | ⟨-, bare⟩
    · rw [guarded.filter_settle plays found apart, guarded'.filter_settle plays' found' apart]
    · obtain ⟨_, billed⟩ := guarded.billed
      obtain ⟨_, billed'⟩ := guarded'.billed
      rw [billed'.sound.settle_bare, bare, ← billed.sound.settle_bare]
  | conclude now =>
    have published : second.hub.published? = first.hub.published? := by
      rw [Hub.published?, Hub.published?, h.hub.control.capture]
    have receives : second.receives number = first.receives number := by
      rw [Bool.eq_iff_iff, receives_iff guarded.accounted found,
        receives_iff guarded'.accounted found']
      exact and_congr_left fun alive ↦ h.hub.viewers _ ⟨seat, found, rfl, apart, alive⟩
    rw [Station.deal, Station.deal, offers, offers, published, receives]
  | _ => rfl

/-! ## An event that is not seen -/

/-- No event changes the key. -/
@[simp] theorem key_apply (station : Station δ ρ) (event : Event) :
    (station.apply event).key = station.key := by
  cases event with
  | connect id capacity now => rw [apply]; split <;> rfl
  | text now stamp number text =>
    rw [apply]
    split
    · next served =>
      obtain ⟨seat, found, -⟩ := isServed_iff.mp served
      obtain ⟨replies, answered, answers, handled⟩ :=
        station.handleText_cases now stamp number found text
      rw [handled]
      generalize Message.parse? text = message at answers
      cases answers <;> rfl
    · rfl
  | bytes number => rw [apply]; split <;> rfl
  | teardown number =>
    rw [apply, teardown]
    split
    · split <;> rfl
    · rfl
  | closeSink number => rw [apply]; split <;> rfl
  | release now position => rw [apply, releaseAt]; split <;> rfl
  | _ => rfl

private theorem Counts.of_apply {station : Station δ ρ} (accounted : station.Accounted)
    {event : Event} (old : event.isConnect = false) {entry : Nat × SeatNumber}
    (h : (station.apply event).Counts aside entry) : station.Counts aside entry := by
  obtain ⟨later, found', id, apart, alive⟩ := h
  obtain ⟨seat, found, leads⟩ := (station.each_leads_apply old).seat?_before found'
  exact ⟨seat, found, leads.id.symm.trans id, apart, alive_apply accounted event found found' alive⟩

/-- What one of two stations does not see leaves them alike. -/
theorem Alike.unseen {aside : Nat → Bool} {first second : Station δ ρ} {event : Event}
    (h : first.Alike aside second) (guarded : first.Guarded aside)
    (unseen : first.sight? aside event = none) : (first.apply event).Alike aside second where
  key := h.key.trans (first.key_apply event).symm
  floor := by
    intro number
    cases found : first.floor.seat? number with
    | none =>
      have none := (first.each_leads_apply (old_of_unseen unseen)).seat?_eq_none_iff.mpr found
      rw [none, h.floor.seat?_eq_none_iff.mpr found]
      exact .none
    | some seat =>
      obtain ⟨seat', found', same⟩ := h.floor.seat? found
      obtain ⟨later, after, leads⟩ := first.leads_apply event found
      rw [after, found']
      refine .some ⟨same.id.trans leads.id.symm, fun apart ↦ ?_, fun notClosed notClosed' ↦ ?_⟩
      · rw [leads.id] at apart
        rw [seat?_of_unseen guarded.accounted unseen found apart] at after
        cases after
        exact same.same apart
      · have phase := (phase_of_unseen guarded.accounted unseen found after).resolve_right notClosed
        rw [phase] at notClosed ⊢
        exact same.phase notClosed notClosed'
  hub := by
    have counts (entry : Nat × SeatNumber) (counts : (first.apply event).Counts aside entry) :
        first.Counts aside entry :=
      counts.of_apply guarded.accounted (old_of_unseen unseen)
    refine Hub.Alike.mono ?_ counts
    rcases unseen_cases unseen with ⟨other, link, -⟩ | ⟨now, position, rfl, isAside⟩
    · rw [first.hub_apply (isPrivate_of_link link)]
      exact h.hub
    · rw [apply, releaseAt]
      split
      · exact h.hub
      · next id phase departure =>
        have isAside := isAside _ departure
        have humble := guarded.departed (List.mem_of_getElem? departure) isAside
        refine h.hub.releaseSession_left (fun _ ↦ Counts.isAlive) now isAside ?_ humble
        rintro entry ⟨-, -, -, apart, -⟩ rfl
        exact Bool.false_ne_true (apart.symm.trans isAside)

/-! ## An event that is seen -/

omit [CaptureDevice δ] [FrameRenderer ρ] in
private theorem hasId_iff {station : Station δ ρ} {id : Nat} :
    station.hasId id = true ↔
      ∃ number seat, station.floor.seat? number = some seat ∧ seat.session.id = id := by
  rw [hasId, List.any_eq_true]
  constructor
  · rintro ⟨seat, mem, same⟩
    obtain ⟨number, found⟩ := List.mem_iff_getElem?.mp mem
    exact ⟨number, seat, found, beq_iff_eq.mp same⟩
  · rintro ⟨number, seat, found, same⟩
    exact ⟨seat, List.mem_of_getElem? found, beq_iff_eq.mpr same⟩

section

variable {aside : Nat → Bool} {first second : Station δ ρ} {event : Event}
  (h : first.Alike aside second) (guarded : first.Guarded aside) (guarded' : second.Guarded aside)

include h

omit [FrameRenderer ρ] in
theorem Alike.releaseAt {now position position' id : Nat} {phase : Phase}
    (departure : first.departures[position]? = some (id, phase))
    (departure' : second.departures[position']? = some (id, phase)) (apart : aside id = false) :
    (first.releaseAt now position).Alike aside (second.releaseAt now position') := by
  have alive' (entry : Nat × SeatNumber) (counts : first.Counts aside entry) :
      second.floor.isAlive entry.2 = true := (h.symm.counts counts).isAlive
  have released := h.hub.releaseSession (fun _ ↦ Counts.isAlive) alive' now apart phase
  rw [Station.releaseAt, Station.releaseAt, departure, departure']
  exact ⟨h.key, h.floor, released⟩

include guarded guarded'

theorem Alike.connect (id capacity now : Nat) :
    (first.apply (.connect id capacity now)).Alike aside
      (second.apply (.connect id capacity now)) := by
  have length : second.floor.seats.length = first.floor.seats.length := by
    refine Nat.le_antisymm ?_ ?_
    · refine List.getElem?_eq_none_iff.mp (h.floor.seat?_eq_none_iff.mpr ?_)
      exact List.getElem?_eq_none (Nat.le_refl _)
    · refine List.getElem?_eq_none_iff.mp (h.floor.seat?_eq_none_iff.mp ?_)
      exact List.getElem?_eq_none (Nat.le_refl _)
  have known : second.hasId id = first.hasId id := by
    rw [Bool.eq_iff_iff, hasId_iff, hasId_iff]
    constructor
    · rintro ⟨number, seat', found', same⟩
      obtain ⟨seat, found, alike⟩ := h.floor.seat?_before found'
      exact ⟨number, seat, found, alike.id.symm.trans same⟩
    · rintro ⟨number, seat, found, same⟩
      obtain ⟨seat', found', alike⟩ := h.floor.seat? found
      exact ⟨number, seat', found', alike.id.trans same⟩
  have viewers (entry : Nat × SeatNumber)
      (counts : (first.apply (.connect id capacity now)).Counts aside entry) :
      entry ∈ second.hub.roster.viewers ↔ entry ∈ first.hub.roster.viewers := by
    cases found : first.floor.seat? entry.2 with
    | some seat =>
      obtain ⟨later, found', counts⟩ := counts
      cases found'.symm.trans (first.seat?_connect id capacity now found)
      exact h.hub.viewers entry ⟨seat, found, counts⟩
    | none =>
      -- whoever is on the books is accounted for by a seat, and this one is new
      refine iff_of_false (fun mem ↦ ?_) fun mem ↦ ?_
      · obtain ⟨_, there, -⟩ := guarded'.accounted.viewers entry mem
        nomatch there.symm.trans (h.floor.seat?_eq_none_iff.mpr found)
      · obtain ⟨_, there, -⟩ := guarded.accounted.viewers entry mem
        nomatch there.symm.trans found
  rw [apply] at viewers ⊢
  rw [apply, known]
  split_ifs at viewers ⊢
  · exact h
  refine ⟨h.key, fun number ↦ ?_, h.hub.control, viewers, h.hub.playback⟩
  dsimp only
  rw [Floor.seat?_enroll, Floor.seat?_enroll, length]
  split_ifs
  · exact .some (.refl aside _)
  · exact h.floor number

variable (prompt : first.Prompt aside event) (prompt' : second.Prompt aside event)

omit guarded guarded' [CaptureDevice δ] [FrameRenderer ρ] in
include prompt prompt' in
/-- Whoever something is received from is served in both or in neither, and stands at one place. -/
theorem Alike.sender {number : SeatNumber} (sender : event.sender? = some number) {seat : Seat}
    (found : first.floor.seat? number = some seat) :
    ∃ seat', second.floor.seat? number = some seat' ∧ seat'.held = seat.held ∧
      seat'.session.id = seat.session.id ∧ seat'.session.phase = seat.session.phase := by
  obtain ⟨seat', found', same⟩ := h.floor.seat? found
  refine ⟨seat', found', ?_⟩
  cases isAside : aside seat.session.id with
  | false => rw [same.same isAside]; exact ⟨rfl, rfl, rfl⟩
  | true =>
    obtain ⟨held, isOpen⟩ := prompt number sender seat found isAside
    obtain ⟨held', isOpen'⟩ := prompt' number sender seat' found' (same.id ▸ isAside)
    exact ⟨held'.trans held.symm, same.id, same.phase isOpen isOpen'⟩

include prompt prompt' in
private theorem Alike.phase_apply (seen : ¬event.link?.any (first.isAside aside) = true)
    {number : SeatNumber} {seat seat' later later' : Seat}
    (found : first.floor.seat? number = some seat) (found' : second.floor.seat? number = some seat')
    (isAside : aside seat.session.id = true)
    (after : (first.apply event).floor.seat? number = some later)
    (after' : (second.apply event).floor.seat? number = some later')
    (notClosed : later.session.phase ≠ .closed) (notClosed' : later'.session.phase ≠ .closed) :
    later'.session.phase = later.session.phase := by
  obtain ⟨_, found'', same⟩ := h.floor.seat? found
  cases found'.symm.trans found''
  have dealt := after.symm.trans (seat?_apply guarded.accounted found event)
  have dealt' := after'.symm.trans (seat?_apply guarded'.accounted found' event)
  have untouched (none : first.deal number event = []) (none' : second.deal number event = []) :
      later'.session.phase = later.session.phase := by
    rw [none] at dealt
    rw [none'] at dealt'
    cases dealt
    cases dealt'
    exact same.phase notClosed notClosed'
  cases quiet : event.isQuiet with
  | true =>
    obtain ⟨_, still, stays⟩ := (first.stays_apply quiet).seat? found
    obtain ⟨_, still', stays'⟩ := (second.stays_apply quiet).seat? found'
    cases after.symm.trans still
    cases after'.symm.trans still'
    rw [stays.phase] at notClosed ⊢
    rw [stays'.phase] at notClosed' ⊢
    exact same.phase notClosed notClosed'
  | false =>
    cases event with
    | connect id capacity now => exact untouched rfl rfl
    | teardown other =>
      have ne : other ≠ number := by
        rintro rfl
        exact seen ((Option.any_eq_true ..).mpr ⟨other, rfl, (isAside_eq found).trans isAside⟩)
      exact untouched (if_neg fun h ↦ ne h.1) (if_neg fun h ↦ ne h.1)
    | text now stamp sender text =>
      by_cases own : sender = number
      · subst own
        obtain ⟨_, found'', held, id, phase⟩ := h.sender prompt prompt' rfl found
        cases found'.symm.trans found''
        have isHeld := (prompt sender rfl seat found isAside).1
        have served := (isServed_eq found).trans isHeld
        have served' := (isServed_eq found').trans (held.trans isHeld)
        obtain ⟨replies, -⟩ := h.handleText guarded guarded' found found' id phase now stamp text
        rw [Station.deal, if_pos ⟨rfl, served⟩] at dealt
        rw [Station.deal, if_pos ⟨rfl, served'⟩] at dealt'
        cases dealt
        cases dealt'
        rw [phase_deal, phase_deal, replies, phase]
      · exact untouched (if_neg fun h ↦ own h.1) (if_neg fun h ↦ own h.1)
    | _ => cases quiet

include prompt prompt' in
/-- What an event does to one hub it does to the other, unless it goes by the place of a
departure. -/
theorem Alike.hub_apply (notRelease : ∀ now position, event ≠ .release now position) :
    (first.apply event).hub.Alike aside (first.Counts aside) (second.apply event).hub := by
  cases event with
  | text now stamp sender text =>
    cases found : first.floor.seat? sender with
    | none =>
      have unserved : first.isServed sender = false := by rw [isServed, found]; rfl
      have unserved' : second.isServed sender = false := by
        rw [isServed, h.floor.seat?_eq_none_iff.mpr found]
        rfl
      rw [apply, apply, unserved, unserved']
      exact h.hub
    | some seat =>
      obtain ⟨seat', found', held, id, phase⟩ := h.sender prompt prompt' rfl found
      obtain ⟨-, hub⟩ := h.handleText guarded guarded' found found' id phase now stamp text
      rw [apply, apply, isServed_eq found, isServed_eq found', held]
      split_ifs
      · exact hub
      · exact h.hub
  | release now position => exact absurd rfl (notRelease now position)
  | runPlayer now =>
    obtain ⟨_, billed⟩ := guarded.billed
    obtain ⟨_, billed'⟩ := guarded'.billed
    exact h.hub.runPlayer billed.sound billed'.sound first.floor second.floor now
  | read => exact h.hub.read
  | keep now => exact h.hub.keep now
  | conclude now =>
    refine h.hub.conclude (fun _ ↦ Counts.isAlive) (fun entry counts ↦ ?_) now
    exact (h.symm.counts counts).isAlive
  | shutdown now => exact h.hub.shutdown now
  | _ =>
    rw [first.hub_apply rfl, second.hub_apply rfl]
    exact h.hub

include prompt prompt' in
/-- What both see, both do alike. -/
theorem Alike.shared (old : event.isConnect = false)
    (notRelease : ∀ now position, event ≠ .release now position)
    (seen : ¬event.link?.any (first.isAside aside) = true) :
    (first.apply event).Alike aside (second.apply event) where
  key := (second.key_apply event).trans (h.key.trans (first.key_apply event).symm)
  floor := by
    intro number
    cases found : first.floor.seat? number with
    | none =>
      rw [(first.each_leads_apply old).seat?_eq_none_iff.mpr found,
        (second.each_leads_apply old).seat?_eq_none_iff.mpr (h.floor.seat?_eq_none_iff.mpr found)]
      exact .none
    | some seat =>
      obtain ⟨seat', found', same⟩ := h.floor.seat? found
      obtain ⟨later, after, leads⟩ := first.leads_apply event found
      obtain ⟨later', after', leads'⟩ := second.leads_apply event found'
      rw [after, after']
      cases isAside : aside seat.session.id with
      | false =>
        cases same.same isAside
        rw [seat?_apply guarded.accounted found] at after
        rw [seat?_apply guarded'.accounted found',
          h.deal guarded guarded' found found' isAside, after] at after'
        cases after'
        exact .some (.refl aside _)
      | true =>
        refine .some ⟨leads'.id.trans (same.id.trans leads.id.symm), fun apart ↦ ?_, ?_⟩
        · exact absurd ((leads.id ▸ apart).symm.trans isAside) Bool.false_ne_true
        · exact h.phase_apply guarded guarded' prompt prompt' seen found found' isAside after after'
  hub := (h.hub_apply guarded guarded' prompt prompt' notRelease).mono
    fun _ counts ↦ counts.of_apply guarded.accounted old

end

/-- Of two events the same is seen. They leave the stations alike, and do the same to whoever is not
aside. -/
theorem Alike.seen {aside : Nat → Bool} {first second : Station δ ρ} {event event' : Event}
    (h : first.Alike aside second) (guarded : first.Guarded aside) (guarded' : second.Guarded aside)
    (prompt : first.Prompt aside event) (prompt' : second.Prompt aside event') {sight : Sight}
    (seen : first.sight? aside event = some sight)
    (seen' : second.sight? aside event' = some sight) :
    (first.apply event).Alike aside (second.apply event') ∧
      ∀ number seat, first.floor.seat? number = some seat → aside seat.session.id = false →
        second.deal number event' = first.deal number event := by
  rcases seen_cases seen with
    ⟨rfl, notRelease, link⟩ | ⟨now, position, id, phase, rfl, rfl, departure, apart⟩
  · rcases seen_cases seen' with ⟨same, -, -⟩ | ⟨_, _, _, _, -, other, -, -⟩
    · cases same
      refine ⟨?_, fun number seat found apart ↦ ?_⟩
      · cases old : event.isConnect with
        | false => exact h.shared guarded guarded' prompt prompt' old notRelease link
        | true =>
          cases event with
          | connect id capacity now => exact h.connect guarded guarded' id capacity now
          | _ => cases old
      · obtain ⟨seat', found', same⟩ := h.floor.seat? found
        cases same.same apart
        exact h.deal guarded guarded' found found' apart event
    · cases other
  · rcases seen_cases seen' with ⟨same, -, -⟩ | ⟨_, position', _, _, rfl, same, departure', -⟩
    · cases same
    · cases same
      exact ⟨h.releaseAt departure departure' apart, fun _ _ _ _ ↦ rfl⟩

end Station

end Glyphcast
