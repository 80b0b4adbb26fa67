import Glyphcast.Proofs.Hub.Broadcast
import Glyphcast.Proofs.Roster.Broadcast
import Glyphcast.Proofs.Session.Events
import Glyphcast.Proofs.Station.Books

/-!
# The course of a session

What happens to a station is told here from one seat. `deal` is what an event does to the session in
that seat, as a list of the session's own events, and `course` is what a whole run does to it since
it came. So whatever is known of sessions by themselves is known of the sessions of a station.

Nothing of this is written down by the station. That a session is what its course makes of it is
`session_course`, and it rests on `seat?_apply`, which compares the seat with the deal after every
event. The one event for which this takes more than looking is the broadcast: the loop over the
registered viewers comes by a seat once, as an id is registered once and a seat has one id.
-/

namespace Glyphcast

/-- The role that a reply grants. -/
def Reply.grant? : Reply → Option Role
  | authControllerSuccess => some .controller
  | authViewerSuccess => some .viewer
  | _ => none

/-- What is done to a session that is answered like this: the role is granted first. -/
def Reply.deal (replies : List Reply) : List Session.Event :=
  (replies.filterMap grant?).map .authenticate ++ replies.map (.sendReply ·.text)

/-- What a move at its sink does to a session. -/
def SinkMove.deal : SinkMove → List Session.Event
  | wait => []
  | take => [.take]
  | confirm => [.confirm]
  | fail => [.fail]
  | leave => [.leaveSink]

namespace Session

private theorem sendFrames_eq (session : Session) (texts : List String) :
    session.sendFrames texts = session.applyAll (texts.map .sendFrame) := by
  rw [sendFrames, applyAll, List.foldl_map]
  rfl

private theorem sendReplies_eq (session : Session) (texts : List String) :
    session.sendReplies texts = session.applyAll (texts.map .sendReply) := by
  rw [sendReplies, applyAll, List.foldl_map]
  rfl

private theorem move_eq (session : Session) (move : SinkMove) :
    session.move move = session.applyAll move.deal := by
  cases move <;> rfl

end Session

namespace Station

variable {δ ρ : Type}

/-- Whether the session in a seat is registered and alive. -/
def receives (station : Station δ ρ) (number : SeatNumber) : Bool :=
  station.hub.roster.viewers.any (·.2 == number) && station.floor.isAlive number

/-- The frames that a session is offered when the consequences of a reading are drawn. -/
def offers (station : Station δ ρ) (number : SeatNumber) : List String :=
  if station.receives number then station.hub.published?.toList else []

section

variable [CaptureDevice δ] [FrameRenderer ρ] {station : Station δ ρ}

omit [CaptureDevice δ] [FrameRenderer ρ] in
private theorem Accounted.wellKept (accounted : station.Accounted) :
    station.hub.roster.WellKept station.floor where
  sorted := accounted.sorted
  seated := fun entry mem ↦ by
    obtain ⟨seat, found, id, -⟩ := accounted.viewers entry mem
    rw [found, Option.map_some, id]

theorem seat?_conclude (accounted : station.Accounted) (now : Nat) (number : SeatNumber) :
    (station.apply (.conclude now)).floor.seat? number =
      (station.floor.seat? number).map (·.sendFrames (station.offers number)) := by
  have sent : (station.apply (.conclude now)).floor = _ :=
    (station.hub.conclude_eq_broadcast station.floor now).1
  rw [sent, offers]
  cases station.hub.published? with
  | none =>
    rw [Option.toList_none, ite_self]
    exact (Floor.map_sendFrames_nil _).symm
  | some text => exact Roster.seat?_broadcast accounted.wellKept text number

omit [CaptureDevice δ] [FrameRenderer ρ] in
theorem receives_iff (accounted : station.Accounted) {number : SeatNumber} {seat : Seat}
    (found : station.floor.seat? number = some seat) :
    station.receives number = true ↔
      (seat.session.id, number) ∈ station.hub.roster.viewers ∧ seat.isAlive = true := by
  rw [receives, Bool.and_eq_true, Floor.isAlive_eq found, List.any_eq_true]
  refine and_congr_left' ⟨?_, fun mem ↦ ⟨_, mem, beq_self_eq_true number⟩⟩
  rintro ⟨⟨id, other⟩, mem, here⟩
  cases beq_iff_eq.mp here
  obtain ⟨seat', found', same, -⟩ := accounted.viewers _ mem
  cases found.symm.trans found'
  exact same ▸ mem

end

/-! ## What an event does to one session -/

variable [CaptureDevice δ] [FrameRenderer ρ]

/-- What an event does to the session in a seat. -/
def deal (station : Station δ ρ) (number : SeatNumber) : Event → List Session.Event
  | .text now stamp sender text =>
    if sender = number ∧ station.isServed number then
      Reply.deal (station.handleText now stamp number text).1
    else []
  | .bytes sender =>
    if sender = number ∧ station.isServed number then
      [.sendReply Reply.unknownCommand.text]
    else []
  | .teardown other => if other = number ∧ station.isServed number then [.close] else []
  | .closeSink other => if other = number ∧ station.isServed number then [.closeSink] else []
  | .sink other move _ => if other = number then move.deal else []
  | .runPlayer now =>
    if station.floor.isAlive number then
      ((station.hub.player.settle now).1.filter (·.1 = number)).map (.sendFrame ·.2)
    else []
  | .conclude _ => (station.offers number).map .sendFrame
  | .connect .. | .drop _ | .release .. | .read | .keep _ | .shutdown _ => []

/-- The sink of a seat after an event. -/
def Event.sinkAt (number : SeatNumber) (sink : Sink) : Event → Sink
  | .sink other _ later => if other = number then later else sink
  | _ => sink

/-- Whether a seat is held after an event. -/
def Event.heldAt (number : SeatNumber) (held : Bool) : Event → Bool
  | .drop other => if other = number then false else held
  | _ => held

variable {station : Station δ ρ} {number : SeatNumber} {seat : Seat}

theorem phase_deal (session : Session) (replies : List Reply) :
    (session.applyAll (Reply.deal replies)).phase =
      (replies.filterMap Reply.grant?).foldl Phase.authenticate session.phase := by
  have sent (session : Session) (texts : List Reply) :
      (session.applyAll (texts.map (.sendReply ·.text))).phase = session.phase := by
    have same := (session.sameStanding_sendReplies (texts.map Reply.text)).phase
    rwa [Session.sendReplies_eq, List.map_map] at same
  rw [Reply.deal, Session.applyAll_append, sent, Session.applyAll, List.foldl_map]
  exact (List.foldl_hom Session.phase fun _ _ ↦ rfl).symm

private theorem grant?_perform (station : Station δ ρ) (now : Nat) (stamp : Recording.Stamp)
    (number : SeatNumber) (session : Session) (message : Message) :
    (station.perform now stamp number session message).1.grant? = none := by
  cases message with
  | config cameraIndex resolution fps =>
    simp only [perform, configure]
    split <;> rfl
  | recordStart =>
    simp only [perform, Prod.map]
    cases (station.command (·.startRecording now stamp)).1 <;> rfl
  | playbackStart filename =>
    simp only [perform, Prod.map]
    cases (station.command (·.startPlayback filename session.id number)).1 <;> rfl
  | _ => rfl

/-- An answer grants the role that its replies tell of. -/
theorem Answers.floor_eq {now : Nat} {stamp : Recording.Stamp} {session : Session}
    {message : Option Message} {replies : List Reply} {answered : Station δ ρ}
    (answers : station.Answers now stamp number session message replies answered) :
    answered.floor = station.floor.modifySession number
      (·.applyAll ((replies.filterMap Reply.grant?).map .authenticate)) := by
  have same : station.floor = station.floor.modifySession number (·.applyAll []) :=
    (station.floor.modify_id number).symm
  cases answers with
  | controller _ _ _ => rfl
  | viewer _ _ => cases h : station.hub.isStreaming <;> rfl
  | performed _ _ =>
    rw [List.filterMap_cons, grant?_perform]
    exact same
  | _ => exact same

/-- A text does to its sender what the replies say. -/
theorem seat?_handleText (found : station.floor.seat? number = some seat) (now : Nat)
    (stamp : Recording.Stamp) (text : String) :
    (station.handleText now stamp number text).2.floor.seat? number = some { seat with
      session :=
        seat.session.applyAll (Reply.deal (station.handleText now stamp number text).1) } := by
  obtain ⟨replies, answered, answers, handled⟩ :=
    station.handleText_cases now stamp number found text
  rw [handled]
  dsimp only
  rw [answers.floor_eq, Floor.modifySession, Floor.modifySession, Floor.modify_modify,
    Floor.seat?_modify_self, found, Option.map_some]
  dsimp only
  rw [Session.sendReplies_eq, ← Session.applyAll_append, List.map_map]
  rfl

omit [CaptureDevice δ] [FrameRenderer ρ] in
private theorem seat?_served (found : station.floor.seat? number = some seat) (other : SeatNumber)
    (events : List Session.Event) :
    (if station.isServed other then station.floor.modifySession other (·.applyAll events)
      else station.floor).seat? number = some { seat with
        session := seat.session.applyAll
          (if other = number ∧ station.isServed number then events else []) } := by
  by_cases own : other = number
  · subst own
    split_ifs with served both both
    · rw [Floor.modifySession, Floor.seat?_modify_self, found]
      rfl
    · exact absurd ⟨rfl, served⟩ both
    · exact absurd both.2 served
    · exact found
  · have apart : ¬(other = number ∧ station.isServed number = true) := fun h ↦ own h.1
    rw [if_neg apart]
    split_ifs
    · exact (Floor.seat?_modify_of_ne _ own _).trans found
    · exact found

/-- After every event a seat is what the deal makes of it. -/
theorem seat?_apply (accounted : station.Accounted)
    (found : station.floor.seat? number = some seat) (event : Event) :
    (station.apply event).floor.seat? number = some {
      session := seat.session.applyAll (station.deal number event)
      sink := event.sinkAt number seat.sink
      held := event.heldAt number seat.held } := by
  cases event with
  | connect id capacity now => exact station.seat?_connect id capacity now found
  | text now stamp sender text =>
    rw [apply, deal]
    by_cases own : sender = number
    · subst own
      split_ifs with served both both
      · exact seat?_handleText found now stamp text
      · exact absurd ⟨rfl, served⟩ both
      · exact absurd both.2 served
      · exact found
    · have apart : ¬(sender = number ∧ station.isServed number = true) := fun h ↦ own h.1
      rw [if_neg apart]
      split_ifs
      · exact (station.seat?_handleText_of_ne now stamp sender own text).trans found
      · exact found
  | bytes sender =>
    refine .trans ?_ (seat?_served found sender [.sendReply Reply.unknownCommand.text])
    rw [apply]
    split_ifs <;> rfl
  | teardown other =>
    refine .trans ?_ (seat?_served found other [.close])
    rw [apply]
    split_ifs with served
    · obtain ⟨leaver, seated, -⟩ := isServed_iff.mp served
      rw [teardown, seated]
      rfl
    · rfl
  | closeSink other =>
    refine .trans ?_ (seat?_served found other [.closeSink])
    rw [apply]
    split_ifs <;> rfl
  | drop other =>
    rw [apply, Event.heldAt]
    dsimp only
    rw [Floor.release]
    split_ifs with own
    · rw [own, Floor.seat?_modify_self, found]
      rfl
    · exact (Floor.seat?_modify_of_ne _ own _).trans found
  | release now position =>
    rw [apply, releaseAt]
    split <;> exact found
  | sink other move sink =>
    rw [apply, deal, Event.sinkAt]
    dsimp only
    split_ifs with own
    · rw [own, Floor.seat?_modify_self, found, ← Session.move_eq]
      rfl
    · exact (Floor.seat?_modify_of_ne _ own _).trans found
  | runPlayer now =>
    refine (Floor.seat?_foldl_sendFrame Prod.fst Prod.snd _ _ number).trans ?_
    rw [found, Option.map_some, Seat.sendFrames, Session.sendFrames_eq, deal,
      Floor.isAlive_eq found, List.map_map]
    split_ifs <;> rfl
  | conclude now =>
    rw [seat?_conclude accounted, found, Option.map_some, Seat.sendFrames, Session.sendFrames_eq,
      deal, offers, receives, Floor.isAlive_eq found]
    cases seat.isAlive with
    | true => rfl
    | false => rw [Bool.and_false]; rfl
  | read => exact found
  | keep now => exact found
  | shutdown now => exact found

theorem alive_apply (accounted : station.Accounted) (event : Event) {later : Seat}
    (found : station.floor.seat? number = some seat)
    (found' : (station.apply event).floor.seat? number = some later)
    (alive : later.isAlive = true) : seat.isAlive = true := by
  cases quiet : event.isQuiet with
  | true =>
    obtain ⟨after, found'', stays⟩ := (station.stays_apply quiet).seat? found
    cases found'.symm.trans found''
    exact stays.alive alive
  | false =>
    cases held : seat.held with
    | true => exact Floor.isAlive_of_held held
    | false =>
      have unserved : ¬station.isServed number = true := by
        rw [isServed_eq found, held]
        decide
      have same := seat?_apply accounted found event
      -- what is left are texts and teardowns, and they are for those who are served
      cases event with
      | connect id capacity now =>
        cases found'.symm.trans (station.seat?_connect id capacity now found)
        exact alive
      | text now stamp sender text =>
        rw [Station.deal, if_neg fun h ↦ unserved h.2] at same
        cases found'.symm.trans same
        exact alive
      | teardown other =>
        rw [Station.deal, if_neg fun h ↦ unserved h.2] at same
        cases found'.symm.trans same
        exact alive
      | _ => cases quiet

/-! ## What a run does to one session -/

/-- The course of a session: how it was when it came, and what has happened to it since. -/
structure Course where
  /-- The session as it came. -/
  newcomer : Session
  /-- What has happened to it. -/
  events : List Session.Event := []

/-- The session that comes of a course. -/
def Course.session (course : Course) : Session := course.newcomer.applyAll course.events

/-- One event, with an eye on a seat. -/
def follow (number : SeatNumber) (state : Station δ ρ × Option Course) (event : Event) :
    Station δ ρ × Option Course :=
  (state.1.apply event, match state.1.floor.seat? number with
    | some _ => state.2.map fun course ↦
      { course with events := course.events ++ state.1.deal number event }
    | none => ((state.1.apply event).floor.seat? number).map ({ newcomer := ·.session }))

/-- Some events, with an eye on a seat. -/
def followAll (number : SeatNumber) (state : Station δ ρ × Option Course) (events : List Event) :
    Station δ ρ × Option Course :=
  events.foldl (follow number) state

/-- The course of the session in a seat in which nobody sat before. -/
def course (station : Station δ ρ) (number : SeatNumber) (events : List Event) : Option Course :=
  (followAll number (station, none) events).2

@[simp] theorem fst_followAll (number : SeatNumber) (state : Station δ ρ × Option Course)
    (events : List Event) : (followAll number state events).1 = state.1.run events :=
  (List.foldl_hom Prod.fst fun _ _ ↦ rfl).symm

/-- Whoever sits in a seat has come to be so by the course that was followed. -/
def Followed (number : SeatNumber) (state : Station δ ρ × Option Course) : Prop :=
  (state.1.floor.seat? number).map (·.session) = state.2.map Course.session

theorem Followed.follow {state : Station δ ρ × Option Course} (accounted : state.1.Accounted)
    (h : Followed number state) (event : Event) : Followed number (follow number state event) := by
  rw [Followed, Station.follow]
  cases found : state.1.floor.seat? number with
  | none => rw [Option.map_map]; rfl
  | some seat =>
    dsimp only
    rw [Followed, found] at h
    rw [seat?_apply accounted found, Option.map_map]
    cases known : state.2 with
    | none =>
      rw [known] at h
      nomatch h
    | some course =>
      rw [known] at h
      have same : seat.session = course.session := Option.some.inj h
      refine congrArg some ?_
      change seat.session.applyAll _ = course.newcomer.applyAll (course.events ++ _)
      rw [Session.applyAll_append, same, Course.session]

theorem Followed.followAll {state : Station δ ρ × Option Course} (accounted : state.1.Accounted)
    (h : Followed number state) (events : List Event) :
    Followed number (followAll number state events) := by
  induction events generalizing state with
  | nil => exact h
  | cons event events ih => exact ih (accounted.apply event) (h.follow accounted event)

/-- The session in a seat is what its course makes of it. -/
theorem session_course (accounted : station.Accounted) (empty : station.floor.seat? number = none)
    (events : List Event) (found : (station.run events).floor.seat? number = some seat) :
    ∃ course, station.course number events = some course ∧
      (course.newcomer.run course.events).1 = seat.session := by
  have new : Followed number (station, none) := by
    rw [Followed, empty]
    rfl
  have followed := new.followAll accounted events
  rw [Followed, fst_followAll, found] at followed
  obtain ⟨course, found', same⟩ := Option.map_eq_some_iff.mp followed.symm
  exact ⟨course, found', (course.newcomer.fst_run course.events).trans same⟩

/-! ## What is published -/

/-- Whether an event draws the consequences of a reading. -/
def Event.isConclude : Event → Bool
  | conclude _ => true
  | _ => false

/-- The frames that are published in a run, each with those who were registered and alive. -/
def publications (station : Station δ ρ) : List Event → List (String × (SeatNumber → Bool))
  | [] => []
  | event :: events =>
    (if event.isConclude then station.hub.published?.toList.map (·, station.receives) else []) ++
      (station.apply event).publications events

/-- The published frames that are dealt to a session in a run. -/
def offered (station : Station δ ρ) (number : SeatNumber) : List Event → List String
  | [] => []
  | event :: events =>
    (if event.isConclude then (station.deal number event).filterMap Session.Event.frame? else []) ++
      (station.apply event).offered number events

theorem offered_eq (station : Station δ ρ) (number : SeatNumber) (events : List Event) :
    station.offered number events =
      ((station.publications events).filter (·.2 number)).map (·.1) := by
  induction events generalizing station with
  | nil => rfl
  | cons event events ih =>
    rw [offered, publications, List.filter_append, List.map_append, ih]
    refine congrArg (· ++ _) ?_
    cases event with
    | conclude now =>
      rw [deal, offers]
      dsimp only [Event.isConclude]
      cases receives : station.receives number <;> cases station.hub.published? <;>
        simp [receives, Session.Event.frame?]
    | _ => rfl

end Station

end Glyphcast
