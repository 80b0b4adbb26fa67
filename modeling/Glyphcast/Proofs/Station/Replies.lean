import Glyphcast.Proofs.Hub.Refusals
import Glyphcast.Proofs.Station.Defaults

/-!
# What is replied to a text

A session that is still open is answered whatever it sends, by one reply, or by two when it becomes
a viewer: it is told so, and then whether there is a stream. The replies are put behind those that
wait for the session already, each of them is one line, and nothing else is done to any queue: no
session is closed, no item is thrown away, and no other session hears of it.

What a reply is made of can be anything that a client has sent or that a file holds. That it is one
line nevertheless is what `Proofs/Hub/Refusals` is about, where the words of every refusal are
looked at. It takes an assumption about the device, of what it says when it is started; the test
pattern satisfies it.
-/

namespace Glyphcast

open Text (IsOneLine)

/-! ## Lines -/

namespace Reply

private theorem isOneLine_fixed {reply : Reply} (fixed : reply ∈ fixed) : IsOneLine reply.text := by
  have all : ∀ reply ∈ Reply.fixed, IsOneLine reply.text := by decide
  exact all reply fixed

private theorem isOneLine_error {message : String} (h : IsOneLine message) :
    IsOneLine (error message).text :=
  (by decide : IsOneLine "ERROR: ").append h

private theorem isOneLine_status (streaming : Bool) : IsOneLine (status streaming).text := by
  cases streaming <;> exact isOneLine_fixed (by decide)

end Reply

/-! ## Queues -/

/-- A session that is open, and has some more texts to write than before, and nothing else. -/
structure Session.Queued (before : Session) (texts : List String) (after : Session) : Prop where
  /-- It is the same session. -/
  id : after.id = before.id
  /-- It is open. -/
  isClosed : after.isClosed = false
  /-- The texts wait behind the replies that were waiting. -/
  replies : after.outbox.replies = before.outbox.replies ++ texts
  /-- The frames wait as before. -/
  frames : after.outbox.frames = before.outbox.frames

namespace Session

variable {session before middle after : Session} {first second : List String}

theorem Queued.trans (h : before.Queued first middle) (h' : middle.Queued second after) :
    before.Queued (first ++ second) after where
  id := h'.id.trans h.id
  isClosed := h'.isClosed
  replies := by rw [h'.replies, h.replies, List.append_assoc]
  frames := h'.frames.trans h.frames

private theorem queued_startWriter (isOpen : session.isClosed = false) :
    session.Queued [] session.startWriter := by
  have outbox : session.startWriter.outbox = session.outbox.begin.2 := rfl
  have begun : session.outbox.begin.2.replies = session.outbox.replies ∧
      session.outbox.begin.2.frames = session.outbox.frames := by
    unfold Outbox.begin
    split <;> exact ⟨rfl, rfl⟩
  rw [← outbox] at begun
  exact ⟨rfl, isOpen, begun.1.trans (List.append_nil _).symm, begun.2⟩

private theorem queued_sendReply (isOpen : session.isClosed = false) (text : String) :
    session.Queued [text] (session.sendReply text) := by
  rw [sendReply, if_neg (by rw [isOpen]; decide)]
  have pushed : session.Queued [text]
      { session with outbox := session.outbox.pushReply text } := ⟨rfl, isOpen, rfl, rfl⟩
  exact pushed.trans (queued_startWriter isOpen)

private theorem queued_sendReplies (isOpen : session.isClosed = false) (texts : List String) :
    session.Queued texts (session.sendReplies texts) := by
  induction texts generalizing session with
  | nil => exact ⟨rfl, isOpen, (List.append_nil _).symm, rfl⟩
  | cons text texts ih =>
    have sent := queued_sendReply isOpen text
    exact sent.trans (ih sent.isClosed)

private theorem queued_authenticate (isOpen : session.isClosed = false) (role : Role) :
    session.Queued [] (session.authenticate role) := by
  refine ⟨rfl, ?_, (List.append_nil _).symm, rfl⟩
  obtain ⟨notClosed, written⟩ := Bool.or_eq_false_iff.mp isOpen
  refine Bool.or_eq_false_iff.mpr ⟨?_, written⟩
  rw [decide_eq_false_iff_not] at notClosed ⊢
  simp only [authenticate, Phase.authenticate]
  split
  · cases role <;> decide
  · exact notClosed

end Session

namespace Station

variable {δ ρ : Type} {station answered : Station δ ρ} {number : SeatNumber}
  {session : Session} {message : Option Message} {replies : List Reply}

/-- A message asks with the right key, and its sender is a viewer, or asks to be one and has no role
yet. -/
def MakesViewer (station : Station δ ρ) (session : Session) (message : Option Message) : Prop :=
  ∃ asked, message = some (.auth station.key.text asked) ∧
    session.phase.role?.getD asked = .viewer

variable [CaptureDevice δ] [FrameRenderer ρ] {now : Nat} {stamp : Recording.Stamp}

/-! ## One message -/

/-- What is replied to a command is one of the fixed replies, and not the one that a new viewer
gets, or tells of a refusal, in one line. -/
theorem perform_fst_cases (station : Station δ ρ) (now : Nat) (stamp : Recording.Stamp)
    (number : SeatNumber) (session : Session) (message : Message) :
    (∃ reply ∈ Reply.fixed, reply ≠ .authViewerSuccess ∧
      (station.perform now stamp number session message).1 = reply) ∨
    ∃ refusal : HubError,
      (station.perform now stamp number session message).1 = .error refusal.message ∧
        (Terse (station.hub.join now).capture.pipeline.device → IsOneLine refusal.message) := by
  cases message with
  | config cameraIndex resolution fps =>
    simp only [perform, configure, command]
    split
    · exact .inl ⟨.configApplied, by decide, by decide, rfl⟩
    · next refusal refused =>
      exact .inr ⟨refusal, rfl, fun terse ↦ Hub.isOneLine_of_startStreaming terse refused⟩
  | recordStart =>
    simp only [perform, command, Prod.map]
    cases started : (station.hub.startRecording now stamp).1 with
    | ok path => exact .inl ⟨.recordingStarted, by decide, by decide, rfl⟩
    | error refusal =>
      exact .inr ⟨refusal, rfl, fun _ ↦ Hub.isOneLine_of_startRecording started⟩
  | playbackStart filename =>
    simp only [perform, command, Prod.map]
    cases started : (station.hub.startPlayback filename session.id number).1 with
    | ok done => exact .inl ⟨.playbackStarted, by decide, by decide, rfl⟩
    | error refusal =>
      exact .inr ⟨refusal, rfl, fun _ ↦ Hub.isOneLine_of_startPlayback started⟩
  | auth presented asked => exact .inl ⟨.unknownCommand, by decide, by decide, rfl⟩
  | stop => exact .inl ⟨.streamStopped, by decide, by decide, rfl⟩
  | recordStop => exact .inl ⟨.recordingStopped, by decide, by decide, rfl⟩
  | playbackPause => exact .inl ⟨.playbackPaused, by decide, by decide, rfl⟩
  | playbackResume => exact .inl ⟨.playbackResumed, by decide, by decide, rfl⟩
  | playbackStop => exact .inl ⟨.playbackStopped, by decide, by decide, rfl⟩
  | playbackSpeed speed => exact .inl ⟨.playbackSpeedChanged, by decide, by decide, rfl⟩

/-- An answer to an open session is one reply, or the two that a new viewer gets. -/
theorem Answers.replies_cases (notClosed : session.phase ≠ .closed)
    (answers : station.Answers now stamp number session message replies answered) :
    (¬station.MakesViewer session message ∧
      ∃ reply, replies = [reply] ∧ reply ≠ .authViewerSuccess) ∨
    station.MakesViewer session message ∧
      replies = [.authViewerSuccess, .status station.hub.isStreaming] := by
  cases answers with
  | closed closed => exact absurd closed notClosed
  | mismatch _ wrong =>
    refine .inl ⟨?_, _, rfl, by decide⟩
    rintro ⟨asked, same, -⟩
    cases same
    exact wrong rfl
  | refused _ role _ =>
    refine .inl ⟨?_, _, rfl, by rintro ⟨⟩⟩
    rintro ⟨asked, same, viewer⟩
    cases same
    cases role.symm.trans viewer
  | controller _ role _ =>
    refine .inl ⟨?_, _, rfl, by decide⟩
    rintro ⟨asked, same, viewer⟩
    cases same
    cases role.symm.trans viewer
  | viewer _ role => exact .inr ⟨⟨_, rfl, role⟩, rfl⟩
  | unknown unentitled =>
    refine .inl ⟨?_, _, rfl, by decide⟩
    rintro ⟨asked, same, -⟩
    cases (unentitled _ same).1
  | performed isCommand _ =>
    refine .inl ⟨?_, _, rfl, ?_⟩
    · rintro ⟨asked, same, -⟩
      cases same
      cases isCommand
    · rcases station.perform_fst_cases now stamp number session _ with
        ⟨reply, -, other, told⟩ | ⟨refusal, told, -⟩
      · rwa [told]
      · rw [told]
        rintro ⟨⟩

/-- Every reply is one line. -/
theorem Answers.isOneLine (terse : Terse (station.hub.join now).capture.pipeline.device)
    (answers : station.Answers now stamp number session message replies answered) {reply : Reply}
    (mem : reply ∈ replies) : IsOneLine reply.text := by
  cases answers with
  | closed _ => cases mem
  | mismatch _ _ =>
    cases List.mem_singleton.mp mem
    exact Reply.isOneLine_fixed (by decide)
  | refused _ _ claim =>
    cases List.mem_singleton.mp mem
    exact Reply.isOneLine_error (Hub.isOneLine_of_claim claim)
  | controller _ _ _ =>
    cases List.mem_singleton.mp mem
    exact Reply.isOneLine_fixed (by decide)
  | viewer _ _ =>
    rcases List.mem_pair.mp mem with rfl | rfl
    · exact Reply.isOneLine_fixed (by decide)
    · exact Reply.isOneLine_status _
  | unknown _ =>
    cases List.mem_singleton.mp mem
    exact Reply.isOneLine_fixed (by decide)
  | performed _ _ =>
    cases List.mem_singleton.mp mem
    rcases station.perform_fst_cases now stamp number session _ with
      ⟨reply, fixed, -, told⟩ | ⟨refusal, told, oneLine⟩
    · rw [told]
      exact Reply.isOneLine_fixed fixed
    · rw [told]
      exact Reply.isOneLine_error (oneLine terse)

theorem Answers.queued {seat : Seat} (found : station.floor.seat? number = some seat)
    (isOpen : seat.session.isClosed = false)
    (answers : station.Answers now stamp number session message replies answered) :
    ∃ later, answered.floor.seat? number = some { seat with session := later } ∧
      seat.session.Queued [] later := by
  rcases answers.floor_cases with same | ⟨role, granted⟩
  · rw [same, found]
    exact ⟨seat.session, rfl, rfl, isOpen, (List.append_nil _).symm, rfl⟩
  · rw [granted, Floor.modifySession, Floor.seat?_modify_self, found]
    exact ⟨_, rfl, Session.queued_authenticate isOpen role⟩

/-! ## A foot that cannot be written

Once a recording is open, its end is the one thing a client can ask for in which the system may
refuse to write. The recording is given up then, and the client is told why. -/

/-- Only the end of a recording depends on what the system says to it. -/
theorem dispatch_refused (station : Station δ ρ) (now : Nat) (stamp : Recording.Stamp)
    (number : SeatNumber) (session : Session) (message : Message) (cause : OsError) :
    station.dispatch now stamp number session message (some cause) =
        station.dispatch now stamp number session message ∨
      message = .recordStop ∧
      station.dispatch now stamp number session message (some cause) =
        ([.error (HubError.recording (Error.io (.os cause)).message).message],
          { station with hub := (station.hub.stopRecording now (some cause)).2 }) := by
  cases message with
  | recordStop =>
    cases entitled : isEntitled session.phase .recordStop with
    | false => exact .inl (by simp only [dispatch, entitled, Bool.false_eq_true, if_false])
    | true =>
      cases recording : station.hub.recorder.isRecording with
      | false =>
        have same := Hub.stopRecording_of_idle now recording (some cause)
        exact .inl (by simp only [dispatch, perform, command, same])
      | true =>
        have given := Hub.stopRecording_refused now recording cause
        refine .inr ⟨rfl, ?_⟩
        simp only [dispatch, entitled, if_true, perform, command, given]
        rfl
  | _ => exact .inl rfl

private theorem handleText_refused (station : Station δ ρ) (now : Nat) (stamp : Recording.Stamp)
    {seat : Seat} (found : station.floor.seat? number = some seat) (text : String)
    (cause : OsError) :
    station.handleText now stamp number text (some cause) =
        station.handleText now stamp number text ∨
      Message.parse? text = some .recordStop ∧
      station.handleText now stamp number text (some cause) =
        ([.error (HubError.recording (Error.io (.os cause)).message).message], { station with
          hub := (station.hub.stopRecording now (some cause)).2
          floor := station.floor.sendReply number
            (Reply.error (HubError.recording (Error.io (.os cause)).message).message).text }) := by
  unfold handleText
  rw [found]
  cases parsed : Message.parse? text with
  | none => exact .inl rfl
  | some message =>
    rcases station.dispatch_refused now stamp number seat.session message cause with
      same | ⟨rfl, told⟩
    · exact .inl (by simp only [same])
    · exact .inr ⟨rfl, by simp only [told]; rfl⟩

/-! ## What is promised -/

/-- What is promised of a text that comes from the session in a seat, and of what it comes to. -/
structure Replied (station : Station δ ρ) (now : Nat) (number : SeatNumber) (seat : Seat)
    (text : String) (answer : List Reply × Station δ ρ) : Prop where
  /-- There is one reply, unless it makes a viewer. -/
  one : ¬station.MakesViewer seat.session (Message.parse? text) → ∃ reply, answer.1 = [reply]
  /-- A viewer is told that it is one, and then whether there is a stream. -/
  two : station.MakesViewer seat.session (Message.parse? text) →
    answer.1 = [.authViewerSuccess, .status station.hub.isStreaming]
  /-- Nobody else is told so. -/
  viewer_iff : .authViewerSuccess ∈ answer.1 ↔
    station.MakesViewer seat.session (Message.parse? text)
  /-- The sender stays where it sits and stays open. The replies wait for it, behind all that has
  been waiting. -/
  queued : ∃ later, answer.2.floor.seat? number = some { seat with session := later } ∧
    seat.session.Queued (answer.1.map Reply.text) later
  /-- No other session is touched. -/
  others : ∀ other, number ≠ other → answer.2.floor.seat? other = station.floor.seat? other
  /-- Every reply is one line, whatever the text is and whatever the disk holds, if the device that
  a start would find keeps to one line. -/
  oneLine : Terse (station.hub.join now).capture.pipeline.device →
    ∀ reply ∈ answer.1, IsOneLine reply.text

private theorem replied_of_written {seat : Seat} (found : station.floor.seat? number = some seat)
    (isOpen : seat.session.isClosed = false) (now : Nat) (stamp : Recording.Stamp) (text : String) :
    station.Replied now number seat text (station.handleText now stamp number text) := by
  obtain ⟨replies, answered, answers, handled⟩ :=
    station.handleText_cases now stamp number found text
  have notClosed : seat.session.phase ≠ .closed :=
    of_decide_eq_false (Bool.or_eq_false_iff.mp isOpen).1
  obtain ⟨later, found', queued⟩ := answers.queued found isOpen
  have cases := answers.replies_cases notClosed
  have others (other : SeatNumber) (h : number ≠ other) :=
    station.seat?_handleText_of_ne now stamp number h text
  rw [handled] at others ⊢
  exact {
    one := by
      intro spectator
      rcases cases with ⟨-, reply, one, -⟩ | ⟨viewer, -⟩
      · exact ⟨reply, one⟩
      · exact absurd viewer spectator
    two := by
      intro viewer
      rcases cases with ⟨spectator, -⟩ | ⟨-, two⟩
      · exact absurd viewer spectator
      · exact two
    viewer_iff := by
      rcases cases with ⟨spectator, reply, one, other⟩ | ⟨viewer, two⟩
      · rw [one, List.mem_singleton]
        exact ⟨fun same ↦ absurd same.symm other, fun viewer ↦ absurd viewer spectator⟩
      · rw [two]
        exact ⟨fun _ ↦ viewer, fun _ ↦ List.mem_cons_self⟩
    queued := by
      refine ⟨_, ?_, queued.trans (Session.queued_sendReplies queued.isClosed _)⟩
      rw [Floor.modifySession, Floor.seat?_modify_self, found']
      rfl
    others := others
    oneLine := fun terse _ mem ↦ answers.isOneLine terse mem }

omit [FrameRenderer ρ] in
private theorem replied_of_refused {seat : Seat} (found : station.floor.seat? number = some seat)
    (isOpen : seat.session.isClosed = false) (now : Nat) {text : String}
    (asked : Message.parse? text = some .recordStop) (cause : OsError) (hub : Hub δ ρ) :
    station.Replied now number seat text
      ([.error (HubError.recording (Error.io (.os cause)).message).message], { station with
        hub
        floor := station.floor.sendReply number
          (Reply.error (HubError.recording (Error.io (.os cause)).message).message).text }) := by
  have spectator : ¬station.MakesViewer seat.session (Message.parse? text) := by
    rw [asked]
    rintro ⟨role, same, -⟩
    cases same
  exact {
    one := fun _ ↦ ⟨_, rfl⟩
    two := fun viewer ↦ absurd viewer spectator
    viewer_iff := ⟨by rintro ⟨⟩; contradiction, fun viewer ↦ absurd viewer spectator⟩
    queued := by
      refine ⟨_, ?_, Session.queued_sendReply isOpen _⟩
      rw [Floor.sendReply, Floor.modifySession, Floor.seat?_modify_self, found]
      rfl
    others := fun other h ↦ Floor.seat?_modify_of_ne _ h _
    oneLine := by
      intro _ reply mem
      cases List.mem_singleton.mp mem
      exact Reply.isOneLine_error ((by decide : IsOneLine "recording failed: ").append
        (Error.isOneLine_io (IoError.IsHosts.isOneLine trivial))) }

/-- Whatever an open session sends is answered, and nobody else hears of it, also where the system
refuses to write what is left of a recording. -/
theorem replied_handleText {seat : Seat} (found : station.floor.seat? number = some seat)
    (isOpen : seat.session.isClosed = false) (now : Nat) (stamp : Recording.Stamp)
    (text : String) (refused : Option OsError) :
    station.Replied now number seat text (station.handleText now stamp number text refused) := by
  have written := replied_of_written found isOpen now stamp text
  cases refused with
  | none => exact written
  | some cause =>
    rcases station.handleText_refused now stamp found text cause with
      same | ⟨asked, told⟩
    · rwa [same]
    · rw [told]
      exact replied_of_refused found isOpen now asked cause _

/-- A size that is written over two lines is refused, and shown in one. -/
theorem replied_two_lines :
    ∃ seat, controlled.floor.seat? 0 = some seat ∧ seat.session.isClosed = false ∧
      controlled.Replied 5 0 seat "[\"config\",0,\"12\\nx0\"]"
        (controlled.handleText 5 ⟨2026, 1, 1, 12, 0, 5⟩ 0 "[\"config\",0,\"12\\nx0\"]") ∧
      (controlled.handleText 5 ⟨2026, 1, 1, 12, 0, 5⟩ 0 "[\"config\",0,\"12\\nx0\"]").1 =
        [.error "invalid resolution \"12\\nx0\""] ∧
      ∀ reply ∈ (controlled.handleText 5 ⟨2026, 1, 1, 12, 0, 5⟩ 0
        "[\"config\",0,\"12\\nx0\"]").1, IsOneLine reply.text := by
  have seated : (controlled.floor.seat? 0).any (!·.session.isClosed) = true := by decide +kernel
  obtain ⟨seat, found, isOpen⟩ := (Option.any_eq_true _ _).mp seated
  rw [Bool.not_eq_true'] at isOpen
  have terse : Terse (controlled.hub.join 5).capture.pipeline.device := by
    refine ScriptedDevice.terse fun error set ↦ ?_
    have unset : (controlled.hub.join 5).capture.pipeline.device.openError = none := by
      decide +kernel
    cases unset.symm.trans set
  have promised (text : String) :=
    replied_handleText found isOpen 5 ⟨2026, 1, 1, 12, 0, 5⟩ text none
  exact ⟨seat, found, isOpen, promised _, by decide +kernel, (promised _).oneLine terse⟩

end Station

end Glyphcast
