import Glyphcast.Hub.Commands
import Mathlib.Tactic.SplitIfs

/-!
# Runs of a hub

Commands are carried out one after the other, and between any two of them the capture loop and the
player may do what is theirs. `Hub.Command` has all of it, each part of a reading on its own, so a
run of commands is any interleaving there can be. The floor is only looked at here: a command that
looks at the sessions brings the floor that it finds.
-/

namespace Glyphcast.Hub

/-- Something that a hub is asked to do, or that its player and its capture loop do. -/
inductive Command where
  /-- Start the stream. -/
  | startStreaming (now : Nat) (cameraIndex : UInt32) (resolution : String) (fps : UInt32)
  /-- Stop the stream. -/
  | stopStreaming (now : Nat)
  /-- Register a viewer. -/
  | addViewer (id : Nat) (number : SeatNumber)
  /-- Strike a viewer off. -/
  | removeViewer (floor : Floor) (id : Nat)
  /-- Send a frame to all viewers. -/
  | broadcast (floor : Floor) (text : String)
  /-- Make a session the controller. -/
  | claimController (floor : Floor) (id : Nat) (number : SeatNumber)
  /-- Undo what a session had registered. -/
  | releaseSession (floor : Floor) (now id : Nat) (phase : Phase)
  /-- Start a recording. -/
  | startRecording (now : Nat) (stamp : Recording.Stamp)
  /-- Finish the recording. -/
  | stopRecording (now : Nat)
  /-- Play a recording. -/
  | startPlayback (filename : String) (id : Nat) (number : SeatNumber)
  /-- Suspend the playback. -/
  | pausePlayback
  /-- Go on with the playback. -/
  | resumePlayback
  /-- End the playback. -/
  | stopPlayback
  /-- Change the speed of the playback. -/
  | setPlaybackSpeed (speed : Float)
  /-- Deliver what the playback has due. -/
  | runPlayer (floor : Floor) (now : Nat)
  /-- End everything but the stream. -/
  | windUp (now : Nat)
  /-- Stop the stream and end everything else. -/
  | shutdown (now : Nat)
  /-- The capture loop reads a frame. -/
  | read
  /-- The capture loop offers it to the recorder. -/
  | keep (now : Nat)
  /-- The capture loop draws the consequences. -/
  | conclude (floor : Floor) (now : Nat)

variable {δ ρ : Type}

/-! ## What leaves the stream alone -/

/-- Two states of a hub with the same stream, or with none. -/
structure SameStream (before after : Hub δ ρ) : Prop where
  config : after.config = before.config
  capture : after.capture = before.capture
  streaming : after.streaming = before.streaming
  settings : after.settings = before.settings

section

variable (hub : Hub δ ρ)

private theorem sameStream_claimController (floor : Floor) (id : Nat) (number : SeatNumber) :
    hub.SameStream (hub.claimController floor id number).2 := by
  unfold claimController
  split <;> exact ⟨rfl, rfl, rfl, rfl⟩

theorem sameStream_startRecording (now : Nat) (stamp : Recording.Stamp) :
    hub.SameStream (hub.startRecording now stamp).2 := by
  unfold startRecording
  split <;> exact ⟨rfl, rfl, rfl, rfl⟩

private theorem sameStream_startPlayback (filename : String) (id : Nat) (number : SeatNumber) :
    hub.SameStream (hub.startPlayback filename id number).2 := by
  unfold startPlayback
  split
  · exact ⟨rfl, rfl, rfl, rfl⟩
  · split <;> exact ⟨rfl, rfl, rfl, rfl⟩

private theorem sameStream_windUp (now : Nat) : hub.SameStream (hub.windUp now) :=
  ⟨rfl, rfl, rfl, rfl⟩

/-- What a session takes with it when it leaves is its registration and, with the controller's
slot, the stream; its playback is no part of the stream. -/
theorem releaseSession_cases [CaptureDevice δ] (floor : Floor) (now id : Nat) (phase : Phase) :
    hub.SameStream (hub.releaseSession floor now id phase) ∨
      ∃ roster, SameStream ({ hub with roster }.stopStreaming now)
        (hub.releaseSession floor now id phase) := by
  -- the playback is looked at last, whatever became of the stream
  have playback (middle : Hub δ ρ) : SameStream middle
      (if middle.playbackOwner = some id then
        { middle with player := middle.player.stop.2, playbackOwner := none }
      else middle) := by
    split_ifs <;> exact ⟨rfl, rfl, rfl, rfl⟩
  cases phase with
  | controller =>
    unfold releaseSession
    cases held : ((hub.roster.remove floor id).2.release id).1 with
    | true =>
      refine .inr ⟨((hub.roster.remove floor id).2.release id).2, ?_⟩
      simp only [held, if_true]
      exact playback _
    | false =>
      left
      simp only [held, Bool.false_eq_true, if_false]
      exact { playback { hub with roster := ((hub.roster.remove floor id).2.release id).2 } with }
  | viewer => exact .inl { playback (hub.removeViewer floor id) with }
  | unauthenticated => exact .inl (playback hub)
  | closed => exact .inl (playback hub)

/-! ## What the stream leaves alone -/

/-- Two states of a hub that differ in the stream and its viewers at most. -/
structure SameBooks (before after : Hub δ ρ) : Prop where
  controller : after.roster.controller = before.roster.controller
  recorder : after.recorder = before.recorder
  player : after.player = before.player
  playbackOwner : after.playbackOwner = before.playbackOwner

private theorem sameBooks_join [CaptureDevice δ] (now : Nat) : hub.SameBooks (hub.join now) := by
  unfold join
  cases hub.capture <;> exact ⟨rfl, rfl, rfl, rfl⟩

theorem sameBooks_stopStreaming [CaptureDevice δ] (now : Nat) :
    hub.SameBooks (hub.stopStreaming now) := by
  unfold stopStreaming
  split
  · exact { hub.sameBooks_join now with }
  · exact ⟨rfl, rfl, rfl, rfl⟩

theorem sameBooks_startStreaming [CaptureDevice δ] [FrameRenderer ρ] (now : Nat)
    (cameraIndex : UInt32) (resolution : String) (fps : UInt32) :
    hub.SameBooks (hub.startStreaming now cameraIndex resolution fps).2 := by
  unfold startStreaming
  split
  · exact ⟨rfl, rfl, rfl, rfl⟩
  · split
    · exact ⟨rfl, rfl, rfl, rfl⟩
    · dsimp only
      split <;> exact { hub.sameBooks_join now with }

theorem sameBooks_read [CaptureDevice δ] [FrameRenderer ρ] : hub.SameBooks hub.read := by
  unfold read
  split
  · exact ⟨rfl, rfl, rfl, rfl⟩
  · exact ⟨rfl, rfl, rfl, rfl⟩
  · split <;> exact ⟨rfl, rfl, rfl, rfl⟩

theorem sameBooks_conclude [CaptureDevice δ] (floor : Floor) (now : Nat) :
    hub.SameBooks (hub.conclude floor now).1 := by
  unfold conclude failCapture
  split
  · exact ⟨rfl, rfl, rfl, rfl⟩
  · exact ⟨rfl, rfl, rfl, rfl⟩
  · split
    · dsimp only
      split
      · exact ⟨rfl, rfl, rfl, rfl⟩
      · exact ⟨rfl, rfl, rfl, rfl⟩
      · split <;> exact ⟨rfl, rfl, rfl, rfl⟩
    · exact ⟨rfl, rfl, rfl, rfl⟩
    · exact ⟨rfl, rfl, rfl, rfl⟩

/-! ## What leaves the controller's slot alone

Only `claimController` fills it, and only `releaseSession` empties it. -/

@[simp] theorem controller_stopStreaming [CaptureDevice δ] (now : Nat) :
    (hub.stopStreaming now).roster.controller = hub.roster.controller :=
  (hub.sameBooks_stopStreaming now).controller

theorem controller_startStreaming [CaptureDevice δ] [FrameRenderer ρ] (now : Nat)
    (cameraIndex : UInt32) (resolution : String) (fps : UInt32) :
    (hub.startStreaming now cameraIndex resolution fps).2.roster.controller =
      hub.roster.controller :=
  (hub.sameBooks_startStreaming now cameraIndex resolution fps).controller

theorem controller_read [CaptureDevice δ] [FrameRenderer ρ] :
    hub.read.roster.controller = hub.roster.controller :=
  hub.sameBooks_read.controller

theorem controller_keep (now : Nat) :
    (hub.keep now).roster.controller = hub.roster.controller := by
  unfold keep
  cases hub.capture with
  | idle pipeline => rfl
  | finished pipeline => rfl
  | running pipeline loop =>
    dsimp only
    split
    · split <;> rfl
    · rfl
    · rfl

@[simp] theorem controller_conclude [CaptureDevice δ] (floor : Floor) (now : Nat) :
    (hub.conclude floor now).1.roster.controller = hub.roster.controller :=
  (hub.sameBooks_conclude floor now).controller

/-- The slot of a hub after a release: it is emptied if the one who left held it. -/
theorem controller_releaseSession [CaptureDevice δ] (floor : Floor) (now id : Nat)
    (phase : Phase) :
    (hub.releaseSession floor now id phase).roster.controller =
      if phase = .controller ∧ hub.roster.controller.any (·.1 == id) then none
      else hub.roster.controller := by
  have playback (middle : Hub δ ρ) :
      (if middle.playbackOwner = some id then
        { middle with player := middle.player.stop.2, playbackOwner := none }
      else middle).roster = middle.roster := by
    split_ifs <;> rfl
  unfold releaseSession
  rw [playback]
  cases phase with
  | controller =>
    cases held : hub.roster.controller.any (·.1 == id) with
    | true =>
      simp only [Roster.release, Roster.remove, held, if_true, controller_stopStreaming, and_self]
    | false =>
      simp only [Roster.release, Roster.remove, held, Bool.false_eq_true, and_false, if_false]
  | viewer => rfl
  | unauthenticated => rfl
  | closed => rfl

/-! ## What nothing touches

The settings are those that the hub was made with: `config_run`. -/

@[simp] theorem config_join [CaptureDevice δ] (now : Nat) : (hub.join now).config = hub.config := by
  unfold join
  cases hub.capture <;> rfl

@[simp] private theorem config_stopStreaming [CaptureDevice δ] (now : Nat) :
    (hub.stopStreaming now).config = hub.config := by
  unfold stopStreaming
  split_ifs
  · exact hub.config_join now
  · rfl

end

/-! ## One command after the other -/

variable [CaptureDevice δ] [FrameRenderer ρ]

/-- The hub after a command. -/
def apply (hub : Hub δ ρ) : Command → Hub δ ρ
  | .startStreaming now cameraIndex resolution fps =>
    (hub.startStreaming now cameraIndex resolution fps).2
  | .stopStreaming now => hub.stopStreaming now
  | .addViewer id number => hub.addViewer id number
  | .removeViewer floor id => hub.removeViewer floor id
  | .broadcast floor text => (hub.broadcast floor text).2.1
  | .claimController floor id number => (hub.claimController floor id number).2
  | .releaseSession floor now id phase => hub.releaseSession floor now id phase
  | .startRecording now stamp => (hub.startRecording now stamp).2
  | .stopRecording now => (hub.stopRecording now).2
  | .startPlayback filename id number => (hub.startPlayback filename id number).2
  | .pausePlayback => hub.pausePlayback.2
  | .resumePlayback => hub.resumePlayback.2
  | .stopPlayback => hub.stopPlayback.2
  | .setPlaybackSpeed speed => (hub.setPlaybackSpeed speed).2
  | .runPlayer floor now => (hub.runPlayer floor now).1
  | .windUp now => hub.windUp now
  | .shutdown now => hub.shutdown now
  | .read => hub.read
  | .keep now => hub.keep now
  | .conclude floor now => (hub.conclude floor now).1

/-- The hub after some commands. -/
def run (hub : Hub δ ρ) (commands : List Command) : Hub δ ρ := commands.foldl apply hub

theorem run_append (hub : Hub δ ρ) (first rest : List Command) :
    hub.run (first ++ rest) = (hub.run first).run rest :=
  List.foldl_append

/-- What a command does to the stream. Besides the capture loop, only a start and a stop do
anything, and a stop may come of a release. -/
inductive StreamStep (hub : Hub δ ρ) : Command → Hub δ ρ → Prop where
  | same {command : Command} {after : Hub δ ρ} (same : hub.SameStream after) :
    StreamStep hub command after
  | start (now : Nat) (cameraIndex : UInt32) (resolution : String) (fps : UInt32) :
    StreamStep hub (.startStreaming now cameraIndex resolution fps)
      (hub.startStreaming now cameraIndex resolution fps).2
  | stop {command : Command} {after : Hub δ ρ} (roster : Roster) (now : Nat)
    (same : SameStream ({ hub with roster }.stopStreaming now) after) :
    StreamStep hub command after
  | read : StreamStep hub .read hub.read
  | keep (now : Nat) : StreamStep hub (.keep now) (hub.keep now)
  | conclude (floor : Floor) (now : Nat) :
    StreamStep hub (.conclude floor now) (hub.conclude floor now).1

theorem streamStep_apply (hub : Hub δ ρ) (command : Command) :
    hub.StreamStep command (hub.apply command) := by
  cases command with
  | startStreaming now cameraIndex resolution fps => exact .start now cameraIndex resolution fps
  | stopStreaming now => exact .stop hub.roster now ⟨rfl, rfl, rfl, rfl⟩
  | addViewer id number => exact .same ⟨rfl, rfl, rfl, rfl⟩
  | removeViewer floor id => exact .same ⟨rfl, rfl, rfl, rfl⟩
  | broadcast floor text => exact .same ⟨rfl, rfl, rfl, rfl⟩
  | claimController floor id number => exact .same (hub.sameStream_claimController floor id number)
  | releaseSession floor now id phase =>
    rcases hub.releaseSession_cases floor now id phase with same | ⟨roster, same⟩
    · exact .same same
    · exact .stop roster now same
  | startRecording now stamp => exact .same (hub.sameStream_startRecording now stamp)
  | stopRecording now => exact .same ⟨rfl, rfl, rfl, rfl⟩
  | startPlayback filename id number =>
    exact .same (hub.sameStream_startPlayback filename id number)
  | pausePlayback => exact .same ⟨rfl, rfl, rfl, rfl⟩
  | resumePlayback => exact .same ⟨rfl, rfl, rfl, rfl⟩
  | stopPlayback => exact .same ⟨rfl, rfl, rfl, rfl⟩
  | setPlaybackSpeed speed => exact .same ⟨rfl, rfl, rfl, rfl⟩
  | runPlayer floor now => exact .same ⟨rfl, rfl, rfl, rfl⟩
  | windUp now => exact .same (hub.sameStream_windUp now)
  | shutdown now => exact .stop hub.roster now ((hub.stopStreaming now).sameStream_windUp now)
  | read => exact .read
  | keep now => exact .keep now
  | conclude floor now => exact .conclude floor now

private theorem config_apply (hub : Hub δ ρ) (command : Command) :
    (hub.apply command).config = hub.config := by
  have step := hub.streamStep_apply command
  generalize hub.apply command = after at step
  cases step with
  | same same => exact same.config
  | start now cameraIndex resolution fps =>
    unfold startStreaming
    split_ifs
    · rfl
    · split
      · rfl
      · dsimp only
        split <;> exact hub.config_join now
  | stop roster now same => exact same.config.trans (config_stopStreaming _ now)
  | read =>
    unfold Hub.read
    split
    · rfl
    · rfl
    · split_ifs <;> rfl
  | keep now =>
    unfold Hub.keep
    split
    · rfl
    · rfl
    · split
      · dsimp only
        split <;> rfl
      · rfl
      · rfl
  | conclude floor now =>
    unfold Hub.conclude failCapture
    split
    · rfl
    · rfl
    · split
      · dsimp only
        split
        · rfl
        · rfl
        · split_ifs <;> rfl
      · rfl
      · rfl

theorem config_run (hub : Hub δ ρ) (commands : List Command) :
    (hub.run commands).config = hub.config := by
  induction commands generalizing hub with
  | nil => rfl
  | cons command commands ih => exact (ih (hub.apply command)).trans (hub.config_apply command)

end Glyphcast.Hub
