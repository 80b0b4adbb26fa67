import Glyphcast.Proofs.Hub.Books
import Glyphcast.Proofs.Playback.Audience

/-!
# The playback of a hub

A hub has one player. Who listens is known to the player, and whose playback it is to the hub; a
start writes both down, and no other command writes either. What else can happen to them is that the
playback is ended, and then what the hub remembers is of no account: `PlaysOn` asks for the owner
only while something is loaded.
-/

namespace Glyphcast.Hub

open Recording (Header)

variable {δ ρ : Type} {hub : Hub δ ρ}

/-- What is loaded afterwards was loaded before, for the same listener and the same owner. -/
structure PlaysOn (before after : Hub δ ρ) : Prop where
  player : before.player.GoesOn after.player
  owner : after.player.status ≠ .idle → after.playbackOwner = before.playbackOwner

theorem PlaysOn.trans {first second third : Hub δ ρ} (h : first.PlaysOn second)
    (h' : second.PlaysOn third) : first.PlaysOn third where
  player := h.player.trans h'.player
  owner := fun loaded ↦ (h'.owner loaded).trans (h.owner (h'.player.loaded loaded))

section

variable {after : Hub δ ρ} (sound : hub.player.Sound)

include sound

theorem playsOn_of_eq (player : after.player = hub.player)
    (owner : after.playbackOwner = hub.playbackOwner) : hub.PlaysOn after where
  player := player ▸ sound.goesOn
  owner := fun _ ↦ owner

theorem SameBooks.playsOn (same : hub.SameBooks after) : hub.PlaysOn after :=
  playsOn_of_eq sound same.player same.playbackOwner

private theorem playsOn_stop (player : after.player = hub.player.stop.2) : hub.PlaysOn after where
  player := player ▸ sound.goesOn_stop
  owner := fun loaded ↦ absurd hub.player.idle_stop.1 (player ▸ loaded)

private theorem playsOn_keep (now : Nat) : hub.PlaysOn (hub.keep now) :=
  playsOn_of_eq sound (hub.player_keep now) (hub.playbackOwner_keep now)

private theorem playsOn_claimController (floor : Floor) (id : Nat) (number : SeatNumber) :
    hub.PlaysOn (hub.claimController floor id number).2 := by
  unfold claimController
  split <;> exact playsOn_of_eq sound rfl rfl

private theorem playsOn_startRecording (now : Nat) (stamp : Recording.Stamp) :
    hub.PlaysOn (hub.startRecording now stamp).2 := by
  unfold startRecording
  split <;> exact playsOn_of_eq sound rfl rfl

theorem playsOn_releaseSession [CaptureDevice δ] (floor : Floor) (now id : Nat) (phase : Phase) :
    hub.PlaysOn (hub.releaseSession floor now id phase) ∧
      ((hub.releaseSession floor now id phase).player.status ≠ .idle →
        hub.playbackOwner ≠ some id) := by
  obtain ⟨player, owner, -⟩ := hub.player_unregister floor now id phase
  rw [releaseSession_eq, endPlayback, owner]
  split_ifs with owned
  · exact ⟨playsOn_stop sound (congrArg (·.stop.2) player),
      fun loaded ↦ absurd (Playback.Reader.idle_stop _).1 loaded⟩
  · exact ⟨playsOn_of_eq sound player owner, fun _ ↦ owned⟩

end

/-- A recording that is asked for is not there or malformed, or it is loaded. Which of these is a
matter of the settings and the files alone. -/
theorem loadRecording_cases (hub : Hub δ ρ) (filename : String) :
    (∃ refusal, ∀ other : Hub δ ρ, other.config = hub.config → other.recorder = hub.recorder →
        other.loadRecording filename = .error refusal) ∨
      ∃ path data found, Header.read data = .ok found ∧
        ∀ other : Hub δ ρ, other.config = hub.config → other.recorder = hub.recorder →
          other.loadRecording filename = .ok (other.player.load path data).2 := by
  cases resolved : Recording.resolve? hub.config.recordingsDir filename with
  | none =>
    refine .inl ⟨.playback ("invalid recording name " ++ Text.quote filename),
      fun other config recorder ↦ ?_⟩
    rw [loadRecording, config, resolved]
    rfl
  | some path =>
    cases read : hub.recorder.folder.disk.read path with
    | error cause =>
      refine .inl ⟨.playback (Error.io cause).message, fun other config recorder ↦ ?_⟩
      rw [loadRecording, config, resolved, recorder]
      dsimp only
      rw [read]
      rfl
    | ok data =>
      cases head : Header.read data with
      | error fault =>
        refine .inl ⟨.playback (Error.format fault).message, fun other config recorder ↦ ?_⟩
        rw [loadRecording, config, resolved, recorder]
        simp only [read, Except.mapError, Bind.bind, Except.bind, Playback.Reader.load, head]
        rfl
      | ok found =>
        refine .inr ⟨path, data, found, head, fun other config recorder ↦ ?_⟩
        rw [loadRecording, config, resolved, recorder]
        simp only [read, Except.mapError, Bind.bind, Except.bind, Playback.Reader.load, head]
        rfl

/-- A playback that is asked for is refused, and nothing happens; or a recording is loaded and
started for the one who asked. -/
theorem startPlayback_cases (hub : Hub δ ρ) (filename : String) (id : Nat) (number : SeatNumber) :
    (∃ refusal, ∀ other : Hub δ ρ, other.config = hub.config → other.recorder = hub.recorder →
        other.startPlayback filename id number = (.error refusal, other)) ∨
      ∃ path data found, Header.read data = .ok found ∧
        ∀ other : Hub δ ρ, other.config = hub.config → other.recorder = hub.recorder →
          other.startPlayback filename id number = (.ok (), { other with
            player := ((other.player.load path data).2.start number).2
            playbackOwner := some id }) := by
  rcases hub.loadRecording_cases filename with
    ⟨refusal, refused⟩ | ⟨path, data, found, head, loaded⟩
  · refine .inl ⟨refusal, fun other config recorder ↦ ?_⟩
    rw [startPlayback, refused other config recorder]
  · refine .inr ⟨path, data, found, head, fun other config recorder ↦ ?_⟩
    -- what has been loaded can be started
    have ready : (other.player.load path data).2.status = .loaded := by
      rw [Playback.Reader.load_of_read head]
    have started : (other.player.load path data).2.start number =
        (.ok (), ((other.player.load path data).2.start number).2) := by
      rw [Playback.Reader.start, ready]
    rw [startPlayback, loaded other config recorder]
    dsimp only
    rw [started]

/-- A playback has been started for a session. -/
structure Starts (after : Hub δ ρ) (id : Nat) (number : SeatNumber) : Prop where
  sound : after.player.Sound
  listener : after.player.listener = some number
  owner : after.playbackOwner = some id

theorem starts_startPlayback (sound : hub.player.Sound) (filename : String) (id : Nat)
    (number : SeatNumber) :
    (∃ refusal, hub.startPlayback filename id number = (.error refusal, hub)) ∨
      ∃ after, hub.startPlayback filename id number = (.ok (), after) ∧ after.Starts id number := by
  rcases hub.startPlayback_cases filename id number with
    ⟨refusal, refused⟩ | ⟨path, data, ⟨header, body⟩, head, granted⟩
  · exact .inl ⟨refusal, refused hub rfl rfl⟩
  · have ready : (hub.player.load path data).2.status = .loaded := by
      rw [Playback.Reader.load_of_read head]
    refine .inr ⟨_, granted hub rfl rfl, (sound.apply (.load path data)).apply (.start number), ?_,
      rfl⟩
    dsimp only
    rw [Playback.Reader.start_of_loaded ready]

variable [CaptureDevice δ] [FrameRenderer ρ]

/-- Whether a command starts a playback. -/
def Command.isStartPlayback : Command → Bool
  | .startPlayback .. => true
  | _ => false

theorem playsOn_apply (sound : hub.player.Sound) {command : Command}
    (other : command.isStartPlayback = false) : hub.PlaysOn (hub.apply command) := by
  cases command with
  | startPlayback filename id number => cases other
  | startStreaming now cameraIndex resolution fps =>
    exact (hub.sameBooks_startStreaming now cameraIndex resolution fps).playsOn sound
  | stopStreaming now => exact (hub.sameBooks_stopStreaming now).playsOn sound
  | addViewer id number => exact playsOn_of_eq sound rfl rfl
  | removeViewer floor id => exact playsOn_of_eq sound rfl rfl
  | broadcast floor text => exact playsOn_of_eq sound rfl rfl
  | claimController floor id number => exact playsOn_claimController sound floor id number
  | releaseSession floor now id phase => exact (playsOn_releaseSession sound floor now id phase).1
  | startRecording now stamp => exact playsOn_startRecording sound now stamp
  | stopRecording now => exact playsOn_of_eq sound rfl rfl
  | pausePlayback => exact ⟨sound.goesOn_pause, fun _ ↦ rfl⟩
  | resumePlayback => exact ⟨sound.goesOn_resume, fun _ ↦ rfl⟩
  | stopPlayback => exact playsOn_stop sound rfl
  | setPlaybackSpeed speed => exact ⟨sound.goesOn_setSpeed speed, fun _ ↦ rfl⟩
  | runPlayer floor now => exact ⟨sound.goesOn_settle now, fun _ ↦ rfl⟩
  | windUp now => exact playsOn_stop sound rfl
  | shutdown now =>
    have stopped := (hub.sameBooks_stopStreaming now).playsOn sound
    exact stopped.trans (playsOn_stop stopped.player.sound rfl)
  | read => exact hub.sameBooks_read.playsOn sound
  | keep now => exact playsOn_keep sound now
  | conclude floor now => exact (hub.sameBooks_conclude floor now).playsOn sound

end Glyphcast.Hub
