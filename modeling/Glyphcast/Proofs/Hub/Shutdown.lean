import Glyphcast.Proofs.Hub.Stop
import Glyphcast.Proofs.Playback.Sound
import Glyphcast.Proofs.Recording.Keeping

/-!
# What a shutdown leaves

A shutdown is two commands. The first stops the stream; the second ends the playback and the
recording and forgets the viewers. Between the two, whoever was waiting may be served, so what is
left has to be told for any commands in between.

What the second part sees to is certain: nothing is played, nobody is a viewer, no recording is
open, and every recording that was open at any time since the shutdown began is in its file, whole.
What the first part saw to is certain only as long as nobody undoes it: a stream that is started in
between goes on. And neither part looks at the controller's slot, which is left as it is found.
-/

namespace Glyphcast.Hub

open Recording (Recorder Reel)

variable {δ ρ : Type}

/-! ## The recorder of a hub

The capture loop writes into the open recording; opening and finishing one are commands. Nothing
else that a hub does touches its recorder, so the recorder does what recorders do. -/

section

variable (hub : Hub δ ρ)

private theorem recorder_keep (now : Nat) :
    (hub.keep now).recorder = hub.recorder ∨
      ∃ text, (hub.keep now).recorder = hub.recorder.write now text := by
  unfold keep
  split
  · exact .inl rfl
  · exact .inl rfl
  · split
    · dsimp only
      split
      · next text read => exact .inr ⟨text, rfl⟩
      · exact .inl rfl
      · exact .inl rfl
    · exact .inl rfl
    · exact .inl rfl

@[simp] private theorem recorder_claimController (floor : Floor) (id : Nat) (number : SeatNumber) :
    (hub.claimController floor id number).2.recorder = hub.recorder := by
  unfold claimController
  split <;> rfl

@[simp] theorem recorder_startRecording (now : Nat) (stamp : Recording.Stamp) :
    (hub.startRecording now stamp).2.recorder = (hub.recorder.start now stamp).2 := by
  unfold startRecording
  split
  · next told =>
    exact (Recorder.start_of_recording (Recorder.isRecording_of_told told) now stamp).symm
  · rfl

@[simp]
private theorem recorder_startPlayback (filename : String) (id : Nat) (number : SeatNumber) :
    (hub.startPlayback filename id number).2.recorder = hub.recorder := by
  unfold startPlayback
  split
  · rfl
  · split <;> rfl

@[simp] theorem recorder_windUp (now : Nat) :
    (hub.windUp now).recorder = (hub.recorder.stop now).2 := by
  rw [windUp, stopRecording_eq]
  rfl

@[simp] private theorem recorder_releaseSession [CaptureDevice δ] (floor : Floor) (now id : Nat)
    (phase : Phase) : (hub.releaseSession floor now id phase).recorder = hub.recorder := by
  have playback (middle : Hub δ ρ) :
      (if middle.playbackOwner = some id then
        { middle with player := middle.player.stop.2, playbackOwner := none }
      else middle).recorder = middle.recorder := by
    split_ifs <;> rfl
  unfold releaseSession
  rw [playback]
  cases phase with
  | controller =>
    dsimp only
    split_ifs
    · exact (sameBooks_stopStreaming _ now).recorder
    · rfl
  | viewer => rfl
  | unauthenticated => rfl
  | closed => rfl

end

variable [CaptureDevice δ] [FrameRenderer ρ]

/-- Whether a command is a part of a reading. -/
def Command.isReading : Command → Bool
  | .read | .keep _ | .conclude .. => true
  | _ => false

/-- What a command tells the recorder to do. A reading tells it nothing, it only offers a text. -/
def Command.order? : Command → Option Recorder.Deed
  | .startRecording now stamp => some (.start now stamp)
  | .stopRecording now | .windUp now | .shutdown now => some (.stop now)
  | _ => none

/-- A command that is no part of a reading has the recorder do what it tells it. -/
theorem recorder_apply_of_apart (hub : Hub δ ρ) {command : Command}
    (apart : command.isReading = false) :
    (hub.apply command).recorder = hub.recorder.performAll command.order?.toList := by
  cases command with
  | startStreaming now cameraIndex resolution fps =>
    exact (hub.sameBooks_startStreaming now cameraIndex resolution fps).recorder
  | stopStreaming now => exact (hub.sameBooks_stopStreaming now).recorder
  | addViewer id number => rfl
  | removeViewer floor id => rfl
  | broadcast floor text => rfl
  | claimController floor id number => exact hub.recorder_claimController floor id number
  | releaseSession floor now id phase => exact hub.recorder_releaseSession floor now id phase
  | startRecording now stamp => exact hub.recorder_startRecording now stamp
  | stopRecording now => rfl
  | startPlayback filename id number => exact hub.recorder_startPlayback filename id number
  | pausePlayback => rfl
  | resumePlayback => rfl
  | stopPlayback => rfl
  | setPlaybackSpeed speed => rfl
  | runPlayer floor now => rfl
  | windUp now => exact hub.recorder_windUp now
  | shutdown now =>
    rw [apply, shutdown, recorder_windUp, (hub.sameBooks_stopStreaming now).recorder]
    rfl
  | read => nomatch apart
  | keep now => nomatch apart
  | conclude floor now => nomatch apart

private theorem recorder_apply (hub : Hub δ ρ) (command : Command) :
    ∃ deeds, (hub.apply command).recorder = hub.recorder.performAll deeds := by
  cases part : command.isReading with
  | false => exact ⟨_, hub.recorder_apply_of_apart part⟩
  | true =>
    cases command with
    | read => exact ⟨[], hub.sameBooks_read.recorder⟩
    | keep now =>
      rcases hub.recorder_keep now with same | ⟨text, written⟩
      · exact ⟨[], same⟩
      · exact ⟨[.write now text], written⟩
    | conclude floor now => exact ⟨[], (hub.sameBooks_conclude floor now).recorder⟩
    | _ => nomatch part

theorem recorder_run (hub : Hub δ ρ) (commands : List Command) :
    ∃ deeds, (hub.run commands).recorder = hub.recorder.performAll deeds := by
  induction commands generalizing hub with
  | nil => exact ⟨[], rfl⟩
  | cons command commands ih =>
    obtain ⟨first, applied⟩ := hub.recorder_apply command
    obtain ⟨rest, ran⟩ := ih (hub.apply command)
    refine ⟨first ++ rest, ?_⟩
    rw [Recorder.performAll_append, ← applied]
    exact ran

/-- A recording that a hub has open goes on, or is finished and stays as it is. -/
theorem keeps_run {hub : Hub δ ρ} {reel : Reel} (h : hub.recorder.Keeps reel)
    (commands : List Command) : (hub.run commands).recorder.Keeps reel := by
  obtain ⟨deeds, ran⟩ := hub.recorder_run commands
  rw [ran]
  exact h.performAll deeds

theorem faithful_run {hub : Hub δ ρ} (h : hub.recorder.Faithful) (commands : List Command) :
    (hub.run commands).recorder.Faithful := by
  obtain ⟨deeds, ran⟩ := hub.recorder_run commands
  rw [ran]
  exact h.performAll deeds

/-! ## Streams that are not started -/

private theorem noLoop_apply {hub : Hub δ ρ} {command : Command} (noLoop : hub.capture.loop? = none)
    (noStart : ∀ now cameraIndex resolution fps,
      command ≠ .startStreaming now cameraIndex resolution fps) :
    (hub.apply command).capture.loop? = none := by
  have step := hub.streamStep_apply command
  generalize hub.apply command = after at step ⊢
  cases step with
  | same same => rwa [same.capture]
  | start now cameraIndex resolution fps => exact (noStart _ _ _ _ rfl).elim
  | stop roster now same =>
    rw [same.capture, capture_eq_idle (hasLoop_stopStreaming _ now)]
    rfl
  | read =>
    unfold Hub.read
    split
    · exact noLoop
    · exact noLoop
    · next running => rw [running] at noLoop; cases noLoop
  | keep now =>
    unfold Hub.keep
    split
    · exact noLoop
    · exact noLoop
    · next running => rw [running] at noLoop; cases noLoop
  | conclude floor now =>
    unfold Hub.conclude
    split
    · exact noLoop
    · exact noLoop
    · next running => rw [running] at noLoop; cases noLoop

theorem noLoop_run {hub : Hub δ ρ} {commands : List Command} (noLoop : hub.capture.loop? = none)
    (noStart : ∀ now cameraIndex resolution fps,
      Command.startStreaming now cameraIndex resolution fps ∉ commands) :
    (hub.run commands).capture.loop? = none := by
  induction commands generalizing hub with
  | nil => exact noLoop
  | cons command commands ih =>
    refine ih (noLoop_apply noLoop ?_) ?_
    · rintro now cameraIndex resolution fps rfl
      exact noStart _ _ _ _ List.mem_cons_self
    · intro now cameraIndex resolution fps mem
      exact noStart _ _ _ _ (List.mem_cons_of_mem _ mem)

/-! ## Both parts -/

/-- What is left of a hub by a shutdown that begins now and is ended later, when this has been done
between its parts. -/
structure ShutDown (before : Hub (Metered δ) ρ) (now : Nat) (between : List Command) (later : Nat)
    (after : Hub (Metered δ) ρ) : Prop where
  /-- A stream is running only if one was running again when the second part began. -/
  streaming_eq :
    after.isStreaming = (before.run (.stopStreaming now :: between)).isStreaming
  /-- There is none unless one was started in between. -/
  lowered : (∀ time cameraIndex resolution fps,
    Command.startStreaming time cameraIndex resolution fps ∉ between) → after.isStreaming = false
  /-- The device is closed unless a stream is running. -/
  isOpen_eq : CaptureDevice.isOpen after.capture.pipeline.device.device = after.isStreaming
  /-- No recording is open. -/
  notRecording : after.recorder.isRecording = false
  /-- A recording that was open when the shutdown began, or at any time since, is in its file with
  the frames that it had then, whatever came after these, and a foot that tells how many there are
  in all. -/
  recorded : ∀ first rest path, Command.stopStreaming now :: between = first ++ rest →
    (before.run first).recorder.currentPath? = some path →
    ∃ reel longer stopped, (before.run first).recorder.Records reel ∧ reel.Extends longer ∧
      after.recorder.folder.disk.read path = .ok (longer.fileBytes stopped)
  /-- One that was still open when the second part began has got no more frames. -/
  finished : ∀ reel, (before.run (.stopStreaming now :: between)).recorder.Records reel →
    after.recorder.folder.disk.read reel.path = .ok (reel.fileBytes later)
  /-- Nothing is played, to nobody, and no timer will play anything. -/
  idle : after.player.status = .idle ∧ after.player.listener = none ∧
    ∀ timer ∈ after.player.timers, timer.cancelled = true
  /-- Nobody owns a playback. -/
  noOwner : after.playbackOwner = none
  /-- Nobody is a viewer. -/
  noViewers : after.roster.viewers = []
  /-- The controller's slot is left as it was found. -/
  controller_eq : after.roster.controller =
    (before.run (.stopStreaming now :: between)).roster.controller

variable {config : HubConfig} {hub : Hub (Metered δ) ρ}

private theorem Orderly.shutDown [LawfulDevice δ] (h : hub.Orderly config)
    (faithful : hub.recorder.Faithful) (now : Nat) (between : List Command) (later : Nat) :
    hub.ShutDown now between later (((hub.stopStreaming now).run between).windUp later) := by
  set middle := (hub.stopStreaming now).run between
  have middle_run : hub.run (.stopStreaming now :: between) = middle := rfl
  have orderly : (middle.windUp later).Orderly config :=
    ((h.stopStreaming now).run between).apply (.windUp later)
  have recorder : (middle.windUp later).recorder = (middle.recorder.stop later).2 :=
    middle.recorder_windUp later
  have notRecording : (middle.windUp later).recorder.isRecording = false := by
    rw [recorder, Recorder.isRecording, Recorder.active_stop]
    rfl
  obtain ⟨idle, unheard, cancelled⟩ := middle.player.idle_stop
  exact {
    streaming_eq := by
      rw [middle_run]
      rfl
    lowered := fun noStart ↦ by
      -- the first part has left no loop, and only a start makes one
      have stopped := h.stopped now
      have noLoop : (hub.stopStreaming now).capture.loop? = none := by
        rw [stopped.atHand]
        rfl
      exact orderly.streaming_of_loop (noLoop_run noLoop noStart)
    isOpen_eq := orderly.isOpen_eq
    notRecording
    recorded := fun first rest path split told ↦ by
      obtain ⟨reel, records⟩ := faithful_run faithful first (Recorder.isRecording_of_told told)
      cases records.currentPath?.symm.trans told
      -- what was open after `first` is kept up to the second part, which leaves nothing open
      have kept := keeps_run records.keeps rest
      rw [← run_append, ← split, middle_run] at kept
      have stopped := kept.perform (.stop later)
      rw [Recorder.perform, ← recorder] at stopped
      obtain ⟨longer, time, grown, read⟩ := stopped.read notRecording
      exact ⟨reel, longer, time, records, grown, read⟩
    finished := fun reel records ↦ by
      rw [middle_run] at records
      rw [recorder]
      exact (records.stop later).2.2
    idle := ⟨idle, unheard, cancelled⟩
    noOwner := rfl
    noViewers := rfl
    controller_eq := by
      rw [middle_run]
      rfl }

/-- Whatever was done to a hub before, and whatever its device and its renderer did: this is what a
shutdown leaves, whether its parts follow at once or others are served in between. -/
theorem shutDown_run [LawfulDevice δ] (device : δ) (renderer : ρ) (config : HubConfig)
    (disk : Recording.Disk) (shut : CaptureDevice.isOpen device = false) (commands : List Command)
    (now : Nat) (between : List Command) (later : Nat) :
    let hub := (new { device : Metered δ } renderer config disk).run commands
    hub.ShutDown now [] now (hub.shutdown now) ∧
      hub.ShutDown now between later (((hub.stopStreaming now).run between).windUp later) := by
  intro hub
  have orderly : hub.Orderly config := (orderly_new renderer config disk shut).run commands
  have faithful : hub.recorder.Faithful := faithful_run (Recorder.faithful_of_idle rfl) commands
  exact ⟨orderly.shutDown faithful now [] now, orderly.shutDown faithful now between later⟩

/-- A stream is recorded and shut down, and another is asked for in between. -/
theorem shutDown_restarted :
    CaptureDevice.isOpen ({ script := [.frame 1] } : ScriptedDevice) = false ∧
    let hub := (new { device := ({ script := [.frame 1] } : ScriptedDevice) }
      ({} : LabelRenderer) {} .empty).run
        [.startRecording 0 ⟨2024, 5, 17, 9, 30, 0⟩, .startStreaming 0 0 "8x4" 10, .read, .keep 100,
          .conclude {} 100]
    hub.recorder.isRecording = true ∧
      hub.ShutDown 200 [] 200 (hub.shutdown 200) ∧
      hub.ShutDown 200 [.startStreaming 200 0 "8x4" 10] 300
        (((hub.stopStreaming 200).run [.startStreaming 200 0 "8x4" 10]).windUp 300) :=
  ⟨rfl, by decide +kernel, shutDown_run _ _ _ _ rfl _ _ _ _⟩

/-- A shutdown leaves the controller in its slot, and a stream that is started before the second
part runs on. -/
theorem shutDown_incomplete :
    (((new ({ device := {} } : Metered ScriptedDevice) ({} : LabelRenderer) {} .empty).run
      [.claimController {} 1 0]).shutdown 0).roster.controller = some (1, 0) ∧
    ((((new ({ device := {} } : Metered ScriptedDevice) ({} : LabelRenderer) {}
        .empty).stopStreaming 0).run
      [.startStreaming 0 0 "8x4" 10]).windUp 0).isStreaming = true := by
  decide

end Glyphcast.Hub
