import Glyphcast.Proofs.Hub.Playback
import Glyphcast.Proofs.Hub.Shutdown
import Glyphcast.Proofs.Playback.Bare
import Glyphcast.Proofs.Station.Run

/-!
# Two hubs that are alike

Two hubs are told the same, but from one of them some sessions have gone and from the other they
have not. `aside` tells by their ids which sessions these are. All that such a session has on a hub
is a name among the viewers, and perhaps a playback; so two hubs are `Alike` if they agree in
whatever takes a controller to change, in the viewers that count, and in what is played, unless
that is a playback of somebody aside.

There is a lemma for each command, that it is answered alike and leaves the hubs alike. It holds
because no command looks at the viewers to decide anything, and none at the playback; what is asked
is the slot, the stream and the recorder. A release is the one command that may come to one hub
alone, if it is of somebody aside who did not leave as a controller (`releaseSession_left`).
-/

namespace Glyphcast.Hub

variable {δ ρ : Type} {first second third : Hub δ ρ}

/-! ## What takes a controller to change

Whatever is done to two hubs that agree in this, they agree in it afterwards and answer the same. -/

namespace SameControl

theorem symm (h : first.SameControl second) : second.SameControl first :=
  ⟨h.config.symm, h.capture.symm, h.streaming.symm, h.settings.symm, h.recorder.symm,
    h.controller.symm⟩

theorem trans (h : first.SameControl second) (h' : second.SameControl third) :
    first.SameControl third :=
  ⟨h'.config.trans h.config, h'.capture.trans h.capture, h'.streaming.trans h.streaming,
    h'.settings.trans h.settings, h'.recorder.trans h.recorder, h'.controller.trans h.controller⟩

theorem keep (h : first.SameControl second) (now : Nat) :
    (first.keep now).SameControl (second.keep now) := by
  unfold Hub.keep
  rw [h.capture]
  cases first.capture with
  | idle pipeline => exact h
  | finished pipeline => exact h
  | running pipeline loop =>
    dsimp only
    split
    · split
      · next text _ =>
        exact { h with capture := rfl, recorder := congrArg (·.write now text) h.recorder }
      · exact { h with capture := rfl }
      · exact { h with capture := rfl }
    · exact h
    · exact h

theorem startRecording (h : first.SameControl second) (now : Nat) (stamp : Recording.Stamp) :
    (second.startRecording now stamp).1 = (first.startRecording now stamp).1 ∧
      (first.startRecording now stamp).2.SameControl (second.startRecording now stamp).2 := by
  unfold Hub.startRecording
  rw [h.recorder]
  cases first.recorder.currentPath? with
  | some path => exact ⟨rfl, h⟩
  | none => exact ⟨rfl, { h with recorder := rfl }⟩

theorem stopRecording (h : first.SameControl second) (now : Nat) :
    (first.stopRecording now).2.SameControl (second.stopRecording now).2 :=
  { h with recorder := congrArg (fun recorder ↦ (recorder.stop now).2) h.recorder }

theorem windUp (h : first.SameControl second) (now : Nat) :
    (first.windUp now).SameControl (second.windUp now) := by
  have recorder := congrArg (fun recorder ↦ (recorder.stop now).2) h.recorder
  rw [← recorder_windUp, ← recorder_windUp] at recorder
  exact ⟨h.config, h.capture, h.streaming, h.settings, recorder, h.controller⟩

variable [CaptureDevice δ]

theorem join (h : first.SameControl second) (now : Nat) :
    (first.join now).SameControl (second.join now) := by
  unfold Hub.join fetch
  rw [h.capture]
  cases first.capture with
  | idle pipeline => exact h
  | running pipeline loop => exact { h with capture := rfl, streaming := rfl }
  | finished pipeline => exact { h with capture := rfl }

theorem stopStreaming (h : first.SameControl second) (now : Nat) :
    (first.stopStreaming now).SameControl (second.stopStreaming now) := by
  have joined := h.join now
  unfold Hub.stopStreaming
  rw [h.capture]
  split_ifs
  · exact { joined with }
  · exact h

theorem conclude (h : first.SameControl second) (floor floor' : Floor) (now : Nat) :
    (first.conclude floor now).1.SameControl (second.conclude floor' now).1 := by
  unfold Hub.conclude failCapture
  rw [h.capture]
  cases first.capture with
  | idle pipeline => exact h
  | finished pipeline => exact h
  | running pipeline loop =>
    dsimp only
    split
    · split
      · exact { h with capture := rfl }
      · exact { h with capture := rfl }
      · split_ifs
        · exact { h with capture := rfl, streaming := rfl }
        · exact { h with capture := rfl }
    · exact h
    · exact h

variable [FrameRenderer ρ]

theorem read (h : first.SameControl second) : first.read.SameControl second.read := by
  unfold Hub.read
  rw [h.capture]
  cases first.capture with
  | idle pipeline => exact h
  | finished pipeline => exact h
  | running pipeline loop =>
    dsimp only
    split_ifs
    · exact h
    · exact { h with capture := rfl }

theorem startStreaming (h : first.SameControl second) (now : Nat) (cameraIndex : UInt32)
    (resolution : String) (fps : UInt32) :
    (second.startStreaming now cameraIndex resolution fps).1 =
        (first.startStreaming now cameraIndex resolution fps).1 ∧
      (first.startStreaming now cameraIndex resolution fps).2.SameControl
        (second.startStreaming now cameraIndex resolution fps).2 := by
  have joined := h.join now
  unfold Hub.startStreaming
  rw [isStreaming, isStreaming, h.streaming, h.config]
  split_ifs
  · exact ⟨rfl, h⟩
  · cases accept first.config cameraIndex resolution fps with
    | error refusal => exact ⟨rfl, h⟩
    | ok settings =>
      dsimp only
      rw [joined.capture, joined.config]
      cases ((first.join now).capture.pipeline.start settings (first.join now).config.oversample
        (first.join now).config.ramp).1 with
      | error error =>
        exact ⟨rfl, rfl, rfl, joined.streaming, joined.settings, joined.recorder, joined.controller⟩
      | ok _ => exact ⟨rfl, rfl, rfl, rfl, rfl, joined.recorder, joined.controller⟩

end SameControl

/-! ## Viewers that count -/

variable {counted : Nat × SeatNumber → Prop}

/-- Two hubs have the same viewers among those that count. -/
def SameViewers (counted : Nat × SeatNumber → Prop) (first second : Hub δ ρ) : Prop :=
  ∀ entry, counted entry → (entry ∈ second.roster.viewers ↔ entry ∈ first.roster.viewers)

private theorem mem_viewers_conclude [CaptureDevice δ] (hub : Hub δ ρ) {floor : Floor}
    {entry : Nat × SeatNumber} (alive : floor.isAlive entry.2 = true) (now : Nat) :
    entry ∈ (hub.conclude floor now).1.roster.viewers ↔ entry ∈ hub.roster.viewers := by
  have living : entry ∈ hub.roster.living floor ↔ entry ∈ hub.roster.viewers := by
    rw [Roster.living, List.mem_filter, and_iff_left alive]
  unfold conclude failCapture
  split
  · rfl
  · rfl
  · split
    · split
      · exact living
      · rfl
      · dsimp only
        split <;> rfl
    · rfl
    · rfl

/-- Whoever is alive is struck off by its own id alone. -/
theorem mem_viewers_removeViewer (hub : Hub δ ρ) {floor : Floor} {entry : Nat × SeatNumber}
    (alive : floor.isAlive entry.2 = true) (id : Nat) :
    entry ∈ (hub.removeViewer floor id).roster.viewers ↔
      entry ∈ hub.roster.viewers ∧ entry.1 ≠ id := by
  rw [removeViewer, Roster.remove]
  dsimp only
  rw [List.mem_filter, Roster.living, List.mem_filter, and_iff_left alive, bne_iff_ne]

theorem SameViewers.addViewer (h : SameViewers counted first second)
    (sorted : first.roster.viewers.Pairwise (·.1 < ·.1))
    (sorted' : second.roster.viewers.Pairwise (·.1 < ·.1)) (id : Nat) (number : SeatNumber) :
    SameViewers counted (first.addViewer id number) (second.addViewer id number) := by
  intro entry counts
  refine (Roster.mem_insertSorted_iff sorted').trans (.trans ?_
    (Roster.mem_insertSorted_iff sorted).symm)
  exact or_congr_right (and_congr_left' (h entry counts))

theorem SameViewers.stopStreaming [CaptureDevice δ] (h : SameViewers counted first second)
    (capture : second.capture = first.capture) (now : Nat) :
    SameViewers counted (first.stopStreaming now) (second.stopStreaming now) := by
  intro entry counts
  cases hasLoop : first.capture.hasLoop with
  | true =>
    rw [stopStreaming_of_hasLoop hasLoop, stopStreaming_of_hasLoop (capture ▸ hasLoop)]
    exact Iff.rfl
  | false =>
    rw [stopStreaming_of_atHand hasLoop, stopStreaming_of_atHand (capture ▸ hasLoop)]
    exact h entry counts

/-! ## Playbacks that count -/

variable {aside : Nat → Bool}

/-- The playback, if there is one, is of somebody aside. -/
def PlaysAside (aside : Nat → Bool) (hub : Hub δ ρ) : Prop :=
  ∀ id, hub.playbackOwner = some id → aside id = true

/-- Two hubs play the same, timers that were given up left out; or what is played by either is of
somebody aside. -/
structure SamePlayback (aside : Nat → Bool) (first second : Hub δ ρ) : Prop where
  speed : second.player.speed = first.player.speed
  same : (first.PlaysAside aside ∧ second.PlaysAside aside) ∨
    (second.playbackOwner = first.playbackOwner ∧ second.player.bare = first.player.bare)

namespace SamePlayback

variable {first' second' : Hub δ ρ}

theorem symm (h : SamePlayback aside first second) : SamePlayback aside second first where
  speed := h.speed.symm
  same := h.same.imp And.symm fun same ↦ ⟨same.1.symm, same.2.symm⟩

theorem map (h : SamePlayback aside first second)
    (change : Playback.Reader SeatNumber → Playback.Reader SeatNumber)
    (speeds : ∀ reader other, other.speed = reader.speed →
      (change other).speed = (change reader).speed)
    (bare : ∀ reader, (change reader).bare = (change reader.bare).bare)
    (player : first'.player = change first.player)
    (owner : first'.playbackOwner = first.playbackOwner)
    (player' : second'.player = change second.player)
    (owner' : second'.playbackOwner = second.playbackOwner) :
    SamePlayback aside first' second' where
  speed := by
    rw [player, player']
    exact speeds _ _ h.speed
  same := by
    rw [PlaysAside, PlaysAside, owner, owner', player, player']
    refine h.same.imp_right fun ⟨owners, same⟩ ↦ ⟨owners, ?_⟩
    rw [bare, same, ← bare]

private theorem of_eq (h : SamePlayback aside first second) (player : first'.player = first.player)
    (owner : first'.playbackOwner = first.playbackOwner) (player' : second'.player = second.player)
    (owner' : second'.playbackOwner = second.playbackOwner) : SamePlayback aside first' second' :=
  h.map id (fun _ _ same ↦ same) (fun reader ↦ reader.bare_bare.symm) player owner player' owner'

theorem stop (h : SamePlayback aside first second) (player : first'.player = first.player.stop.2)
    (owner : first'.playbackOwner = none) (player' : second'.player = second.player.stop.2)
    (owner' : second'.playbackOwner = none) : SamePlayback aside first' second' where
  speed := by
    rw [player, player', Playback.Reader.speed_stop, Playback.Reader.speed_stop, h.speed]
  same := .inl ⟨fun _ owned ↦ (nomatch owner.symm.trans owned),
    fun _ owned ↦ (nomatch owner'.symm.trans owned)⟩

theorem endPlayback (h : SamePlayback aside first second) {id : Nat} (counts : aside id = false) :
    SamePlayback aside (first.endPlayback id) (second.endPlayback id) := by
  have free {hub : Hub δ ρ} (others : hub.PlaysAside aside) : hub.playbackOwner ≠ some id :=
    fun owned ↦ Bool.false_ne_true (counts.symm.trans (others id owned))
  unfold Hub.endPlayback
  rcases h.same with ⟨others, others'⟩ | ⟨owners, -⟩
  · rw [if_neg (free others), if_neg (free others')]
    exact h
  · rw [owners]
    split_ifs
    · exact h.stop rfl rfl rfl rfl
    · exact h

private theorem endPlayback_left (h : SamePlayback aside first second) {id : Nat}
    (isAside : aside id = true) : SamePlayback aside (first.endPlayback id) second := by
  unfold Hub.endPlayback
  split_ifs with owned
  · refine ⟨h.speed.trans (Playback.Reader.speed_stop _).symm, .inl ⟨nofun, ?_⟩⟩
    rcases h.same with ⟨-, others⟩ | ⟨owners, -⟩
    · exact others
    · intro other owned'
      cases owned.symm.trans (owners.symm.trans owned')
      exact isAside
  · exact h

theorem startPlayback (h : SamePlayback aside first second) (control : first.SameControl second)
    (filename : String) (id : Nat) (number : SeatNumber) :
    (second.startPlayback filename id number).1 = (first.startPlayback filename id number).1 ∧
      SamePlayback aside (first.startPlayback filename id number).2
        (second.startPlayback filename id number).2 := by
  rcases first.startPlayback_cases filename id number with
    ⟨refusal, refused⟩ | ⟨path, data, ⟨header, body⟩, head, granted⟩
  · rw [refused first rfl rfl, refused second control.config control.recorder]
    exact ⟨rfl, h⟩
  · rw [granted first rfl rfl, granted second control.config control.recorder]
    have bare (hub : Hub δ ρ) := Playback.Reader.bare_start_load head path number hub.player
    have same := (bare second).trans ((h.speed ▸ bare first).symm)
    exact ⟨rfl, congrArg (·.speed) same, .inr ⟨rfl, same⟩⟩

end SamePlayback

/-! ## Hubs that are alike -/

/-- Two hubs that differ in what concerns those aside at most. -/
structure Alike (aside : Nat → Bool) (counted : Nat × SeatNumber → Prop) (first second : Hub δ ρ) :
    Prop where
  control : first.SameControl second
  viewers : SameViewers counted first second
  playback : SamePlayback aside first second

private theorem sameControl_endPlayback (hub : Hub δ ρ) (id : Nat) :
    hub.SameControl (hub.endPlayback id) := by
  unfold endPlayback
  split_ifs <;> exact ⟨rfl, rfl, rfl, rfl, rfl, rfl⟩

namespace Alike

theorem symm (h : Alike aside counted first second) : Alike aside counted second first where
  control := h.control.symm
  viewers := fun entry counts ↦ (h.viewers entry counts).symm
  playback := h.playback.symm

theorem mono (h : Alike aside counted first second) {counted' : Nat × SeatNumber → Prop}
    (fewer : ∀ entry, counted' entry → counted entry) : Alike aside counted' first second where
  control := h.control
  viewers := fun entry counts ↦ h.viewers entry (fewer entry counts)
  playback := h.playback

section

variable (h : Alike aside counted first second)
  (sorted : first.roster.viewers.Pairwise (·.1 < ·.1))
  (sorted' : second.roster.viewers.Pairwise (·.1 < ·.1))

include h sorted sorted'

theorem addViewer (id : Nat) (number : SeatNumber) :
    Alike aside counted (first.addViewer id number) (second.addViewer id number) where
  control := { h.control with }
  viewers := h.viewers.addViewer sorted sorted' id number
  playback := h.playback.of_eq rfl rfl rfl rfl

theorem claimController {floor floor' : Floor}
    (holder : ∀ entry, first.roster.controller = some entry →
      floor'.alive? entry.2 = floor.alive? entry.2) (id : Nat) (number : SeatNumber) :
    (second.claimController floor' id number).1 = (first.claimController floor id number).1 ∧
      Alike aside counted (first.claimController floor id number).2
        (second.claimController floor' id number).2 := by
  have granted := SameViewers.addViewer h.viewers sorted sorted' id number
  unfold Hub.claimController Roster.claim
  rw [h.control.controller]
  cases slot : first.roster.controller with
  | none =>
    exact ⟨rfl, { h.control with controller := rfl }, granted, h.playback.of_eq rfl rfl rfl rfl⟩
  | some entry =>
    dsimp only
    rw [holder entry slot]
    split_ifs
    · exact ⟨rfl, h⟩
    · exact ⟨rfl, { h.control with controller := rfl }, granted, h.playback.of_eq rfl rfl rfl rfl⟩

end

section

variable (h : Alike aside counted first second)

include h

theorem startRecording (now : Nat) (stamp : Recording.Stamp) :
    (second.startRecording now stamp).1 = (first.startRecording now stamp).1 ∧
      Alike aside counted (first.startRecording now stamp).2
        (second.startRecording now stamp).2 := by
  obtain ⟨same, control⟩ := h.control.startRecording now stamp
  have books (hub : Hub δ ρ) : (hub.startRecording now stamp).2.roster = hub.roster ∧
      (hub.startRecording now stamp).2.player = hub.player ∧
      (hub.startRecording now stamp).2.playbackOwner = hub.playbackOwner := by
    unfold Hub.startRecording
    split <;> exact ⟨rfl, rfl, rfl⟩
  obtain ⟨roster, player, owner⟩ := books first
  obtain ⟨roster', player', owner'⟩ := books second
  refine ⟨same, control, fun entry counts ↦ ?_, h.playback.of_eq player owner player' owner'⟩
  rw [roster, roster']
  exact h.viewers entry counts

theorem stopRecording (now : Nat) :
    Alike aside counted (first.stopRecording now).2 (second.stopRecording now).2 where
  control := h.control.stopRecording now
  viewers := h.viewers
  playback := h.playback.of_eq rfl rfl rfl rfl

theorem startPlayback (filename : String) (id : Nat) (number : SeatNumber) :
    (second.startPlayback filename id number).1 = (first.startPlayback filename id number).1 ∧
      Alike aside counted (first.startPlayback filename id number).2
        (second.startPlayback filename id number).2 := by
  obtain ⟨same, playback⟩ := h.playback.startPlayback h.control filename id number
  have left (hub : Hub δ ρ) : hub.SameControl (hub.startPlayback filename id number).2 ∧
      (hub.startPlayback filename id number).2.roster = hub.roster := by
    unfold Hub.startPlayback
    split
    · exact ⟨⟨rfl, rfl, rfl, rfl, rfl, rfl⟩, rfl⟩
    · split <;> exact ⟨⟨rfl, rfl, rfl, rfl, rfl, rfl⟩, rfl⟩
  obtain ⟨control, roster⟩ := left first
  obtain ⟨control', roster'⟩ := left second
  refine ⟨same, control.symm.trans (h.control.trans control'), fun entry counts ↦ ?_, playback⟩
  rw [roster, roster']
  exact h.viewers entry counts

theorem pausePlayback : Alike aside counted first.pausePlayback.2 second.pausePlayback.2 where
  control := { h.control with }
  viewers := h.viewers
  playback := h.playback.map (·.pause.2)
    (fun reader other same ↦ by rw [reader.speed_pause, other.speed_pause, same])
    Playback.Reader.bare_pause rfl rfl rfl rfl

theorem resumePlayback : Alike aside counted first.resumePlayback.2 second.resumePlayback.2 where
  control := { h.control with }
  viewers := h.viewers
  playback := h.playback.map (·.resume.2)
    (fun reader other same ↦ by rw [reader.speed_resume, other.speed_resume, same])
    Playback.Reader.bare_resume rfl rfl rfl rfl

theorem stopPlayback : Alike aside counted first.stopPlayback.2 second.stopPlayback.2 where
  control := { h.control with }
  viewers := h.viewers
  playback := h.playback.stop rfl rfl rfl rfl

theorem setPlaybackSpeed (speed : Float) :
    Alike aside counted (first.setPlaybackSpeed speed).2 (second.setPlaybackSpeed speed).2 where
  control := { h.control with }
  viewers := h.viewers
  playback := h.playback.map (fun reader ↦ (reader.setSpeed speed).2)
    (fun _ _ same ↦ congrArg (Playback.clampSpeed · speed) same)
    (Playback.Reader.bare_setSpeed · speed) rfl rfl rfl rfl

/-- Both players run. What a player delivers is of no account if it plays for somebody aside. -/
theorem runPlayer (sound : first.player.Sound) (sound' : second.player.Sound) (floor floor' : Floor)
    (now : Nat) :
    Alike aside counted (first.runPlayer floor now).1 (second.runPlayer floor' now).1 where
  control := { h.control with }
  viewers := h.viewers
  playback := {
    speed := by
      refine (Playback.Reader.speed_settle _ now).trans (h.playback.speed.trans ?_)
      exact (Playback.Reader.speed_settle _ now).symm
    same := h.playback.same.imp id fun ⟨owners, bare⟩ ↦ ⟨owners, by
      change (second.player.settle now).2.bare = (first.player.settle now).2.bare
      rw [sound'.settle_bare, bare, ← sound.settle_bare]⟩ }

theorem windUp (now : Nat) : Alike aside counted (first.windUp now) (second.windUp now) where
  control := h.control.windUp now
  viewers := fun _ _ ↦ Iff.rfl
  playback := h.playback.stop rfl rfl rfl rfl

theorem keep (now : Nat) : Alike aside counted (first.keep now) (second.keep now) where
  control := h.control.keep now
  viewers := fun entry counts ↦ by
    rw [roster_keep, roster_keep]
    exact h.viewers entry counts
  playback := h.playback.of_eq (first.player_keep now) (first.playbackOwner_keep now)
    (second.player_keep now) (second.playbackOwner_keep now)

/-- One session is struck off, with all who have gone. -/
theorem removeViewer {floor floor' : Floor}
    (alive : ∀ entry, counted entry → floor.isAlive entry.2 = true)
    (alive' : ∀ entry, counted entry → floor'.isAlive entry.2 = true) (id : Nat) :
    Alike aside counted (first.removeViewer floor id) (second.removeViewer floor' id) where
  control := { h.control with }
  viewers := fun entry counts ↦ by
    rw [mem_viewers_removeViewer first (alive entry counts),
      mem_viewers_removeViewer second (alive' entry counts)]
    exact and_congr_left' (h.viewers entry counts)
  playback := h.playback.of_eq rfl rfl rfl rfl

variable [CaptureDevice δ]

theorem stopStreaming (now : Nat) :
    Alike aside counted (first.stopStreaming now) (second.stopStreaming now) where
  control := h.control.stopStreaming now
  viewers := h.viewers.stopStreaming h.control.capture now
  playback := by
    have books := first.sameBooks_stopStreaming now
    have books' := second.sameBooks_stopStreaming now
    exact h.playback.of_eq books.player books.playbackOwner books'.player books'.playbackOwner

theorem shutdown (now : Nat) :
    Alike aside counted (first.shutdown now) (second.shutdown now) :=
  (h.stopStreaming now).windUp now

theorem conclude {floor floor' : Floor}
    (alive : ∀ entry, counted entry → floor.isAlive entry.2 = true)
    (alive' : ∀ entry, counted entry → floor'.isAlive entry.2 = true) (now : Nat) :
    Alike aside counted (first.conclude floor now).1 (second.conclude floor' now).1 where
  control := h.control.conclude floor floor' now
  viewers := fun entry counts ↦ by
    rw [mem_viewers_conclude first (alive entry counts),
      mem_viewers_conclude second (alive' entry counts)]
    exact h.viewers entry counts
  playback := by
    have books := first.sameBooks_conclude floor now
    have books' := second.sameBooks_conclude floor' now
    exact h.playback.of_eq books.player books.playbackOwner books'.player books'.playbackOwner

theorem unregister {floor floor' : Floor}
    (alive : ∀ entry, counted entry → floor.isAlive entry.2 = true)
    (alive' : ∀ entry, counted entry → floor'.isAlive entry.2 = true) (now id : Nat)
    (phase : Phase) :
    Alike aside counted (first.unregister floor now id phase)
      (second.unregister floor' now id phase) := by
  have removed := h.removeViewer alive alive' id
  have slot : second.HoldsSlot id ↔ first.HoldsSlot id := by
    rw [HoldsSlot, HoldsSlot, h.control.controller]
  by_cases holder : phase = .controller ∧ first.HoldsSlot id
  · obtain ⟨rfl, holds⟩ := holder
    rw [first.unregister_of_holder floor now holds,
      second.unregister_of_holder floor' now (slot.mpr holds)]
    have struck : Alike aside counted
        { first with roster := ⟨(first.roster.remove floor id).2.viewers, none⟩ }
        { second with roster := ⟨(second.roster.remove floor' id).2.viewers, none⟩ } :=
      ⟨{ h.control with controller := rfl }, removed.viewers, h.playback.of_eq rfl rfl rfl rfl⟩
    exact struck.stopStreaming now
  · rw [first.unregister_of_other floor now holder,
      second.unregister_of_other floor' now fun other ↦ holder ⟨other.1, slot.mp other.2⟩]
    split_ifs
    · exact removed
    · exact h

theorem releaseSession {floor floor' : Floor}
    (alive : ∀ entry, counted entry → floor.isAlive entry.2 = true)
    (alive' : ∀ entry, counted entry → floor'.isAlive entry.2 = true) (now : Nat) {id : Nat}
    (counts : aside id = false) (phase : Phase) :
    Alike aside counted (first.releaseSession floor now id phase)
      (second.releaseSession floor' now id phase) := by
  have half := h.unregister alive alive' now id phase
  rw [releaseSession_eq, releaseSession_eq]
  refine ⟨?_, fun entry counts ↦ ?_, half.playback.endPlayback counts⟩
  · exact (sameControl_endPlayback _ id).symm.trans
      (half.control.trans (sameControl_endPlayback _ id))
  · rw [roster_endPlayback, roster_endPlayback]
    exact half.viewers entry counts

theorem releaseSession_left {floor : Floor}
    (alive : ∀ entry, counted entry → floor.isAlive entry.2 = true) (now : Nat) {id : Nat}
    (isAside : aside id = true) (apart : ∀ entry, counted entry → entry.1 ≠ id) {phase : Phase}
    (humble : phase ≠ .controller) :
    Alike aside counted (first.releaseSession floor now id phase) second := by
  have half : Alike aside counted (first.unregister floor now id phase) second := by
    rw [first.unregister_of_other floor now fun holder ↦ humble holder.1]
    split_ifs
    · refine ⟨{ h.control with }, fun entry counts ↦ ?_, h.playback.of_eq rfl rfl rfl rfl⟩
      rw [mem_viewers_removeViewer first (alive entry counts),
        and_iff_left (apart entry counts)]
      exact h.viewers entry counts
    · exact h
  rw [releaseSession_eq]
  refine ⟨?_, fun entry counts ↦ ?_, half.playback.endPlayback_left isAside⟩
  · exact (sameControl_endPlayback _ id).symm.trans half.control
  · rw [roster_endPlayback]
    exact half.viewers entry counts

variable [FrameRenderer ρ]

theorem read : Alike aside counted first.read second.read where
  control := h.control.read
  viewers := fun entry counts ↦ by
    rw [roster_read, roster_read]
    exact h.viewers entry counts
  playback := by
    have books := first.sameBooks_read
    have books' := second.sameBooks_read
    exact h.playback.of_eq books.player books.playbackOwner books'.player books'.playbackOwner

theorem startStreaming (now : Nat) (cameraIndex : UInt32) (resolution : String) (fps : UInt32) :
    (second.startStreaming now cameraIndex resolution fps).1 =
        (first.startStreaming now cameraIndex resolution fps).1 ∧
      Alike aside counted (first.startStreaming now cameraIndex resolution fps).2
        (second.startStreaming now cameraIndex resolution fps).2 := by
  obtain ⟨same, control⟩ := h.control.startStreaming now cameraIndex resolution fps
  have books := first.sameBooks_startStreaming now cameraIndex resolution fps
  have books' := second.sameBooks_startStreaming now cameraIndex resolution fps
  refine ⟨same, control, fun entry counts ↦ ?_,
    h.playback.of_eq books.player books.playbackOwner books'.player books'.playbackOwner⟩
  rw [roster_startStreaming, roster_startStreaming]
  exact h.viewers entry counts

end

end Alike

end Glyphcast.Hub
