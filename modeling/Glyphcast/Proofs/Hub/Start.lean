import Glyphcast.Proofs.Device.Logged
import Glyphcast.Proofs.Hub.Lifecycle
import Glyphcast.Proofs.Resolution.Spelling

/-!
# What a start leaves that fails

A start goes through three gates. What is asked for may be refused, and then nothing has happened:
no loop has been waited for, and the device has not been touched. Past that gate the pipeline is
fetched from the loop that gave up, if it has not been fetched before, and the device is opened and
then sized. Either call may fail or crash, and whichever it is, the hub comes out of it as it went
in but for one thing: the pipeline is at hand now, with its device closed.

That the hub did not stream anything at the beginning is all that is assumed, so the loop that gave
up and is still to be fetched from is one of the cases. A start that comes while a stream is running
does not fail.
-/

namespace Glyphcast

/-! ## Refusals -/

namespace Resolution

theorem pos_of_ofText? {text : String} {grid : Resolution} (read : ofText? text = some grid) :
    0 < grid.width ∧ 0 < grid.height :=
  (ofText?_eq_some_iff.mp read).pos

private theorem fitsWithin_iff {grid limit : Resolution} : grid.fitsWithin limit = true ↔
    grid.width ≤ limit.width ∧ grid.height ≤ limit.height := by
  rw [fitsWithin, Bool.and_eq_true, decide_eq_true_iff, decide_eq_true_iff]

end Resolution

namespace Hub

variable {δ ρ : Type} {config : HubConfig} {cameraIndex fps : UInt32} {resolution : String}

/-- What is asked for is looked at in this order: the grid, its size, and the rate. -/
theorem accept_eq (config : HubConfig) (cameraIndex : UInt32) (resolution : String)
    (fps : UInt32) :
    accept config cameraIndex resolution fps =
      (match Resolution.ofText? resolution with
      | none => .error (.invalidResolution resolution)
      | some grid =>
        if grid.fitsWithin config.maxResolution = false then .error (.invalidResolution resolution)
        else if fps = 0 then .error .invalidFps
        else .ok ⟨cameraIndex, grid, fps⟩) := by
  rw [accept, Resolution.parse]
  cases Resolution.ofText? resolution with
  | none => rfl
  | some grid =>
    dsimp only [Bind.bind, Except.bind]
    cases grid.fitsWithin config.maxResolution with
    | false => rfl
    | true => by_cases resting : fps = 0 <;> simp only [resting, if_true, if_false] <;> rfl

private theorem accept_of_unreadable (unreadable : Resolution.ofText? resolution = none) :
    accept config cameraIndex resolution fps = .error (.invalidResolution resolution) := by
  rw [accept_eq, unreadable]

private theorem accept_of_tooLarge {grid : Resolution}
    (read : Resolution.ofText? resolution = some grid)
    (tooLarge : config.maxResolution.width < grid.width ∨
      config.maxResolution.height < grid.height) :
    accept config cameraIndex resolution fps = .error (.invalidResolution resolution) := by
  have refused : grid.fitsWithin config.maxResolution = false := by
    rw [← Bool.not_eq_true, Resolution.fitsWithin_iff,
      Decidable.not_and_iff_not_or_not, UInt32.not_le, UInt32.not_le]
    exact tooLarge
  rw [accept_eq, read]
  exact if_pos refused

private theorem accept_of_unpaced (resting : fps = 0) :
    ∃ refusal, accept config cameraIndex resolution fps = .error refusal := by
  rw [accept_eq]
  cases Resolution.ofText? resolution with
  | none => exact ⟨_, rfl⟩
  | some grid =>
    dsimp only
    split_ifs
    · exact ⟨_, rfl⟩
    · exact ⟨_, rfl⟩

theorem accept_eq_ok_iff {settings : StreamSettings} :
    accept config cameraIndex resolution fps = .ok settings ↔
      ∃ grid, Resolution.ofText? resolution = some grid ∧
        (grid.width ≤ config.maxResolution.width ∧ grid.height ≤ config.maxResolution.height) ∧
        0 < fps ∧ ⟨cameraIndex, grid, fps⟩ = settings := by
  rw [accept_eq]
  cases Resolution.ofText? resolution with
  | none => simp only [reduceCtorEq, false_and, exists_false]
  | some grid =>
    simp only [Option.some.injEq, exists_eq_left', UInt32.pos_iff_ne_zero,
      ← Resolution.fitsWithin_iff]
    split_ifs with large resting
    · simp only [large, reduceCtorEq, false_and]
    · simp only [resting, ne_eq, not_true_eq_false, false_and, and_false]
    · simp only [Bool.not_eq_false] at large
      simp only [large, resting, Except.ok.injEq, ne_eq, not_false_eq_true, true_and]

variable [CaptureDevice δ] [FrameRenderer ρ]

theorem startStreaming_of_refusal {hub : Hub δ ρ} (now : Nat) {refusal : HubError}
    (lowered : hub.isStreaming = false)
    (refused : accept hub.config cameraIndex resolution fps = .error refusal) :
    hub.startStreaming now cameraIndex resolution fps = (.error refusal, hub) := by
  rw [startStreaming, if_neg (by rw [lowered]; decide), refused]

/-- Past the first gate a start comes to what the pipeline makes of it. -/
theorem startStreaming_of_accepted {hub : Hub δ ρ} (now : Nat) {settings : StreamSettings}
    (lowered : hub.isStreaming = false)
    (accepted : accept hub.config cameraIndex resolution fps = .ok settings) :
    let answer := (hub.join now).capture.pipeline.start settings hub.config.oversample
      hub.config.ramp
    let started := hub.startStreaming now cameraIndex resolution fps
    started.1 = answer.1.mapError .device ∧ started.2.capture.pipeline = answer.2 ∧
      started.2.config = hub.config ∧ started.2.isStreaming = answer.1.isOk := by
  have still : (hub.join now).streaming = false := by
    unfold join
    cases hub.capture with
    | idle pipeline => exact lowered
    | running pipeline loop => rfl
    | finished pipeline => exact lowered
  unfold startStreaming
  rw [if_neg (by rw [lowered]; decide), accepted]
  dsimp only
  rw [config_join]
  obtain ⟨result, pipeline⟩ :=
    (hub.join now).capture.pipeline.start settings hub.config.oversample hub.config.ramp
  cases result with
  | error cause => exact ⟨rfl, rfl, rfl, still⟩
  | ok done => exact ⟨rfl, rfl, rfl, rfl⟩

/-! ## Failures -/

/-- A start fails because it is refused, or because the pipeline does not start; then the pipeline
is at hand, and nothing else is different. -/
theorem startStreaming_cases {hub : Hub δ ρ} {now : Nat} {error : HubError}
    (noLoop : hub.capture.loop? = none)
    (failed : (hub.startStreaming now cameraIndex resolution fps).1 = .error error) :
    (hub.startStreaming now cameraIndex resolution fps).2 = hub ∨
      ∃ settings cause,
        let started := hub.capture.pipeline.start settings hub.config.oversample hub.config.ramp
        started.1 = .error cause ∧ (hub.startStreaming now cameraIndex resolution fps).2 =
          { hub with capture := .idle started.2 } := by
  have joined : hub.join now = { hub with capture := (hub.join now).capture } := by
    unfold join
    split
    · rfl
    · next running => rw [running] at noLoop; cases noLoop
    · rfl
  obtain ⟨same, -⟩ := join_of_noLoop now noLoop
  unfold startStreaming at failed ⊢
  split at failed
  · nomatch failed
  next lowered =>
  rw [if_neg lowered]
  split at failed
  · exact .inl rfl
  · next settings _ =>
    right
    refine ⟨settings, ?_⟩
    dsimp only at failed ⊢
    rw [joined] at failed ⊢
    dsimp only at failed ⊢
    rw [same] at failed ⊢
    cases answer :
      (hub.capture.pipeline.start settings hub.config.oversample hub.config.ramp).1 with
    | error cause => exact ⟨cause, rfl, rfl⟩
    | ok done =>
      rw [answer] at failed
      nomatch failed

end Hub

/-- What may have been asked of a device in vain: whatever failed, a device that was opened, or may
have been, has been closed again. -/
inductive Undone : List DeviceCall → Prop where
  /-- Nothing was asked of it. -/
  | untouched : Undone []
  /-- It refused to open. -/
  | refused (index : UInt32) : Undone [.openAt index]
  /-- It crashed while it was opened. -/
  | crashed (index : UInt32) : Undone [.openAt index, .close]
  /-- It did not take its size. -/
  | unsized (index width height : UInt32) :
    Undone [.openAt index, .resize width height, .close]

namespace Pipeline

variable {δ ρ : Type} [FrameRenderer ρ] {settings : StreamSettings} {oversample : UInt32}
  {ramp : String} {cause : DeviceError}

private theorem renderer_start [CaptureDevice δ] {pipeline : Pipeline δ ρ}
    (failed : (pipeline.start settings oversample ramp).1 = .error cause) :
    (pipeline.start settings oversample ramp).2.renderer = pipeline.renderer := by
  revert failed
  simp only [start]
  obtain ⟨opened, device⟩ := openAt pipeline.device settings.cameraIndex
  cases opened with
  | failed error => exact fun _ ↦ rfl
  | crashed crash => exact fun _ ↦ rfl
  | done answer =>
    dsimp only
    generalize resize device _ _ = sizing
    obtain ⟨sized, device⟩ := sizing
    cases sized with
    | failed error => exact fun _ ↦ rfl
    | crashed crash => exact fun _ ↦ rfl
    | done answer => rintro ⟨⟩

/-- Whichever call it was that failed, the device has been asked no more than this. -/
theorem undone_start [CaptureDevice δ] {pipeline : Pipeline (Metered (Logged δ)) ρ}
    (failed : (pipeline.start settings oversample ramp).1 = .error cause) :
    ∃ made, (pipeline.start settings oversample ramp).2.device.device.calls =
      pipeline.device.device.calls ++ made ∧ Undone made := by
  rcases pipeline.start_cases settings oversample ramp with ⟨error, -, -, device⟩ |
    ⟨crash, -, -, device⟩ | ⟨error, -, -, -, device⟩ | ⟨-, -, done, -⟩
  · rw [device]
    exact ⟨_, rfl, .refused settings.cameraIndex⟩
  · rw [device]
    exact ⟨_, List.append_assoc .., .crashed settings.cameraIndex⟩
  · rw [device]
    let size := settings.resolution.scaled oversample
    refine ⟨_, ?_, .unsized settings.cameraIndex size.width size.height⟩
    exact (List.append_assoc ..).trans (List.append_assoc ..)
  · nomatch failed.symm.trans done

end Pipeline

namespace Hub

variable {δ ρ : Type} [CaptureDevice δ] [FrameRenderer ρ]

/-! ## What is promised -/

/-- What a start that failed has made of a hub. -/
structure RolledBack (config : HubConfig) (before after : Hub (Metered (Logged δ)) ρ) :
    Prop where
  /-- No stream is running. -/
  lowered : after.isStreaming = false
  /-- The device is closed. -/
  closed : CaptureDevice.isOpen after.capture.pipeline.device = false
  /-- Beside the pipeline's whereabouts everything is as it was: the settings and the counters of
  the last stream, the viewers and the controller's slot, the recorder, and the playback with its
  owner. -/
  unchanged : after = { before with capture := after.capture }
  /-- The renderer is as it was. -/
  renderer : after.capture.pipeline.renderer = before.capture.pipeline.renderer
  /-- A device that was opened in vain has been closed again. -/
  calls : ∃ made, after.capture.pipeline.device.device.calls =
    before.capture.pipeline.device.device.calls ++ made ∧ Undone made
  /-- The next stream that may be asked for starts, if the device can be opened at its size. -/
  starts : ∀ now cameraIndex resolution fps grid,
    Resolution.ofText? resolution = some grid → grid.width ≤ config.maxResolution.width →
    grid.height ≤ config.maxResolution.height → fps ≠ 0 →
    (openAt after.capture.pipeline.device cameraIndex).1 = .done () →
    (resize (openAt after.capture.pipeline.device cameraIndex).2
      (grid.scaled config.oversample).width (grid.scaled config.oversample).height).1 = .done () →
    (after.startStreaming now cameraIndex resolution fps).1 = .ok () ∧
      (after.startStreaming now cameraIndex resolution fps).2.isStreaming = true

/-- What can be said of a request for a stream, if none is running. -/
structure SafeStart (config : HubConfig) (hub : Hub (Metered (Logged δ)) ρ) (now : Nat)
    (cameraIndex : UInt32) (resolution : String) (fps : UInt32) : Prop where
  /-- What cannot be read as a grid is refused, and neither the hub nor its device has changed. -/
  unreadable : Resolution.ofText? resolution = none →
    hub.startStreaming now cameraIndex resolution fps =
      (.error (.invalidResolution resolution), hub)
  /-- What can be read as one has no side of zero. -/
  positive : ∀ grid, Resolution.ofText? resolution = some grid → 0 < grid.width ∧ 0 < grid.height
  /-- A grid that is too wide or too high is refused in the same way. -/
  tooLarge : ∀ grid, Resolution.ofText? resolution = some grid →
    config.maxResolution.width < grid.width ∨ config.maxResolution.height < grid.height →
    hub.startStreaming now cameraIndex resolution fps =
      (.error (.invalidResolution resolution), hub)
  /-- So is a stream without frames. -/
  unpaced : fps = 0 →
    ∃ refusal, hub.startStreaming now cameraIndex resolution fps = (.error refusal, hub)
  /-- And whatever it is that fails, nothing comes of it. -/
  rolledBack : ∀ error, (hub.startStreaming now cameraIndex resolution fps).1 = .error error →
    hub.RolledBack config (hub.startStreaming now cameraIndex resolution fps).2

variable {config : HubConfig} {hub : Hub (Metered (Logged δ)) ρ} {cameraIndex fps : UInt32}
  {resolution : String}

private theorem Orderly.rolledBack [LawfulDevice δ] (h : hub.Orderly config) {now : Nat}
    {error : HubError} (lowered : hub.isStreaming = false)
    (failed : (hub.startStreaming now cameraIndex resolution fps).1 = .error error) :
    hub.RolledBack config (hub.startStreaming now cameraIndex resolution fps).2 := by
  have noLoop : hub.capture.loop? = none := by
    have flag : hub.isStreaming = hub.capture.loop?.isSome := h.streaming_eq
    rwa [flag, Option.isSome_eq_false_iff, Option.isNone_iff_eq_none] at lowered
  have later := (h.startStreaming now cameraIndex resolution fps).inStep
  have cases := startStreaming_cases noLoop failed
  generalize (hub.startStreaming now cameraIndex resolution fps).2 = after at later cases ⊢
  have unchanged : after = { hub with capture := after.capture } := by
    rcases cases with rfl | ⟨settings, cause, -, rfl⟩ <;> rfl
  have still : after.isStreaming = false := by
    rw [unchanged]
    exact lowered
  have undone : after.capture.pipeline.renderer = hub.capture.pipeline.renderer ∧
      ∃ made, after.capture.pipeline.device.device.calls =
        hub.capture.pipeline.device.device.calls ++ made ∧ Undone made := by
    rcases cases with rfl | ⟨settings, cause, refused, rfl⟩
    · exact ⟨rfl, [], (List.append_nil _).symm, .untouched⟩
    · exact ⟨Pipeline.renderer_start refused, Pipeline.undone_start refused⟩
  exact {
    lowered := still
    closed := (later.closed still).1
    unchanged
    renderer := undone.1
    calls := undone.2
    starts := fun now cameraIndex resolution fps grid read wide high paced opened sized ↦ by
      refine later.starts still now cameraIndex resolution fps grid ?_ ?_ paced opened sized
      · rw [Resolution.parse, read]
      · exact Resolution.fitsWithin_iff.mpr ⟨wide, high⟩ }

private theorem Orderly.safeStart [LawfulDevice δ] (h : hub.Orderly config)
    (lowered : hub.isStreaming = false) (now : Nat) (cameraIndex : UInt32) (resolution : String)
    (fps : UInt32) : hub.SafeStart config now cameraIndex resolution fps where
  unreadable unreadable := startStreaming_of_refusal now lowered (accept_of_unreadable unreadable)
  positive _ := Resolution.pos_of_ofText?
  tooLarge grid read tooLarge := by
    rw [← h.config_eq] at tooLarge
    exact startStreaming_of_refusal now lowered (accept_of_tooLarge read tooLarge)
  unpaced resting := by
    obtain ⟨refusal, refused⟩ := accept_of_unpaced resting
    exact ⟨refusal, startStreaming_of_refusal now lowered refused⟩
  rolledBack _ := h.rolledBack lowered

/-- Whatever was done to a hub before, and whatever its device and its renderer did: if it streams
nothing, a start that fails leaves it as it was, and one that has to be refused never comes to the
device. -/
theorem safeStart_run [LawfulDevice δ] (device : δ) (renderer : ρ) (config : HubConfig)
    (disk : Recording.Disk) (shut : CaptureDevice.isOpen device = false) (commands : List Command)
    (lowered : ((new ({ device := { device } } : Metered (Logged δ)) renderer config disk).run
      commands).isStreaming = false) (now : Nat) (cameraIndex : UInt32) (resolution : String)
    (fps : UInt32) :
    ((new ({ device := { device } } : Metered (Logged δ)) renderer config disk).run
      commands).SafeStart config now cameraIndex resolution fps := by
  have shut' : CaptureDevice.isOpen ({ device } : Logged δ) = false := shut
  exact ((orderly_new renderer config disk shut').run commands).safeStart lowered now cameraIndex
    resolution fps

/-- A hub whose first stream gave up when its device crashed; nobody has fetched the pipeline. -/
def gaveUp : Hub (Metered (Logged ScriptedDevice)) LabelRenderer :=
  (new { device := { device := { script := [.crash "unplugged"] } } } {}
    { maxConsecutiveFailures := 1 } .empty).run
      [.addViewer 1 0, .startStreaming 0 0 "8x4" 10, .read, .keep 100, .conclude {} 100]

/-- The next start asks for a camera that does not exist; it is all that the device hears of it. -/
theorem safeStart_gaveUp :
    gaveUp.isStreaming = false ∧ gaveUp.capture.hasLoop = true ∧
    (gaveUp.startStreaming 200 3 "8x4" 10).1 = .error (.device (.notFound 3)) ∧
    (gaveUp.startStreaming 200 3 "8x4" 10).2.capture.pipeline.device.device.calls =
      [.openAt 0, .resize 16 8, .capture, .close, .openAt 3] ∧
    gaveUp.SafeStart { maxConsecutiveFailures := 1 } 200 3 "8x4" 10 := by
  have lowered : gaveUp.isStreaming = false := by decide +kernel
  exact ⟨lowered, by decide +kernel, rfl, by decide +kernel,
    safeStart_run _ _ _ _ rfl _ lowered 200 3 "8x4" 10⟩

end Hub

end Glyphcast
