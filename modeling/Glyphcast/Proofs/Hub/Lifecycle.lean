import Glyphcast.Proofs.Device.Metered
import Glyphcast.Proofs.Hub.Run
import Glyphcast.Renderer.Label
import Mathlib.Algebra.Group.Nat.Defs

/-!
# The stream, its device and its flag

Whether a stream is running is said in three places: by the flag, by there being a capture loop,
and by the device being open. They are changed by different functions, and a device may refuse or
crash wherever it is called. Here they are shown to agree after every command of every run, and in
the middle of every reading too.

## The invariant

The loop is what the other two are compared with. Where there is one, the device was opened once
more than it was closed, and at the size for that loop's grid; where there is none, the device is
closed and every opening was undone. The pipeline changes hands at the ends of the loop only:
`endLoop` closes the device before it is handed back, and `startStreaming` opens it for the new
loop or has closed it again.
-/

namespace Glyphcast.Hub

variable {δ ρ : Type} [CaptureDevice δ]

/-- The flag, the loop and the device agree. -/
structure Orderly (config : HubConfig) (hub : Hub (Metered δ) ρ) : Prop where
  config_eq : hub.config = config
  /-- The flag is up while there is a loop. -/
  streaming_eq : hub.streaming = hub.capture.loop?.isSome
  /-- Without a loop the device is closed. -/
  shut : hub.capture.loop? = none → hub.capture.pipeline.device.Shut
  /-- A loop has its device open, at the size for its grid. -/
  opened : ∀ loop, hub.capture.loop? = some loop →
    hub.settings = some loop.settings ∧ hub.capture.pipeline.device.Opened ∧
      hub.capture.pipeline.device.meter.size =
        some (loop.settings.resolution.scaled config.oversample)

variable {config : HubConfig} {hub after : Hub (Metered δ) ρ}

theorem Orderly.of_sameStream (h : hub.Orderly config) (same : hub.SameStream after) :
    after.Orderly config where
  config_eq := same.config.trans h.config_eq
  streaming_eq := by rw [same.streaming, same.capture, h.streaming_eq]
  shut := by rw [same.capture]; exact h.shut
  opened := by rw [same.capture, same.settings]; exact h.opened

theorem Orderly.booked (h : hub.Orderly config) :
    hub.capture.pipeline.device.meter.Booked := by
  cases found : hub.capture.loop? with
  | none => exact (h.shut found).booked
  | some loop => exact (h.opened loop found).2.1.booked

private theorem orderly_of_shut (config_eq : hub.config = config)
    (noLoop : hub.capture.loop? = none) (lowered : hub.streaming = false)
    (shut : hub.capture.pipeline.device.Shut) :
    hub.Orderly config where
  config_eq := config_eq
  streaming_eq := by rw [lowered, noLoop]; rfl
  shut := fun _ ↦ shut
  opened := fun loop found ↦ absurd (noLoop.symm.trans found) (by simp)

/-- A hub with a loop is in order if the loop's device is open at its size and the flag up. -/
theorem orderly_of_opened {pipeline : Pipeline (Metered δ) ρ} {loop : CaptureLoop}
    (config_eq : hub.config = config) (running : hub.capture = .running pipeline loop)
    (raised : hub.streaming = true) (settings : hub.settings = some loop.settings)
    (opened : pipeline.device.Opened)
    (size : pipeline.device.meter.size =
      some (loop.settings.resolution.scaled config.oversample)) : hub.Orderly config where
  config_eq := config_eq
  streaming_eq := by rw [raised, running]; rfl
  shut := fun noLoop ↦ by rw [running] at noLoop; cases noLoop
  opened := fun other found ↦ by
    rw [running] at found ⊢
    cases found
    exact ⟨settings, opened, size⟩

theorem orderly_new [FrameRenderer ρ] {device : δ} (renderer : ρ) (config : HubConfig)
    (disk : Recording.Disk) (shut : CaptureDevice.isOpen device = false) :
    (new { device : Metered δ } renderer config disk).Orderly config :=
  orderly_of_shut rfl rfl rfl ⟨shut, rfl, rfl⟩

theorem Orderly.streaming_of_loop (h : hub.Orderly config) (noLoop : hub.capture.loop? = none) :
    hub.streaming = false := by
  rw [h.streaming_eq, noLoop]
  rfl

/-! ## Ending a stream -/

theorem Orderly.fetch (h : hub.Orderly config) (noLoop : hub.capture.loop? = none) :
    hub.fetch.Orderly config :=
  orderly_of_shut h.config_eq rfl (h.streaming_of_loop noLoop) (h.shut noLoop)

variable [LawfulDevice δ]

private theorem orderly_endLoop (config_eq : hub.config = config) (now : Nat)
    {pipeline : Pipeline (Metered δ) ρ} (booked : pipeline.device.meter.Booked) :
    (hub.endLoop now pipeline).Orderly config :=
  orderly_of_shut config_eq rfl rfl (Metered.shut_close booked)

theorem Orderly.join (h : hub.Orderly config) (now : Nat) :
    (hub.join now).Orderly config ∧ (hub.join now).capture.loop? = none := by
  have booked := h.booked
  unfold Hub.join
  split
  · next capture => exact ⟨h, by rw [capture]; rfl⟩
  · next pipeline loop capture =>
    -- stopped from outside, the loop ends as it does by itself
    rw [capture] at booked
    exact ⟨(orderly_endLoop h.config_eq now booked).fetch rfl, rfl⟩
  · next pipeline capture => exact ⟨h.fetch (by rw [capture]; rfl), rfl⟩

theorem Orderly.stopStreaming (h : hub.Orderly config) (now : Nat) :
    (hub.stopStreaming now).Orderly config := by
  unfold Hub.stopStreaming
  split_ifs
  · exact (h.join now).1.of_sameStream ⟨rfl, rfl, rfl, rfl⟩
  · exact h

/-! ## Starting a stream -/

variable [FrameRenderer ρ]

/-- A stream that cannot be started leaves the device closed, whichever call it was that failed. -/
theorem Orderly.startStreaming (h : hub.Orderly config) (now : Nat) (cameraIndex : UInt32)
    (resolution : String) (fps : UInt32) :
    (hub.startStreaming now cameraIndex resolution fps).2.Orderly config := by
  unfold Hub.startStreaming
  split_ifs
  · exact h
  cases accept hub.config cameraIndex resolution fps with
  | error refusal => exact h
  | ok settings =>
    -- the loop that there was has been waited for, so the device is closed here
    obtain ⟨joined, noLoop⟩ := h.join now
    have shut := joined.shut noLoop
    dsimp only
    split
    · next error failed =>
      exact orderly_of_shut joined.config_eq rfl (joined.streaming_of_loop noLoop)
        (Pipeline.shut_start shut failed)
    · next done =>
      obtain ⟨opened, size⟩ := Pipeline.opened_start shut done
      refine orderly_of_opened joined.config_eq rfl rfl rfl opened ?_
      rw [size, joined.config_eq]

/-! ## Readings -/

omit [LawfulDevice δ] [FrameRenderer ρ] in
private theorem Orderly.goOn (h : hub.Orderly config) {pipeline next : Pipeline (Metered δ) ρ}
    {loop later : CaptureLoop} (running : hub.capture = .running pipeline loop)
    (goesOn : after.capture = .running next later) (settings : later.settings = loop.settings)
    (opened : next.device.Opened) (size : next.device.meter.size = pipeline.device.meter.size)
    (rest : SameStream { hub with capture := after.capture } after) : after.Orderly config := by
  have raised := h.streaming_eq
  obtain ⟨known, -, sized⟩ := h.opened loop (by rw [running]; rfl)
  rw [running] at raised sized
  refine orderly_of_opened (rest.config.trans h.config_eq) goesOn (rest.streaming.trans raised)
    ?_ opened ?_
  · rw [settings]
    exact rest.settings.trans known
  · rw [size, settings]
    exact sized

omit [LawfulDevice δ] [FrameRenderer ρ] in
private theorem Orderly.opened_running (h : hub.Orderly config) {pipeline : Pipeline (Metered δ) ρ}
    {loop : CaptureLoop} (running : hub.capture = .running pipeline loop) :
    pipeline.device.Opened := by
  have := (h.opened loop (by rw [running]; rfl)).2.1
  rwa [running] at this

theorem Orderly.read (h : hub.Orderly config) : hub.read.Orderly config := by
  unfold Hub.read
  split
  · exact h
  · exact h
  · next pipeline loop running =>
    split_ifs
    · exact h
    · exact h.goOn running rfl rfl (h.opened_running running).captured rfl ⟨rfl, rfl, rfl, rfl⟩

omit [LawfulDevice δ] [FrameRenderer ρ] in
theorem Orderly.keep (h : hub.Orderly config) (now : Nat) : (hub.keep now).Orderly config := by
  unfold Hub.keep
  split
  · exact h
  · exact h
  · next pipeline loop running =>
    have opened := h.opened_running running
    split
    · dsimp only
      split <;> exact h.goOn running rfl rfl opened rfl ⟨rfl, rfl, rfl, rfl⟩
    · exact h
    · exact h

omit [FrameRenderer ρ] in
theorem Orderly.failCapture (h : hub.Orderly config) (now : Nat)
    {pipeline : Pipeline (Metered δ) ρ} {loop later : CaptureLoop}
    (running : hub.capture = .running pipeline loop) (settings : later.settings = loop.settings) :
    (hub.failCapture now pipeline later).Orderly config := by
  have opened := h.opened_running running
  unfold Hub.failCapture
  dsimp only
  split_ifs
  · refine orderly_endLoop ?_ now opened.booked
    exact h.config_eq
  · exact h.goOn running rfl settings opened rfl ⟨rfl, rfl, rfl, rfl⟩

omit [FrameRenderer ρ] in
theorem Orderly.conclude (h : hub.Orderly config) (floor : Floor) (now : Nat) :
    (hub.conclude floor now).1.Orderly config := by
  unfold Hub.conclude
  split
  · exact h
  · exact h
  · next pipeline loop running =>
    have opened := h.opened_running running
    split
    · dsimp only
      split
      · exact h.goOn running rfl rfl opened rfl ⟨rfl, rfl, rfl, rfl⟩
      · exact h.goOn running rfl rfl opened rfl ⟨rfl, rfl, rfl, rfl⟩
      · exact h.failCapture now running rfl
    · exact h
    · exact h

/-! ## Runs -/

/-- Every command keeps the three in agreement. -/
theorem Orderly.apply (h : hub.Orderly config) (command : Command) :
    (hub.apply command).Orderly config := by
  have step := hub.streamStep_apply command
  generalize hub.apply command = after at step ⊢
  cases step with
  | same same => exact h.of_sameStream same
  | start now cameraIndex resolution fps => exact h.startStreaming now cameraIndex resolution fps
  | stop roster now same =>
    have relieved : Orderly config { hub with roster } := { h with }
    exact (relieved.stopStreaming now).of_sameStream same
  | read => exact h.read
  | keep now => exact h.keep now
  | conclude floor now => exact h.conclude floor now

theorem Orderly.run (h : hub.Orderly config) (commands : List Command) :
    (hub.run commands).Orderly config := by
  induction commands generalizing hub with
  | nil => exact h
  | cons command commands ih => exact ih (h.apply command)

/-! ## The next stream -/

omit [LawfulDevice δ] [FrameRenderer ρ] in
/-- What may be asked for is accepted. -/
theorem accept_of_valid {cameraIndex fps : UInt32} {resolution : String} {grid : Resolution}
    (parsed : Resolution.parse resolution = .ok grid)
    (fits : grid.fitsWithin config.maxResolution = true) (paced : fps ≠ 0) :
    accept config cameraIndex resolution fps = .ok ⟨cameraIndex, grid, fps⟩ := by
  simp [accept, parsed, fits, paced, Bind.bind, Except.bind, Pure.pure, Except.pure]

omit [LawfulDevice δ] [FrameRenderer ρ] in
theorem join_of_noLoop {δ : Type} [CaptureDevice δ] {hub : Hub δ ρ} (now : Nat)
    (noLoop : hub.capture.loop? = none) :
    (hub.join now).capture.pipeline = hub.capture.pipeline ∧
      (hub.join now).config = hub.config := by
  unfold join
  split
  · exact ⟨rfl, rfl⟩
  · next running => rw [running] at noLoop; cases noLoop
  · exact ⟨rfl, rfl⟩

omit [LawfulDevice δ] in
/-- A hub that streams nothing starts what may be asked for, if the device can be opened and takes
its size. -/
theorem startStreaming_of_valid {δ : Type} [CaptureDevice δ] {hub : Hub δ ρ} (now : Nat)
    {cameraIndex fps : UInt32} {resolution : String} {grid : Resolution}
    (lowered : hub.isStreaming = false) (noLoop : hub.capture.loop? = none)
    (parsed : Resolution.parse resolution = .ok grid)
    (fits : grid.fitsWithin hub.config.maxResolution = true) (paced : fps ≠ 0)
    (opened : (openAt hub.capture.pipeline.device cameraIndex).1 = .done ())
    (sized : (resize (openAt hub.capture.pipeline.device cameraIndex).2
      (grid.scaled hub.config.oversample).width (grid.scaled hub.config.oversample).height).1 =
        .done ()) :
    (hub.startStreaming now cameraIndex resolution fps).1 = .ok () ∧
      (hub.startStreaming now cameraIndex resolution fps).2.isStreaming = true := by
  obtain ⟨pipeline, config⟩ := join_of_noLoop now noLoop
  have started : (hub.capture.pipeline.start ⟨cameraIndex, grid, fps⟩ hub.config.oversample
      hub.config.ramp).1 = .ok () := Pipeline.start_of_done opened sized
  rw [← pipeline, ← config] at started
  unfold startStreaming
  rw [if_neg (by rw [lowered]; decide), accept_of_valid parsed fits paced]
  dsimp only
  rw [started]
  exact ⟨rfl, rfl⟩

/-! ## What is promised -/

/-- What can be said of a hub between its commands, and between the parts of a reading. -/
structure InStep (config : HubConfig) (hub : Hub (Metered δ) ρ) : Prop where
  /-- The flag is up where there is a capture loop, and there alone. -/
  streaming_iff : hub.isStreaming = true ↔ ∃ loop, hub.capture.loop? = some loop
  /-- While a stream is running, the device is open, at a multiple of the grid; a side that would
  grow too large for its number is as large as it can be. -/
  opened : hub.isStreaming = true →
    CaptureDevice.isOpen hub.capture.pipeline.device.device = true ∧
      ∃ settings size, hub.settings = some settings ∧
        hub.capture.pipeline.device.meter.size = some size ∧
        size.width.toNat =
          min (settings.resolution.width.toNat * config.oversample.toNat) (2 ^ 32 - 1) ∧
        size.height.toNat =
          min (settings.resolution.height.toNat * config.oversample.toNat) (2 ^ 32 - 1)
  /-- While none is running, the device is closed, and the pipeline is with the hub or with a loop
  that has ended. -/
  closed : hub.isStreaming = false →
    CaptureDevice.isOpen hub.capture.pipeline.device.device = false ∧
      (hub.capture = .idle hub.capture.pipeline ∨ hub.capture = .finished hub.capture.pipeline)
  /-- Then a stream that may be asked for starts, if the device can be opened at its size. -/
  starts : hub.isStreaming = false → ∀ now cameraIndex resolution fps grid,
    Resolution.parse resolution = .ok grid → grid.fitsWithin config.maxResolution = true → fps ≠ 0 →
    (openAt hub.capture.pipeline.device cameraIndex).1 = .done () →
    (resize (openAt hub.capture.pipeline.device cameraIndex).2
      (grid.scaled config.oversample).width (grid.scaled config.oversample).height).1 = .done () →
    (hub.startStreaming now cameraIndex resolution fps).1 = .ok () ∧
      (hub.startStreaming now cameraIndex resolution fps).2.isStreaming = true
  /-- The device was opened as often as it was closed, and once more while a stream is running. -/
  opens_eq : hub.capture.pipeline.device.meter.opens =
    hub.capture.pipeline.device.meter.closes + if hub.isStreaming then 1 else 0

omit [LawfulDevice δ] in
theorem Orderly.inStep (h : hub.Orderly config) : hub.InStep config := by
  have flag : hub.isStreaming = hub.capture.loop?.isSome := h.streaming_eq
  have noLoop (lowered : hub.isStreaming = false) : hub.capture.loop? = none := by
    rwa [flag, Option.isSome_eq_false_iff, Option.isNone_iff_eq_none] at lowered
  exact {
    streaming_iff := by rw [flag, Option.isSome_iff_exists]
    opened := fun raised ↦ by
      obtain ⟨loop, found⟩ := Option.isSome_iff_exists.mp (flag.symm.trans raised)
      obtain ⟨settings, opened, size⟩ := h.opened loop found
      exact ⟨opened.isOpen, loop.settings, _, settings, size,
        Resolution.toNat_saturatingMul .., Resolution.toNat_saturatingMul ..⟩
    closed := fun lowered ↦ by
      refine ⟨(h.shut (noLoop lowered)).isOpen, ?_⟩
      have := noLoop lowered
      cases capture : hub.capture with
      | idle pipeline => exact .inl rfl
      | running pipeline loop => rw [capture] at this; cases this
      | finished pipeline => exact .inr rfl
    starts := fun lowered now cameraIndex resolution fps grid parsed fits paced opened sized ↦ by
      rw [← h.config_eq] at fits sized
      exact startStreaming_of_valid now lowered (noLoop lowered) parsed fits paced opened sized
    opens_eq := by
      have booked := h.booked
      cases raised : hub.isStreaming with
      | false =>
        rw [Meter.Booked, (h.shut (noLoop raised)).meter] at booked
        exact booked
      | true =>
        obtain ⟨loop, found⟩ := Option.isSome_iff_exists.mp (flag.symm.trans raised)
        rw [Meter.Booked, (h.opened loop found).2.1.meter] at booked
        exact booked }

omit [LawfulDevice δ] in
theorem Orderly.isOpen_eq (h : hub.Orderly config) :
    CaptureDevice.isOpen hub.capture.pipeline.device.device = hub.isStreaming := by
  cases raised : hub.isStreaming with
  | false => exact (h.inStep.closed raised).1
  | true => exact (h.inStep.opened raised).1

/-- Whatever the device and the renderer do, the flag, the loop and the device of a hub agree after
every run of commands, if the hub was given a closed device. -/
theorem inStep_run (device : δ) (renderer : ρ) (config : HubConfig) (disk : Recording.Disk)
    (shut : CaptureDevice.isOpen device = false) (commands : List Command) :
    ((new { device : Metered δ } renderer config disk).run commands).InStep config :=
  ((orderly_new renderer config disk shut).run commands).inStep

/-- A device that crashes once, for a hub that then gives up, and a second stream. -/
theorem inStep_restart :
    CaptureDevice.isOpen ({ script := [.frame 1, .crash "gone"] } : ScriptedDevice) = false ∧
    ((new { device := ({ script := [.frame 1, .crash "gone"] } : ScriptedDevice) }
      ({} : LabelRenderer) { maxConsecutiveFailures := 1 } .empty).run
        [.startStreaming 0 0 "8x4" 10, .read, .keep 100, .conclude {} 100, .read, .keep 200,
          .conclude {} 200, .startStreaming 300 0 "16x8" 10]).InStep
        { maxConsecutiveFailures := 1 } :=
  ⟨rfl, inStep_run _ _ _ _ rfl _⟩

end Glyphcast.Hub
