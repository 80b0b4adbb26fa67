import Glyphcast.Hub.Pipeline
import Glyphcast.Proofs.Device.Contract

/-!
# A device with a meter

What was done to a device is not written on it. `Metered` puts a meter beside a device, and passes
every call on to the device itself, so that whoever uses the one uses the other in the same way.

A closing counts if it undoes an opening. Closing a device that was never opened, or that crashed
while it was being opened, does no harm and is not counted; so the openings and the closings that
count can be compared, and `Meter.Booked` compares them.
-/

namespace Glyphcast

/-- What has been done to a device. -/
structure Meter where
  /-- How often it was opened. -/
  opens : Nat := 0
  /-- How often an opening was undone. -/
  closes : Nat := 0
  /-- Whether the last opening has not been undone. -/
  isOpen : Bool := false
  /-- The size that it was given since it was opened. -/
  size : Option Resolution := none
  deriving DecidableEq, Repr

/-- The openings are the closings, and one more while the device is open. -/
def Meter.Booked (meter : Meter) : Prop :=
  meter.opens = meter.closes + if meter.isOpen then 1 else 0

/-- A device and its meter. -/
structure Metered (δ : Type) where
  /-- The device. -/
  device : δ
  /-- What has been done to it. -/
  meter : Meter := {}

namespace Metered

variable {δ : Type} [CaptureDevice δ]

instance : CaptureDevice (Metered δ) where
  openAt metered index :=
    let (outcome, device) := openAt metered.device index
    (outcome, {
      device
      meter := match outcome with
        | .done () =>
          { metered.meter with opens := metered.meter.opens + 1, isOpen := true, size := none }
        | .failed _ | .crashed _ => metered.meter })
  resize metered width height :=
    let (outcome, device) := resize metered.device width height
    (outcome, {
      device
      meter := match outcome with
        | .done () => { metered.meter with size := some ⟨width, height⟩ }
        | .failed _ | .crashed _ => metered.meter })
  capture metered :=
    let (outcome, device) := CaptureDevice.capture metered.device
    (outcome, { metered with device })
  close metered := {
    device := CaptureDevice.close metered.device
    meter :=
      if metered.meter.isOpen then
        { metered.meter with closes := metered.meter.closes + 1, isOpen := false }
      else metered.meter }
  isOpen metered := CaptureDevice.isOpen metered.device
  infos metered := CaptureDevice.infos metered.device

/-- The device is closed, and every opening was undone. -/
structure Shut (metered : Metered δ) : Prop where
  isOpen : CaptureDevice.isOpen metered.device = false
  meter : metered.meter.isOpen = false
  booked : metered.meter.Booked

/-- The device is open, and that by one opening. -/
structure Opened (metered : Metered δ) : Prop where
  isOpen : CaptureDevice.isOpen metered.device = true
  meter : metered.meter.isOpen = true
  booked : metered.meter.Booked

variable {metered : Metered δ} {index width height : UInt32}

private theorem booked_resize (booked : metered.meter.Booked) :
    (resize metered width height).2.meter.Booked := by
  simp only [resize]
  split <;> exact booked

variable [LawfulDevice δ]

theorem shut_close (booked : metered.meter.Booked) : (CaptureDevice.close metered).Shut where
  isOpen := LawfulDevice.isOpen_close metered.device
  meter := by
    simp only [CaptureDevice.close]
    split_ifs with opened
    · rfl
    · exact Bool.eq_false_iff.mpr opened
  booked := by
    simp only [CaptureDevice.close]
    split_ifs with opened
    · rw [Meter.Booked, if_pos opened] at booked
      exact booked
    · exact booked

theorem Shut.opened (h : metered.Shut) (done : (openAt metered index).1 = .done ()) :
    (openAt metered index).2.Opened := by
  have isOpen := LawfulDevice.isOpen_openAt metered.device index done
  have booked := h.booked
  rw [Meter.Booked, h.meter] at booked
  simp only [openAt] at done ⊢
  rw [done]
  exact ⟨isOpen, rfl, congrArg (· + 1) booked⟩

theorem Shut.refused (h : metered.Shut) {error : DeviceError}
    (failed : (openAt metered index).1 = .failed error) : (openAt metered index).2.Shut := by
  have isOpen := LawfulDevice.isOpen_refused metered.device index error h.isOpen failed
  simp only [openAt] at failed ⊢
  rw [failed]
  exact ⟨isOpen, h.meter, h.booked⟩

theorem Shut.crashed (h : metered.Shut) {crash : Crash}
    (crashed : (openAt metered index).1 = .crashed crash) :
    (CaptureDevice.close (openAt metered index).2).Shut := by
  refine shut_close ?_
  simp only [openAt] at crashed ⊢
  rw [crashed]
  exact h.booked

private theorem Opened.resized (h : metered.Opened)
    (done : (resize metered width height).1 = .done ()) : (resize metered width height).2.Opened ∧
      (resize metered width height).2.meter.size = some ⟨width, height⟩ := by
  have isOpen := LawfulDevice.isOpen_resize metered.device width height h.isOpen done
  simp only [resize] at done ⊢
  rw [done]
  exact ⟨⟨isOpen, h.meter, h.booked⟩, rfl⟩

theorem Opened.captured (h : metered.Opened) : (CaptureDevice.capture metered).2.Opened :=
  ⟨LawfulDevice.isOpen_capture metered.device h.isOpen, h.meter, h.booked⟩

end Metered

/-! ## The pipeline -/

namespace Pipeline

variable {δ ρ : Type} [FrameRenderer ρ]

/-- How starting a pipeline can end: in the device's answer to being opened, or to its size. -/
theorem start_cases [CaptureDevice δ] (pipeline : Pipeline δ ρ) (settings : StreamSettings)
    (oversample : UInt32) (ramp : String) :
    let opening := openAt pipeline.device settings.cameraIndex
    let size := settings.resolution.scaled oversample
    let sizing := resize opening.2 size.width size.height
    let started := pipeline.start settings oversample ramp
    (∃ error, opening.1 = .failed error ∧ started.1 = .error error ∧
      started.2.device = opening.2) ∨
    (∃ crash, opening.1 = .crashed crash ∧ started.1 = .error (openCrash crash) ∧
      started.2.device = CaptureDevice.close opening.2) ∨
    (∃ error, opening.1 = .done () ∧ sizing.1 ≠ .done () ∧ started.1 = .error error ∧
      started.2.device = CaptureDevice.close sizing.2) ∨
    (opening.1 = .done () ∧ sizing.1 = .done () ∧ started.1 = .ok () ∧
      started.2.device = sizing.2) := by
  simp only [start]
  obtain ⟨opened, device⟩ := openAt pipeline.device settings.cameraIndex
  cases opened with
  | failed error => exact .inl ⟨error, rfl, rfl, rfl⟩
  | crashed crash => exact .inr (.inl ⟨crash, rfl, rfl, rfl⟩)
  | done answer =>
    dsimp only
    generalize resize device _ _ = sizing
    obtain ⟨sized, device⟩ := sizing
    cases sized with
    | failed error => exact .inr (.inr (.inl ⟨error, rfl, nofun, rfl, rfl⟩))
    | crashed crash => exact .inr (.inr (.inl ⟨openCrash crash, rfl, nofun, rfl, rfl⟩))
    | done answer => exact .inr (.inr (.inr ⟨rfl, rfl, rfl, rfl⟩))

theorem start_of_done [CaptureDevice δ] {pipeline : Pipeline δ ρ} {settings : StreamSettings}
    {oversample : UInt32} {ramp : String}
    (opened : (openAt pipeline.device settings.cameraIndex).1 = .done ())
    (sized : (resize (openAt pipeline.device settings.cameraIndex).2
      (settings.resolution.scaled oversample).width
      (settings.resolution.scaled oversample).height).1 = .done ()) :
    (pipeline.start settings oversample ramp).1 = .ok () := by
  rcases pipeline.start_cases settings oversample ramp with ⟨error, failed, -⟩ |
    ⟨crash, crashed, -⟩ | ⟨error, -, refused, -⟩ | ⟨-, -, done, -⟩
  · exact absurd (opened.symm.trans failed) (by simp)
  · exact absurd (opened.symm.trans crashed) (by simp)
  · exact absurd sized refused
  · exact done

variable [CaptureDevice δ] [LawfulDevice δ] {pipeline : Pipeline (Metered δ) ρ}
  {settings : StreamSettings} {oversample : UInt32} {ramp : String}

theorem opened_start (h : pipeline.device.Shut)
    (done : (pipeline.start settings oversample ramp).1 = .ok ()) :
    (pipeline.start settings oversample ramp).2.device.Opened ∧
      (pipeline.start settings oversample ramp).2.device.meter.size =
        some (settings.resolution.scaled oversample) := by
  rcases pipeline.start_cases settings oversample ramp with ⟨error, -, failed, -⟩ |
    ⟨crash, -, failed, -⟩ | ⟨error, -, -, failed, -⟩ | ⟨opened, sized, -, device⟩
  · exact absurd (done.symm.trans failed) (by simp)
  · exact absurd (done.symm.trans failed) (by simp)
  · exact absurd (done.symm.trans failed) (by simp)
  · rw [device]
    exact (h.opened opened).resized sized

/-- A pipeline that does not start has its device closed, whichever call it was that failed. -/
theorem shut_start (h : pipeline.device.Shut) {error : DeviceError}
    (failed : (pipeline.start settings oversample ramp).1 = .error error) :
    (pipeline.start settings oversample ramp).2.device.Shut := by
  rcases pipeline.start_cases settings oversample ramp with ⟨_, refused, -, device⟩ |
    ⟨crash, crashed, -, device⟩ | ⟨_, opened, -, -, device⟩ | ⟨-, -, done, -⟩
  · rw [device]
    exact h.refused refused
  · rw [device]
    exact h.crashed crashed
  -- the opening is booked, so closing undoes it whatever the size has done
  · rw [device]
    exact Metered.shut_close (Metered.booked_resize (h.opened opened).booked)
  · exact absurd (failed.symm.trans done) (by simp)

end Pipeline

end Glyphcast
