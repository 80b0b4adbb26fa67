import Glyphcast.Hub.Pipeline
import Glyphcast.Proofs.Device.Contract
import Mathlib.Data.UInt

/-!
# A stream of the test pattern

The test pattern is the one device of which everything is known, so it is told here what starting it
comes to and what is read from it. A start fails for one of two reasons, an index that is not 0 or a
frame with too many pixels, and neither has anything to do with what was done to the device before:
`Pipeline.start_pattern`. Either way the device keeps the size that it had.

A device that has started always has a frame, and a frame always has something to see in it.
-/

namespace Glyphcast

/-! ## Pictures given by their pixels -/

private theorem size_fold_push (n : Nat) (f : Nat → UInt8) (bytes : ByteArray) :
    (n.fold (fun x _ bytes ↦ bytes.push (f x)) bytes).size = bytes.size + n := by
  induction n with
  | zero => rfl
  | succ n ih => rw [Nat.fold_succ, ByteArray.size_push, ih, Nat.add_assoc]

namespace Image

@[simp] private theorem size_ofGray (width height : UInt32) (pixel : Nat → Nat → Nat) :
    (ofGray width height pixel).data.size = height.toNat * width.toNat := by
  have rows (n : Nat) (bytes : ByteArray) : (n.fold (fun y _ bytes ↦
      width.toNat.fold (fun x _ bytes ↦ bytes.push (UInt8.ofNat (pixel x y))) bytes) bytes).size =
        bytes.size + n * width.toNat := by
    induction n with
    | zero => rw [Nat.fold_zero, Nat.zero_mul, Nat.add_zero]
    | succ n ih => rw [Nat.fold_succ, size_fold_push _ (UInt8.ofNat <| pixel · n), ih,
        Nat.succ_mul, Nat.add_assoc]
  exact (rows height.toNat _).trans (Nat.zero_add _)

theorem isEmpty_ofGray {width height : UInt32} (wide : 0 < width) (high : 0 < height)
    (pixel : Nat → Nat → Nat) : (ofGray width height pixel).isEmpty = false := by
  have size := size_ofGray width height pixel
  have filled : 0 < height.toNat * width.toNat :=
    Nat.mul_pos (UInt32.lt_iff_toNat_lt.mp high) (UInt32.lt_iff_toNat_lt.mp wide)
  rw [isEmpty, Bool.or_eq_false_iff, Bool.or_eq_false_iff, beq_eq_false_iff_ne,
    beq_eq_false_iff_ne, beq_eq_false_iff_ne, size]
  exact ⟨⟨(UInt32.ne_of_lt wide).symm, (UInt32.ne_of_lt high).symm⟩, Nat.ne_of_gt filled⟩

end Image

/-! ## The device -/

namespace PatternDevice

/-- The size of the frames that the device makes. -/
def size (device : PatternDevice) : Resolution := ⟨device.width, device.height⟩

/-- The size that the device takes for one that it is given: no side of it is zero. -/
def sizeFor (given : Resolution) : Resolution := ⟨max given.width 1, max given.height 1⟩

theorem pos_sizeFor (given : Resolution) :
    0 < (sizeFor given).width ∧ 0 < (sizeFor given).height := by
  have pos (side : UInt32) : 0 < max side 1 := by
    rw [UInt32.lt_iff_toNat_lt, UInt32.toNat_max]
    exact Nat.lt_of_lt_of_le Nat.zero_lt_one (Nat.le_max_right ..)
  exact ⟨pos given.width, pos given.height⟩

@[simp] private theorem openAt_zero (device : PatternDevice) :
    openAt device 0 = (.done (), { device with isOpen := true, tick := 0 }) := rfl

private theorem openAt_of_ne {device : PatternDevice} {index : UInt32} (absent : index ≠ 0) :
    openAt device index = (.failed (.notFound index), device) := if_neg absent

private theorem resize_of_isOpen {device : PatternDevice} {given : Resolution}
    (opened : device.isOpen = true) : resize device given.width given.height =
      if maxPixels < (sizeFor given).area then
        (.failed (.unsupportedResolution (sizeFor given).width (sizeFor given).height), device)
      else (.done (), { device with
        width := (sizeFor given).width, height := (sizeFor given).height }) :=
  if_neg (by rw [opened]; decide)

/-- The device after so many readings since it was opened. -/
def showing (size : Resolution) (n : Nat) : PatternDevice where
  isOpen := true
  width := size.width
  height := size.height
  tick := UInt32.ofNat (4 * n)

@[simp]
theorem capture_showing (size : Resolution) (n : Nat) : CaptureDevice.capture (showing size n) =
    (.done (some (showing size n).frame), showing size (n + 1)) := by
  have moved : UInt32.ofNat (4 * n) + 4 = UInt32.ofNat (4 * (n + 1)) := by
    rw [Nat.mul_succ, UInt32.ofNat_add]
    rfl
  exact congrArg (fun tick ↦ (Outcome.done (some (showing size n).frame),
    { showing size n with tick })) moved

end PatternDevice

namespace Pipeline

variable {ρ : Type} [FrameRenderer ρ]

open PatternDevice

/-- What starting the test pattern comes to. -/
theorem start_pattern (pipeline : Pipeline PatternDevice ρ) (settings : StreamSettings)
    (oversample : UInt32) (ramp : String) :
    let size := sizeFor (settings.resolution.scaled oversample)
    pipeline.start settings oversample ramp =
      if settings.cameraIndex ≠ 0 then (.error (.notFound settings.cameraIndex), pipeline)
      else if maxPixels < size.area then
        (.error (.unsupportedResolution size.width size.height),
          { pipeline with device := { pipeline.device with isOpen := false, tick := 0 } })
      else (.ok (), ⟨showing size 0, FrameRenderer.setRamp pipeline.renderer ramp⟩) := by
  intro size
  by_cases absent : settings.cameraIndex ≠ 0
  · rw [if_pos absent, start, openAt_of_ne absent]
  · rw [if_neg absent, start, Decidable.not_not.mp absent, openAt_zero]
    dsimp only
    rw [resize_of_isOpen rfl]
    by_cases large : maxPixels < size.area
    · rw [if_pos large, if_pos large]
      rfl
    · rw [if_neg large, if_neg large]
      rfl

theorem size_start_pattern {pipeline : Pipeline PatternDevice ρ} {settings : StreamSettings}
    {oversample : UInt32} {ramp : String} {cause : DeviceError}
    (failed : (pipeline.start settings oversample ramp).1 = .error cause) :
    (pipeline.start settings oversample ramp).2.device.size = pipeline.device.size := by
  rw [start_pattern] at failed ⊢
  split_ifs at failed ⊢
  · rfl
  · rfl

end Pipeline

end Glyphcast
