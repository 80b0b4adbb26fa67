import Glyphcast.Device

/-!
# The test pattern

A device without hardware: a diagonal gradient that moves by four steps with each frame. It has
the index 0, keeps its size when it is closed, and starts its motion anew when it is opened. It
makes frames of up to `maxPixels` pixels.
-/

namespace Glyphcast

/-- The device that shows a moving gradient. -/
structure PatternDevice where
  /-- Whether it is open. -/
  isOpen : Bool := false
  /-- The width of its frames. -/
  width : UInt32 := 640
  /-- The height of its frames. -/
  height : UInt32 := 480
  /-- How far the gradient has moved. -/
  tick : UInt32 := 0
  deriving DecidableEq, Repr

namespace PatternDevice

/-- The most pixels that a frame may have. -/
def maxPixels : Nat := 4096 * 4096

/-- The brightness of a pixel: the gradient runs along the diagonal and repeats after as many
steps as the two sides have together. -/
def pixel (width height tick x y : Nat) : Nat :=
  let span := max (width + height) 1
  (x + y + tick) % span * 255 / span

/-- The frame that the device shows now. -/
def frame (device : PatternDevice) : Image :=
  .ofGray device.width device.height
    (pixel device.width.toNat device.height.toNat device.tick.toNat)

instance : CaptureDevice PatternDevice where
  openAt device index :=
    if index = 0 then (.done (), { device with isOpen := true, tick := 0 })
    else (.failed (.notFound index), device)
  resize device width height :=
    if !device.isOpen then (.failed .notOpen, device)
    else
      let (width, height) := (max width 1, max height 1)
      if maxPixels < width.toNat * height.toNat then
        (.failed (.unsupportedResolution width height), device)
      else (.done (), { device with width, height })
  capture device :=
    if device.isOpen then (.done (some device.frame), { device with tick := device.tick + 4 })
    else (.failed .notOpen, device)
  close device := { device with isOpen := false }
  isOpen device := device.isOpen
  infos _ := [⟨0, "Test pattern"⟩]

end PatternDevice

end Glyphcast
