import Glyphcast.Hub.Config

/-!
# The capture pipeline

A device and a renderer, which always go together: whoever has the pipeline may stream. Opening it
and reading from it may fail in the device's own words, or crash; a crash is reported as a failure
of the device, and the pipeline can be used again afterwards.
-/

namespace Glyphcast

/-- A device and the renderer of its frames. -/
structure Pipeline (δ ρ : Type) where
  /-- Where the frames come from. -/
  device : δ
  /-- What turns them into text. -/
  renderer : ρ

namespace Pipeline

variable {δ ρ : Type} [CaptureDevice δ] [FrameRenderer ρ]

/-- The pipeline with its device closed. -/
def close (pipeline : Pipeline δ ρ) : Pipeline δ ρ :=
  { pipeline with device := CaptureDevice.close pipeline.device }

/-- The failure that a crash on opening is reported as. -/
def openCrash (crash : Crash) : DeviceError := .openFailed ("device panicked: " ++ crash.reason)

/-- The failure that a crash on reading is reported as. -/
def captureCrash (crash : Crash) : DeviceError := .readFailed ("capture panicked: " ++ crash.reason)

/-- Open the device at a multiple of the grid, and hand the renderer its ramp. If the device was
opened and that is not how it ends, it is closed again. -/
def start (pipeline : Pipeline δ ρ) (settings : StreamSettings) (oversample : UInt32)
    (ramp : String) : Except DeviceError Unit × Pipeline δ ρ :=
  let (opened, device) := CaptureDevice.openAt pipeline.device settings.cameraIndex
  let pipeline := { pipeline with device }
  match opened with
  | .failed error => (.error error, pipeline)
  | .crashed crash => (.error (openCrash crash), pipeline.close)
  | .done () =>
    let target := settings.resolution.scaled oversample
    let (sized, device) := CaptureDevice.resize device target.width target.height
    let pipeline := { pipeline with device }
    match sized with
    | .failed error => (.error error, pipeline.close)
    | .crashed crash => (.error (openCrash crash), pipeline.close)
    | .done () =>
      (.ok (), { pipeline with renderer := FrameRenderer.setRamp pipeline.renderer ramp })

/-- Read a frame and render it. There is no text where there is nothing to see. -/
def capture (pipeline : Pipeline δ ρ) (grid : Resolution) :
    Except DeviceError (Option String) × Pipeline δ ρ :=
  let (captured, device) := CaptureDevice.capture pipeline.device
  let pipeline := { pipeline with device }
  let result := match captured with
    | .failed error => .error error
    | .crashed crash => .error (captureCrash crash)
    | .done none => .ok none
    | .done (some image) =>
      if image.isEmpty then .ok none
      else
        match FrameRenderer.render pipeline.renderer image grid.width grid.height with
        | .ok text => .ok (some text)
        | .error crash => .error (captureCrash crash)
  (result, pipeline)

end Pipeline

end Glyphcast
