import Glyphcast.Renderer.Ramp
import Glyphcast.Resolution

/-!
# The settings of a hub

What the one who runs a hub decides, with the standard values. A setting is changed by the
function of its name; where a value would leave the hub unable to work, the nearest one that does
not is taken in its place.
-/

namespace Glyphcast

/-- The settings of a hub. -/
structure HubConfig where
  /-- The characters to draw with, darkest first. -/
  ramp : String := defaultRamp
  /-- How many times finer than the grid the device's frames are. -/
  oversample : UInt32 := 2
  /-- Where recordings are kept. -/
  recordingsDir : String := "recordings"
  /-- The grid of a stream for which none is asked. -/
  defaultResolution : Resolution := .standard
  /-- The largest grid that may be asked for. -/
  maxResolution : Resolution := ⟨320, 240⟩
  /-- The frame rate of a stream for which none is asked. -/
  defaultFps : UInt32 := 10
  /-- How many failures in a row end a stream. -/
  maxConsecutiveFailures : UInt32 := 5
  /-- How many frames may wait for a viewer. -/
  viewerQueueCapacity : Nat := 10
  deriving DecidableEq, Repr

namespace HubConfig

/-- Set the ramp; an empty one is ignored. -/
def withRamp (config : HubConfig) (ramp : String) : HubConfig :=
  if ramp = "" then config else { config with ramp }

/-- Set the factor between the grid and the device's frames, at least 1. -/
def withOversample (config : HubConfig) (factor : UInt32) : HubConfig :=
  { config with oversample := max factor 1 }

/-- Set where recordings are kept. -/
def withRecordingsDir (config : HubConfig) (dir : String) : HubConfig :=
  { config with recordingsDir := dir }

/-- Set the grid of a stream for which none is asked. -/
def withDefaultResolution (config : HubConfig) (resolution : Resolution) : HubConfig :=
  { config with defaultResolution := resolution }

/-- Set the largest grid, at least 1 by 1. -/
def withMaxResolution (config : HubConfig) (resolution : Resolution) : HubConfig :=
  { config with maxResolution := ⟨max resolution.width 1, max resolution.height 1⟩ }

/-- Set the frame rate of a stream for which none is asked, at least 1. -/
def withDefaultFps (config : HubConfig) (fps : UInt32) : HubConfig :=
  { config with defaultFps := max fps 1 }

/-- Set how many failures in a row end a stream, at least 1. -/
def withMaxConsecutiveFailures (config : HubConfig) (failures : UInt32) : HubConfig :=
  { config with maxConsecutiveFailures := max failures 1 }

/-- Set how many frames may wait for a viewer, at least 1. -/
def withViewerQueueCapacity (config : HubConfig) (capacity : Nat) : HubConfig :=
  { config with viewerQueueCapacity := max capacity 1 }

end HubConfig

/-- What a stream is started with. -/
structure StreamSettings where
  /-- Which device. -/
  cameraIndex : UInt32
  /-- The size of the grid. -/
  resolution : Resolution
  /-- Frames a second. -/
  fps : UInt32
  deriving DecidableEq, Repr

/-- The milliseconds from one frame to the next, at least one. -/
def StreamSettings.frameInterval (settings : StreamSettings) : Nat :=
  max (1000 / max settings.fps.toNat 1) 1

end Glyphcast
