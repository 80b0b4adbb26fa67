import Glyphcast.Error
import Glyphcast.Image

/-!
# Capture devices

The hub asks four things of a device: open it, give it a size, read a frame, close it. A device is
here any type with these four operations as functions from one state to the next, so everything
said about a hub is said for every device at once.

A call on a device may fail with an error, and it may crash: driver code ends abruptly, with a
message or without one. `Outcome` tells the three endings apart. A crash is an ending like the
others, and the state that the device is left in afterwards is part of the answer.
-/

namespace Glyphcast

/-- The abrupt end of a call into a device or a renderer. -/
inductive Crash where
  /-- It left a message. -/
  | saying (text : String)
  /-- It left no message. -/
  | silent
  deriving DecidableEq, Repr

/-- What is known about a crash. -/
def Crash.reason : Crash → String
  | saying text => text
  | silent => "unknown panic"

/-- How a call on a device ends. -/
inductive Outcome (α : Type) where
  /-- It gives an answer. -/
  | done (value : α)
  /-- It reports a failure. -/
  | failed (error : DeviceError)
  /-- It crashes. -/
  | crashed (crash : Crash)

/-- A device that can be opened. -/
structure DeviceInfo where
  /-- The index to open it by. -/
  index : UInt32
  /-- What to call it. -/
  name : String
  deriving DecidableEq, Repr

/-- How a device is shown in a list. -/
def DeviceInfo.text (info : DeviceInfo) : String :=
  "[" ++ toString info.index.toNat ++ "] " ++ info.name

/-- A source of frames. -/
class CaptureDevice (δ : Type) where
  /-- Open the device with this index. -/
  openAt : δ → UInt32 → Outcome Unit × δ
  /-- Ask for frames of this width and height. -/
  resize : δ → UInt32 → UInt32 → Outcome Unit × δ
  /-- Read a frame; there may be none to read. -/
  capture : δ → Outcome (Option Image) × δ
  /-- Close the device. -/
  close : δ → δ
  /-- Whether the device is open. -/
  isOpen : δ → Bool
  /-- The devices that there are. -/
  infos : δ → List DeviceInfo

export CaptureDevice (openAt resize)

/-- A device of one of two kinds. -/
instance {δ ε : Type} [CaptureDevice δ] [CaptureDevice ε] : CaptureDevice (δ ⊕ ε) where
  openAt device index := match device with
    | .inl d => (CaptureDevice.openAt d index).map id .inl
    | .inr d => (CaptureDevice.openAt d index).map id .inr
  resize device width height := match device with
    | .inl d => (CaptureDevice.resize d width height).map id .inl
    | .inr d => (CaptureDevice.resize d width height).map id .inr
  capture device := match device with
    | .inl d => (CaptureDevice.capture d).map id .inl
    | .inr d => (CaptureDevice.capture d).map id .inr
  close
    | .inl d => .inl (CaptureDevice.close d)
    | .inr d => .inr (CaptureDevice.close d)
  isOpen
    | .inl d => CaptureDevice.isOpen d
    | .inr d => CaptureDevice.isOpen d
  infos
    | .inl d => CaptureDevice.infos d
    | .inr d => CaptureDevice.infos d

end Glyphcast
