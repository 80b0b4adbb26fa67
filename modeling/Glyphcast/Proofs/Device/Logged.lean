import Glyphcast.Proofs.Device.Contract

/-!
# A device that keeps a log

What a hub asks of its device is not to be seen in what the device does: a call may fail, and leave
no trace. `Logged` writes every call down before it passes it on, whether or not it ends well, so
"the device was not touched" and "the device was read as often as this" can be said of any device at
all. Asking whether it is open, or which devices there are, is asking nothing of it.
-/

namespace Glyphcast

/-- Something that is asked of a device. -/
inductive DeviceCall where
  /-- To open. -/
  | openAt (index : UInt32)
  /-- To make frames of a size. -/
  | resize (width height : UInt32)
  /-- To be read. -/
  | capture
  /-- To close. -/
  | close
  deriving DecidableEq, Repr

/-- A device and what has been asked of it, the latest last. -/
structure Logged (δ : Type) where
  /-- The device. -/
  device : δ
  /-- What has been asked of it. -/
  calls : List DeviceCall := []

namespace Logged

variable {δ : Type} [CaptureDevice δ]

instance : CaptureDevice (Logged δ) where
  openAt logged index :=
    let (outcome, device) := openAt logged.device index
    (outcome, { device, calls := logged.calls ++ [.openAt index] })
  resize logged width height :=
    let (outcome, device) := resize logged.device width height
    (outcome, { device, calls := logged.calls ++ [.resize width height] })
  capture logged :=
    let (outcome, device) := CaptureDevice.capture logged.device
    (outcome, { device, calls := logged.calls ++ [.capture] })
  close logged := { device := CaptureDevice.close logged.device, calls := logged.calls ++ [.close] }
  isOpen logged := CaptureDevice.isOpen logged.device
  infos logged := CaptureDevice.infos logged.device

/-- A log does not stand between a device and its law. -/
instance [LawfulDevice δ] : LawfulDevice (Logged δ) where
  isOpen_openAt logged := LawfulDevice.isOpen_openAt logged.device
  isOpen_refused logged := LawfulDevice.isOpen_refused logged.device
  isOpen_resize logged := LawfulDevice.isOpen_resize logged.device
  isOpen_capture logged := LawfulDevice.isOpen_capture logged.device
  isOpen_close logged := LawfulDevice.isOpen_close logged.device

/-- How often the device was read. -/
def readings (logged : Logged δ) : Nat := logged.calls.count .capture

omit [CaptureDevice δ] in
theorem readings_append (device : δ) (first rest : List DeviceCall) :
    readings ⟨device, first ++ rest⟩ = readings ⟨device, first⟩ + rest.count .capture :=
  List.count_append

end Logged

end Glyphcast
