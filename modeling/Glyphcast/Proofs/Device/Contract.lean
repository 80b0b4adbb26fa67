import Glyphcast.Device.Pattern
import Glyphcast.Device.Scripted
import Mathlib.Tactic.SplitIfs

/-!
# What is asked of a device

Whatever a device does with its frames, the hub relies on a few things about its being open. They
are about the calls that end well, and about an opening that is refused; of a call that crashes
nothing is asked, since whoever makes it closes the device afterwards.

A reading never closes a device: a device that fails to read, or crashes while it is read, is read
again, and it is closed by `close` alone.
-/

namespace Glyphcast

/-- A device that is open when it says so. -/
class LawfulDevice (δ : Type) [CaptureDevice δ] : Prop where
  /-- A device that was opened is open. -/
  isOpen_openAt (device : δ) (index : UInt32) :
    (openAt device index).1 = .done () → CaptureDevice.isOpen (openAt device index).2 = true
  /-- A closed device that refuses to be opened stays closed. -/
  isOpen_refused (device : δ) (index : UInt32) (error : DeviceError) :
    CaptureDevice.isOpen device = false → (openAt device index).1 = .failed error →
      CaptureDevice.isOpen (openAt device index).2 = false
  /-- A new size leaves an open device open. -/
  isOpen_resize (device : δ) (width height : UInt32) :
    CaptureDevice.isOpen device = true → (resize device width height).1 = .done () →
      CaptureDevice.isOpen (resize device width height).2 = true
  /-- A reading leaves an open device open, however it ends. -/
  isOpen_capture (device : δ) :
    CaptureDevice.isOpen device = true →
      CaptureDevice.isOpen (CaptureDevice.capture device).2 = true
  /-- A device that was closed is closed. -/
  isOpen_close (device : δ) : CaptureDevice.isOpen (CaptureDevice.close device) = false

/-! ## The devices of this library -/

instance : LawfulDevice PatternDevice where
  isOpen_openAt device index := by
    simp only [openAt, CaptureDevice.isOpen]
    split_ifs <;> simp
  isOpen_refused device index error shut := by
    simp only [openAt, CaptureDevice.isOpen] at shut ⊢
    split_ifs <;> simp [shut]
  isOpen_resize device width height := by
    simp only [resize, CaptureDevice.isOpen]
    split_ifs <;> simp
  isOpen_capture device := by
    simp only [CaptureDevice.capture, CaptureDevice.isOpen]
    split_ifs <;> simp [*]
  isOpen_close _ := rfl

instance : LawfulDevice ScriptedDevice where
  isOpen_openAt device index := by
    simp only [openAt, CaptureDevice.isOpen]
    cases device.openError with
    | some error => simp
    | none => split_ifs <;> simp
  isOpen_refused device index error shut := by
    simp only [openAt, CaptureDevice.isOpen] at shut ⊢
    cases device.openError with
    | some error => simp [shut]
    | none =>
      rw [if_neg (by simp [shut] : ¬device.monitor.isOpen = true)]
      split_ifs <;> simp [shut]
  isOpen_resize device width height := by
    simp only [resize, CaptureDevice.isOpen]
    split_ifs <;> simp
  isOpen_capture device := by
    simp only [CaptureDevice.capture, CaptureDevice.isOpen]
    split_ifs <;> simp [*]
  isOpen_close device := by
    simp only [CaptureDevice.close, CaptureDevice.isOpen]
    split_ifs <;> simp [*]

section

variable {δ ε : Type} [CaptureDevice δ] [LawfulDevice δ] [CaptureDevice ε] [LawfulDevice ε]

/-- Faults in front of a device open and close nothing. -/
instance : LawfulDevice (RehearsedDevice δ) where
  isOpen_openAt rehearsed index := by
    simp only [openAt, CaptureDevice.isOpen]
    cases rehearsed.openFaults with
    | nil => exact LawfulDevice.isOpen_openAt rehearsed.device index
    | cons fault rest => cases fault <;> simp [Fault.outcome]
  isOpen_refused rehearsed index error shut := by
    simp only [openAt, CaptureDevice.isOpen]
    cases rehearsed.openFaults with
    | nil => exact LawfulDevice.isOpen_refused rehearsed.device index error shut
    | cons fault rest => exact fun _ ↦ shut
  isOpen_resize rehearsed width height isOpen := by
    simp only [resize, CaptureDevice.isOpen]
    cases rehearsed.resizeFaults with
    | nil => exact LawfulDevice.isOpen_resize rehearsed.device width height isOpen
    | cons fault rest => exact fun _ ↦ isOpen
  isOpen_capture rehearsed isOpen := by
    have through := LawfulDevice.isOpen_capture rehearsed.device isOpen
    simp only [CaptureDevice.isOpen] at isOpen
    simp only [CaptureDevice.capture, CaptureDevice.isOpen, isOpen, if_true]
    split
    · exact isOpen
    · exact isOpen
    · exact through
    · exact through
  isOpen_close rehearsed := LawfulDevice.isOpen_close rehearsed.device

/-- A device of one of two kinds keeps the law of its kind. -/
instance : LawfulDevice (δ ⊕ ε) where
  isOpen_openAt
    | .inl device => LawfulDevice.isOpen_openAt device
    | .inr device => LawfulDevice.isOpen_openAt device
  isOpen_refused
    | .inl device => LawfulDevice.isOpen_refused device
    | .inr device => LawfulDevice.isOpen_refused device
  isOpen_resize
    | .inl device => LawfulDevice.isOpen_resize device
    | .inr device => LawfulDevice.isOpen_resize device
  isOpen_capture
    | .inl device => LawfulDevice.isOpen_capture device
    | .inr device => LawfulDevice.isOpen_capture device
  isOpen_close
    | .inl device => LawfulDevice.isOpen_close device
    | .inr device => LawfulDevice.isOpen_close device

end

end Glyphcast
