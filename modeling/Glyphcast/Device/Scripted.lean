import Glyphcast.Device

/-!
# Devices that follow a script

Two devices for rehearsing a stream. `ScriptedDevice` delivers a fixed sequence of frames, empty
reads, failures and crashes, and counts what is done to it. `RehearsedDevice` stands in front of
another device and lets chosen calls fail or crash, or puts pictures of its own into the stream;
the calls that it does not take over go through.
-/

namespace Glyphcast

/-- What a scripted device does at one reading. -/
inductive ScriptStep where
  /-- It delivers a single pixel of this brightness. -/
  | frame (value : UInt8)
  /-- It delivers nothing. -/
  | empty
  /-- It fails to read. -/
  | fail (reason : String)
  /-- It crashes. -/
  | crash (text : String)
  deriving DecidableEq, Repr

/-- What has been done to a scripted device. -/
structure DeviceMonitor where
  /-- How often it was opened. -/
  opens : Nat := 0
  /-- How often it was closed while it was open. -/
  closes : Nat := 0
  /-- How often it was read while it was open. -/
  captures : Nat := 0
  /-- Whether it is open. -/
  isOpen : Bool := false
  /-- The size last asked for. -/
  resolution : Option (UInt32 × UInt32) := none
  deriving DecidableEq, Repr

/-- A device that follows a script. When the script is over, every reading gives a black pixel. -/
structure ScriptedDevice where
  /-- The readings to come. -/
  script : List ScriptStep := []
  /-- The failure that every opening ends in, if one is set. -/
  openError : Option DeviceError := none
  /-- What has been done to the device. -/
  monitor : DeviceMonitor := {}
  deriving DecidableEq, Repr

/-- How a step of the script answers a reading. -/
def ScriptStep.outcome : ScriptStep → Outcome (Option Image)
  | frame value => .done (some (.dot value))
  | empty => .done none
  | fail reason => .failed (.readFailed reason)
  | crash text => .crashed (.saying text)

namespace ScriptedDevice

instance : CaptureDevice ScriptedDevice where
  openAt device index :=
    match device.openError with
    | some error => (.failed error, device)
    | none =>
      if index ≠ 0 then (.failed (.notFound index), device)
      else if device.monitor.isOpen then (.failed (.openFailed "already open"), device)
      else
        (.done (), { device with
          monitor := { device.monitor with opens := device.monitor.opens + 1, isOpen := true } })
  resize device width height :=
    if device.monitor.isOpen then
      (.done (), { device with
        monitor := { device.monitor with resolution := some (width, height) } })
    else (.failed .notOpen, device)
  capture device :=
    if device.monitor.isOpen then
      let step := device.script.head?.getD (.frame 0)
      (step.outcome, { device with
        script := device.script.tail
        monitor := { device.monitor with captures := device.monitor.captures + 1 } })
    else (.failed .notOpen, device)
  close device :=
    if device.monitor.isOpen then
      { device with
        monitor := { device.monitor with closes := device.monitor.closes + 1, isOpen := false } }
    else device
  isOpen device := device.monitor.isOpen
  infos _ := [⟨0, "Scripted"⟩]

end ScriptedDevice

/-! ## Faults in front of a device -/

/-- A fault that takes the place of a call. -/
inductive Fault where
  /-- The call fails. -/
  | error (error : DeviceError)
  /-- The call crashes. -/
  | crash (crash : Crash)
  deriving DecidableEq, Repr

/-- How the call ends that a fault takes the place of. -/
def Fault.outcome {α : Type} : Fault → Outcome α
  | error e => .failed e
  | crash c => .crashed c

/-- What takes the place of one reading. -/
inductive Take where
  /-- Nothing: the device is read. -/
  | through
  /-- This picture, without the device being read. -/
  | picture (image : Image)
  /-- A fault. -/
  | fault (fault : Fault)

/-- A device with faults in front of it. -/
structure RehearsedDevice (δ : Type) where
  /-- The device behind the faults. -/
  device : δ
  /-- The faults of the next openings. -/
  openFaults : List Fault := []
  /-- The faults of the next changes of size. -/
  resizeFaults : List Fault := []
  /-- What happens at the next readings of the open device. -/
  takes : List Take := []

namespace RehearsedDevice

variable {δ : Type} [CaptureDevice δ]

instance : CaptureDevice (RehearsedDevice δ) where
  openAt rehearsed index :=
    match rehearsed.openFaults with
    | fault :: rest => (fault.outcome, { rehearsed with openFaults := rest })
    | [] =>
      let (outcome, device) := openAt rehearsed.device index
      (outcome, { rehearsed with device })
  resize rehearsed width height :=
    match rehearsed.resizeFaults with
    | fault :: rest => (fault.outcome, { rehearsed with resizeFaults := rest })
    | [] =>
      let (outcome, device) := resize rehearsed.device width height
      (outcome, { rehearsed with device })
  capture rehearsed :=
    let through (takes : List Take) : Outcome (Option Image) × RehearsedDevice δ :=
      let (outcome, device) := CaptureDevice.capture rehearsed.device
      (outcome, { rehearsed with device, takes })
    -- a closed device answers for itself
    if CaptureDevice.isOpen rehearsed.device then
      match rehearsed.takes with
      | .picture image :: rest => (.done (some image), { rehearsed with takes := rest })
      | .fault fault :: rest => (fault.outcome, { rehearsed with takes := rest })
      | .through :: rest => through rest
      | [] => through []
    else through rehearsed.takes
  close rehearsed := { rehearsed with device := CaptureDevice.close rehearsed.device }
  isOpen rehearsed := CaptureDevice.isOpen rehearsed.device
  infos rehearsed := CaptureDevice.infos rehearsed.device

end RehearsedDevice

end Glyphcast
