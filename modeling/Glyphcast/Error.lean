import Glyphcast.Text.Quoted

/-!
# What can go wrong

Every failure is a value that names its cause, and its wording is one function of that value. The
types are layered as the program is: a device failure and a malformed recording are causes of
their own, `Error` adds the failures of files and sockets and of a call at the wrong time, and
`HubError` is what a command on the hub can answer.

Text that comes from a client or from a file is always shown quoted, so it can put no line break
into a message.
-/

namespace Glyphcast

/-! ## Files and sockets -/

/-- A failure that the operating system reports by number. -/
inductive OsError where
  /-- There is no such file or directory. -/
  | notFound
  /-- The caller may not do this. -/
  | permissionDenied
  /-- Something of that name is there already. -/
  | alreadyExists
  /-- A directory was needed and the path leads through a plain file. -/
  | notADirectory
  /-- A plain file was needed and a directory is there. -/
  | isADirectory
  /-- The name, or the whole path, is too long. -/
  | nameTooLong
  /-- No space is left for what is written. -/
  | storageFull
  /-- The address belongs to no interface of this host. -/
  | addressNotAvailable
  deriving DecidableEq, Repr

namespace OsError

/-- The number of the failure. -/
def code : OsError → Nat
  | notFound => 2
  | permissionDenied => 13
  | alreadyExists => 17
  | notADirectory => 20
  | isADirectory => 21
  | nameTooLong => 36
  | storageFull => 28
  | addressNotAvailable => 99

/-- The name of its kind. -/
def kind : OsError → String
  | notFound => "NotFound"
  | permissionDenied => "PermissionDenied"
  | alreadyExists => "AlreadyExists"
  | notADirectory => "NotADirectory"
  | isADirectory => "IsADirectory"
  | nameTooLong => "InvalidFilename"
  | storageFull => "StorageFull"
  | addressNotAvailable => "AddrNotAvailable"

/-- What the operating system calls it. -/
def text : OsError → String
  | notFound => "No such file or directory"
  | permissionDenied => "Permission denied"
  | alreadyExists => "File exists"
  | notADirectory => "Not a directory"
  | isADirectory => "Is a directory"
  | nameTooLong => "File name too long"
  | storageFull => "No space left on device"
  | addressNotAvailable => "Cannot assign requested address"

end OsError

/-- A failed operation on a file or a socket. -/
inductive IoError where
  /-- The operating system refused. -/
  | os (cause : OsError)
  /-- A file name holds a NUL, which no path can. -/
  | nulInName
  /-- Every name a recording of this second could take is taken. -/
  | noFreeName (stem : String)
  /-- A failure known by its text alone. -/
  | other (text : String)
  deriving DecidableEq, Repr

/-- The message of a file or socket failure. -/
def IoError.message : IoError → String
  | os cause => cause.text ++ " (os error " ++ toString cause.code ++ ")"
  | nulInName => "file name contained an unexpected NUL byte"
  | noFreeName stem => "no free recording name for " ++ stem
  | other text => text

/-- The value itself, spelled out for a log. -/
def IoError.describe : IoError → String
  | os cause =>
    "Os \x7b code: " ++ toString cause.code ++ ", kind: " ++ cause.kind ++ ", message: " ++
      Text.quote cause.text ++ " \x7d"
  | nulInName =>
    "Error \x7b kind: InvalidInput, message: " ++
      Text.quote "file name contained an unexpected NUL byte" ++ " \x7d"
  | noFreeName stem =>
    "Custom \x7b kind: AlreadyExists, error: " ++
      Text.quote ("no free recording name for " ++ stem) ++ " \x7d"
  | other text => "Custom \x7b kind: Other, error: " ++ Text.quote text ++ " \x7d"

/-! ## Devices and recordings -/

/-- A failure of a capture device. -/
inductive DeviceError where
  /-- No device has this index. -/
  | notFound (index : UInt32)
  /-- The device is there but would not open. -/
  | openFailed (reason : String)
  /-- The call needs an open device. -/
  | notOpen
  /-- A frame could not be read. -/
  | readFailed (reason : String)
  /-- The device cannot produce frames of this size. -/
  | unsupportedResolution (width height : UInt32)
  deriving DecidableEq, Repr

/-- The name of a device failure. -/
def DeviceError.name : DeviceError → String
  | notFound _ => "NotFound"
  | openFailed _ => "OpenFailed"
  | notOpen => "NotOpen"
  | readFailed _ => "ReadFailed"
  | unsupportedResolution .. => "UnsupportedResolution"

/-- The message of a device failure. -/
def DeviceError.message : DeviceError → String
  | notFound index => "Capture device " ++ toString index.toNat ++ " not found"
  | openFailed reason => "Failed to open capture device: " ++ reason
  | notOpen => "Capture device is not open"
  | readFailed reason => "Failed to read frame: " ++ reason
  | unsupportedResolution width height =>
    "Unsupported capture resolution " ++ toString width.toNat ++ "x" ++ toString height.toNat

/-- What makes bytes no recording. -/
inductive FormatError where
  /-- The first line is not the tag. -/
  | badTag (line : String)
  /-- The metadata ended without the line that starts the frames. -/
  | missingFramesMarker
  /-- A line that must head a frame does not parse. -/
  | badFrameHeader (line : String)
  /-- Fewer bytes are left than the frame announces. -/
  | truncated (expected available : Nat)
  /-- A frame's bytes are not text. -/
  | invalidUtf8
  deriving DecidableEq, Repr

/-- The name of a format failure. -/
def FormatError.name : FormatError → String
  | badTag _ => "BadTag"
  | missingFramesMarker => "MissingFramesMarker"
  | badFrameHeader _ => "BadFrameHeader"
  | truncated .. => "Truncated"
  | invalidUtf8 => "InvalidUtf8"

/-- The message of a format failure. -/
def FormatError.message : FormatError → String
  | badTag line => "Invalid recording tag: " ++ Text.quote line
  | missingFramesMarker => "Missing frames marker"
  | badFrameHeader line => "Invalid frame header: " ++ Text.quote line
  | truncated expected available =>
    "Truncated frame payload: expected " ++ toString expected ++ " bytes, " ++
      toString available ++ " available"
  | invalidUtf8 => "Frame payload is not valid UTF-8"

/-- The value itself, spelled out for a log. -/
def FormatError.describe (error : FormatError) : String :=
  match error with
  | badTag line | badFrameHeader line => error.name ++ "(" ++ Text.quote line ++ ")"
  | truncated expected available =>
    error.name ++ " \x7b expected: " ++ toString expected ++ ", available: " ++
      toString available ++ " \x7d"
  | missingFramesMarker | invalidUtf8 => error.name

/-! ## Connections -/

/-- A failure of the transport under a connection. -/
inductive TransportError where
  /-- The peer closed the connection in order. -/
  | connectionClosed
  /-- Something was sent over a connection that is closed. -/
  | alreadyClosed
  deriving DecidableEq, Repr

/-- The message of a transport failure. -/
def TransportError.message : TransportError → String
  | connectionClosed => "Connection closed normally"
  | alreadyClosed => "Trying to work with closed connection"

/-! ## The program's errors -/

/-- Any failure below the hub. -/
inductive Error where
  /-- A file or socket operation failed. -/
  | io (cause : IoError)
  /-- The transport failed. -/
  | transport (cause : TransportError)
  /-- The device failed. -/
  | device (cause : DeviceError)
  /-- A recording is malformed. -/
  | format (cause : FormatError)
  /-- The call does not fit the present state. -/
  | invalidState (reason : String)
  deriving DecidableEq, Repr

namespace Error

/-- A recording was to be started while one is open. -/
def recordingInProgress : Error := invalidState "Recording already in progress"

/-- Playback was to be started with nothing loaded. -/
def nothingLoaded : Error := invalidState "No recording loaded"

/-- Playback was to be started twice. -/
def playbackInProgress : Error := invalidState "Playback already in progress"

/-- The name of the layer that failed. -/
def name : Error → String
  | io _ => "Io"
  | transport _ => "WebSocket"
  | device _ => "Device"
  | format _ => "Format"
  | invalidState _ => "InvalidState"

/-- The message of the failure underneath, if there is one. -/
def source : Error → Option String
  | io cause => some cause.message
  | transport cause => some cause.message
  | device cause => some cause.message
  | format cause => some cause.message
  | invalidState _ => none

/-- The message of a failure: the failure underneath, behind the name of its layer. -/
def message : Error → String
  | io cause => "I/O error: " ++ cause.message
  | transport cause => "WebSocket error: " ++ cause.message
  | device cause => "Device error: " ++ cause.message
  | format cause => "Format error: " ++ cause.message
  | invalidState reason => reason

end Error

/-- What a command on the hub can be refused for. -/
inductive HubError where
  /-- The text is no resolution, or one larger than the hub allows. -/
  | invalidResolution (text : String)
  /-- The frame rate is zero. -/
  | invalidFps
  /-- The capture pipeline is not there to be opened. Only a host that is ending loses it. -/
  | deviceUnavailable
  /-- The device failed. -/
  | device (cause : DeviceError)
  /-- The recording could not be started or finished. -/
  | recording (reason : String)
  /-- The playback could not be started. -/
  | playback (reason : String)
  /-- Another controller holds the slot. -/
  | controllerTaken
  deriving DecidableEq, Repr

/-- The name of a refusal. -/
def HubError.name : HubError → String
  | invalidResolution _ => "InvalidResolution"
  | invalidFps => "InvalidFps"
  | deviceUnavailable => "DeviceUnavailable"
  | device _ => "Device"
  | recording _ => "Recording"
  | playback _ => "Playback"
  | controllerTaken => "ControllerTaken"

/-- The message of a refused command. -/
def HubError.message : HubError → String
  | invalidResolution text => "invalid resolution " ++ Text.quote text
  | invalidFps => "fps must be positive"
  | deviceUnavailable => "capture device unavailable"
  | device cause => cause.message
  | recording reason => "recording failed: " ++ reason
  | playback reason => "playback failed: " ++ reason
  | controllerTaken => "controller already connected"

end Glyphcast
