/-!
# What the server answers

Every message is answered by bare text. A reply is one of a few fixed words, or `ERROR: ` and a
message. Frames are sent as they are and need no wrapping, because no frame is read as a reply.
-/

namespace Glyphcast

/-- A reply to a client. -/
inductive Reply where
  /-- The key did not match. -/
  | authFailed
  /-- The sender is now the controller. -/
  | authControllerSuccess
  /-- The sender is now a viewer. -/
  | authViewerSuccess
  /-- A stream is running. -/
  | streamActive
  /-- No stream is running. -/
  | streamInactive
  /-- The stream was started. -/
  | configApplied
  /-- The stream was stopped. -/
  | streamStopped
  /-- The recording was started. -/
  | recordingStarted
  /-- The recording was finished. -/
  | recordingStopped
  /-- The playback was started. -/
  | playbackStarted
  /-- The playback was paused. -/
  | playbackPaused
  /-- The playback goes on. -/
  | playbackResumed
  /-- The playback was stopped. -/
  | playbackStopped
  /-- The speed was changed. -/
  | playbackSpeedChanged
  /-- The message was not understood, or its sender may not send it. -/
  | unknownCommand
  /-- The command was refused. -/
  | error (message : String)
  deriving DecidableEq, Repr

namespace Reply

/-- The fixed replies, in the order in which they are declared. -/
def fixed : List Reply :=
  [authFailed, authControllerSuccess, authViewerSuccess, streamActive, streamInactive,
    configApplied, streamStopped, recordingStarted, recordingStopped, playbackStarted,
    playbackPaused, playbackResumed, playbackStopped, playbackSpeedChanged, unknownCommand]

/-- The reply that tells whether a stream is running. -/
def status (streaming : Bool) : Reply := if streaming then streamActive else streamInactive

/-- The text of a reply. -/
def text : Reply → String
  | authFailed => "AUTH_FAILED"
  | authControllerSuccess => "AUTH_CONTROLLER_SUCCESS"
  | authViewerSuccess => "AUTH_VIEWER_SUCCESS"
  | streamActive => "STREAM_ACTIVE"
  | streamInactive => "STREAM_INACTIVE"
  | configApplied => "CONFIG_APPLIED"
  | streamStopped => "STREAM_STOPPED"
  | recordingStarted => "RECORDING_STARTED"
  | recordingStopped => "RECORDING_STOPPED"
  | playbackStarted => "PLAYBACK_STARTED"
  | playbackPaused => "PLAYBACK_PAUSED"
  | playbackResumed => "PLAYBACK_RESUMED"
  | playbackStopped => "PLAYBACK_STOPPED"
  | playbackSpeedChanged => "PLAYBACK_SPEED_CHANGED"
  | unknownCommand => "UNKNOWN_COMMAND"
  | error message => "ERROR: " ++ message

end Reply

end Glyphcast
