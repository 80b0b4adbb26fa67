import Glyphcast.Recording.Listing
import Glyphcast.Recording.Stamp
import Glyphcast.Recording.WriteBuffer

/-!
# Recording

A recorder writes one recording at a time into its folder. It never writes into a file that was
there before: the name carries the second of the start, and up to a hundred recordings of one
second are told apart by a number. Frames are stamped by the milliseconds since the start.

What is written is the form that `Header.read` and `Frame.read?` read. It goes through the buffer in
pieces, and how it is cut into pieces shows only while the recording is open.
-/

namespace Glyphcast.Recording

/-! ## The written form -/

/-- The pieces of a text and a line break. -/
def linePieces (pieces : List String) : List Bytes := (pieces ++ ["\n"]).map Text.encode

/-- The head of a recording started at this time. -/
def headPieces (stamp : Stamp) : List Bytes :=
  linePieces [tag] ++ linePieces ["version:", formatVersion] ++
    linePieces ["timestamp:", stamp.text] ++ linePieces [framesMarker]

/-- A frame. -/
def framePieces (elapsed : Nat) (text : String) : List Bytes :=
  linePieces [framePrefix, toString elapsed, ":", toString text.utf8ByteSize] ++ linePieces [text]

/-- The foot. -/
def footPieces (durationSecs frameCount : Nat) : List Bytes :=
  linePieces ["end_time:", toString durationSecs] ++
    linePieces ["frame_count:", toString frameCount]

/-! ## The recorder -/

/-- An open recording. -/
structure Active where
  /-- The name of its file. -/
  name : String
  /-- When it was started, in milliseconds. -/
  startedAt : Nat
  /-- How many frames it has. -/
  frames : Nat := 0
  /-- What has not reached the file. -/
  buffer : WriteBuffer := {}
  deriving DecidableEq, Repr

/-- What is told of a finished recording. -/
structure Summary where
  /-- Where its file is. -/
  path : String
  /-- Its length in whole seconds. -/
  durationSecs : Nat
  /-- How many frames it has. -/
  frameCount : Nat
  deriving DecidableEq, Repr

/-- Something that records into a folder. -/
structure Recorder where
  /-- Where the recordings go. -/
  folder : Folder
  /-- The recording that is open. -/
  active : Option Active := none
  deriving DecidableEq, Repr

namespace Recorder

/-- Whether a recording is open. -/
def isRecording (recorder : Recorder) : Bool := recorder.active.isSome

/-- The path of the open recording. -/
def currentPath? (recorder : Recorder) : Option String :=
  recorder.active.map (recorder.folder.pathOf ·.name)

/-- How many frames the open recording has. -/
def frameCount (recorder : Recorder) : Nat := (recorder.active.map (·.frames)).getD 0

/-- Send pieces to a recording, through its buffer. -/
def send (folder : Folder) (active : Active) (pieces : List Bytes) : Folder × Active :=
  let (out, buffer) := active.buffer.pushAll pieces
  (folder.append active.name out, { active with buffer })

/-- How many names a recording can take. -/
def nameLimit : Nat := 100

/-- The names that a recording with this stem can take, in the order in which they are tried. -/
def candidates (stem : String) : List String :=
  (List.range nameLimit).map fun n ↦
    if n = 0 then stem ++ "." ++ fileExtension
    else stem ++ "_" ++ toString n ++ "." ++ fileExtension

/-- Make a file under the first name that is free. -/
def createFirst (folder : Folder) (stem : String) : List String → Except IoError (String × Folder)
  | [] => .error (.noFreeName stem)
  | name :: names =>
    match folder.createNew name with
    | .ok folder => .ok (name, folder)
    -- only a name that is taken leads on to the next
    | .error (.os .alreadyExists) => createFirst folder stem names
    | .error cause => .error cause

/-- Open a recording. The folder is made if it is missing. -/
def start (recorder : Recorder) (now : Nat) (stamp : Stamp) : Except Error String × Recorder :=
  if recorder.isRecording then (.error .recordingInProgress, recorder)
  else
    match recorder.folder.ensure with
    | .error cause => (.error (.io cause), recorder)
    | .ok folder =>
      match createFirst folder stamp.stem (candidates stamp.stem) with
      | .error cause => (.error (.io cause), { recorder with folder })
      | .ok (name, folder) =>
        let (folder, active) := send folder { name, startedAt := now } (headPieces stamp)
        (.ok (folder.pathOf name), { folder, active := some active })

/-- Add a frame. Nothing happens when no recording is open. -/
def write (recorder : Recorder) (now : Nat) (text : String) : Recorder :=
  match recorder.active with
  | none => recorder
  | some active =>
    let pieces := framePieces (now - active.startedAt) text
    let (folder, active) := send recorder.folder active pieces
    { folder, active := some { active with frames := active.frames + 1 } }

/-- Finish the open recording. -/
def stop (recorder : Recorder) (now : Nat) : Option Summary × Recorder :=
  match recorder.active with
  | none => (none, recorder)
  | some active =>
    let durationSecs := (now - active.startedAt) / 1000
    let (folder, sent) := send recorder.folder active (footPieces durationSecs active.frames)
    (some ⟨folder.pathOf active.name, durationSecs, active.frames⟩,
      { folder := folder.append active.name sent.buffer.held, active := none })

/-- Finish the open recording, unless the system refuses to write its foot. A recording that cannot
be finished is given up: nothing more is written to its file. -/
def finish (recorder : Recorder) (now : Nat) (refused : Option OsError) :
    Except Error (Option Summary) × Recorder :=
  match refused with
  | none => (recorder.stop now).map .ok id
  | some cause =>
    if recorder.isRecording then (.error (.io (.os cause)), { recorder with active := none })
    else (.ok none, recorder)

end Recorder

end Glyphcast.Recording
