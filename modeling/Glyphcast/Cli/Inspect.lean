import Glyphcast.Cli.Output
import Glyphcast.Recording.Listing
import Glyphcast.Text.Fixed

/-!
# Looking at recordings

The inspector lists the recordings of a folder in a table or, given a name, walks through the
frames of one recording and sums them up. A recording that turns out to be malformed on the way
ends the command, but what was learned of it by then has been written.
-/

namespace Glyphcast.Cli.Inspect

open Recording

/-- A text in a column of some width, at the left. -/
def left (width : Nat) (text : String) : String := text ++ "".pushn ' ' (width - text.length)

/-- A text in a column of some width, at the right. -/
def right (width : Nat) (text : String) : String := "".pushn ' ' (width - text.length) ++ text

/-- A row of the table. -/
def row (name started seconds frames bytes : String) : String :=
  " ".intercalate [left 40 name, left 20 started, right 8 seconds, right 8 frames, right 10 bytes]

/-- The row of a recording. -/
def infoRow (info : Info) : String :=
  row info.filename (info.timestamp.getD "-") (toString info.durationSecs)
    (toString info.frameCount) (toString info.fileSize)

/-- The table of a folder. -/
def table (folder : Folder) : Output :=
  match folder.recordings with
  | .error cause => .failure ("Io(" ++ cause.describe ++ ")") ""
  | .ok [] => { out := unlines ["No recordings in " ++ folder.path] }
  | .ok infos =>
    { out := unlines (row "FILE" "STARTED" "SECS" "FRAMES" "BYTES" :: infos.map infoRow) }

/-- What is said of a recording before its frames are read. -/
def opening (path : String) (header : Header) : String :=
  unlines ["File:      " ++ path,
    "Version:   " ++ header.version.getD "?",
    "Started:   " ++ header.timestamp.getD "?"]

/-- What is said of the frames. -/
def closing (frames : List Frame) : String :=
  let length := (UInt64.ofNat (lastElapsed frames)).toFloat / 1000.0
  let largest := (frames.map (·.payload.length)).max?.getD 0
  unlines ["Frames:    " ++ toString frames.length,
    "Length:    " ++ Decimal.threePlaces length ++ "s",
    "Largest:   " ++ toString largest ++ " bytes"]

/-- The account of one recording. -/
def recording (folder : Folder) (name : String) : Output :=
  match resolve? folder.path name with
  | none =>
    .failure (Text.quote ("no recording named '" ++ name ++ "' in " ++ folder.path)) ""
  | some path =>
    match folder.disk.read path with
    | .error cause => .failure cause.describe ""
    | .ok data =>
      match Header.read data with
      | .error fault => .failure fault.describe ""
      | .ok (header, body) =>
        let ⟨frames, _, fault⟩ := scan body
        match fault with
        | some fault => .failure fault.describe (opening path header)
        | none => { out := opening path header ++ closing frames }

/-- The directory that the arguments name. -/
def directory (args : List String) : String := args.head?.getD "recordings"

/-- The inspector, with the folder that the arguments name. -/
def run (folder : Folder) (args : List String) : Output :=
  match args with
  | _ :: name :: _ => recording folder name
  | _ => table folder

end Glyphcast.Cli.Inspect
