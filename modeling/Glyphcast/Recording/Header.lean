import Glyphcast.Error
import Glyphcast.Recording.Line
import Glyphcast.Text.Blank
import Glyphcast.Text.Decimal

/-!
# The metadata of a recording

A recording begins with a tag line, lines of the form `key:value`, and a marker line; after the
marker come the frames, and after the frames more lines of the form `key:value`. The head says
when the recording was made, the foot how long it became.

```text
ASCII_STREAM_RECORD
version:1.0
timestamp:2024-05-01 12:00:00
frames:
...
end_time:3
frame_count:2
```

Head and foot are read by one rule: of several lines for a key the last one counts, also when its
value is malformed, and keys that are not known are passed over.
-/

namespace Glyphcast.Recording

/-- The first line of every recording. -/
def tag : String := "ASCII_STREAM_RECORD"

/-- The version of the form described here. -/
def formatVersion : String := "1.0"

/-- The line between the metadata and the frames. -/
def framesMarker : String := "frames:"

/-- What the head and the foot of a recording say. -/
structure Header where
  /-- The version of the form. -/
  version : Option String := none
  /-- When the recording was started, by the clock on the wall. -/
  timestamp : Option String := none
  /-- The length in seconds. -/
  endTime : Option Nat := none
  /-- How many frames there are. -/
  frameCount : Option Nat := none
  deriving DecidableEq, Repr

namespace Header

/-- A number of the foot: a numeral below `2 ^ 64` in any white space. -/
def number? (value : List Char) : Option Nat := Decimal.read? UInt64.size (Text.trim value)

/-- Take in the value of a key. -/
def amend (header : Header) (key value : List Char) : Header :=
  match String.ofList key with
  | "version" => { header with version := some (.ofList value) }
  | "timestamp" => { header with timestamp := some (.ofList value) }
  | "end_time" => { header with endTime := number? value }
  | "frame_count" => { header with frameCount := number? value }
  | _ => header

/-- Take in a line. A line without a colon says nothing. -/
def amendLine (header : Header) (line : Bytes) : Header :=
  match Text.cut? (· == ':') (Text.decodeLossy line).toList with
  | some (key, value) => header.amend key value
  | none => header

/-- Take in all lines of the foot. -/
def amendAll (header : Header) (foot : Bytes) : Header :=
  (lines foot).foldl (fun header line ↦ header.amendLine line.1) header

/-- Whether a line is the marker. -/
def isMarker (line : Bytes) : Bool := line == Text.encode framesMarker

/-- What the head says, and the bytes after the marker. -/
def read (data : Bytes) : Except FormatError (Header × Bytes) :=
  match lines data with
  | [] => .error (.badTag "")
  | (first, _) :: following =>
    if first ≠ Text.encode tag then .error (.badTag (Text.decodeLossy first))
    else
      match following.dropWhile (!isMarker ·.1) with
      | [] => .error .missingFramesMarker
      | (_, rest) :: _ =>
        let metadata := following.takeWhile (!isMarker ·.1)
        .ok (metadata.foldl (fun header line ↦ header.amendLine line.1) {}, rest)

end Header

end Glyphcast.Recording
