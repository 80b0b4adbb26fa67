import Glyphcast.Recording.Frame

/-!
# Summaries

What a list of recordings shows of each. The foot of a recording holds its length and its number
of frames, and is believed. A recording that was cut off has no foot; then the frames are counted
and the last one tells the length.
-/

namespace Glyphcast.Recording

/-- A recording, summed up. -/
structure Info where
  /-- The name of its file. -/
  filename : String
  /-- When it was started, if the head says so. -/
  timestamp : Option String
  /-- Its length in seconds. -/
  durationSecs : Nat
  /-- How many frames it has. -/
  frameCount : Nat
  /-- How many bytes it has. -/
  fileSize : Nat
  deriving DecidableEq, Repr

/-- The time of the last of some frames; a recording without frames has no length. -/
def lastElapsed (frames : List Frame) : Nat := (frames.getLast?.map (·.elapsed)).getD 0

/-- Sum up a recording. One whose frames do not read through to the foot has no summary. -/
def Info.ofBytes (filename : String) (data : Bytes) : Except FormatError Info := do
  let (head, body) ← Header.read data
  let ⟨frames, foot, fault⟩ := scan body
  match fault with
  | some fault => throw fault
  | none =>
    let header := head.amendAll foot
    return {
      filename
      timestamp := header.timestamp
      durationSecs := header.endTime.getD (lastElapsed frames / 1000)
      frameCount := header.frameCount.getD frames.length
      fileSize := data.length }

end Glyphcast.Recording
