import Glyphcast.Recording.Header

/-!
# The frames of a recording

A frame is a header line, its text, and a line feed. The header line tells the milliseconds since
the start and the number of bytes of the text, so the text may be anything, line breaks and lines
that look like headers included:

```text
frame:100:12
<12 bytes>
```

`Frame.read?` reads one frame and has three answers: a frame, nothing (the bytes are at their end,
or start with a line that heads no frame, as the foot does), or an error. After the text one line
feed is taken if it is there. `scan` reads on to the first place that has no frame.
-/

namespace Glyphcast.Recording

/-- What a header line starts with. -/
def framePrefix : String := "frame:"

/-- What the header line of a frame says. -/
structure FrameHeader where
  /-- Milliseconds since the start of the recording. -/
  elapsed : Nat
  /-- The number of bytes of the text. -/
  length : Nat
  deriving DecidableEq, Repr

namespace FrameHeader

/-- The characters after a given beginning, if the text has that beginning. -/
def strip? (beginning cs : List Char) : Option (List Char) :=
  if beginning.isPrefixOf cs then some (cs.drop beginning.length) else none

/-- The header that a line stands for. -/
def ofText? (line : String) : Option FrameHeader := do
  let (elapsed, length) ← Text.cut? (· == ':') (← strip? framePrefix.toList line.toList)
  return ⟨← Decimal.read? UInt64.size elapsed, ← Decimal.read? UInt64.size length⟩

/-- The header that a line stands for, or the error that shows the line. -/
def parse (line : String) : Except FormatError FrameHeader :=
  match ofText? line with
  | some header => .ok header
  | none => .error (.badFrameHeader line)

/-- The line of a header, without its end. -/
def text (header : FrameHeader) : String :=
  framePrefix ++ toString header.elapsed ++ ":" ++ toString header.length

/-- The header that a line of bytes stands for. -/
def ofLine (line : Bytes) : Except FormatError FrameHeader :=
  match Text.decode? line with
  | some text => parse text
  | none => .error (.badFrameHeader (Text.decodeLossy line))

end FrameHeader

/-- A recorded frame. -/
structure Frame where
  /-- Milliseconds since the start of the recording. -/
  elapsed : Nat
  /-- The bytes of the text. -/
  payload : Bytes
  deriving DecidableEq, Repr

namespace Frame

/-- Bytes without the line feed that they may start with. -/
def dropLineFeed : Bytes → Bytes
  | [] => []
  | b :: bytes => if b = lineFeed then bytes else b :: bytes

private theorem length_dropLineFeed_le (bytes : Bytes) :
    (dropLineFeed bytes).length ≤ bytes.length := by
  cases bytes with
  | nil => simp [dropLineFeed]
  | cons b bytes => simp only [dropLineFeed]; split <;> simp

/-- The frame whose header line has been read, and the bytes after it. -/
def take (header : FrameHeader) (rest : Bytes) : Except FormatError (Frame × Bytes) :=
  let payload := rest.take header.length
  if payload.length < header.length then .error (.truncated header.length payload.length)
  else .ok (⟨header.elapsed, payload⟩, dropLineFeed (rest.drop header.length))

/-- The frame that the bytes start with, and the bytes after it. -/
def read? (bytes : Bytes) : Except FormatError (Option (Frame × Bytes)) :=
  match splitLine? bytes with
  | none => .ok none
  | some (line, rest) =>
    -- a line that heads no frame, such as the foot, ends the frames
    if !(Text.encode framePrefix).isPrefixOf line then .ok none
    else do return some (← take (← FrameHeader.ofLine line) rest)

private theorem length_of_take {header : FrameHeader} {rest after : Bytes} {frame : Frame}
    (h : take header rest = .ok (frame, after)) : after.length ≤ rest.length := by
  simp only [take] at h
  split at h
  · nomatch h
  · simp only [Except.ok.injEq, Prod.mk.injEq] at h
    rw [← h.2]
    exact Nat.le_trans (length_dropLineFeed_le _) (by simp)

theorem length_of_read? {bytes after : Bytes} {frame : Frame}
    (h : read? bytes = .ok (some (frame, after))) : after.length < bytes.length := by
  unfold read? at h
  split at h
  · simp at h
  · next line rest split =>
    have shorter := length_of_splitLine? split
    split at h
    · simp at h
    · cases header : FrameHeader.ofLine line with
      | error e => simp [header, bind, Except.bind] at h
      | ok header' =>
        cases taken : take header' rest with
        | error e => simp [header, taken, bind, Except.bind] at h
        | ok result =>
          simp only [header, taken, bind, Except.bind, pure, Except.pure, Except.ok.injEq,
            Option.some.injEq] at h
          subst h
          exact Nat.lt_of_le_of_lt (length_of_take taken) shorter

end Frame

/-! ## All frames -/

/-- What reading frame after frame comes to. -/
structure Scan where
  /-- The frames, in their order. -/
  frames : List Frame
  /-- What stands where no further frame could be read. -/
  rest : Bytes
  /-- The error that ended the reading, if one did. -/
  fault : Option FormatError
  deriving DecidableEq, Repr

/-- Read frames up to the first place that has none. -/
def scan (bytes : Bytes) : Scan :=
  match _h : Frame.read? bytes with
  | .ok (some (frame, rest)) =>
    let later := scan rest
    { later with frames := frame :: later.frames }
  | .ok none => ⟨[], bytes, none⟩
  | .error fault => ⟨[], bytes, some fault⟩
termination_by bytes.length
decreasing_by exact Frame.length_of_read? ‹_›

theorem scan_of_frame {bytes rest : Bytes} {frame : Frame}
    (h : Frame.read? bytes = .ok (some (frame, rest))) :
    scan bytes = { scan rest with frames := frame :: (scan rest).frames } := by
  rw [scan]
  split
  · next found =>
    cases found.symm.trans h
    rfl
  · next none => cases none.symm.trans h
  · next fault => cases fault.symm.trans h

theorem scan_of_end {bytes : Bytes} (h : Frame.read? bytes = .ok none) :
    scan bytes = ⟨[], bytes, none⟩ := by
  rw [scan]
  split
  · next found => cases found.symm.trans h
  · rfl
  · next fault => cases fault.symm.trans h

theorem scan_of_fault {bytes : Bytes} {fault : FormatError} (h : Frame.read? bytes = .error fault) :
    scan bytes = ⟨[], bytes, some fault⟩ := by
  rw [scan]
  split
  · next found => cases found.symm.trans h
  · next none => cases none.symm.trans h
  · next other =>
    cases other.symm.trans h
    rfl

/-! ## Positions -/

/-- Where a frame stands in a recording. -/
structure Located where
  /-- Milliseconds since the start of the recording. -/
  elapsed : Nat
  /-- The position of the text's first byte. -/
  start : Nat
  /-- The position after the text. -/
  stop : Nat
  /-- The position of what follows the frame. -/
  next : Nat
  deriving DecidableEq, Repr

/-- The frame at a position: where its text begins, ends, and what comes next. -/
def frameAt (data : Bytes) (position : Nat) : Except FormatError (Option Located) := do
  match ← Frame.read? (data.drop position), lineAt? data position with
  | some (frame, rest), some (_, start) =>
    return some ⟨frame.elapsed, start, start + frame.payload.length, data.length - rest.length⟩
  | _, _ => return none

end Glyphcast.Recording
