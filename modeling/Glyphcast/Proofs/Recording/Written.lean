import Glyphcast.Proofs.Recording.Line
import Glyphcast.Proofs.Text.Plain
import Glyphcast.Recording.Info
import Glyphcast.Recording.Recorder

/-!
# The written form, read back

What a recorder writes is read back as it was meant, whatever the frames hold. The readers go from
front to back and keep what is still to be read, so each part of the form has one lemma: written in
front of any bytes, it is read, and those bytes are left.

## Why a frame may hold anything

Only the head, the foot and the header lines of frames are read as lines, and these are plain. The
bytes of a frame are counted: the reader never looks for a line in them, so a frame that reads like
a header line, or like the foot, is a frame like any other.
-/

namespace Glyphcast.Recording

open Text

/-! ## Lines -/

/-- A line and its end. -/
def lineBytes (line : String) : Bytes := encode line ++ [lineFeed]

/-- However a line is cut into pieces, its bytes are the same. -/
@[simp] theorem flatten_linePieces (pieces : List String) :
    (linePieces pieces).flatten = lineBytes (String.join pieces) := by
  rw [linePieces, ← encode_join, String.join_append, encode_append]
  rfl

variable {line : String}

@[simp]
theorem length_lineBytes (line : String) : (lineBytes line).length = (encode line).length + 1 :=
  List.length_append

theorem lineFeed_not_mem (plain : IsPlain line) : lineFeed ∉ encode line := by
  intro mem
  exact absurd (mem_encode_of_isPlain plain mem).1 (by decide)

theorem splitLine?_lineBytes (plain : IsPlain line) (rest : Bytes) :
    splitLine? (lineBytes line ++ rest) = some (encode line, rest) := by
  have noReturn : (encode line).getLast? ≠ some 0x0d := by
    intro last
    exact absurd (mem_encode_of_isPlain plain (List.mem_of_getLast? last)).1 (by decide)
  rw [lineBytes, List.append_assoc]
  exact splitLine?_append (lineFeed_not_mem plain) noReturn (.feed rest)
    (List.append_ne_nil_of_right_ne_nil _ (List.cons_ne_nil _ _))

private theorem lines_lineBytes (plain : IsPlain line) (rest : Bytes) :
    lines (lineBytes line ++ rest) = (encode line, rest) :: lines rest :=
  lines_of_splitLine? (splitLine?_lineBytes plain rest)

@[simp] theorem lines_nil : lines [] = [] := by
  rw [lines]
  rfl

/-! ## Metadata -/

/-- A line of metadata says what stands after the first colon of what stands before it. -/
theorem Header.amendLine_encode {key value : String} (plain : IsPlain (key ++ ":" ++ value))
    (free : ':' ∉ key.toList) (header : Header) :
    header.amendLine (encode (key ++ ":" ++ value)) = header.amend key.toList value.toList := by
  have split : (key ++ ":" ++ value).toList = key.toList ++ ':' :: value.toList := by
    rw [String.toList_append, String.toList_append, List.append_assoc]
    rfl
  rw [amendLine, decodeLossy_encode plain, split,
    cut?_append (beq_eq_false_of_not_mem free) (beq_self_eq_true ':')]

private theorem Header.number?_toString {n : Nat} (h : n < UInt64.size) :
    number? (toString n).toList = some n := by
  have solid : ∀ c ∈ Decimal.digits n, isBlank c = false :=
    fun _ mem ↦ isBlank_of_isDigit (Decimal.isDigit_of_mem_digits mem)
  rw [number?, toList_toString, trim_of_not_blank solid, Decimal.read?_digits h]

/-- The head of a recording started at this time. -/
def headBytes (stamp : Stamp) : Bytes := (headPieces stamp).flatten

/-- The foot of a recording of this length and this many frames. -/
def footBytes (durationSecs frameCount : Nat) : Bytes :=
  (footPieces durationSecs frameCount).flatten

theorem Stamp.isPlain_text (stamp : Stamp) : IsPlain stamp.text := by
  have hyphen : IsPlain "-" := by decide
  have space : IsPlain " " := by decide
  have colon : IsPlain ":" := by decide
  exact ((((((((((isPlain_padded _ _).append hyphen).append (isPlain_padded _ _)).append
    hyphen).append (isPlain_padded _ _)).append space).append (isPlain_padded _ _)).append
    colon).append (isPlain_padded _ _)).append colon).append (isPlain_padded _ _)

theorem headBytes_eq (stamp : Stamp) :
    headBytes stamp = lineBytes tag ++ (lineBytes ("version" ++ ":" ++ formatVersion) ++
      (lineBytes ("timestamp" ++ ":" ++ stamp.text) ++ lineBytes framesMarker)) := by
  simp only [headBytes, headPieces, List.flatten_append, flatten_linePieces, List.append_assoc]
  rfl

theorem headBytes_append (stamp : Stamp) (rest : Bytes) :
    headBytes stamp ++ rest = lineBytes tag ++ (lineBytes ("version" ++ ":" ++ formatVersion) ++
      (lineBytes ("timestamp" ++ ":" ++ stamp.text) ++ (lineBytes framesMarker ++ rest))) := by
  rw [headBytes_eq]
  simp only [List.append_assoc]

/-- What a head says, in front of any bytes: the version and the time of the start, and nothing of
how long the recording became. -/
def headOf (stamp : Stamp) : Header :=
  { version := some formatVersion, timestamp := some stamp.text }

theorem Stamp.isPlain_line (stamp : Stamp) : IsPlain ("timestamp" ++ ":" ++ stamp.text) :=
  IsPlain.append (by decide) stamp.isPlain_text

private theorem Stamp.isMarker_line (stamp : Stamp) :
    Header.isMarker (encode ("timestamp" ++ ":" ++ stamp.text)) = false := by
  rw [Header.isMarker, beq_eq_false_iff_ne, Ne, encode_inj, ← String.toList_inj,
    String.toList_append, String.toList_append]
  intro same
  have first : 't' = 'f' := Option.some.inj (congrArg List.head? same)
  exact absurd first (by decide)

theorem isPlain_tag : IsPlain tag := by decide

theorem isPlain_version : IsPlain ("version" ++ ":" ++ formatVersion) := by decide

theorem isPlain_framesMarker : IsPlain framesMarker := by decide

theorem Header.read_of_lines {stamp : Stamp} {data afterTag afterVersion afterTime rest : Bytes}
    {others : List (Bytes × Bytes)}
    (h : lines data = (encode tag, afterTag) ::
      (encode ("version" ++ ":" ++ formatVersion), afterVersion) ::
      (encode ("timestamp" ++ ":" ++ stamp.text), afterTime) ::
      (encode framesMarker, rest) :: others) :
    Header.read data = .ok (headOf stamp, rest) := by
  have version : isMarker (encode ("version" ++ ":" ++ formatVersion)) = false := by decide
  have marker : isMarker (encode framesMarker) = true := beq_self_eq_true _
  -- line after line is taken off, and the marker stops the metadata
  rw [Header.read, h]
  simp only [ne_eq, not_true_eq_false, if_false, List.dropWhile_cons, List.takeWhile_cons, version,
    stamp.isMarker_line, marker, Bool.not_false, Bool.not_true, if_true, Bool.false_eq_true,
    List.foldl_cons, List.foldl_nil]
  rw [amendLine_encode isPlain_version (by decide), amendLine_encode stamp.isPlain_line (by decide)]
  simp only [amend, String.ofList_toList]
  rfl

private theorem Header.read_headBytes (stamp : Stamp) (rest : Bytes) :
    Header.read (headBytes stamp ++ rest) = .ok (headOf stamp, rest) := by
  have all := lines_lineBytes isPlain_tag (lineBytes ("version" ++ ":" ++ formatVersion) ++
    (lineBytes ("timestamp" ++ ":" ++ stamp.text) ++ (lineBytes framesMarker ++ rest)))
  rw [lines_lineBytes isPlain_version, lines_lineBytes stamp.isPlain_line,
    lines_lineBytes isPlain_framesMarker] at all
  rw [headBytes_append]
  exact read_of_lines all

/-! ## The foot -/

private theorem footBytes_eq (durationSecs frameCount : Nat) :
    footBytes durationSecs frameCount =
      lineBytes ("end_time" ++ ":" ++ toString durationSecs) ++
        lineBytes ("frame_count" ++ ":" ++ toString frameCount) := by
  simp only [footBytes, footPieces, List.flatten_append, flatten_linePieces]
  rfl

private theorem isPlain_footLine (key : String) (plain : IsPlain key) (n : Nat) :
    IsPlain (key ++ ":" ++ toString n) :=
  (plain.append (by decide)).append (isPlain_toString n)

theorem splitLine?_footBytes (durationSecs frameCount : Nat) :
    splitLine? (footBytes durationSecs frameCount) =
      some (encode ("end_time:" ++ toString durationSecs),
        lineBytes ("frame_count:" ++ toString frameCount)) := by
  rw [footBytes_eq, splitLine?_lineBytes (isPlain_footLine _ (by decide) durationSecs)]
  rfl

/-- The foot heads no frame: the frames end where it begins. -/
theorem Frame.read?_footBytes (durationSecs frameCount : Nat) :
    Frame.read? (footBytes durationSecs frameCount) = .ok none := by
  -- the first letter tells, so the number need not be looked at
  have other : (encode framePrefix).isPrefixOf (encode ("end_time:" ++ toString durationSecs)) =
      false := by
    rw [encode_append]
    rfl
  rw [Frame.read?, splitLine?_footBytes]
  dsimp only
  rw [other]
  rfl

/-- The foot says how long the recording became, whatever the head said. -/
theorem Header.amendAll_footBytes {durationSecs frameCount : Nat}
    (lasting : durationSecs < UInt64.size) (count : frameCount < UInt64.size) (header : Header) :
    header.amendAll (footBytes durationSecs frameCount) =
      { header with endTime := some durationSecs, frameCount := some frameCount } := by
  have plainTime := isPlain_footLine "end_time" (by decide) durationSecs
  have plainCount := isPlain_footLine "frame_count" (by decide) frameCount
  have countLine : lines (lineBytes ("frame_count" ++ ":" ++ toString frameCount)) =
      [(encode ("frame_count" ++ ":" ++ toString frameCount), [])] := by
    rw [← List.append_nil (lineBytes _), lines_lineBytes plainCount, lines_nil]
  rw [amendAll, footBytes_eq, lines_lineBytes plainTime, countLine, List.foldl_cons,
    List.foldl_cons, List.foldl_nil, amendLine_encode plainTime (by decide),
    amendLine_encode plainCount (by decide)]
  simp only [amend, String.ofList_toList, number?_toString lasting, number?_toString count]

/-! ## Frames -/

theorem FrameHeader.toList_text (header : FrameHeader) :
    header.text.toList = framePrefix.toList ++
      (Decimal.digits header.elapsed ++ ':' :: Decimal.digits header.length) := by
  simp only [text, String.toList_append, toList_toString, List.append_assoc]
  rfl

theorem ne_colon_of_mem_digits {n : Nat} : ∀ c ∈ Decimal.digits n, (c == ':') = false := by
  refine beq_eq_false_of_not_mem fun mem ↦ ?_
  exact absurd (Decimal.isDigit_of_mem_digits mem) (by decide)

theorem FrameHeader.ofText?_text {header : FrameHeader} (elapsed : header.elapsed < UInt64.size)
    (length : header.length < UInt64.size) : ofText? header.text = some header := by
  have stripped : strip? framePrefix.toList header.text.toList =
      some (Decimal.digits header.elapsed ++ ':' :: Decimal.digits header.length) := by
    rw [header.toList_text, strip?, if_pos (List.isPrefixOf_iff_prefix.2 (List.prefix_append _ _)),
      List.drop_left]
  simp only [ofText?, stripped, cut?_append ne_colon_of_mem_digits (beq_self_eq_true ':'),
    Decimal.read?_digits elapsed, Decimal.read?_digits length, Option.bind_eq_bind,
    Option.bind_some, Option.pure_def]

theorem FrameHeader.isPlain_text (header : FrameHeader) : IsPlain header.text :=
  ((IsPlain.append (by decide) (isPlain_toString _)).append (by decide)).append
    (isPlain_toString _)

theorem FrameHeader.prefix_encode_text (header : FrameHeader) :
    encode framePrefix <+: encode header.text := by
  rw [text, encode_append, encode_append, encode_append, List.append_assoc, List.append_assoc]
  exact List.prefix_append _ _

/-- The bytes of a frame. -/
def Frame.written (frame : Frame) : Bytes :=
  lineBytes (FrameHeader.text ⟨frame.elapsed, frame.payload.length⟩) ++
    (frame.payload ++ [lineFeed])

@[simp] theorem flatten_framePieces (elapsed : Nat) (text : String) :
    (framePieces elapsed text).flatten = Frame.written ⟨elapsed, encode text⟩ := by
  rw [framePieces, List.flatten_append, flatten_linePieces, flatten_linePieces]
  rfl

/-- The numbers of a frame's header line fit in 64 bits. -/
def Frame.Fits (frame : Frame) : Prop :=
  frame.elapsed < UInt64.size ∧ frame.payload.length < UInt64.size

/-- A frame is read for what it is, whatever its bytes are. -/
theorem Frame.read?_written {frame : Frame} (fits : frame.Fits) (rest : Bytes) :
    Frame.read? (frame.written ++ rest) = .ok (some (frame, rest)) := by
  obtain ⟨elapsed, payload⟩ := frame
  have header : FrameHeader.ofLine (encode (FrameHeader.text ⟨elapsed, payload.length⟩)) =
      .ok ⟨elapsed, payload.length⟩ := by
    rw [FrameHeader.ofLine, decode?_encode]
    dsimp only
    rw [FrameHeader.parse, FrameHeader.ofText?_text fits.1 fits.2]
  have heads : (encode framePrefix).isPrefixOf
      (encode (FrameHeader.text ⟨elapsed, payload.length⟩)) = true :=
    List.isPrefixOf_iff_prefix.mpr (FrameHeader.prefix_encode_text _)
  have taken : take ⟨elapsed, payload.length⟩ (payload ++ ([lineFeed] ++ rest)) =
      .ok (⟨elapsed, payload⟩, rest) := by
    rw [take]
    dsimp only
    rw [List.take_left, if_neg (Nat.lt_irrefl _), List.drop_left]
    rfl
  rw [Frame.read?, written, List.append_assoc, List.append_assoc,
    splitLine?_lineBytes (FrameHeader.isPlain_text _)]
  dsimp only
  rw [heads, header]
  change (do return some (← take ⟨elapsed, payload.length⟩ _)) = _
  rw [taken]
  rfl

/-- Frames in a row are read in that row, up to the first place that has none. -/
theorem scan_written {frames : List Frame} (fit : ∀ frame ∈ frames, frame.Fits) {rest : Bytes}
    (ends : Frame.read? rest = .ok none) :
    scan (frames.flatMap Frame.written ++ rest) = ⟨frames, rest, none⟩ := by
  induction frames with
  | nil => exact scan_of_end ends
  | cons frame frames ih =>
    rw [List.flatMap_cons, List.append_assoc,
      scan_of_frame (Frame.read?_written (fit frame List.mem_cons_self) _),
      ih fun other mem ↦ fit other (List.mem_cons_of_mem frame mem)]

/-! ## The whole -/

/-- What a recording holds, whether it is finished or not. -/
structure Reel where
  /-- Where its file is. -/
  path : String
  /-- The date and time of its start. -/
  stamp : Stamp
  /-- When it was started, in milliseconds. -/
  startedAt : Nat
  /-- Its frames. -/
  frames : List Frame

namespace Reel

variable (reel : Reel)

/-- A frame comes after those that are there, with the time since the start. -/
def write (now : Nat) (text : String) : Reel :=
  { reel with frames := reel.frames ++ [⟨now - reel.startedAt, encode text⟩] }

/-- What is told of it when it is stopped. -/
def summary (now : Nat) : Summary :=
  ⟨reel.path, (now - reel.startedAt) / 1000, reel.frames.length⟩

/-- The bytes as long as it is open. -/
def bytes : Bytes := headBytes reel.stamp ++ reel.frames.flatMap Frame.written

/-- The bytes once it is stopped. -/
def fileBytes (now : Nat) : Bytes :=
  reel.bytes ++ footBytes (reel.summary now).durationSecs (reel.summary now).frameCount

/-- The frames and the foot. -/
def body (now : Nat) : Bytes :=
  reel.frames.flatMap Frame.written ++
    footBytes (reel.summary now).durationSecs (reel.summary now).frameCount

theorem fileBytes_eq (now : Nat) : reel.fileBytes now = headBytes reel.stamp ++ reel.body now :=
  List.append_assoc _ _ _

theorem length_payload_le {frame : Frame} (mem : frame ∈ reel.frames) (now : Nat) :
    frame.payload.length ≤ (reel.fileBytes now).length := by
  obtain ⟨before, after, split⟩ := List.append_of_mem mem
  rw [fileBytes, bytes, split, List.flatMap_append, List.flatMap_cons, Frame.written]
  simp only [List.length_append]
  omega

theorem length_frames_le (now : Nat) : reel.frames.length ≤ (reel.fileBytes now).length := by
  have each (frames : List Frame) : frames.length ≤ (frames.flatMap Frame.written).length := by
    induction frames with
    | nil => exact Nat.le_refl 0
    | cons frame frames ih =>
      rw [List.flatMap_cons, Frame.written]
      simp only [List.length_append, List.length_cons]
      omega
  have := each reel.frames
  rw [fileBytes, bytes, List.length_append, List.length_append]
  omega

end Reel

variable {reel : Reel} {now : Nat}

theorem Reel.read_fileBytes :
    Header.read (reel.fileBytes now) = .ok (headOf reel.stamp, reel.body now) := by
  rw [reel.fileBytes_eq]
  exact Header.read_headBytes _ _

theorem Reel.scan_body (fit : ∀ frame ∈ reel.frames, frame.Fits) :
    scan (reel.body now) =
      ⟨reel.frames,
        footBytes (reel.summary now).durationSecs (reel.summary now).frameCount, none⟩ :=
  scan_written fit (Frame.read?_footBytes _ _)

/-- A finished recording is summed up by what its foot says. -/
theorem Info.ofBytes_fileBytes (fit : ∀ frame ∈ reel.frames, frame.Fits)
    (lasting : (reel.summary now).durationSecs < UInt64.size)
    (count : (reel.summary now).frameCount < UInt64.size) (filename : String) :
    Info.ofBytes filename (reel.fileBytes now) = .ok
      { filename
        timestamp := some reel.stamp.text
        durationSecs := (reel.summary now).durationSecs
        frameCount := (reel.summary now).frameCount
        fileSize := (reel.fileBytes now).length } := by
  have foot := Header.amendAll_footBytes lasting count (headOf reel.stamp)
  simp only [Info.ofBytes, reel.read_fileBytes, bind, Except.bind, reel.scan_body fit, foot]
  rfl

end Glyphcast.Recording
