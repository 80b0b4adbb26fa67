import Glyphcast.Proofs.Recording.Cut
import Glyphcast.Proofs.Recording.RoundTrip

/-!
# Interrupted recordings

A recorder that is interrupted leaves a file that ends anywhere, and so does a copy of a finished
recording that is not whole. What is read of such a file is told here from what was recorded.

Playing it is safe: either the head is refused, or the frames that are found are the first of those
that were recorded, each with its text and its time, up to the last one whose text is there.

Summing it up is another matter. A summary asks for frames that read through to the foot, and where
the cut goes through a frame there is a fault. So the summary is there if the cut lies between two
frames, or so near behind one that nothing can be seen of the next, and is refused if it lies in the
middle of one, although the frames in front of it are as good as before.
-/

namespace Glyphcast.Recording

open Text

variable {reel : Reel} {saved : Bytes}

/-! ## Reading what is left -/

/-- What is read of the first bytes of a recording. -/
structure Survives (reel : Reel) (saved : Bytes) : Prop where
  /-- Without the whole tag nothing is read. -/
  untagged : saved.length < (encode tag).length →
    Header.read saved = .error (.badTag (decodeLossy saved))
  /-- Nor is anything without the whole marker; it is whole without the end of its line. -/
  unmarked : (encode tag).length ≤ saved.length →
    saved.length + 1 < (headBytes reel.stamp).length →
    Header.read saved = .error .missingFramesMarker
  /-- With both the head is read. -/
  head : (headBytes reel.stamp).length ≤ saved.length + 1 →
    Header.read saved = .ok (headOf reel.stamp, saved.drop (headBytes reel.stamp).length)
  /-- Then the frames are the first of those that were recorded, with their times and their bytes.
  Every frame whose text is in front of the cut is among them. -/
  frames : (headBytes reel.stamp).length ≤ saved.length + 1 → ∃ count rest fault,
    scan (saved.drop (headBytes reel.stamp).length) = ⟨reel.frames.take count, rest, fault⟩ ∧
    (∀ before frame after, reel.frames = before ++ frame :: after →
      (headBytes reel.stamp).length + (before.flatMap Frame.written).length +
        (lineBytes frame.header.text).length + frame.payload.length ≤ saved.length →
      before.length < count) ∧
    Ends rest fault

private theorem eq_take_of_left {data : Bytes} (left : saved <+: data) :
    saved = data.take saved.length :=
  List.prefix_iff_eq_take.mp left

private theorem Reel.drop_of_left {now : Nat} (left : saved <+: reel.fileBytes now) :
    saved.drop (headBytes reel.stamp).length =
      (reel.body now).take (saved.length - (headBytes reel.stamp).length) := by
  conv_lhs => rw [eq_take_of_left left]
  rw [List.drop_take, reel.fileBytes_eq, List.drop_left]

private theorem Reel.scansTo_of_left {now : Nat} (fit : ∀ frame ∈ reel.frames, frame.Fits)
    (left : saved <+: reel.fileBytes now) :
    ScansTo reel.frames (headBytes reel.stamp).length saved.length
      (scan (saved.drop (headBytes reel.stamp).length)) := by
  rw [Reel.drop_of_left left]
  exact scansTo_take fit (Frame.read?_footBytes _ _) _ _

private theorem Frame.needed_le_of_text (frame : Frame) :
    frame.needed ≤ (lineBytes frame.header.text).length + frame.payload.length := by
  rw [needed, length_lineBytes]
  split <;> omega

/-- Whatever is left of a recording survives. -/
theorem Reel.survives {now : Nat} (fit : ∀ frame ∈ reel.frames, frame.Fits)
    (left : saved <+: reel.fileBytes now) : Survives reel saved where
  untagged := by
    intro short
    have result := Header.read_take_of_untagged reel.stamp (reel.body now) short
    rwa [← reel.fileBytes_eq, ← eq_take_of_left left] at result
  unmarked := by
    intro long short
    have result := Header.read_take_of_unmarked (reel.body now) long short
    rwa [← reel.fileBytes_eq, ← eq_take_of_left left] at result
  head := by
    intro long
    have result := Header.read_take_of_marked (reel.body now) long
    rwa [← reel.fileBytes_eq, ← eq_take_of_left left, ← Reel.drop_of_left left] at result
  frames := by
    intro long
    have ends := ends_scan (saved.drop (headBytes reel.stamp).length)
    obtain ⟨⟨count, counts, found⟩, -, -⟩ := Reel.scansTo_of_left fit left
    refine ⟨count, _, _, ?_, ?_, ends⟩
    · rw [← found]
    · intro before frame after split whole
      have := frame.needed_le_of_text
      exact (counts.lt_iff before frame after split).mpr (by omega)

/-! ## Summing up what is left -/

/-- What is said of the first bytes of a recording, of which so many frames are whole. -/
structure Summarised (reel : Reel) (saved : Bytes) (count : Nat) : Prop where
  counts : Counts reel.frames (headBytes reel.stamp).length saved.length count
  /-- If the cut goes through no frame, the summary counts those that are whole, and the last of
  them tells the length. -/
  whole : ¬Torn reel.frames (headBytes reel.stamp).length saved.length → ∀ filename,
    Info.ofBytes filename saved = .ok
      { filename
        timestamp := some reel.stamp.text
        durationSecs := lastElapsed (reel.frames.take count) / 1000
        frameCount := count
        fileSize := saved.length }
  /-- If it goes through one, there is no summary. -/
  torn : Torn reel.frames (headBytes reel.stamp).length saved.length →
    ∃ fault, IsFrameFault fault ∧ ∀ filename, Info.ofBytes filename saved = .error fault

private theorem Header.amendAll_of_no_colon {line : String} (plain : IsPlain line)
    (free : ':' ∉ line.toList) (header : Header) : header.amendAll (encode line) = header := by
  by_cases none : encode line = []
  · rw [none, amendAll, lines_nil]
    rfl
  rw [amendAll, lines_of_splitLine? (splitLine?_of_no_lineFeed (lineFeed_not_mem plain) none),
    lines_nil]
  change header.amendLine (encode line) = header
  rw [amendLine, decodeLossy_encode plain, cut?_eq_none_iff.mpr (beq_eq_false_of_not_mem free)]

private theorem Header.amendAll_take_framePrefix {length : Nat}
    (part : length < (encode framePrefix).length) (header : Header) :
    header.amendAll ((encode framePrefix).take length) = header := by
  have plain : IsPlain framePrefix := by decide
  have word : framePrefix.toList = "frame".toList ++ [':'] := rfl
  have size : (encode framePrefix).length = "frame".toList.length + 1 := rfl
  rw [encode_take plain, word, List.take_append_of_le_length (by omega)]
  refine amendAll_of_no_colon ?_ ?_ header
  · intro c mem
    rw [String.toList_ofList] at mem
    exact plain c (word ▸ List.mem_append_left _ (List.mem_of_mem_take mem))
  · intro mem
    rw [String.toList_ofList] at mem
    exact absurd (List.mem_of_mem_take mem) (by decide)

/-- What is left of a recording without its foot is summed up by its whole frames, if it can be. -/
theorem Reel.exists_summarised {now : Nat} (fit : ∀ frame ∈ reel.frames, frame.Fits)
    (left : saved <+: reel.fileBytes now)
    (headed : (headBytes reel.stamp).length ≤ saved.length + 1)
    (footless : saved.length ≤ reel.bytes.length) : ∃ count, Summarised reel saved count := by
  have head := (reel.survives fit left).head headed
  have ends := ends_scan (saved.drop (headBytes reel.stamp).length)
  obtain ⟨⟨count, counts, found⟩, torn, leftover⟩ := Reel.scansTo_of_left fit left
  refine ⟨count, counts, fun untorn filename ↦ ?_, fun isTorn ↦ ?_⟩
  · have sound : (scan (saved.drop (headBytes reel.stamp).length)).fault = none := by
      by_contra fault
      exact untorn (torn.mp fault)
    rw [Reel.bytes, List.length_append] at footless
    obtain ⟨length, part, rest⟩ := leftover sound footless
    have same := Header.amendAll_take_framePrefix part (headOf reel.stamp)
    have size : (reel.frames.take count).length = count := by
      rw [List.length_take, Nat.min_eq_left counts.le_length]
    rw [Info.ofBytes, head]
    simp only [bind, Except.bind, sound, found, rest, same, size]
    rfl
  · rcases fault : (scan (saved.drop (headBytes reel.stamp).length)).fault with _ | error
    · exact absurd fault (torn.mpr isTorn)
    · rw [fault] at ends
      rcases ends with _ | ⟨-, kind⟩
      refine ⟨error, kind, fun filename ↦ ?_⟩
      rw [Info.ofBytes, head]
      simp only [bind, Except.bind, fault]
      rfl

/-! ## What a recorder leaves -/

namespace Recorder

variable {recorder : Recorder} {start : Nat} {stamp : Stamp} {path : String}
  {writes : List (Nat × String)}

/-- A recorder that has recorded texts, each at its time, and was stopped, or was not. -/
def leave (recorder : Recorder) (start : Nat) (stamp : Stamp) (writes : List (Nat × String)) :
    (stop? : Option Nat) → Recorder
  | none => (recorder.start start stamp).2.writeAll writes
  | some stop => (recorder.record start stamp writes stop).2

private theorem read_leave (started : (recorder.start start stamp).1 = .ok path)
    (writes : List (Nat × String)) (stop : Nat) :
    (recorder.leave start stamp writes (some stop)).folder.disk.read path =
      .ok (Reel.fileBytes ⟨path, stamp, start, framesSince start writes⟩ stop) :=
  (record_eq started writes stop).2

/-- In any case it holds the first bytes of it. -/
theorem exists_left (started : (recorder.start start stamp).1 = .ok path)
    (writes : List (Nat × String)) (stop? : Option Nat) :
    ∃ data now, (recorder.leave start stamp writes stop?).folder.disk.read path = .ok data ∧
      data <+: Reel.fileBytes ⟨path, stamp, start, framesSince start writes⟩ now := by
  rcases stop? with _ | stop
  · have records : Records _ ⟨path, stamp, start, framesSince start writes⟩ :=
      (records_start started).writeAll writes
    obtain ⟨active, -, -, samePath, -, sent, read, whole⟩ := records
    rw [Folder.read, samePath] at read
    have front : sent <+: Reel.bytes ⟨path, stamp, start, framesSince start writes⟩ :=
      ⟨active.buffer.held, whole⟩
    exact ⟨sent, 0, read, front.trans (List.prefix_append _ _)⟩
  · exact ⟨_, stop, read_leave started writes stop, List.prefix_refl _⟩

private theorem fits_of_writes (fits : ∀ write ∈ writes,
    write.1 - start < UInt64.size ∧ write.2.utf8ByteSize < UInt64.size) :
    ∀ frame ∈ framesSince start writes, frame.Fits := by
  intro frame mem
  obtain ⟨write, written, rfl⟩ := List.mem_map.mp mem
  exact fits write written

/-- Of a recording that is cut off anywhere, finished or not, no frame is read that was not
recorded, and none is missing whose text is there. -/
theorem survives_leave (started : (recorder.start start stamp).1 = .ok path)
    (fits : ∀ write ∈ writes,
      write.1 - start < UInt64.size ∧ write.2.utf8ByteSize < UInt64.size) (stop? : Option Nat) :
    ∃ data, (recorder.leave start stamp writes stop?).folder.disk.read path = .ok data ∧
      ∀ cut, Survives ⟨path, stamp, start, framesSince start writes⟩ (data.take cut) := by
  obtain ⟨data, now, read, front⟩ := exists_left started writes stop?
  exact ⟨data, read, fun cut ↦
    Reel.survives (fits_of_writes fits) ((List.take_prefix cut data).trans front)⟩

/-- Texts that read like parts of a recording. -/
theorem survives_lookalikes :
    let recorder : Recorder := { folder := { path := "" } }
    let stamp : Stamp := ⟨2024, 5, 1, 12, 0, 0⟩
    let writes :=
      [(1000, "frames:\nframe:1:2\r\n"), (1000, ""), (2500, "end_time:9\nframe_count:7")]
    let path := "ascii_stream_20240501_120000.asr"
    ∃ data, (recorder.leave 1000 stamp writes (some 3000)).folder.disk.read path = .ok data ∧
      ∀ cut, Survives ⟨path, stamp, 1000, framesSince 1000 writes⟩ (data.take cut) := by
  intro recorder stamp writes path
  have started : (recorder.start 1000 stamp).1 = .ok path := by decide +kernel
  exact survives_leave started (by decide) (some 3000)

/-- Of a recording that is cut off in front of its foot, finished or not, the whole frames are
summed up, unless the cut goes through a frame. -/
theorem summarised_leave (started : (recorder.start start stamp).1 = .ok path)
    (fits : ∀ write ∈ writes,
      write.1 - start < UInt64.size ∧ write.2.utf8ByteSize < UInt64.size) (stop? : Option Nat) :
    ∃ data, (recorder.leave start stamp writes stop?).folder.disk.read path = .ok data ∧
      ∀ cut, (headBytes stamp).length ≤ (data.take cut).length + 1 →
        (data.take cut).length ≤
          (Reel.bytes ⟨path, stamp, start, framesSince start writes⟩).length →
        ∃ count,
          Summarised ⟨path, stamp, start, framesSince start writes⟩ (data.take cut) count := by
  obtain ⟨data, now, read, front⟩ := exists_left started writes stop?
  exact ⟨data, read, fun cut headed footless ↦
    Reel.exists_summarised (fits_of_writes fits) ((List.take_prefix cut data).trans front)
      headed footless⟩

/-- Of the second frame only three letters are left. They say nothing. -/
theorem summarised_cut_word :
    let recorder : Recorder := { folder := { path := "" } }
    let stamp : Stamp := ⟨2024, 5, 1, 12, 0, 0⟩
    let writes := [(2200, "first"), (3500, "second")]
    let reel : Reel := ⟨"ascii_stream_20240501_120000.asr", stamp, 1000, framesSince 1000 writes⟩
    ∃ data, (recorder.leave 1000 stamp writes (some 4000)).folder.disk.read reel.path = .ok data ∧
      ∃ count, Summarised reel (data.take 92) count := by
  intro recorder stamp writes reel
  have started : (recorder.start 1000 stamp).1 = .ok reel.path := by decide +kernel
  have fits : ∀ write ∈ writes,
      write.1 - 1000 < UInt64.size ∧ write.2.utf8ByteSize < UInt64.size := by decide
  obtain ⟨data, file, all⟩ := summarised_leave started fits (some 4000)
  obtain rfl : data = reel.fileBytes 4000 :=
    Except.ok.inj (file.symm.trans (read_leave started writes 4000))
  exact ⟨_, file, all 92 (by decide +kernel) (by decide +kernel)⟩

/-- Of the second frame half of the text is left. The first one is whole, and there is no
summary. -/
theorem no_summary_of_cut_text :
    let recorder : Recorder := { folder := { path := "" } }
    let stamp : Stamp := ⟨2024, 5, 1, 12, 0, 0⟩
    let writes := [(2200, "first"), (3500, "second")]
    let reel : Reel := ⟨"ascii_stream_20240501_120000.asr", stamp, 1000, framesSince 1000 writes⟩
    ∃ data, (recorder.leave 1000 stamp writes (some 4000)).folder.disk.read reel.path = .ok data ∧
      (headBytes stamp).length ≤ (data.take 105).length ∧
      (data.take 105).length ≤ reel.bytes.length ∧
      Counts reel.frames (headBytes stamp).length (data.take 105).length 1 ∧
      Info.ofBytes "cut.asr" (data.take 105) = .error (.truncated 6 3) := by
  intro recorder stamp writes reel
  have started : (recorder.start 1000 stamp).1 = .ok reel.path := by decide +kernel
  have file := read_leave started writes 4000
  have cut : ((reel.fileBytes 4000).take 105).length = 105 := by decide +kernel
  have counts : Counts reel.frames (headBytes stamp).length 105 1 := by
    refine .succ (.zero ?_) (by decide +kernel)
    rintro _ ⟨⟩
    decide +kernel
  refine ⟨reel.fileBytes 4000, file, ?_, ?_, ?_, by decide +kernel⟩
  · rw [cut]
    decide +kernel
  · rw [cut]
    decide +kernel
  · rw [cut]
    exact counts

end Recorder

end Glyphcast.Recording
