import Glyphcast.Proofs.Recording.Recorder

/-!
# The round trip

A finished recording is read from front to back by the functions that list recordings and play
them. What they find is what was written, whatever the texts were: the head, the frames with their
times, the foot with the length and the number of frames.

Only two things are asked. The clock that stamps the frames counts milliseconds in 64 bits and does
not go back, and the file is one that a disk can hold, so that its length is a number of 64 bits,
too. The second takes care of every other number in the file: no text is longer than the file, and
there are no more frames than bytes.
-/

namespace Glyphcast.Recording

open Text

/-- What the readers find in a file, each from where the one before it stopped. -/
structure Restored (startedAt : Nat) (stamp : Stamp) (writes : List (Nat × String))
    (summary : Summary) (data body foot : Bytes) (frames : List Frame) : Prop where
  /-- The head tells the version and the start, and nothing of the end. -/
  head : Header.read data =
    .ok ({ version := some "1.0", timestamp := some stamp.text, endTime := none,
           frameCount := none }, body)
  /-- Frame after frame is read, up to the foot and without an error. -/
  scan_eq : scan body = ⟨frames, foot, none⟩
  /-- The frames are those that were written, each with its text and its time. -/
  frames_eq : frames.map (fun frame ↦ (frame.elapsed, decode? frame.payload)) =
    writes.map fun write ↦ (write.1 - startedAt, some write.2)
  /-- The times do not go back. -/
  sorted : frames.Pairwise fun earlier later ↦ earlier.elapsed ≤ later.elapsed
  /-- The frames end at the first line of the foot. -/
  ends : Frame.read? foot = .ok none ∧
    ∃ rest, splitLine? foot = some (encode ("end_time:" ++ toString summary.durationSecs), rest)
  /-- The foot tells the length and the number of frames. -/
  foot_eq : ∀ header : Header, header.amendAll foot =
    { header with endTime := some summary.durationSecs, frameCount := some summary.frameCount }
  /-- The file is summed up as the recorder summed it up. -/
  info : ∀ filename, Info.ofBytes filename data = .ok
    { filename
      timestamp := some stamp.text
      durationSecs := summary.durationSecs
      frameCount := summary.frameCount
      fileSize := data.length }

/-- The frames that come of texts, each written at its time. -/
def framesSince (startedAt : Nat) (writes : List (Nat × String)) : List Frame :=
  writes.map fun write ↦ ⟨write.1 - startedAt, encode write.2⟩

variable {start stop : Nat} {writes : List (Nat × String)}

/-- Every frame has its text and its time. -/
theorem map_framesSince : (framesSince start writes).map
    (fun frame ↦ (frame.elapsed, decode? frame.payload)) =
      writes.map fun write ↦ (write.1 - start, some write.2) := by
  rw [framesSince, List.map_map]
  exact List.map_congr_left fun write _ ↦ congrArg (Prod.mk _) (decode?_encode write.2)

private theorem fits_framesSince {length : Nat} (within : ∀ write ∈ writes, write.1 ≤ stop)
    (short : stop - start < UInt64.size) (room : length < UInt64.size)
    (held : ∀ frame ∈ framesSince start writes, frame.payload.length ≤ length) :
    ∀ frame ∈ framesSince start writes, frame.Fits := by
  intro frame mem
  have payload := Nat.lt_of_le_of_lt (held frame mem) room
  obtain ⟨write, written, rfl⟩ := List.mem_map.1 mem
  have := within write written
  refine ⟨?_, payload⟩
  dsimp only
  omega

/-- Times that do not go back are not brought to do so by counting from the start. -/
theorem sorted_framesSince (ordered : (writes.map (·.1)).Pairwise (· ≤ ·)) :
    (framesSince start writes).Pairwise fun earlier later ↦ earlier.elapsed ≤ later.elapsed := by
  rw [framesSince, List.pairwise_map]
  rw [List.pairwise_map] at ordered
  exact ordered.imp fun order ↦ Nat.sub_le_sub_right order start

namespace Recorder

variable {recorder : Recorder} {stamp : Stamp} {path : String}

/-- Record texts, each at its time, from a start to a stop. -/
def record (recorder : Recorder) (start : Nat) (stamp : Stamp) (writes : List (Nat × String))
    (stop : Nat) : Option Summary × Recorder :=
  ((recorder.start start stamp).2.writeAll writes).stop stop

/-- What a finished recording holds. -/
theorem record_eq (started : (recorder.start start stamp).1 = .ok path)
    (writes : List (Nat × String)) (stop : Nat) :
    let reel : Reel := ⟨path, stamp, start, framesSince start writes⟩
    (recorder.record start stamp writes stop).1 = some (reel.summary stop) ∧
      (recorder.record start stamp writes stop).2.folder.disk.read path =
        .ok (reel.fileBytes stop) := by
  intro reel
  have records : ((recorder.start start stamp).2.writeAll writes).Records reel :=
    (records_start started).writeAll writes
  obtain ⟨told, -, file⟩ := records.stop stop
  exact ⟨told, file⟩

/-- What was recorded is read back: the texts in their order and with their times, and of the whole
what the recorder itself told when it was stopped. -/
theorem restored_of_record (started : (recorder.start start stamp).1 = .ok path)
    (ordered : (start :: (writes.map (·.1) ++ [stop])).Pairwise (· ≤ ·))
    (within : stop - start < UInt64.size)
    (room : ∀ data, (recorder.record start stamp writes stop).2.folder.disk.read path = .ok data →
      data.length < UInt64.size) :
    ∃ summary data body foot frames,
      (recorder.record start stamp writes stop).1 = some summary ∧
      summary.path = path ∧ summary.durationSecs = (stop - start) / 1000 ∧
      summary.frameCount = writes.length ∧
      (recorder.record start stamp writes stop).2.folder.disk.read path = .ok data ∧
      Restored start stamp writes summary data body foot frames := by
  obtain ⟨inOrder, inTime⟩ : (writes.map (·.1)).Pairwise (· ≤ ·) ∧
      ∀ write ∈ writes, write.1 ≤ stop := by
    rw [List.pairwise_cons, List.pairwise_append] at ordered
    refine ⟨ordered.2.1, fun write mem ↦ ?_⟩
    exact ordered.2.2.2 _ (List.mem_map_of_mem mem) stop List.mem_cons_self
  let reel : Reel := ⟨path, stamp, start, framesSince start writes⟩
  obtain ⟨told, file⟩ := record_eq started writes stop
  have size : (reel.fileBytes stop).length < UInt64.size := room _ file
  have fit : ∀ frame ∈ reel.frames, frame.Fits :=
    fits_framesSince inTime within size fun frame mem ↦ reel.length_payload_le mem stop
  have lasting : (reel.summary stop).durationSecs < UInt64.size :=
    Nat.lt_of_le_of_lt (Nat.div_le_self _ _) within
  have count : (reel.summary stop).frameCount < UInt64.size :=
    Nat.lt_of_le_of_lt (reel.length_frames_le stop) size
  exact ⟨reel.summary stop, reel.fileBytes stop, reel.body stop, _, reel.frames, told, rfl, rfl,
    List.length_map _, file,
    { head := reel.read_fileBytes
      scan_eq := reel.scan_body fit
      frames_eq := map_framesSince
      sorted := sorted_framesSince inOrder
      ends := ⟨Frame.read?_footBytes _ _, _, splitLine?_footBytes _ _⟩
      foot_eq := Header.amendAll_footBytes lasting count
      info := Info.ofBytes_fileBytes fit lasting count }⟩

/-- Texts that read like parts of a recording. -/
theorem restored_lookalikes :
    let recorder : Recorder := { folder := { path := "" } }
    let stamp : Stamp := ⟨2024, 5, 1, 12, 0, 0⟩
    let writes :=
      [(1000, "frames:\nframe:1:2\r\n"), (1000, ""), (2500, "end_time:9\nframe_count:7")]
    ∃ summary data body foot frames,
      (recorder.record 1000 stamp writes 3000).1 = some summary ∧
      summary.durationSecs = 2 ∧ summary.frameCount = 3 ∧
      (recorder.record 1000 stamp writes 3000).2.folder.disk.read
        "ascii_stream_20240501_120000.asr" = .ok data ∧
      Restored 1000 stamp writes summary data body foot frames := by
  intro recorder stamp writes
  have started : (recorder.start 1000 stamp).1 = .ok "ascii_stream_20240501_120000.asr" := by
    decide +kernel
  have ordered : (1000 :: (writes.map (·.1) ++ [3000])).Pairwise (· ≤ ·) := by decide
  have room : ∀ data, (recorder.record 1000 stamp writes 3000).2.folder.disk.read
      "ascii_stream_20240501_120000.asr" = .ok data → data.length < UInt64.size := by
    intro data file
    cases file.symm.trans (record_eq started writes 3000).2
    decide +kernel
  obtain ⟨summary, data, body, foot, frames, told, -, duration, count, file, restored⟩ :=
    restored_of_record started ordered (by decide) room
  exact ⟨summary, data, body, foot, frames, told, duration, count, file, restored⟩

end Recorder

end Glyphcast.Recording
