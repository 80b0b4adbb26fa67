import Glyphcast.Proofs.Recording.Disk
import Glyphcast.Proofs.Recording.Written

/-!
# What a recorder leaves behind

A recording goes to its file in pieces and through a buffer, so while it is open its file may hold
less than was written. What the file and the buffer hold together is always the whole recording so
far: its head and its frames. A stop adds the foot and sends the rest, and then the file alone
holds all of it.
-/

namespace Glyphcast.Recording

open Text

namespace Folder

variable {folder after : Folder} {name : String}

private theorem read_append {data : Bytes} (h : folder.read name = .ok data) (bytes : Bytes) :
    (folder.append name bytes).read name = .ok (data ++ bytes) :=
  Disk.read_extend h bytes

theorem disk_of_createNew (h : folder.createNew name = .ok after) :
    ∃ disk, folder.disk.createNew (folder.pathOf name) = .ok disk ∧
      after = { folder with disk } := by
  unfold createNew at h
  cases made : folder.disk.createNew (folder.pathOf name) with
  | error cause =>
    rw [made] at h
    nomatch h
  | ok disk =>
    rw [made] at h
    cases h
    exact ⟨disk, rfl, rfl⟩

theorem read_createNew (h : folder.createNew name = .ok after) :
    after.read name = .ok [] := by
  obtain ⟨disk, made, rfl⟩ := disk_of_createNew h
  exact Disk.read_createNew made

end Folder

namespace Recorder

/-! ## An open recording -/

/-- What has reached the file and what is held, put together, are these bytes. -/
def Holds (folder : Folder) (name : String) (buffer : WriteBuffer) (bytes : Bytes) : Prop :=
  ∃ sent, folder.read name = .ok sent ∧ sent ++ buffer.held = bytes

variable {recorder : Recorder} {stamp : Stamp} {active : Active} {reel : Reel}
  {folder : Folder} {name : String} {buffer : WriteBuffer} {bytes : Bytes}

theorem Holds.pushAll (h : Holds folder name buffer bytes) (pieces : List Bytes) :
    Holds (folder.append name (buffer.pushAll pieces).1) name (buffer.pushAll pieces).2
      (bytes ++ pieces.flatten) := by
  obtain ⟨sent, read, rfl⟩ := h
  refine ⟨_, Folder.read_append read _, ?_⟩
  rw [List.append_assoc, List.append_assoc, buffer.pushAll_append pieces]

/-- Sending what is held puts all of it into the file. -/
theorem Holds.flush (h : Holds folder name buffer bytes) :
    (folder.append name buffer.held).read name = .ok bytes := by
  obtain ⟨sent, read, rfl⟩ := h
  exact Folder.read_append read buffer.held

theorem send_eq (folder : Folder) (active : Active) (pieces : List Bytes) :
    send folder active pieces =
      (folder.append active.name (active.buffer.pushAll pieces).1,
        { active with buffer := (active.buffer.pushAll pieces).2 }) := by
  unfold send
  rfl

/-- A recording is open, and this is what it holds. -/
structure Records (recorder : Recorder) (reel : Reel) : Prop where
  active : ∃ active, recorder.active = some active ∧ active.startedAt = reel.startedAt ∧
    recorder.folder.pathOf active.name = reel.path ∧ active.frames = reel.frames.length ∧
    Holds recorder.folder active.name active.buffer reel.bytes

private theorem read_createFirst {stem : String} {names : List String} {after : Folder}
    (h : createFirst folder stem names = .ok (name, after)) : Holds after name {} [] := by
  induction names with
  | nil => nomatch h
  | cons first rest ih =>
    unfold createFirst at h
    split at h
    · next made =>
      cases h
      exact ⟨[], Folder.read_createNew made, rfl⟩
    · exact ih h
    · nomatch h

theorem records_start {now : Nat} {path : String}
    (started : (recorder.start now stamp).1 = .ok path) :
    (recorder.start now stamp).2.Records ⟨path, stamp, now, []⟩ := by
  unfold start at started ⊢
  split at started
  · nomatch started
  next idle =>
  rw [if_neg idle]
  split at started
  · nomatch started
  split at started
  · nomatch started
  next name made created =>
  have grown := (read_createFirst created).pushAll (headPieces stamp)
  rw [List.nil_append, ← headBytes] at grown
  simp only [send_eq] at started ⊢
  refine ⟨_, rfl, rfl, Except.ok.inj started, rfl, ?_⟩
  rw [Reel.bytes, List.flatMap_nil, List.append_nil]
  dsimp only
  exact grown

theorem write_of_active (h : recorder.active = some active) (now : Nat) (text : String) :
    recorder.write now text =
      { folder := recorder.folder.append active.name
          (active.buffer.pushAll (framePieces (now - active.startedAt) text)).1
        active := some
          { active with
            frames := active.frames + 1
            buffer :=
              (active.buffer.pushAll (framePieces (now - active.startedAt) text)).2 } } := by
  unfold Recorder.write
  rw [h]
  simp only [send_eq]

theorem Records.write (h : recorder.Records reel) (now : Nat) (text : String) :
    (recorder.write now text).Records (reel.write now text) := by
  obtain ⟨active, opened, started, path, count, holds⟩ := h
  have grown := holds.pushAll (framePieces (now - active.startedAt) text)
  rw [flatten_framePieces, started, Reel.bytes, List.append_assoc,
    ← List.flatMap_singleton Frame.written, ← List.flatMap_append] at grown
  rw [write_of_active opened]
  refine ⟨_, rfl, started, path, ?_, ?_⟩
  · rw [Reel.write, List.length_append, ← count]
    dsimp only [List.length_singleton]
  · dsimp only
    rw [started]
    exact grown

/-- Write texts, each at its time. -/
def writeAll (recorder : Recorder) (writes : List (Nat × String)) : Recorder :=
  writes.foldl (fun recorder write ↦ recorder.write write.1 write.2) recorder

/-- Texts that are written come one after the other, after the frames that are there. -/
theorem Records.writeAll (h : recorder.Records reel) (writes : List (Nat × String)) :
    (recorder.writeAll writes).Records
      { reel with
        frames := reel.frames ++ writes.map fun write ↦
          ⟨write.1 - reel.startedAt, encode write.2⟩ } := by
  induction writes generalizing recorder reel with
  | nil =>
    rw [List.map_nil, List.append_nil]
    exact h
  | cons write writes ih =>
    have later := ih (h.write write.1 write.2)
    rw [Reel.write, List.append_assoc] at later
    exact later

theorem stop_of_active (h : recorder.active = some active) (now : Nat) :
    recorder.stop now =
      let pieces := footPieces ((now - active.startedAt) / 1000) active.frames
      (some ⟨recorder.folder.pathOf active.name, (now - active.startedAt) / 1000, active.frames⟩,
        { folder := (recorder.folder.append active.name (active.buffer.pushAll pieces).1).append
            active.name (active.buffer.pushAll pieces).2.held
          active := none }) := by
  unfold Recorder.stop
  rw [h]
  simp only [send_eq]
  rfl

/-- A recording that is stopped is complete: its file holds its head, its frames and a foot that
tells its length and the number of its frames. -/
theorem Records.stop (h : recorder.Records reel) (now : Nat) :
    (recorder.stop now).1 = some (reel.summary now) ∧ (recorder.stop now).2.active = none ∧
      (recorder.stop now).2.folder.disk.read reel.path = .ok (reel.fileBytes now) := by
  obtain ⟨active, opened, started, path, count, holds⟩ := h
  have complete := (holds.pushAll (footPieces ((now - active.startedAt) / 1000)
    active.frames)).flush
  rw [stop_of_active opened, ← path, Reel.fileBytes, Reel.summary, footBytes, ← started, ← count,
    ← path]
  exact ⟨rfl, rfl, complete⟩

end Recorder

end Glyphcast.Recording
