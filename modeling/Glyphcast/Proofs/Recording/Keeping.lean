import Glyphcast.Proofs.Recording.Recorder

/-!
# What becomes of a recording

A recorder opens one recording after another in the same folder. What it does to the one that is
open is told in `Records`; here the rest is told, that whatever it does it does to no other file.
So a recording that was open at some time is still open, with the frames that it had then and those
that came since, or its file is whole and stays as it is.

That a new recording takes nothing from an old one rests on two facts: its file is made where
nothing was, and paths go on leading where they led.
-/

namespace Glyphcast.Recording

/-! ## Longer recordings -/

/-- The same recording, with more frames at its end or none. -/
structure Reel.Extends (reel longer : Reel) : Prop where
  path : longer.path = reel.path
  stamp : longer.stamp = reel.stamp
  startedAt : longer.startedAt = reel.startedAt
  frames : reel.frames <+: longer.frames

theorem Reel.Extends.refl (reel : Reel) : reel.Extends reel :=
  ⟨rfl, rfl, rfl, List.prefix_refl reel.frames⟩

theorem Reel.Extends.write {reel longer : Reel} (h : reel.Extends longer) (now : Nat)
    (text : String) : reel.Extends (longer.write now text) :=
  ⟨h.path, h.stamp, h.startedAt, h.frames.trans (List.prefix_append longer.frames _)⟩

namespace Recorder

/-! ## What a recorder does -/

/-- Something that a recorder does. -/
inductive Deed where
  /-- It opens a recording. -/
  | start (now : Nat) (stamp : Stamp)
  /-- It adds a frame. -/
  | write (now : Nat) (text : String)
  /-- It finishes the recording. -/
  | stop (now : Nat)

/-- The recorder afterwards. -/
def perform (recorder : Recorder) : Deed → Recorder
  | .start now stamp => (recorder.start now stamp).2
  | .write now text => recorder.write now text
  | .stop now => (recorder.stop now).2

/-- The recorder after some deeds. -/
def performAll (recorder : Recorder) (deeds : List Deed) : Recorder :=
  deeds.foldl perform recorder

theorem performAll_append (recorder : Recorder) (first rest : List Deed) :
    recorder.performAll (first ++ rest) = (recorder.performAll first).performAll rest :=
  List.foldl_append

variable {recorder : Recorder} {reel : Reel} {path : String} {data : Bytes}

theorem start_of_recording (h : recorder.isRecording = true) (now : Nat) (stamp : Stamp) :
    (recorder.start now stamp).2 = recorder := by
  unfold start
  rw [if_pos h]

theorem write_of_idle (h : recorder.active = none) (now : Nat) (text : String) :
    recorder.write now text = recorder := by
  unfold Recorder.write
  rw [h]

theorem stop_of_idle (h : recorder.active = none) (now : Nat) :
    (recorder.stop now).2 = recorder := by
  unfold Recorder.stop
  rw [h]

/-- A stop leaves no recording open. -/
@[simp]
theorem active_stop (recorder : Recorder) (now : Nat) : (recorder.stop now).2.active = none := by
  cases opened : recorder.active with
  | none => rwa [stop_of_idle opened]
  | some active => rw [stop_of_active opened]

/-! ## Finished files -/

/-- A file of these bytes lies at this path, and the open recording is not written into it. -/
structure Sealed (recorder : Recorder) (path : String) (data : Bytes) : Prop where
  read : recorder.folder.disk.read path = .ok data
  apart : ∀ active, recorder.active = some active →
    recorder.folder.disk.Apart path (recorder.folder.pathOf active.name)

private theorem apart_createFirst {folder after : Folder} {stem name : String} {names : List String}
    (h : createFirst folder stem names = .ok (name, after))
    (held : folder.disk.read path = .ok data) :
    after.disk.read path = .ok data ∧ after.disk.Apart path (after.pathOf name) := by
  induction names with
  | nil => nomatch h
  | cons candidate rest ih =>
    unfold createFirst at h
    split at h
    · next made =>
      cases h
      obtain ⟨disk, created, rfl⟩ := Folder.disk_of_createNew made
      exact ⟨(Disk.grows_createNew created).read held, Disk.apart_createNew held created⟩
    · exact ih h
    · nomatch h

theorem Sealed.start (h : recorder.Sealed path data) (now : Nat) (stamp : Stamp) :
    (recorder.start now stamp).2.Sealed path data := by
  unfold Recorder.start
  split
  · exact h
  next idle =>
  have none_open (active : Active) (opened : recorder.active = some active) : False := by
    rw [isRecording, opened] at idle
    exact idle rfl
  unfold Folder.ensure
  cases ensured : recorder.folder.disk.createDirectory recorder.folder.path with
  | error cause => exact h
  | ok disk =>
    have held := (Disk.grows_createDirectory ensured).read h.read
    dsimp only [Except.map]
    split
    · exact ⟨held, fun active opened ↦ (none_open active opened).elim⟩
    next name made created =>
    -- the head of the new recording goes into its own file
    obtain ⟨read, apart⟩ := apart_createFirst created held
    simp only [send_eq]
    refine ⟨Disk.read_extend_of_apart apart read _, fun active opened ↦ ?_⟩
    cases opened
    exact apart.extend _ _

theorem Sealed.write (h : recorder.Sealed path data) (now : Nat) (text : String) :
    (recorder.write now text).Sealed path data := by
  cases opened : recorder.active with
  | none => rwa [write_of_idle opened]
  | some active =>
    have apart := h.apart active opened
    rw [write_of_active opened]
    refine ⟨Disk.read_extend_of_apart apart h.read _, fun other same ↦ ?_⟩
    cases same
    exact apart.extend _ _

theorem Sealed.stop (h : recorder.Sealed path data) (now : Nat) :
    (recorder.stop now).2.Sealed path data := by
  cases opened : recorder.active with
  | none => rwa [stop_of_idle opened]
  | some active =>
    have apart := h.apart active opened
    rw [stop_of_active opened]
    refine ⟨?_, nofun⟩
    -- the foot is sent, and then what the buffer still holds
    exact Disk.read_extend_of_apart (apart.extend _ _)
      (Disk.read_extend_of_apart apart h.read _) _

/-- Whatever a recorder does, a finished file stays as it is. -/
theorem Sealed.perform (h : recorder.Sealed path data) (deed : Deed) :
    (recorder.perform deed).Sealed path data := by
  cases deed with
  | start now stamp => exact h.start now stamp
  | write now text => exact h.write now text
  | stop now => exact h.stop now

theorem Sealed.performAll (h : recorder.Sealed path data) (deeds : List Deed) :
    (recorder.performAll deeds).Sealed path data := by
  induction deeds generalizing recorder with
  | nil => exact h
  | cons deed deeds ih => exact ih (h.perform deed)

/-! ## Where it records -/

private theorem path_createFirst {folder after : Folder} {stem name : String} {names : List String}
    (h : createFirst folder stem names = .ok (name, after)) : after.path = folder.path := by
  induction names with
  | nil => cases h
  | cons first names ih =>
    unfold createFirst at h
    split at h
    · next made =>
      cases h
      obtain ⟨disk, -, rfl⟩ := Folder.disk_of_createNew made
      rfl
    · exact ih h
    · cases h

@[simp] private theorem path_start (recorder : Recorder) (now : Nat) (stamp : Stamp) :
    (recorder.start now stamp).2.folder.path = recorder.folder.path := by
  unfold Recorder.start Folder.ensure
  split_ifs
  · rfl
  · rcases recorder.folder.disk.createDirectory recorder.folder.path with cause | disk
    · rfl
    · dsimp only [Except.map]
      rcases created : createFirst { recorder.folder with disk } stamp.stem
        (candidates stamp.stem) with cause | ⟨name, folder⟩
      · rfl
      · have same := path_createFirst created
        simp only [send_eq]
        exact same

@[simp] private theorem path_perform (recorder : Recorder) (deed : Deed) :
    (recorder.perform deed).folder.path = recorder.folder.path := by
  cases deed with
  | start now stamp => exact recorder.path_start now stamp
  | write now text =>
    cases opened : recorder.active with
    | none => rw [Recorder.perform, write_of_idle opened]
    | some active =>
      rw [Recorder.perform, write_of_active opened]
      rfl
  | stop now =>
    cases opened : recorder.active with
    | none => rw [Recorder.perform, stop_of_idle opened]
    | some active =>
      rw [Recorder.perform, stop_of_active opened]
      rfl

@[simp] theorem path_performAll (recorder : Recorder) (deeds : List Deed) :
    (recorder.performAll deeds).folder.path = recorder.folder.path := by
  induction deeds generalizing recorder with
  | nil => rfl
  | cons deed deeds ih => exact (ih (recorder.perform deed)).trans (recorder.path_perform deed)

/-! ## Open recordings -/

theorem Records.isRecording (h : recorder.Records reel) : recorder.isRecording = true := by
  obtain ⟨active, opened, -⟩ := h
  rw [Recorder.isRecording, opened]
  rfl

/-- Where a path is told a recording is open. -/
theorem isRecording_of_told (told : recorder.currentPath? = some path) :
    recorder.isRecording = true := by
  obtain ⟨active, opened, -⟩ := Option.map_eq_some_iff.mp told
  rw [Recorder.isRecording, opened]
  rfl

theorem Records.currentPath? (h : recorder.Records reel) :
    recorder.currentPath? = some reel.path := by
  obtain ⟨active, opened, -, path, -⟩ := h
  rw [Recorder.currentPath?, opened, Option.map_some, path]

theorem Records.sealed_stop (h : recorder.Records reel) (now : Nat) :
    (recorder.stop now).2.Sealed reel.path (reel.fileBytes now) where
  read := (h.stop now).2.2
  apart := fun active opened ↦ by
    rw [active_stop] at opened
    nomatch opened

/-- A recording goes on after what it holds here, or it has been finished. -/
def Keeps (recorder : Recorder) (reel : Reel) : Prop :=
  ∃ longer, reel.Extends longer ∧
    (recorder.Records longer ∨ ∃ now, recorder.Sealed longer.path (longer.fileBytes now))

theorem Records.keeps (h : recorder.Records reel) : recorder.Keeps reel :=
  ⟨reel, Reel.Extends.refl reel, .inl h⟩

theorem Keeps.perform (h : recorder.Keeps reel) (deed : Deed) :
    (recorder.perform deed).Keeps reel := by
  obtain ⟨longer, grown, goesOn | ⟨now, done⟩⟩ := h
  · cases deed with
    | start now stamp =>
      refine ⟨longer, grown, .inl ?_⟩
      rwa [Recorder.perform, start_of_recording goesOn.isRecording]
    | write now text => exact ⟨_, grown.write now text, .inl (goesOn.write now text)⟩
    | stop now => exact ⟨longer, grown, .inr ⟨now, goesOn.sealed_stop now⟩⟩
  · exact ⟨longer, grown, .inr ⟨now, done.perform deed⟩⟩

/-- Whatever a recorder does, a recording that was open at one time is kept. -/
theorem Keeps.performAll (h : recorder.Keeps reel) (deeds : List Deed) :
    (recorder.performAll deeds).Keeps reel := by
  induction deeds generalizing recorder with
  | nil => exact h
  | cons deed deeds ih => exact ih (h.perform deed)

/-- Once no recording is open, what was recorded is in its file, whole. -/
theorem Keeps.read (h : recorder.Keeps reel) (idle : recorder.isRecording = false) :
    ∃ longer now, reel.Extends longer ∧
      recorder.folder.disk.read reel.path = .ok (longer.fileBytes now) := by
  obtain ⟨longer, grown, goesOn | ⟨now, done⟩⟩ := h
  · rw [goesOn.isRecording] at idle
    nomatch idle
  · refine ⟨longer, now, grown, ?_⟩
    rw [← grown.path]
    exact done.read

/-! ## Whatever is open has a file -/

/-- Where a recording is open, its file and its buffer hold it. -/
def Faithful (recorder : Recorder) : Prop :=
  recorder.isRecording = true → ∃ reel, recorder.Records reel

theorem faithful_of_idle (h : recorder.isRecording = false) : recorder.Faithful :=
  fun recording ↦ nomatch h.symm.trans recording

private theorem start_of_isRecording {now : Nat} {stamp : Stamp}
    (idle : recorder.isRecording = false) (h : (recorder.start now stamp).2.isRecording = true) :
    ∃ path, (recorder.start now stamp).1 = .ok path := by
  unfold start at h ⊢
  rw [if_neg (by rw [idle]; decide)] at h ⊢
  split at h
  · nomatch idle.symm.trans h
  split at h
  · nomatch idle.symm.trans h
  · exact ⟨_, rfl⟩

theorem Faithful.perform (h : recorder.Faithful) (deed : Deed) :
    (recorder.perform deed).Faithful := by
  cases recording : recorder.isRecording with
  | true =>
    obtain ⟨reel, records⟩ := h recording
    cases deed with
    | start now stamp =>
      rw [Recorder.perform, start_of_recording recording]
      exact h
    | write now text => exact fun _ ↦ ⟨_, records.write now text⟩
    | stop now =>
      refine faithful_of_idle ?_
      rw [Recorder.perform, Recorder.isRecording, active_stop]
      rfl
  | false =>
    have idle : recorder.active = none :=
      Option.isNone_iff_eq_none.mp (Option.isSome_eq_false_iff.mp recording)
    cases deed with
    | start now stamp =>
      intro opened
      obtain ⟨path, started⟩ := start_of_isRecording recording opened
      exact ⟨_, records_start started⟩
    | write now text => rwa [Recorder.perform, write_of_idle idle]
    | stop now => rwa [Recorder.perform, stop_of_idle idle]

theorem Faithful.performAll (h : recorder.Faithful) (deeds : List Deed) :
    (recorder.performAll deeds).Faithful := by
  induction deeds generalizing recorder with
  | nil => exact h
  | cons deed deeds ih => exact ih (h.perform deed)

end Recorder

end Glyphcast.Recording
