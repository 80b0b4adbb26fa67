import Glyphcast.Proofs.Recording.Keeping
import Glyphcast.Proofs.Recording.Naming

/-!
# A recorder overwrites nothing

A recorder touches the disk in three ways. A start makes a file where nothing was, with the
directories that are wanting on the way to it; a write and a stop add to the file of the recording
that is open. `Starts` says what a start comes to, case by case, and everything about starts is read
off these cases.

Of a run it follows, deed by deed, that whatever is on the disk stays as it is, the file of the open
recording apart: `Frozen`. So a file that has been stopped is never written to again, and no two
recordings have one file, however many there are in a second. And the frames of the open recording
are as many as have been written since the last start that was granted.
-/

namespace Glyphcast.Recording

/-! ## What a start comes to -/

namespace Folder

variable {folder made : Folder}

private theorem disk_of_ensure (h : folder.ensure = .ok made) :
    ∃ disk, folder.disk.createDirectory folder.path = .ok disk ∧ made = { folder with disk } := by
  unfold ensure at h
  cases created : folder.disk.createDirectory folder.path with
  | error cause =>
    rw [created] at h
    cases h
  | ok disk =>
    rw [created] at h
    cases h
    exact ⟨disk, rfl, rfl⟩

/-- A folder that was made is there. -/
theorem exists_isDirectory_of_ensure (h : folder.ensure = .ok made) :
    ∃ home, made.disk.IsDirectory made.path home := by
  obtain ⟨disk, created, rfl⟩ := disk_of_ensure h
  exact Disk.exists_isDirectory_of_createDirectory created

private theorem path_of_ensure (h : folder.ensure = .ok made) : made.path = folder.path := by
  obtain ⟨disk, -, rfl⟩ := disk_of_ensure h
  rfl

/-- Where something in a folder has a name, the folder is there, and there is nothing to make. -/
theorem ensure_of_taken {entry : EntryName} (taken : folder.Taken entry.text) :
    folder.ensure = .ok folder := by
  obtain ⟨trail, kept, located, -⟩ := taken
  obtain ⟨takes, home, there, -⟩ := locate_pathOf_eq_ok_iff.mp located
  have admitted : Disk.admits folder.path = .ok () :=
    Disk.admits_of_join entry.slash_notMem
      (Disk.admits_eq_ok_iff.mpr ⟨takes.noNul, takes.path_le⟩)
  rw [ensure, Disk.createDirectory_of_isDirectory admitted there]
  rfl

end Folder

namespace Recorder

variable {recorder after : Recorder} {now : Nat} {stamp : Stamp} {path : String}

/-- What a start comes to: the answer, and the recorder afterwards. -/
inductive Starts (recorder : Recorder) (now : Nat) (stamp : Stamp) :
    Except Error String → Recorder → Prop where
  /-- A recording is open already. -/
  | recording (open_already : recorder.isRecording = true) :
    Starts recorder now stamp (.error .recordingInProgress) recorder
  /-- The folder cannot be made. -/
  | homeless {cause : IoError} (idle : recorder.isRecording = false)
    (refused : recorder.folder.ensure = .error cause) :
    Starts recorder now stamp (.error (.io cause)) recorder
  /-- No name is found. -/
  | nameless {made : Folder} {cause : IoError} (idle : recorder.isRecording = false)
    (ensured : recorder.folder.ensure = .ok made)
    (failed : createFirst made stamp.stem (candidates stamp.stem) = .error cause) :
    Starts recorder now stamp (.error (.io cause)) { recorder with folder := made }
  /-- A recording is opened under the first name that is free. -/
  | opened {made grown : Folder} {name : String} (idle : recorder.isRecording = false)
    (ensured : recorder.folder.ensure = .ok made)
    (found : made.FirstFree (candidates stamp.stem) name)
    (created : made.createNew name = .ok grown) :
    Starts recorder now stamp (.ok (recorder.folder.pathOf name)) {
      folder := grown.append name (({} : WriteBuffer).pushAll (headPieces stamp)).1
      active := some {
        name, startedAt := now, buffer := (({} : WriteBuffer).pushAll (headPieces stamp)).2 } }

theorem starts (recorder : Recorder) (now : Nat) (stamp : Stamp) :
    recorder.Starts now stamp (recorder.start now stamp).1 (recorder.start now stamp).2 := by
  unfold start
  split
  · next recording => exact .recording recording
  next idle =>
  rw [Bool.not_eq_true] at idle
  split
  · next refused => exact .homeless idle refused
  next made ensured =>
  split
  · next failed => exact .nameless idle ensured failed
  next name grown searched =>
  obtain ⟨found, created⟩ := createFirst_eq_ok_iff.mp searched
  have same : grown.pathOf name = recorder.folder.pathOf name := by
    obtain ⟨disk, -, rfl⟩ := Folder.disk_of_createNew created
    rw [Folder.pathOf, Folder.pathOf, ← Folder.path_of_ensure ensured]
  have opened : recorder.Starts now stamp _ _ := .opened idle ensured found created
  simp only [send_eq]
  rw [← same] at opened
  exact opened

/-- What there is after a start that was not there before: the file of the recording, and it may be
the folder and what is on the way to it. -/
structure Creates (before after : Recorder) (path : String) (trail : Trail) : Prop where
  /-- Nothing was where the file is. -/
  vacant : before.folder.disk.entryAt trail = none
  /-- It is where the path leads. -/
  located : after.folder.disk.locate path = .ok trail
  /-- It is a plain file. -/
  file : ∃ reversed, after.folder.disk.entryAt trail = some (.file reversed)
  /-- Elsewhere all is as it was, or there are directories where nothing was. -/
  others : ∀ other, other ≠ trail →
    after.folder.disk.entryAt other = before.folder.disk.entryAt other ∨
      before.folder.disk.entryAt other = none ∧
        after.folder.disk.entryAt other = some .directory

private theorem Starts.creates (h : recorder.Starts now stamp (.ok path) after) :
    ∃ trail, Creates recorder after path trail := by
  cases h with
  | @opened made grown name idle ensured found created =>
    obtain ⟨disk, ready, rfl⟩ := Folder.disk_of_ensure ensured
    obtain ⟨trail, located, free, rfl⟩ := Folder.createNew_eq_ok_iff.mp created
    have added := Disk.addsDirectories_createDirectory ready
    have noDirectory : disk.entryAt trail ≠ some .directory := by
      rw [free]
      rintro ⟨⟩
    have inside : trail ≠ [] := by
      rintro rfl
      exact noDirectory disk.entryAt_top
    have led := (Disk.keepsDirectories_put noDirectory (.ofBytes [])).locate located
    have file : (disk.put trail (.ofBytes [])).entryAt trail = some (.file []) :=
      Disk.entryAt_put_self noDirectory _
    refine ⟨trail, ?_, (Disk.keepsDirectories_extend _ _ _).locate led,
      Disk.exists_file_extend file _ _, fun other differ ↦ ?_⟩
    · rcases added trail with same | ⟨vacant, -⟩
      · exact same.symm.trans free
      · exact vacant
    · have same : (disk.put trail (.ofBytes [])).entryAt other = disk.entryAt other := by
        rw [Disk.entryAt_put inside, if_neg differ]
      have elsewhere := (Disk.entryAt_extend_of_ne led differ
        (({} : WriteBuffer).pushAll (headPieces stamp)).1).trans same
      exact (added other).imp elsewhere.trans (And.imp_right elsewhere.trans)

theorem Starts.current (h : recorder.Starts now stamp (.ok path) after) :
    after.currentPath? = some path ∧ after.frameCount = 0 := by
  cases h with
  | @opened made grown name idle ensured found created =>
    have same : grown.path = recorder.folder.path := by
      have ready := Folder.path_of_ensure ensured
      obtain ⟨disk, -, rfl⟩ := Folder.disk_of_createNew created
      exact ready
    refine ⟨?_, rfl⟩
    rw [currentPath?, Option.map_some, Folder.pathOf, Folder.pathOf, ← same]
    rfl

/-- A start that is refused has changed nothing but that directories may have been made. -/
theorem Starts.failed {error : Error} (h : recorder.Starts now stamp (.error error) after) :
    after.active = recorder.active ∧ after.folder.path = recorder.folder.path ∧
      recorder.folder.disk.AddsDirectories after.folder.disk := by
  cases h with
  | recording _ => exact ⟨rfl, rfl, .refl _⟩
  | homeless _ _ => exact ⟨rfl, rfl, .refl _⟩
  | nameless _ ensured _ =>
    obtain ⟨disk, ready, rfl⟩ := Folder.disk_of_ensure ensured
    exact ⟨rfl, rfl, Disk.addsDirectories_createDirectory ready⟩

private theorem starts_of_start {result : Except Error String}
    (h : (recorder.start now stamp).1 = result) :
    recorder.Starts now stamp result (recorder.start now stamp).2 :=
  h ▸ recorder.starts now stamp

private theorem start_eq_ok_iff (idle : recorder.isRecording = false) :
    (recorder.start now stamp).1 = .ok path ↔ ∃ made name, recorder.folder.ensure = .ok made ∧
      made.FirstFree (candidates stamp.stem) name ∧ path = recorder.folder.pathOf name := by
  constructor
  · intro started
    have starts := starts_of_start started
    generalize (recorder.start now stamp).2 = after at starts
    cases starts with
    | opened _ ensured found _ => exact ⟨_, _, ensured, found, rfl⟩
  · rintro ⟨made, name, ensured, found, rfl⟩
    obtain ⟨earlier, later, parts, taken, trail, located, free⟩ := found
    have searched : createFirst made stamp.stem (candidates stamp.stem) =
        .ok (name, { made with disk := made.disk.put trail (.ofBytes []) }) :=
      createFirst_eq_ok_iff.mpr ⟨⟨earlier, later, parts, taken, trail, located, free⟩,
        Folder.createNew_eq_ok_iff.mpr ⟨trail, located, free, rfl⟩⟩
    have same := Folder.path_of_ensure ensured
    rw [start, if_neg (by rw [idle]; decide), ensured]
    dsimp only
    rw [searched]
    simp only [send_eq, Folder.append, Folder.pathOf, same]

private theorem start_of_taken {made : Folder} (idle : recorder.isRecording = false)
    (ensured : recorder.folder.ensure = .ok made)
    (taken : ∀ name ∈ candidates stamp.stem, made.Taken name) (now : Nat) :
    recorder.start now stamp =
      (.error (.io (.noFreeName stamp.stem)), { recorder with folder := made }) := by
  rw [start, if_neg (by rw [idle]; decide), ensured]
  dsimp only
  rw [createFirst_of_taken taken]

/-- If they were taken before, the folder is there, and nothing has been made at all. -/
theorem start_of_taken_before (idle : recorder.isRecording = false)
    (taken : ∀ name ∈ candidates stamp.stem, recorder.folder.Taken name) (now : Nat) :
    recorder.start now stamp = (.error (.io (.noFreeName stamp.stem)), recorder) := by
  have first : stamp.stem ++ "." ++ fileExtension ∈ candidates stamp.stem :=
    List.mem_map.mpr ⟨0, by decide, rfl⟩
  let entry : EntryName := ⟨_, isEntryName_of_mem_candidates first⟩
  have here : recorder.folder.Taken entry.text := taken _ first
  exact start_of_taken idle (Folder.ensure_of_taken here) taken now

/-- Where the folder can be made and the host takes the names, a start is granted unless all names
are taken. -/
theorem start_of_ensured {made : Folder} (idle : recorder.isRecording = false)
    (ensured : recorder.folder.ensure = .ok made)
    (takes : ∀ entry : EntryName, entry.text ∈ candidates stamp.stem → made.Takes entry)
    (now : Nat) :
    (∃ path, (recorder.start now stamp).1 = .ok path) ∨
      ∀ name ∈ candidates stamp.stem, made.Taken name := by
  have settled : ∀ name ∈ candidates stamp.stem, made.Taken name ∨ made.Free name := by
    intro name mem
    obtain ⟨home, there⟩ := Folder.exists_isDirectory_of_ensure ensured
    have accepted := takes ⟨name, isEntryName_of_mem_candidates mem⟩ mem
    have either := Folder.taken_or_free there accepted
    exact either
  rcases exists_firstFree_or_taken settled with ⟨name, found⟩ | taken
  · exact .inl ⟨_, (start_eq_ok_iff idle).mpr ⟨made, name, ensured, found, rfl⟩⟩
  · exact .inr taken

/-! ## What is never written to again -/

/-- Something on the disk that is not the file of the open recording. -/
structure Frozen (recorder : Recorder) (trail : Trail) (entry : Entry) : Prop where
  found : recorder.folder.disk.entryAt trail = some entry
  apart : ∀ active, recorder.active = some active →
    recorder.folder.disk.locate (recorder.folder.pathOf active.name) ≠ .ok trail

section

variable {trail : Trail} {entry : Entry} {result : Except Error String}

private theorem append_elsewhere {folder : Folder} {name : String}
    (differ : folder.disk.locate (folder.pathOf name) ≠ .ok trail) (bytes : Bytes) :
    (folder.append name bytes).disk.entryAt trail = folder.disk.entryAt trail ∧
      (folder.append name bytes).disk.locate ((folder.append name bytes).pathOf name) ≠
        .ok trail :=
  Disk.extend_elsewhere differ bytes

theorem Frozen.starts (h : recorder.Frozen trail entry)
    (starts : recorder.Starts now stamp result after) : after.Frozen trail entry := by
  cases result with
  | ok path =>
    obtain ⟨there, creates⟩ := starts.creates
    obtain ⟨current, -⟩ := starts.current
    have differ : trail ≠ there := by
      rintro rfl
      cases creates.vacant.symm.trans h.found
    refine ⟨?_, fun active opened located ↦ ?_⟩
    · rcases creates.others trail differ with same | ⟨vacant, -⟩
      · exact same.trans h.found
      · cases vacant.symm.trans h.found
    · -- the file of the new recording is where nothing was
      rw [currentPath?, opened, Option.map_some, Option.some_inj] at current
      rw [current] at located
      cases located.symm.trans creates.located
      exact differ rfl
  | error error =>
    cases starts with
    | recording _ => exact h
    | homeless _ _ => exact h
    | nameless idle ensured _ =>
      obtain ⟨disk, ready, rfl⟩ := Folder.disk_of_ensure ensured
      refine ⟨Disk.grows_createDirectory ready trail entry h.found, fun active opened ↦ ?_⟩
      rw [isRecording, opened] at idle
      cases idle

theorem Frozen.write (h : recorder.Frozen trail entry) (now : Nat) (text : String) :
    (recorder.write now text).Frozen trail entry := by
  cases opened : recorder.active with
  | none => rwa [write_of_idle opened]
  | some active =>
    obtain ⟨same, apart⟩ := append_elsewhere (h.apart active opened)
      (active.buffer.pushAll (framePieces (now - active.startedAt) text)).1
    rw [write_of_active opened]
    refine ⟨same.trans h.found, fun other current ↦ ?_⟩
    cases current
    exact apart

theorem Frozen.stop (h : recorder.Frozen trail entry) (now : Nat) :
    (recorder.stop now).2.Frozen trail entry := by
  cases opened : recorder.active with
  | none => rwa [stop_of_idle opened]
  | some active =>
    rw [stop_of_active opened]
    dsimp only
    generalize active.buffer.pushAll _ = sent
    obtain ⟨same, apart⟩ := append_elsewhere (h.apart active opened) sent.1
    obtain ⟨same', -⟩ := append_elsewhere apart sent.2.held
    exact ⟨same'.trans (same.trans h.found), by rintro _ ⟨⟩⟩

theorem Frozen.perform (h : recorder.Frozen trail entry) (deed : Deed) :
    (recorder.perform deed).Frozen trail entry := by
  cases deed with
  | start now stamp => exact h.starts (recorder.starts now stamp)
  | write now text => exact h.write now text
  | stop now => exact h.stop now

private theorem frozen_stop (found : (recorder.stop now).2.folder.disk.entryAt trail = some entry) :
    (recorder.stop now).2.Frozen trail entry := by
  refine ⟨found, fun active opened ↦ ?_⟩
  rw [active_stop] at opened
  cases opened

/-- Whatever a recorder does, it is done to the file of the open recording, or to what is new. -/
theorem Frozen.performAll (h : recorder.Frozen trail entry) (deeds : List Deed) :
    (recorder.performAll deeds).Frozen trail entry := by
  induction deeds generalizing recorder with
  | nil => exact h
  | cons deed deeds ih => exact ih (h.perform deed)

end

/-! ## Frames since the last start -/

/-- Whether a deed adds a frame, if a recording is open. -/
def Deed.isWrite : Deed → Bool
  | write .. => true
  | start .. | stop _ => false

/-- Whether a deed opens a recording. -/
def opens (recorder : Recorder) : Deed → Bool
  | .start now stamp => (recorder.start now stamp).1.isOk
  | .write .. | .stop _ => false

/-- None of some deeds opens a recording, as they are done one after the other. -/
def NeverOpens (recorder : Recorder) : List Deed → Prop
  | [] => True
  | deed :: deeds => recorder.opens deed = false ∧ (recorder.perform deed).NeverOpens deeds

private theorem exists_start_of_opens {deed : Deed} (h : recorder.opens deed = true) :
    ∃ now stamp path, deed = .start now stamp ∧ (recorder.start now stamp).1 = .ok path := by
  cases deed with
  | start now stamp =>
    rw [opens] at h
    cases started : (recorder.start now stamp).1 with
    | ok path => exact ⟨now, stamp, path, rfl, started⟩
    | error error =>
      rw [started] at h
      cases h
  | write now text => cases h
  | stop now => cases h

private theorem active_perform_of_idle (idle : recorder.active = none) {deed : Deed}
    (unopened : recorder.opens deed = false) : (recorder.perform deed).active = none := by
  cases deed with
  | start now stamp =>
    have starts := recorder.starts now stamp
    rw [opens] at unopened
    rw [perform]
    generalize recorder.start now stamp = answer at starts unopened ⊢
    obtain ⟨_ | path, after⟩ := answer
    · exact starts.failed.1.trans idle
    · cases unopened
  | write now text => rwa [perform, write_of_idle idle]
  | stop now => rwa [perform, stop_of_idle idle]

private theorem active_performAll_of_idle (idle : recorder.active = none) {deeds : List Deed}
    (never : recorder.NeverOpens deeds) : (recorder.performAll deeds).active = none := by
  induction deeds generalizing recorder with
  | nil => exact idle
  | cons deed deeds ih => exact ih (active_perform_of_idle idle never.1) never.2

private theorem active_performAll_of_neverOpens {active : Active} {deeds : List Deed}
    (opened : recorder.active = some active) (never : recorder.NeverOpens deeds)
    (still : (recorder.performAll deeds).isRecording = true) :
    ∃ later, (recorder.performAll deeds).active = some later ∧ later.name = active.name ∧
      later.frames = active.frames + deeds.countP Deed.isWrite := by
  induction deeds generalizing recorder active with
  | nil => exact ⟨active, opened, rfl, rfl⟩
  | cons deed deeds ih =>
    cases deed with
    | start now stamp =>
      have recording : recorder.isRecording = true := by
        rw [isRecording, opened]
        rfl
      have same : recorder.perform (.start now stamp) = recorder :=
        start_of_recording recording now stamp
      obtain ⟨later, found, name, frames⟩ := ih (same.symm ▸ opened) never.2 still
      exact ⟨later, found, name, by rw [frames, List.countP_cons_of_neg Bool.false_ne_true]⟩
    | write now text =>
      have grown : (recorder.perform (.write now text)).active = some _ :=
        congrArg Recorder.active (write_of_active opened now text)
      obtain ⟨later, found, name, frames⟩ := ih grown never.2 still
      refine ⟨later, found, name, ?_⟩
      rw [frames, List.countP_cons_of_pos rfl]
      dsimp only
      omega
    | stop now =>
      -- after a stop nothing is open, and nothing is opened
      have idle := active_performAll_of_idle (recorder.active_stop now) never.2
      rw [isRecording] at still
      exact absurd still (by rw [performAll, List.foldl_cons]; exact idle ▸ Bool.false_ne_true)

/-- Where some deeds open a recording there is one that does so last. -/
theorem exists_last_opens {deeds : List Deed} (h : ¬recorder.NeverOpens deeds) :
    ∃ earlier deed later, deeds = earlier ++ deed :: later ∧
      (recorder.performAll earlier).opens deed = true ∧
      ((recorder.performAll earlier).perform deed).NeverOpens later := by
  induction deeds generalizing recorder with
  | nil => exact absurd trivial h
  | cons deed deeds ih =>
    by_cases never : (recorder.perform deed).NeverOpens deeds
    · have opened : recorder.opens deed = true := by
        by_contra unopened
        exact h ⟨Bool.not_eq_true _ |>.mp unopened, never⟩
      exact ⟨[], deed, deeds, rfl, opened, never⟩
    · obtain ⟨earlier, last, later, rfl, opened, quiet⟩ := ih never
      exact ⟨deed :: earlier, last, later, rfl, opened, quiet⟩

private theorem active_eq_none_iff : recorder.isRecording = false ↔ recorder.active = none :=
  Option.isSome_eq_false_iff.trans Option.isNone_iff_eq_none

/-- A recording that a start has opened, and that is open still, has the frames that have been
written since. -/
theorem frameCount_performAll_of_started {deeds : List Deed}
    (started : (recorder.start now stamp).1 = .ok path)
    (never : (recorder.start now stamp).2.NeverOpens deeds)
    (still : ((recorder.start now stamp).2.performAll deeds).isRecording = true) :
    ((recorder.start now stamp).2.performAll deeds).currentPath? = some path ∧
      ((recorder.start now stamp).2.performAll deeds).frameCount =
        deeds.countP Deed.isWrite := by
  obtain ⟨current, none⟩ := (starts_of_start started).current
  generalize (recorder.start now stamp).2 = after at *
  obtain ⟨active, opened, path_eq⟩ := Option.map_eq_some_iff.mp current
  obtain ⟨later, found, name, frames⟩ := active_performAll_of_neverOpens opened never still
  have fresh : active.frames = 0 := by
    rw [frameCount, opened] at none
    exact none
  constructor
  · rw [currentPath?, found, Option.map_some, name, ← path_eq, Folder.pathOf, Folder.pathOf,
      path_performAll]
  · rw [frameCount, found, Option.map_some, Option.getD_some, frames, fresh, Nat.zero_add]

/-- A recording that is open, where none was, has been opened by a start, and no start has been
granted since. -/
theorem exists_last_start {deeds : List Deed} (idle : recorder.isRecording = false)
    (still : (recorder.performAll deeds).isRecording = true) :
    ∃ earlier now stamp later path, deeds = earlier ++ .start now stamp :: later ∧
      ((recorder.performAll earlier).start now stamp).1 = .ok path ∧
      ((recorder.performAll earlier).start now stamp).2.NeverOpens later := by
  have opening : ¬recorder.NeverOpens deeds := by
    intro never
    have none := active_performAll_of_idle (active_eq_none_iff.mp idle) never
    rw [isRecording, none] at still
    cases still
  obtain ⟨earlier, deed, later, rfl, opens, never⟩ := exists_last_opens opening
  obtain ⟨now, stamp, path, rfl, started⟩ := exists_start_of_opens opens
  exact ⟨earlier, now, stamp, later, path, rfl, started, never⟩

/-! ## Two recordings -/

private theorem apart_of_started {path' : String} {deeds : List Deed} {now' : Nat} {stamp' : Stamp}
    (started : (recorder.start now stamp).1 = .ok path)
    (started' : (((recorder.start now stamp).2.performAll deeds).start now' stamp').1 =
      .ok path') :
    (((recorder.start now stamp).2.performAll deeds).start now' stamp').2.folder.disk.Apart
      path path' := by
  obtain ⟨longer, grown, goesOn | ⟨end_time, done⟩⟩ :=
    (records_start started).keeps.performAll deeds
  · -- while the first recording is open the second cannot be started
    rw [start, if_pos goesOn.isRecording] at started'
    cases started'
  · generalize (recorder.start now stamp).2.performAll deeds = between at *
    have sealed := done.start now' stamp'
    obtain ⟨current, -⟩ := (starts_of_start started').current
    obtain ⟨active, opened, path_eq⟩ := Option.map_eq_some_iff.mp current
    have apart := sealed.apart active opened
    rwa [path_eq, grown.path] at apart

/-! ## What is promised -/

/-- What is promised of a recorder, whatever it has been doing and whatever the disk holds. -/
structure Cautious (recorder : Recorder) : Prop where
  /-- While a recording is open a start is refused and changes nothing. -/
  refused : ∀ now stamp, recorder.isRecording = true →
    recorder.start now stamp = (.error .recordingInProgress, recorder)
  /-- Where all names of the second are taken it is refused and changes nothing. -/
  exhausted : ∀ now stamp, recorder.isRecording = false →
    (∀ name ∈ candidates stamp.stem, recorder.folder.Taken name) →
    recorder.start now stamp = (.error (.io (.noFreeName stamp.stem)), recorder)
  /-- Otherwise the recording gets the first name of its second that is free, in the folder that has
  been made if it was missing, and no other. -/
  granted_iff : ∀ now stamp path, recorder.isRecording = false →
    ((recorder.start now stamp).1 = .ok path ↔ ∃ made name,
      recorder.folder.ensure = .ok made ∧ made.FirstFree (candidates stamp.stem) name ∧
        path = recorder.folder.pathOf name)
  /-- A name is taken if the folder lists it and the host takes it. -/
  taken_iff : ∀ made listed (entry : EntryName), recorder.folder.ensure = .ok made →
    made.names = .ok listed → (made.Taken entry.text ↔ made.Takes entry ∧ entry ∈ listed)
  /-- If the folder can be made, and the host takes the names, it is granted, unless all names are
  taken. -/
  granted : ∀ now stamp made, recorder.isRecording = false →
    recorder.folder.ensure = .ok made →
    (∀ entry : EntryName, entry.text ∈ candidates stamp.stem → made.Takes entry) →
    (∃ path, (recorder.start now stamp).1 = .ok path) ∨
      ∀ name ∈ candidates stamp.stem, made.Taken name
  /-- Then the file is new, everything that was on the disk is as it was, and the recording is open
  and has no frames. -/
  created : ∀ now stamp path, (recorder.start now stamp).1 = .ok path →
    (∃ trail, recorder.Creates (recorder.start now stamp).2 path trail) ∧
      (recorder.start now stamp).2.currentPath? = some path ∧
      (recorder.start now stamp).2.frameCount = 0
  /-- Whatever a start is refused for, the recorder is told to be where it was, and no file has been
  made or changed. -/
  failed : ∀ now stamp error, (recorder.start now stamp).1 = .error error →
    (recorder.start now stamp).2.isRecording = recorder.isRecording ∧
      (recorder.start now stamp).2.currentPath? = recorder.currentPath? ∧
      (recorder.start now stamp).2.frameCount = recorder.frameCount ∧
      recorder.folder.disk.AddsDirectories (recorder.start now stamp).2.folder.disk
  /-- While no recording is open a frame and a stop change nothing. -/
  idle : recorder.isRecording = false → ∀ now text,
    recorder.write now text = recorder ∧ recorder.stop now = (none, recorder)
  /-- As long as the recording that a start has opened is open, and no other start has been granted,
  it has as many frames as have been written since. -/
  counted : ∀ now stamp path deeds, (recorder.start now stamp).1 = .ok path →
    (recorder.start now stamp).2.NeverOpens deeds →
    ((recorder.start now stamp).2.performAll deeds).isRecording = true →
    ((recorder.start now stamp).2.performAll deeds).currentPath? = some path ∧
      ((recorder.start now stamp).2.performAll deeds).frameCount = deeds.countP Deed.isWrite
  /-- And a recording that is open was opened by the last start that was granted. -/
  opened : ∀ deeds, recorder.isRecording = false →
    (recorder.performAll deeds).isRecording = true →
    ∃ earlier now stamp later path, deeds = earlier ++ .start now stamp :: later ∧
      ((recorder.performAll earlier).start now stamp).1 = .ok path ∧
      ((recorder.performAll earlier).start now stamp).2.NeverOpens later
  /-- Whatever is on the disk and is not the file of the open recording stays as it is. -/
  kept : ∀ trail entry deeds, recorder.Frozen trail entry →
    (recorder.performAll deeds).folder.disk.entryAt trail = some entry
  /-- So after a stop nothing that is there is ever written to again. -/
  stopped : ∀ now trail entry deeds,
    (recorder.stop now).2.folder.disk.entryAt trail = some entry →
    ((recorder.stop now).2.performAll deeds).folder.disk.entryAt trail = some entry
  /-- Two starts that are granted, whenever they are, make two files. -/
  distinct : ∀ now stamp path deeds now' stamp' path',
    (recorder.start now stamp).1 = .ok path →
    (((recorder.start now stamp).2.performAll deeds).start now' stamp').1 = .ok path' →
    path ≠ path' ∧
      (((recorder.start now stamp).2.performAll deeds).start now' stamp').2.folder.disk.Apart
        path path'

theorem cautious_start (recorder : Recorder) : recorder.Cautious where
  refused now stamp recording := if_pos recording
  exhausted now stamp idle taken := start_of_taken_before idle taken now
  granted_iff now stamp path idle := start_eq_ok_iff idle
  taken_iff _ _ _ _ names := Folder.taken_iff names
  granted now stamp made idle ensured takes := start_of_ensured idle ensured takes now
  created now stamp path started := by
    have starts := starts_of_start started
    exact ⟨starts.creates, starts.current⟩
  failed now stamp error refused := by
    obtain ⟨active, path, added⟩ := (starts_of_start refused).failed
    refine ⟨?_, ?_, ?_, added⟩
    · rw [isRecording, isRecording, active]
    · simp only [currentPath?, Folder.pathOf, active, path]
    · rw [frameCount, frameCount, active]
  idle none_open now text := by
    have idle := active_eq_none_iff.mp none_open
    refine ⟨write_of_idle idle now text, ?_⟩
    rw [stop, idle]
  counted now stamp path deeds started never still :=
    frameCount_performAll_of_started started never still
  opened deeds idle still := exists_last_start idle still
  kept trail entry deeds frozen := (frozen.performAll deeds).found
  stopped now trail entry deeds found := ((frozen_stop found).performAll deeds).found
  distinct now stamp path deeds now' stamp' path' started started' := by
    have apart := apart_of_started started started'
    exact ⟨apart.ne, apart⟩

/-- A second of which two recordings are started. -/
def noon : Stamp := ⟨2026, 1, 1, 12, 0, 0⟩

/-- A recorder whose folder is still to be made. -/
def fresh : Recorder := { folder := { path := "rec" } }

/-- The second recording of a second gets another name and another file. -/
theorem cautious_fresh :
    (fresh.start 0 noon).1 = .ok "rec/ascii_stream_20260101_120000.asr" ∧
      (((fresh.start 0 noon).2.performAll [.write 5 "a", .stop 9]).start 9 noon).1 =
        .ok "rec/ascii_stream_20260101_120000_1.asr" ∧
      (((fresh.start 0 noon).2.performAll [.write 5 "a", .stop 9]).start 9 noon).2.folder.disk.Apart
        "rec/ascii_stream_20260101_120000.asr" "rec/ascii_stream_20260101_120000_1.asr" := by
  have first : (fresh.start 0 noon).1 = .ok "rec/ascii_stream_20260101_120000.asr" := by
    decide +kernel
  have second : (((fresh.start 0 noon).2.performAll [.write 5 "a", .stop 9]).start 9 noon).1 =
      .ok "rec/ascii_stream_20260101_120000_1.asr" := by
    decide +kernel
  exact ⟨first, second, ((cautious_start fresh).distinct _ _ _ _ _ _ _ first second).2⟩

end Recorder

end Glyphcast.Recording
