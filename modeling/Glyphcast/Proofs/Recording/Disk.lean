import Glyphcast.Recording.Folder
import Mathlib.Tactic.SplitIfs

/-!
# Files that grow

A file is reached by its path each time that it is written or read, and the walk depends on what
else lies on the disk. A walk only ever looks for directories, so it leads where it led before as
long as none of them has gone: `KeepsDirectories`. Making a file where nothing was, and writing at
the end of one, both keep them.
-/

namespace Glyphcast.Recording

namespace Disk

/-- Whatever was a directory is one afterwards. -/
def KeepsDirectories (before after : Disk) : Prop :=
  ∀ trail, before.entryAt trail = some .directory → after.entryAt trail = some .directory

variable {disk before after : Disk} {trail : Trail}

@[simp] theorem entryAt_top (disk : Disk) : disk.entryAt [] = some .directory := if_pos rfl

theorem keepsDirectories_put (h : disk.entryAt trail ≠ some .directory) (entry : Entry) :
    disk.KeepsDirectories (disk.put trail entry) := by
  have inside : trail ≠ [] := by
    rintro rfl
    exact h disk.entryAt_top
  intro other found
  rw [entryAt_put inside, if_neg]
  · exact found
  · rintro rfl
    exact h found

theorem entryAt_put_self (h : disk.entryAt trail ≠ some .directory) (entry : Entry) :
    (disk.put trail entry).entryAt trail = some entry := by
  have inside : trail ≠ [] := by
    rintro rfl
    exact h disk.entryAt_top
  rw [entryAt_put inside, if_pos rfl]

/-! ## Walks -/

theorem KeepsDirectories.walk (kept : before.KeepsDirectories after) {steps : List Step}
    {here there : Trail} (h : before.walk steps here = .ok there) :
    after.walk steps here = .ok there := by
  induction steps generalizing here with
  | nil => exact h
  | cons step steps ih =>
    unfold Disk.walk at h ⊢
    split at h
    · nomatch h
    · nomatch h
    next directory =>
    rw [kept _ directory]
    dsimp only
    split at h
    · nomatch h
    exact ih h

theorem locate_eq_ok_iff {path : String} :
    disk.locate path = .ok trail ↔
      admits path = .ok () ∧ path ≠ "" ∧ disk.walk (steps path) [] = .ok trail := by
  unfold locate
  cases admits path with
  | error cause => exact ⟨nofun, fun h ↦ nomatch h.1⟩
  | ok _ =>
    by_cases empty : path = ""
    · rw [if_pos empty]
      exact ⟨nofun, fun h ↦ absurd empty h.2.1⟩
    · rw [if_neg empty]
      cases walked : disk.walk (steps path) [] with
      | error cause => exact ⟨nofun, fun h ↦ nomatch h.2.2⟩
      | ok found =>
        constructor
        · intro h
          cases h
          exact ⟨rfl, empty, rfl⟩
        · rintro ⟨-, -, h⟩
          cases h
          rfl

/-- A path leads where it led as long as the directories are kept. -/
theorem KeepsDirectories.locate (kept : before.KeepsDirectories after) {path : String}
    (h : before.locate path = .ok trail) : after.locate path = .ok trail := by
  rw [locate_eq_ok_iff] at h ⊢
  exact ⟨h.1, h.2.1, kept.walk h.2.2⟩

/-! ## Files -/

theorem read_eq_ok_iff {path : String} {data : Bytes} :
    disk.read path = .ok data ↔
      ∃ trail, disk.locate path = .ok trail ∧ disk.entryAt trail = some (.ofBytes data) := by
  unfold read
  cases located : disk.locate path with
  | error cause => exact ⟨nofun, fun h ↦ nomatch h.choose_spec.1⟩
  | ok trail =>
    simp only [bind, Except.bind, Except.ok.injEq, exists_eq_left']
    cases disk.entryAt trail with
    | none => exact ⟨nofun, nofun⟩
    | some entry =>
      cases entry with
      | directory => exact ⟨nofun, nofun⟩
      | file reversed =>
        simp only [pure, Except.pure, Except.ok.injEq, Option.some.injEq, Entry.ofBytes,
          Entry.file.injEq]
        exact List.reverse_eq_iff

theorem put_of_createNew {path : String} (h : disk.createNew path = .ok after) :
    ∃ trail, disk.locate path = .ok trail ∧ disk.entryAt trail = none ∧
      after = disk.put trail (.ofBytes []) := by
  unfold createNew at h
  cases located : disk.locate path with
  | error cause =>
    rw [located] at h
    nomatch h
  | ok trail =>
    simp only [located, bind, Except.bind] at h
    split at h
    · next free =>
      cases h
      exact ⟨trail, rfl, free, rfl⟩
    · nomatch h

theorem read_createNew {path : String} (h : disk.createNew path = .ok after) :
    after.read path = .ok [] := by
  obtain ⟨trail, located, free, rfl⟩ := put_of_createNew h
  have noDirectory : disk.entryAt trail ≠ some .directory := by
    rw [free]
    exact nofun
  rw [read_eq_ok_iff]
  exact ⟨trail, (keepsDirectories_put noDirectory _).locate located,
    entryAt_put_self noDirectory _⟩

/-- A file that is written at holds what it held and then what was written. -/
theorem read_extend {path : String} {data : Bytes} (h : disk.read path = .ok data)
    (bytes : Bytes) : (disk.extend path bytes).read path = .ok (data ++ bytes) := by
  rw [read_eq_ok_iff] at h
  obtain ⟨trail, located, found⟩ := h
  have noDirectory : disk.entryAt trail ≠ some .directory := by
    rw [found]
    exact nofun
  have put : disk.extend path bytes = disk.put trail (.ofBytes (data ++ bytes)) := by
    simp only [extend, located, append, found, Entry.ofBytes, List.reverse_append]
  rw [put, read_eq_ok_iff]
  exact ⟨trail, (keepsDirectories_put noDirectory _).locate located, entryAt_put_self noDirectory _⟩

/-! ## What stays -/

/-- Whatever was on the disk is there afterwards, as it was. -/
def Grows (before after : Disk) : Prop :=
  ∀ trail entry, before.entryAt trail = some entry → after.entryAt trail = some entry

theorem Grows.refl (disk : Disk) : disk.Grows disk := fun _ _ found ↦ found

theorem Grows.trans {first second third : Disk} (h : first.Grows second)
    (h' : second.Grows third) : first.Grows third :=
  fun trail entry found ↦ h' trail entry (h trail entry found)

theorem Grows.keepsDirectories (grown : before.Grows after) : before.KeepsDirectories after :=
  fun trail found ↦ grown trail .directory found

/-- A file that was there can be read as before. -/
theorem Grows.read (grown : before.Grows after) {path : String} {data : Bytes}
    (h : before.read path = .ok data) : after.read path = .ok data := by
  rw [read_eq_ok_iff] at h ⊢
  obtain ⟨trail, located, found⟩ := h
  exact ⟨trail, grown.keepsDirectories.locate located, grown trail _ found⟩

private theorem grows_put (free : disk.entryAt trail = none) (entry : Entry) :
    disk.Grows (disk.put trail entry) := by
  have inside : trail ≠ [] := by
    rintro rfl
    rw [entryAt_top] at free
    nomatch free
  intro other old found
  rw [entryAt_put inside, if_neg]
  · exact found
  · rintro rfl
    rw [free] at found
    nomatch found

theorem grows_createNew {path : String} (h : disk.createNew path = .ok after) :
    disk.Grows after := by
  obtain ⟨trail, located, free, rfl⟩ := put_of_createNew h
  exact grows_put free _

/-- Nothing is different but that there are some directories where nothing was. -/
def AddsDirectories (before after : Disk) : Prop :=
  ∀ trail, after.entryAt trail = before.entryAt trail ∨
    before.entryAt trail = none ∧ after.entryAt trail = some .directory

theorem AddsDirectories.refl (disk : Disk) : disk.AddsDirectories disk := fun _ ↦ .inl rfl

theorem AddsDirectories.trans {first second third : Disk} (h : first.AddsDirectories second)
    (h' : second.AddsDirectories third) : first.AddsDirectories third := by
  intro trail
  rcases h trail with same | ⟨free, made⟩
  · have later := h' trail
    rwa [same] at later
  · rcases h' trail with same | ⟨none, -⟩
    · exact .inr ⟨free, same.trans made⟩
    · rw [made] at none
      cases none

theorem AddsDirectories.grows (h : before.AddsDirectories after) : before.Grows after := by
  intro trail entry found
  rcases h trail with same | ⟨free, -⟩
  · rw [same, found]
  · rw [free] at found
    cases found

private theorem addsDirectories_put (free : disk.entryAt trail = none) :
    disk.AddsDirectories (disk.put trail .directory) := by
  have inside : trail ≠ [] := by
    rintro rfl
    rw [entryAt_top] at free
    cases free
  intro other
  rw [entryAt_put inside]
  split
  · next same =>
    rw [same]
    exact .inr ⟨free, rfl⟩
  · exact .inl rfl

theorem makeDirectory_cases {steps : List Step} (h : disk.makeDirectory steps = .ok after) :
    ∃ trail, disk.walk steps [] = .ok trail ∧
      (disk.entryAt trail = none ∧ after = disk.put trail .directory ∨
        disk.entryAt trail = some .directory ∧ after = disk) := by
  unfold makeDirectory at h
  cases walked : disk.walk steps [] with
  | error cause =>
    rw [walked] at h
    cases h
  | ok trail =>
    simp only [walked, bind, Except.bind] at h
    split at h
    · next free =>
      cases h
      exact ⟨trail, rfl, .inl ⟨free, rfl⟩⟩
    · next directory =>
      cases h
      exact ⟨trail, rfl, .inr ⟨directory, rfl⟩⟩
    · cases h

private theorem addsDirectories_makeDirectory {steps : List Step}
    (h : disk.makeDirectory steps = .ok after) : disk.AddsDirectories after := by
  obtain ⟨trail, -, ⟨free, rfl⟩ | ⟨-, rfl⟩⟩ := makeDirectory_cases h
  · exact addsDirectories_put free
  · exact .refl _

private theorem addsDirectories_makeWay {steps : List Step}
    (h : disk.makeWay steps trail = .ok after) : disk.AddsDirectories after := by
  induction steps generalizing disk trail with
  | nil =>
    cases h
    exact .refl _
  | cons step steps ih =>
    unfold makeWay at h
    split at h
    · cases h
    split at h
    · next free => exact (addsDirectories_put free).trans (ih h)
    · exact ih h
    · cases h

private theorem makeDirectories_cases {steps : List Step}
    (h : disk.makeDirectories steps = .ok after) :
    ∃ middle, disk.AddsDirectories middle ∧ middle.makeDirectory steps = .ok after := by
  unfold makeDirectories at h
  split at h
  · -- for want of those on the way, they are made first
    cases made : disk.makeWay (steps.filter (· ≠ .stay)).dropLast [] with
    | error cause =>
      rw [made] at h
      cases h
    | ok middle =>
      rw [made] at h
      exact ⟨middle, addsDirectories_makeWay made, h⟩
  · exact ⟨disk, .refl disk, h⟩

theorem createDirectory_cases {path : String} (h : disk.createDirectory path = .ok after) :
    path = "" ∧ after = disk ∨
      ∃ middle, disk.AddsDirectories middle ∧
        middle.makeDirectory (steps (dropLastSlashes path)) = .ok after := by
  unfold createDirectory at h
  cases admitted : admits path with
  | error cause =>
    rw [admitted] at h
    cases h
  | ok _ =>
    simp only [admitted, bind, Except.bind] at h
    split_ifs at h with empty
    · cases h
      exact .inl ⟨empty, rfl⟩
    · cases made : disk.makeDirectories (steps (dropLastSlashes path)) with
      | error cause =>
        rw [made] at h
        cases h
      | ok grown =>
        rw [made] at h
        cases h
        exact .inr (makeDirectories_cases made)

/-- Making a directory makes directories and nothing else. -/
theorem addsDirectories_createDirectory {path : String}
    (h : disk.createDirectory path = .ok after) : disk.AddsDirectories after := by
  rcases createDirectory_cases h with ⟨-, rfl⟩ | ⟨middle, added, made⟩
  · exact .refl _
  · exact added.trans (addsDirectories_makeDirectory made)

theorem grows_createDirectory {path : String} (h : disk.createDirectory path = .ok after) :
    disk.Grows after :=
  (addsDirectories_createDirectory h).grows

/-! ## Two files -/

/-- Two paths that lead to different places. -/
def Apart (disk : Disk) (path other : String) : Prop :=
  ∃ trail there, disk.locate path = .ok trail ∧ disk.locate other = .ok there ∧ trail ≠ there

theorem Apart.ne {path other : String} (h : disk.Apart path other) : path ≠ other := by
  rintro rfl
  obtain ⟨trail, there, located, found, differ⟩ := h
  cases located.symm.trans found
  exact differ rfl

theorem KeepsDirectories.apart (kept : before.KeepsDirectories after) {path other : String}
    (h : before.Apart path other) : after.Apart path other := by
  obtain ⟨trail, there, located, found, differ⟩ := h
  exact ⟨trail, there, kept.locate located, kept.locate found, differ⟩

/-- A new file lies apart from every file that was there. -/
theorem apart_createNew {path other : String} {data : Bytes} (held : disk.read path = .ok data)
    (made : disk.createNew other = .ok after) : after.Apart path other := by
  have kept := (grows_createNew made).keepsDirectories
  obtain ⟨trail, located, found⟩ := read_eq_ok_iff.mp held
  obtain ⟨there, free, nothing, -⟩ := put_of_createNew made
  refine ⟨trail, there, kept.locate located, kept.locate free, ?_⟩
  rintro rfl
  rw [nothing] at found
  nomatch found

theorem keepsDirectories_extend (disk : Disk) (path : String) (bytes : Bytes) :
    disk.KeepsDirectories (disk.extend path bytes) := by
  unfold extend append
  split
  · next trail located =>
    split
    · next reversed found =>
      refine keepsDirectories_put ?_ _
      rw [found]
      exact nofun
    · exact fun _ found ↦ found
    · exact fun _ found ↦ found
  · exact fun _ found ↦ found

theorem Apart.extend {path other : String} (h : disk.Apart path other) (file : String)
    (bytes : Bytes) : (disk.extend file bytes).Apart path other :=
  KeepsDirectories.apart (keepsDirectories_extend disk file bytes) h

theorem entryAt_extend_of_ne {path : String} {other : Trail}
    (located : disk.locate path = .ok trail) (differ : other ≠ trail) (bytes : Bytes) :
    (disk.extend path bytes).entryAt other = disk.entryAt other := by
  unfold extend append
  rw [located]
  dsimp only
  split
  · next reversed file =>
    have inside : trail ≠ [] := by
      rintro rfl
      rw [entryAt_top] at file
      cases file
    rw [entryAt_put inside, if_neg differ]
  · rfl
  · rfl

/-- A path that does not lead to a place does not lead there when it has been written at, and what
is there is as it was. -/
theorem extend_elsewhere {path : String} (differ : disk.locate path ≠ .ok trail) (bytes : Bytes) :
    (disk.extend path bytes).entryAt trail = disk.entryAt trail ∧
      (disk.extend path bytes).locate path ≠ .ok trail := by
  cases located : disk.locate path with
  | error cause =>
    rw [extend, located]
    exact ⟨rfl, differ⟩
  | ok there =>
    refine ⟨entryAt_extend_of_ne located ?_ bytes, fun led ↦ ?_⟩
    · rintro rfl
      exact differ located
    · have same := (keepsDirectories_extend disk path bytes).locate located
      cases same.symm.trans led
      exact differ located

theorem exists_file_extend {reversed : Bytes} (found : disk.entryAt trail = some (.file reversed))
    (path : String) (bytes : Bytes) :
    ∃ grown, (disk.extend path bytes).entryAt trail = some (.file grown) := by
  cases located : disk.locate path with
  | error cause =>
    rw [extend, located]
    exact ⟨reversed, found⟩
  | ok there =>
    by_cases same : trail = there
    · subst same
      have noDirectory : disk.entryAt trail ≠ some .directory := by
        rw [found]
        rintro ⟨⟩
      rw [extend, located]
      dsimp only
      rw [append, found]
      exact ⟨_, entryAt_put_self noDirectory _⟩
    · exact ⟨reversed, (entryAt_extend_of_ne located same bytes).trans found⟩

theorem read_extend_of_apart {path other : String} {data : Bytes} (apart : disk.Apart path other)
    (held : disk.read path = .ok data) (bytes : Bytes) :
    (disk.extend other bytes).read path = .ok data := by
  obtain ⟨trail, there, located, found, differ⟩ := apart
  have elsewhere := entryAt_extend_of_ne found differ bytes
  rw [read_eq_ok_iff] at held ⊢
  obtain ⟨same, again, file⟩ := held
  cases located.symm.trans again
  exact ⟨trail, (keepsDirectories_extend disk other bytes).locate located, elsewhere.trans file⟩

end Disk

end Glyphcast.Recording
