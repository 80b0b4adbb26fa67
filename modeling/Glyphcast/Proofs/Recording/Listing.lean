import Glyphcast.Proofs.Recording.Place
import Glyphcast.Proofs.Text.Numeral
import Mathlib.Data.List.Sort
import Mathlib.Data.String.Basic

/-!
# What a list holds

A list of recordings is made from the names that a folder holds: those of recordings are picked, the
files are read, and what can be summed up is put in order. `Folder.Listing` says what comes of it
without any of these passes: which summaries are there, in which order, and that nothing else of
the disk matters. In particular the names may be kept in any order.

Which files can be read is `Folder.read_text_eq_ok_iff`. In a folder that is there only two things
keep a plain file from being read, its name being too long and the whole path being none.
-/

namespace Glyphcast.Recording

/-! ## Names -/

/-- A name of something, a dot, and an extension, which no dot follows. -/
def HasExtension (name extension : String) : Prop :=
  ∃ stem, stem ≠ "" ∧ name = stem ++ "." ++ extension ∧ '.' ∉ extension.toList

private theorem isRecordingName_iff {name : String} :
    isRecordingName name = true ↔ HasExtension name fileExtension := by
  rw [isRecordingName]
  constructor
  · intro picked
    rcases cut : Text.cut? (· == '.') name.toList.reverse with _ | ⟨last, first⟩
    · rw [cut] at picked
      cases picked
    · rw [cut, Bool.and_eq_true, beq_iff_eq, Bool.not_eq_true', List.isEmpty_eq_false_iff] at picked
      obtain ⟨named, nonempty⟩ := picked
      obtain ⟨dot, whole, isDot, -⟩ := Text.cut?_eq_some_iff.mp cut
      cases beq_iff_eq.mp isDot
      refine ⟨.ofList first.reverse, ?_, ?_, by decide⟩
      · rwa [ne_eq, ← String.toList_eq_nil_iff, String.toList_ofList, List.reverse_eq_nil_iff]
      · rw [← String.toList_inj, ← List.reverse_inj, whole]
        simp [← named]
  · rintro ⟨stem, nonempty, rfl, free⟩
    have whole : (stem ++ "." ++ fileExtension).toList.reverse =
        fileExtension.toList.reverse ++ '.' :: stem.toList.reverse := by
      simp
    have pass := Text.beq_eq_false_of_not_mem (mt List.mem_reverse.mp free)
    rw [whole, Text.cut?_append pass (beq_self_eq_true '.')]
    simp [nonempty]

example :
    ["a.asr", ".asr", "..asr", "b.ASR", "c.d.asr", "e.asr.bak", "asr"].filter isRecordingName =
      ["a.asr", "..asr", "c.d.asr"] := by decide

namespace EntryName

theorem ext {first second : EntryName} (same : first.text = second.text) : first = second := by
  cases first
  cases second
  cases same
  rfl

variable (name : EntryName)

theorem text_ne_empty : name.text ≠ "" := by
  have isName := name.isName
  simp only [isEntryName, Bool.and_eq_true, bne_iff_ne] at isName
  exact isName.1.1.1

theorem slash_notMem : '/' ∉ name.text.toList := by
  have isName := name.isName
  simp only [isEntryName, Bool.and_eq_true, Bool.not_eq_true', List.contains_eq_mem,
    decide_eq_false_iff_not] at isName
  exact isName.2

@[simp] private theorem ofPart_text : Step.ofPart name.text = .down name := by
  rw [Step.ofPart, ofText?, dif_pos name.isName]

@[simp] private theorem fileName_text : fileName name.text = name.text := by
  have all : ∀ c ∈ name.text.toList.reverse, (c != '/') = true := by
    intro c mem
    rw [bne_iff_ne]
    rintro rfl
    exact name.slash_notMem (List.mem_reverse.mp mem)
  rw [fileName, List.takeWhile_eq_self_iff.mpr all, List.reverse_reverse, String.ofList_toList]

end EntryName

/-! ## Entries -/

namespace Disk

variable {disk other : Disk} {directory trail : Trail}

/-- What is found under a trail is what stands in the list. -/
theorem mem_list_iff (inside : trail ≠ []) {entry : Entry} :
    (trail, entry) ∈ disk.list ↔ disk.entryAt trail = some entry := by
  rw [entryAt, if_neg inside, List.lookup_eq_some_iff]
  constructor
  · intro mem
    obtain ⟨front, back, whole⟩ := List.mem_iff_append.mp mem
    refine ⟨front, back, whole, fun item earlier ↦ ?_⟩
    have apart := disk.nodup
    rw [whole, List.map_append, List.map_cons] at apart
    rw [bne_iff_ne]
    rintro rfl
    exact (List.nodup_append.mp apart).2.2 _ (List.mem_map_of_mem earlier) _ List.mem_cons_self rfl
  · rintro ⟨front, back, whole, -⟩
    rw [whole]
    exact List.mem_append_right _ List.mem_cons_self

theorem mem_names_iff {name : EntryName} :
    name ∈ disk.names directory ↔ ∃ entry, disk.entryAt (name :: directory) = some entry := by
  simp only [names, List.mem_filterMap, Trail.nameIn?_eq_some_iff, Prod.exists,
    ← mem_list_iff (List.cons_ne_nil name directory)]
  constructor
  · rintro ⟨_, entry, mem, rfl⟩
    exact ⟨entry, mem⟩
  · rintro ⟨entry, mem⟩
    exact ⟨_, entry, mem, rfl⟩

/-- The same entries in another order are found under the same trails. -/
theorem entryAt_eq_of_perm (same : other.list.Perm disk.list) : other.entryAt = disk.entryAt := by
  funext trail
  by_cases top : trail = []
  · rw [top, entryAt_top, entryAt_top]
  · refine Option.ext fun entry ↦ ?_
    rw [← mem_list_iff top, ← mem_list_iff top, same.mem_iff]

/-- A walk depends on nothing but what is found. -/
theorem walk_congr (same : other.entryAt = disk.entryAt) (steps : List Step) (here : Trail) :
    other.walk steps here = disk.walk steps here := by
  induction steps generalizing here with
  | nil => rfl
  | cons step steps ih => simp only [walk, same, ih]

private theorem locate_congr (same : other.entryAt = disk.entryAt) (path : String) :
    other.locate path = disk.locate path := by
  rw [locate, locate, walk_congr same]

end Disk

/-! ## Files of a folder -/

namespace Folder

variable {folder : Folder} {trail : Trail} {name : EntryName} {data : Bytes} {info : Info}

/-- Where the folder is, if there is a directory at its path. -/
def LiesAt (folder : Folder) (trail : Trail) : Prop :=
  folder.disk.locate folder.path = .ok trail ∧ folder.disk.entryAt trail = some .directory

/-- Whether the host takes a name, and the path that it makes in the folder. -/
structure Takes (folder : Folder) (name : EntryName) : Prop where
  /-- There is no NUL in the path. -/
  noNul : '\x00' ∉ (folder.pathOf name.text).toList
  /-- The path is not too long. -/
  path_le : (folder.pathOf name.text).utf8ByteSize ≤ Disk.maxPath
  /-- The name is not too long. -/
  name_le : name.text.utf8ByteSize ≤ Disk.maxName

private theorem pathOf_text_ne_empty (folder : Folder) (name : EntryName) :
    folder.pathOf name.text ≠ "" := by
  intro empty
  have nothing := congrArg String.toList empty
  have some : name.text.toList ≠ [] := mt String.toList_eq_nil_iff.mp name.text_ne_empty
  rw [pathOf, join] at nothing
  split_ifs at nothing <;> simp [some] at nothing

/-- Where a name leads: into the directory at the folder's path, if the host takes the name. -/
theorem locate_pathOf_eq_ok_iff {there : Trail} :
    folder.disk.locate (folder.pathOf name.text) = .ok there ↔
      folder.Takes name ∧ ∃ home, folder.disk.IsDirectory folder.path home ∧
        there = name :: home := by
  rw [Disk.locate_eq_ok_iff, Disk.admits_eq_ok_iff, pathOf,
    Disk.walk_join_eq_ok_iff name.slash_notMem, name.ofPart_text]
  simp only [Disk.follow_down_eq_ok_iff]
  constructor
  · rintro ⟨⟨noNul, path_le⟩, -, home, walked, isDirectory, name_le, rfl⟩
    exact ⟨⟨noNul, path_le, name_le⟩, home, ⟨walked, isDirectory⟩, rfl⟩
  · rintro ⟨taken, home, ⟨walked, isDirectory⟩, rfl⟩
    exact ⟨⟨taken.noNul, taken.path_le⟩, folder.pathOf_text_ne_empty name, home, walked,
      isDirectory, taken.name_le, rfl⟩

theorem LiesAt.isDirectory (lies : folder.LiesAt trail) :
    folder.disk.IsDirectory folder.path trail :=
  ⟨(Disk.locate_eq_ok_iff.mp lies.1).2.2, lies.2⟩

theorem read_text_eq_ok_iff (lies : folder.LiesAt trail) : folder.read name.text = .ok data ↔
    folder.Takes name ∧ folder.disk.entryAt (name :: trail) = some (.ofBytes data) := by
  rw [read, Disk.read_eq_ok_iff]
  constructor
  · rintro ⟨there, found, file⟩
    obtain ⟨taken, home, ⟨walked, -⟩, rfl⟩ := locate_pathOf_eq_ok_iff.mp found
    cases lies.isDirectory.1.symm.trans walked
    exact ⟨taken, file⟩
  · rintro ⟨taken, file⟩
    exact ⟨name :: trail, locate_pathOf_eq_ok_iff.mpr ⟨taken, trail, lies.isDirectory, rfl⟩, file⟩

/-! ## Summaries -/

theorem exists_read_of_ofBytes {filename : String} (h : Info.ofBytes filename data = .ok info) :
    info.filename = filename ∧ ∃ found, Header.read data = .ok found := by
  unfold Info.ofBytes at h
  rcases read : Header.read data with fault | ⟨head, body⟩
  · rw [read] at h
    cases h
  · rw [read] at h
    simp only [bind, Except.bind] at h
    rcases fault : (scan body).fault with _ | fault
    · rw [fault] at h
      cases h
      exact ⟨rfl, _, rfl⟩
    · rw [fault] at h
      cases h

private theorem info_text_eq_ok_iff : folder.info name.text = .ok info ↔
    ∃ data, folder.read name.text = .ok data ∧ Info.ofBytes name.text data = .ok info := by
  rw [Folder.info, name.fileName_text]
  rcases folder.read name.text with cause | data
  · constructor
    · intro h
      cases h
    · rintro ⟨data, h, -⟩
      cases h
  · simp only [Except.mapError, bind, Except.bind, Except.ok.injEq, exists_eq_left']
    rcases Info.ofBytes name.text data with fault | found
    · constructor <;> intro h <;> cases h
    · rw [Except.ok.injEq, Except.ok.injEq]

/-- A recording in a folder that is there, and how it is summed up. -/
structure Offers (folder : Folder) (trail : Trail) (name : EntryName) (info : Info) : Prop where
  /-- It is named like a recording. -/
  named : HasExtension name.text fileExtension
  /-- The host lets one read it. -/
  taken : folder.Takes name
  /-- It is a plain file, and its bytes can be summed up. -/
  summed : ∃ data, folder.disk.entryAt (name :: trail) = some (.ofBytes data) ∧
    Info.ofBytes name.text data = .ok info

theorem Offers.filename_eq (h : folder.Offers trail name info) : info.filename = name.text := by
  obtain ⟨data, -, summed⟩ := h.summed
  exact (exists_read_of_ofBytes summed).1

/-- The files of a folder that are summed up are the recordings in it. -/
theorem offers_iff (lies : folder.LiesAt trail) : folder.Offers trail name info ↔
    name ∈ folder.disk.names trail ∧ isRecordingName name.text = true ∧
      folder.info name.text = .ok info := by
  rw [isRecordingName_iff, info_text_eq_ok_iff, Disk.mem_names_iff]
  simp only [read_text_eq_ok_iff lies]
  constructor
  · rintro ⟨named, taken, data, file, summed⟩
    exact ⟨⟨_, file⟩, named, data, ⟨taken, file⟩, summed⟩
  · rintro ⟨-, named, data, ⟨taken, file⟩, summed⟩
    exact ⟨named, taken, data, file, summed⟩

/-! ## Lists -/

/-- What can be summed up of the files with some names. -/
def summaries (folder : Folder) (names : List EntryName) : List Info :=
  ((names.map (·.text)).filter isRecordingName).filterMap fun name ↦ (folder.info name).toOption

private theorem toOption_info_eq_some_iff {text : String} :
    (folder.info text).toOption = some info ↔ folder.info text = .ok info := by
  rcases folder.info text with cause | found
  · constructor <;> intro h <;> cases h
  · rw [Except.toOption, Option.some_inj, Except.ok.injEq]

private theorem mem_summaries_iff {names : List EntryName} : info ∈ folder.summaries names ↔
    ∃ name ∈ names, isRecordingName name.text = true ∧ folder.info name.text = .ok info := by
  simp only [summaries, List.mem_filterMap, List.mem_filter, List.mem_map,
    toOption_info_eq_some_iff]
  constructor
  · rintro ⟨_, ⟨⟨name, mem, rfl⟩, picked⟩, summed⟩
    exact ⟨name, mem, picked, summed⟩
  · rintro ⟨name, mem, picked, summed⟩
    exact ⟨_, ⟨⟨name, mem, rfl⟩, picked⟩, summed⟩

private theorem filename_of_info (h : folder.info name.text = .ok info) :
    info.filename = name.text := by
  obtain ⟨data, -, summed⟩ := info_text_eq_ok_iff.mp h
  exact (exists_read_of_ofBytes summed).1

private theorem pairwise_summaries {names : List EntryName} (apart : names.Nodup) :
    (folder.summaries names).Pairwise fun first second ↦ first.filename ≠ second.filename := by
  rw [summaries, List.filter_map, List.filterMap_map, List.pairwise_filterMap]
  refine (apart.filter _).imp fun differ first hFirst second hSecond same ↦ differ ?_
  rw [Function.comp_apply, toOption_info_eq_some_iff] at hFirst hSecond
  rw [filename_of_info hFirst, filename_of_info hSecond] at same
  exact EntryName.ext same

theorem recordings_of_liesAt (lies : folder.LiesAt trail) :
    folder.recordings = .ok ((folder.summaries (folder.disk.names trail)).mergeSort
      fun first second ↦ decide (first.filename ≤ second.filename)) := by
  obtain ⟨located, isDirectory⟩ := lies
  have names : folder.names = .ok (folder.disk.names trail) := by
    rw [Folder.names, Disk.namesIn, located]
    simp only [bind, Except.bind, isDirectory]
    rfl
  rw [recordings, names]
  rfl

private theorem sorted_mergeSort {infos : List Info}
    (apart : infos.Pairwise fun first second ↦ first.filename ≠ second.filename) :
    (infos.mergeSort fun first second ↦ decide (first.filename ≤ second.filename)).Pairwise
      fun first second ↦ first.filename < second.filename := by
  have sorted := List.pairwise_mergeSort' (fun first second : Info ↦
    first.filename ≤ second.filename) infos
  have still := ((List.mergeSort_perm infos fun first second ↦
    decide (first.filename ≤ second.filename)).pairwise_iff fun differ ↦ Ne.symm differ).mpr apart
  refine (sorted.and still).imp fun ⟨le, ne⟩ ↦ ?_
  by_contra notLt
  exact ne (String.le_antisymm le (String.not_lt.mp notLt))

theorem exists_recordings (lies : folder.LiesAt trail) :
    ∃ infos, folder.recordings = .ok infos ∧
      infos.Pairwise (fun first second ↦ first.filename < second.filename) ∧
      ∀ info, info ∈ infos ↔ ∃ name, folder.Offers trail name info := by
  refine ⟨_, recordings_of_liesAt lies,
    sorted_mergeSort (pairwise_summaries (folder.disk.nodup_names trail)), fun info ↦ ?_⟩
  rw [List.mem_mergeSort, mem_summaries_iff]
  exact exists_congr fun name ↦ (offers_iff lies).symm

private theorem recordings_of_unlocated {cause : IoError}
    (unlocated : folder.disk.locate folder.path = .error cause) :
    folder.recordings = .error cause := by
  rw [recordings, Folder.names, Disk.namesIn, unlocated]
  rfl

private theorem recordings_of_missing (located : folder.disk.locate folder.path = .ok trail)
    (missing : folder.disk.entryAt trail = none) :
    folder.recordings = .error (.os .notFound) := by
  rw [recordings, Folder.names, Disk.namesIn, located]
  simp only [bind, Except.bind, missing]
  rfl

private theorem recordings_of_file {reversed : Bytes}
    (located : folder.disk.locate folder.path = .ok trail)
    (file : folder.disk.entryAt trail = some (.file reversed)) :
    folder.recordings = .error (.os .notADirectory) := by
  rw [recordings, Folder.names, Disk.namesIn, located]
  simp only [bind, Except.bind, file]
  rfl

theorem exists_liesAt {infos : List Info} (listed : folder.recordings = .ok infos) :
    ∃ trail, folder.LiesAt trail := by
  rcases located : folder.disk.locate folder.path with cause | trail
  · cases listed.symm.trans (recordings_of_unlocated located)
  · rcases entry : folder.disk.entryAt trail with _ | reversed | _
    · cases listed.symm.trans (recordings_of_missing located entry)
    · cases listed.symm.trans (recordings_of_file located entry)
    · exact ⟨trail, located, entry⟩

private theorem eq_of_sorted {infos others : List Info}
    (sorted : infos.Pairwise fun first second ↦ first.filename < second.filename)
    (still : others.Pairwise fun first second ↦ first.filename < second.filename)
    (same : ∀ info, info ∈ infos ↔ info ∈ others) : infos = others := by
  have : Std.Irrefl fun first second : Info ↦ first.filename < second.filename :=
    ⟨fun _ ↦ String.lt_irrefl _⟩
  have : Std.Antisymm fun first second : Info ↦ first.filename < second.filename :=
    ⟨fun _ _ before after ↦ absurd after (String.lt_asymm before)⟩
  exact sorted.eq_of_mem_iff still same

/-- Nothing of a disk matters for a list but what is found on it. -/
theorem recordings_congr {other : Disk} (same : other.entryAt = folder.disk.entryAt) :
    ({ folder with disk := other } : Folder).recordings = folder.recordings := by
  set moved : Folder := { folder with disk := other }
  have entry_eq (trail : Trail) : moved.disk.entryAt trail = folder.disk.entryAt trail :=
    congrFun same trail
  have located_eq : moved.disk.locate moved.path = folder.disk.locate folder.path :=
    Disk.locate_congr same folder.path
  rcases located : folder.disk.locate folder.path with cause | trail
  · rw [recordings_of_unlocated located, recordings_of_unlocated (located_eq.trans located)]
  · have again := located_eq.trans located
    rcases entry : folder.disk.entryAt trail with _ | reversed | _
    · rw [recordings_of_missing located entry,
        recordings_of_missing again ((entry_eq trail).trans entry)]
    · rw [recordings_of_file located entry, recordings_of_file again ((entry_eq trail).trans entry)]
    · obtain ⟨infos, listed, sorted, mem_iff⟩ := exists_recordings ⟨located, entry⟩
      obtain ⟨others, still, ordered, mem_others_iff⟩ :=
        exists_recordings ⟨again, (entry_eq trail).trans entry⟩
      have sameOffers (name : EntryName) (info : Info) :
          moved.Offers trail name info ↔ folder.Offers trail name info := by
        constructor
        · rintro ⟨named, ⟨noNul, path_le, name_le⟩, summed⟩
          exact ⟨named, ⟨noNul, path_le, name_le⟩, entry_eq (name :: trail) ▸ summed⟩
        · rintro ⟨named, ⟨noNul, path_le, name_le⟩, summed⟩
          exact ⟨named, ⟨noNul, path_le, name_le⟩, (entry_eq (name :: trail)).symm ▸ summed⟩
      rw [listed, still]
      refine congrArg Except.ok (eq_of_sorted ordered sorted fun info ↦ ?_)
      rw [mem_iff, mem_others_iff]
      exact exists_congr fun name ↦ sameOffers name info

/-- What a list of the recordings in a folder holds. -/
structure Listing (folder : Folder) : Prop where
  /-- If the folder is there, the list holds the recordings in it and nothing else, sorted by name
  and none of them twice. -/
  listed : ∀ trail, folder.LiesAt trail → ∃ infos, folder.recordings = .ok infos ∧
    infos.Pairwise (fun first second ↦ first.filename < second.filename) ∧
    ∀ info, info ∈ infos ↔ ∃ name, folder.Offers trail name info
  /-- If its path leads nowhere, there is no list. -/
  unlocated : ∀ cause, folder.disk.locate folder.path = .error cause →
    folder.recordings = .error cause
  /-- If nothing is there, neither. -/
  missing : ∀ trail, folder.disk.locate folder.path = .ok trail →
    folder.disk.entryAt trail = none → folder.recordings = .error (.os .notFound)
  /-- If a plain file is there, neither. -/
  plain : ∀ trail reversed, folder.disk.locate folder.path = .ok trail →
    folder.disk.entryAt trail = some (.file reversed) →
      folder.recordings = .error (.os .notADirectory)
  /-- The order in which the disk keeps its entries does not matter. -/
  unordered : ∀ other : Disk, other.list.Perm folder.disk.list →
    ({ folder with disk := other } : Folder).recordings = folder.recordings

theorem listing_recordings (folder : Folder) : folder.Listing where
  listed _ lies := exists_recordings lies
  unlocated _ unlocated := recordings_of_unlocated unlocated
  missing _ located missing := recordings_of_missing located missing
  plain _ _ located file := recordings_of_file located file
  unordered _ same := recordings_congr (Disk.entryAt_eq_of_perm same)

end Folder

end Glyphcast.Recording
