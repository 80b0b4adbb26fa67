import Glyphcast.Proofs.Recording.Listing
import Glyphcast.Proofs.Recording.Recorder

/-!
# The name of a new recording

A recording gets the first name of its second that is free. Whether a name is free is for the disk
to say, so three things have to be known of it first: that the folder is a directory once it has
been made, that a name leads from there to one place of its own, and what making a file comes to,
which is refused in one way where something has the name and in other ways where the host takes no
such name.

The search is `createFirst`, and `createFirst_eq_ok_iff` says what it finds.
-/

namespace Glyphcast.Recording

open Decimal (padded)

/-! ## Slashes at the end -/

private theorem parts_append_slashes (front : List Char) (count : Nat) :
    parts (front ++ List.replicate count '/') = parts front ++ List.replicate count [] := by
  induction count with
  | zero => rw [List.replicate_zero, List.replicate_zero, List.append_nil, List.append_nil]
  | succ count ih =>
    rw [List.replicate_succ', ← List.append_assoc, parts_append_slash, ih, List.append_assoc,
      List.replicate_succ']
    rfl

/-- The slashes at the end of a path make steps that stay. -/
theorem exists_steps_dropLastSlashes (path : String) : ∃ count,
    steps path = steps (dropLastSlashes path) ++ List.replicate count .stay := by
  rw [dropLastSlashes]
  split_ifs with empty
  · exact ⟨0, (List.append_nil _).symm⟩
  let slashes := path.toList.reverse.takeWhile (· == '/')
  let front := (path.toList.reverse.dropWhile (· == '/')).reverse
  have alike : slashes = List.replicate slashes.length '/' :=
    List.eq_replicate_iff.mpr ⟨rfl, fun c mem ↦ beq_iff_eq.mp
      (List.mem_takeWhile_imp (p := (· == '/')) mem)⟩
  have whole : path.toList = front ++ List.replicate slashes.length '/' := by
    calc path.toList = (slashes ++ path.toList.reverse.dropWhile (· == '/')).reverse := by
          rw [List.takeWhile_append_dropWhile, List.reverse_reverse]
      _ = front ++ slashes.reverse := List.reverse_append
      _ = front ++ List.replicate slashes.length '/' := by
          rw [alike, List.reverse_replicate, List.length_replicate]
  refine ⟨slashes.length, ?_⟩
  have stays : Step.ofPart (.ofList []) = .stay := by decide
  change steps path = steps (.ofList front) ++ _
  rw [steps, steps, whole, parts_append_slashes, List.map_append, List.map_replicate, stays,
    String.toList_ofList]

/-! ## Directories -/

namespace Disk

variable {disk before after : Disk} {path name : String} {trail here there : Trail}

theorem IsDirectory.grows (h : before.IsDirectory path trail) (grown : before.Grows after) :
    after.IsDirectory path trail :=
  ⟨grown.keepsDirectories.walk h.1, grown trail _ h.2⟩

private theorem walk_append_stays_iff {front : List Step} (count : Nat) :
    disk.walk (front ++ List.replicate count .stay) here = .ok there ∧
        disk.entryAt there = some .directory ↔
      disk.walk front here = .ok there ∧ disk.entryAt there = some .directory := by
  induction count with
  | zero => rw [List.replicate_zero, List.append_nil]
  | succ count ih =>
    rw [← ih, List.replicate_succ', ← List.append_assoc, walk_append_eq_ok_iff]
    simp only [walk_singleton_eq_ok_iff, follow, Except.ok.injEq]
    constructor
    · rintro ⟨⟨middle, walked, -, rfl⟩, isDirectory⟩
      exact ⟨walked, isDirectory⟩
    · rintro ⟨walked, isDirectory⟩
      exact ⟨⟨there, walked, isDirectory, rfl⟩, isDirectory⟩

/-- Slashes at the end of its path make no difference to a directory. -/
theorem isDirectory_dropLastSlashes :
    disk.IsDirectory (dropLastSlashes path) trail ↔ disk.IsDirectory path trail := by
  obtain ⟨count, all⟩ := exists_steps_dropLastSlashes path
  rw [IsDirectory, IsDirectory, all, walk_append_stays_iff]

theorem createDirectory_of_isDirectory (admitted : admits path = .ok ())
    (h : disk.IsDirectory path trail) : disk.createDirectory path = .ok disk := by
  obtain ⟨walked, isDirectory⟩ := isDirectory_dropLastSlashes.mpr h
  rw [createDirectory, admitted]
  simp only [bind, Except.bind]
  split_ifs with empty
  · rfl
  · have made : disk.makeDirectory (steps (dropLastSlashes path)) = .ok disk := by
      simp only [makeDirectory, walked, bind, Except.bind, isDirectory]
      rfl
    rw [makeDirectories, made]
    rfl

theorem exists_isDirectory_of_createDirectory (h : disk.createDirectory path = .ok after) :
    ∃ trail, after.IsDirectory path trail := by
  rcases createDirectory_cases h with ⟨rfl, rfl⟩ | ⟨middle, -, made⟩
  · exact ⟨[], walk_singleton_eq_ok_iff.mpr ⟨entryAt_top _, rfl⟩, entryAt_top _⟩
  obtain ⟨trail, walked, ⟨free, rfl⟩ | ⟨isDirectory, rfl⟩⟩ := makeDirectory_cases made
  · have vacant : middle.entryAt trail ≠ some .directory := by
      rw [free]
      rintro ⟨⟩
    exact ⟨trail, isDirectory_dropLastSlashes.mp
      ⟨(keepsDirectories_put vacant _).walk walked, entryAt_put_self vacant _⟩⟩
  · exact ⟨trail, isDirectory_dropLastSlashes.mp ⟨walked, isDirectory⟩⟩

/-! ## Names in a directory -/

theorem admits_of_join (plain : '/' ∉ name.toList) (h : admits (join path name) = .ok ()) :
    admits path = .ok () := by
  have relative : name.toList.head? ≠ some '/' := fun head ↦ plain (List.mem_of_head? head)
  obtain ⟨rest, whole⟩ : ∃ rest, join path name = path ++ rest := by
    rw [join, if_neg relative]
    split_ifs
    · exact ⟨name, rfl⟩
    · exact ⟨"/" ++ name, String.append_assoc⟩
  rw [whole, admits_eq_ok_iff, String.toList_append, List.mem_append, not_or,
    String.utf8ByteSize_append] at h
  rw [admits_eq_ok_iff]
  exact ⟨h.1.1, by omega⟩

private theorem walk_ne_alreadyExists (disk : Disk) (steps : List Step) (here : Trail) :
    disk.walk steps here ≠ .error .alreadyExists := by
  induction steps generalizing here with
  | nil => rintro ⟨⟩
  | cons step steps ih =>
    rw [walk]
    split
    · rintro ⟨⟩
    · rintro ⟨⟩
    cases led : follow step here with
    | error cause =>
      rintro ⟨⟩
      cases step with
      | stay => cases led
      | up => cases led
      | down name =>
        rw [follow] at led
        split_ifs at led
        cases led
    | ok there => exact ih there

private theorem locate_ne_alreadyExists (disk : Disk) (path : String) :
    disk.locate path ≠ .error (.os .alreadyExists) := by
  unfold locate
  cases admitted : admits path with
  | error cause =>
    rintro ⟨⟩
    unfold admits at admitted
    split_ifs at admitted <;> cases admitted
  | ok _ =>
    simp only [bind, Except.bind]
    split_ifs
    · rintro ⟨⟩
    · intro failed
      have never := disk.walk_ne_alreadyExists (steps path) []
      cases walked : disk.walk (steps path) [] with
      | ok trail =>
        rw [walked] at failed
        cases failed
      | error cause =>
        rw [walked] at failed
        cases failed
        exact never walked

end Disk

/-! ## Names taken and names free -/

namespace Folder

variable {folder after : Folder} {name : String} {entry : EntryName}

/-- Something has the name. -/
def Taken (folder : Folder) (name : String) : Prop :=
  ∃ trail entry, folder.disk.locate (folder.pathOf name) = .ok trail ∧
    folder.disk.entryAt trail = some entry

/-- The host takes the name, and nothing has it. -/
def Free (folder : Folder) (name : String) : Prop :=
  ∃ trail, folder.disk.locate (folder.pathOf name) = .ok trail ∧
    folder.disk.entryAt trail = none

/-- The first of some names that is free. Something has each of those before it. -/
def FirstFree (folder : Folder) (names : List String) (name : String) : Prop :=
  ∃ earlier later, names = earlier ++ name :: later ∧ (∀ other ∈ earlier, folder.Taken other) ∧
    folder.Free name

private theorem Taken.not_free (taken : folder.Taken name) : ¬folder.Free name := by
  rintro ⟨trail, located, free⟩
  obtain ⟨there, entry, located', found⟩ := taken
  cases located.symm.trans located'
  cases free.symm.trans found

private theorem firstFree_cons_of_taken {first : String} {names : List String}
    (taken : folder.Taken first) :
    folder.FirstFree (first :: names) name ↔ folder.FirstFree names name := by
  constructor
  · rintro ⟨earlier, later, parts, allTaken, free⟩
    cases earlier with
    | nil =>
      cases parts
      exact absurd free taken.not_free
    | cons other earlier =>
      cases parts
      exact ⟨earlier, later, rfl, fun other mem ↦ allTaken other (List.mem_cons_of_mem first mem),
        free⟩
  · rintro ⟨earlier, later, rfl, allTaken, free⟩
    refine ⟨first :: earlier, later, rfl, ?_, free⟩
    rw [List.forall_mem_cons]
    exact ⟨taken, allTaken⟩

private theorem firstFree_cons_of_not_taken {first : String} {names : List String}
    (untaken : ¬folder.Taken first) :
    folder.FirstFree (first :: names) name ↔ name = first ∧ folder.Free first := by
  constructor
  · rintro ⟨earlier, later, parts, allTaken, free⟩
    cases earlier with
    | nil =>
      cases parts
      exact ⟨rfl, free⟩
    | cons other earlier =>
      cases parts
      exact absurd (allTaken first List.mem_cons_self) untaken
  · rintro ⟨rfl, free⟩
    exact ⟨[], names, rfl, by rintro _ ⟨⟩, free⟩

/-- In a folder that is there a name is taken or free, if the host takes it at all. -/
theorem taken_or_free {home : Trail} (there : folder.disk.IsDirectory folder.path home)
    (takes : folder.Takes entry) : folder.Taken entry.text ∨ folder.Free entry.text := by
  have located := locate_pathOf_eq_ok_iff.mpr ⟨takes, home, there, rfl⟩
  cases found : folder.disk.entryAt (entry :: home) with
  | none => exact .inr ⟨_, located, found⟩
  | some kept => exact .inl ⟨_, kept, located, found⟩

theorem taken_iff {listed : List EntryName} (h : folder.names = .ok listed) :
    folder.Taken entry.text ↔ folder.Takes entry ∧ entry ∈ listed := by
  obtain ⟨trail, lies, rfl⟩ : ∃ trail, folder.LiesAt trail ∧ listed = folder.disk.names trail := by
    rw [names, Disk.namesIn] at h
    cases located : folder.disk.locate folder.path with
    | error cause =>
      rw [located] at h
      cases h
    | ok trail =>
      simp only [located, bind, Except.bind] at h
      split at h
      · cases h
      · next isDirectory =>
        cases h
        exact ⟨trail, ⟨located, isDirectory⟩, rfl⟩
      · cases h
  rw [Disk.mem_names_iff]
  constructor
  · rintro ⟨there, kept, located, found⟩
    obtain ⟨takes, home, ⟨walked, -⟩, rfl⟩ := locate_pathOf_eq_ok_iff.mp located
    cases lies.isDirectory.1.symm.trans walked
    exact ⟨takes, kept, found⟩
  · rintro ⟨takes, kept, found⟩
    exact ⟨_, kept, locate_pathOf_eq_ok_iff.mpr ⟨takes, trail, lies.isDirectory, rfl⟩, found⟩

/-- Something has the name where the host reports so, and only there. -/
theorem createNew_eq_alreadyExists_iff :
    folder.createNew name = .error (.os .alreadyExists) ↔ folder.Taken name := by
  have located_ne := folder.disk.locate_ne_alreadyExists (folder.pathOf name)
  rw [createNew, Taken]
  unfold Disk.createNew
  cases located : folder.disk.locate (folder.pathOf name) with
  | error cause =>
    rw [located] at located_ne
    constructor
    · intro refused
      cases refused
      exact absurd rfl located_ne
    · rintro ⟨trail, entry, ⟨⟩, -⟩
  | ok trail =>
    simp only [bind, Except.bind, Except.ok.injEq]
    cases found : folder.disk.entryAt trail with
    | none =>
      constructor
      · rintro ⟨⟩
      · rintro ⟨_, entry, rfl, found'⟩
        cases found.symm.trans found'
    | some entry => exact ⟨fun _ ↦ ⟨trail, entry, rfl, found⟩, fun _ ↦ rfl⟩

theorem createNew_eq_ok_iff : folder.createNew name = .ok after ↔
    ∃ trail, folder.disk.locate (folder.pathOf name) = .ok trail ∧
      folder.disk.entryAt trail = none ∧
      after = { folder with disk := folder.disk.put trail (.ofBytes []) } := by
  constructor
  · intro made
    obtain ⟨disk, created, rfl⟩ := disk_of_createNew made
    obtain ⟨trail, located, free, rfl⟩ := Disk.put_of_createNew created
    exact ⟨trail, located, free, rfl⟩
  · rintro ⟨trail, located, free, rfl⟩
    simp only [createNew, Disk.createNew, located, bind, Except.bind, free]
    rfl

end Folder

/-! ## The search -/

namespace Recorder

variable {folder after : Folder} {stem name : String} {names : List String}

/-- A name that is taken leads on to the next. -/
theorem createFirst_cons_of_taken (taken : folder.Taken name) :
    createFirst folder stem (name :: names) = createFirst folder stem names := by
  conv_lhs => unfold createFirst
  rw [Folder.createNew_eq_alreadyExists_iff.mpr taken]

private theorem createFirst_cons_of_not_taken (untaken : ¬folder.Taken name) :
    createFirst folder stem (name :: names) = (folder.createNew name).map (name, ·) := by
  rw [← Folder.createNew_eq_alreadyExists_iff] at untaken
  unfold createFirst
  split
  · next made =>
    rw [made]
    rfl
  · next taken => exact absurd taken untaken
  · next refused =>
    rw [refused]
    rfl

/-- What the search finds is the first name that is free, and it makes its file. -/
theorem createFirst_eq_ok_iff : createFirst folder stem names = .ok (name, after) ↔
    folder.FirstFree names name ∧ folder.createNew name = .ok after := by
  induction names with
  | nil =>
    constructor
    · rintro ⟨⟩
    · rintro ⟨⟨earlier, later, parts, -⟩, -⟩
      cases List.append_ne_nil_of_right_ne_nil earlier (List.cons_ne_nil name later) parts.symm
  | cons first names ih =>
    by_cases taken : folder.Taken first
    · rw [createFirst_cons_of_taken taken, ih, Folder.firstFree_cons_of_taken taken]
    · rw [createFirst_cons_of_not_taken taken, Folder.firstFree_cons_of_not_taken taken]
      constructor
      · intro found
        cases made : folder.createNew first with
        | error cause =>
          rw [made] at found
          cases found
        | ok grown =>
          rw [made] at found
          cases found
          obtain ⟨trail, located, free, -⟩ := Folder.createNew_eq_ok_iff.mp made
          exact ⟨⟨rfl, trail, located, free⟩, made⟩
      · rintro ⟨⟨rfl, -⟩, made⟩
        rw [made]
        rfl

theorem createFirst_of_taken (taken : ∀ name ∈ names, folder.Taken name) :
    createFirst folder stem names = .error (.noFreeName stem) := by
  induction names with
  | nil => rfl
  | cons first names ih =>
    rw [List.forall_mem_cons] at taken
    rw [createFirst_cons_of_taken taken.1, ih taken.2]

theorem exists_firstFree_or_taken
    (settled : ∀ name ∈ names, folder.Taken name ∨ folder.Free name) :
    (∃ name, folder.FirstFree names name) ∨ ∀ name ∈ names, folder.Taken name := by
  induction names with
  | nil => exact .inr (by rintro _ ⟨⟩)
  | cons first names ih =>
    rw [List.forall_mem_cons] at settled ⊢
    rcases settled.1 with taken | free
    · rcases ih settled.2 with ⟨name, found⟩ | all
      · exact .inl ⟨name, (Folder.firstFree_cons_of_taken taken).mpr found⟩
      · exact .inr ⟨taken, all⟩
    · exact .inl ⟨first, [], names, rfl, by rintro _ ⟨⟩, free⟩

end Recorder

/-! ## The names of a second -/

private theorem isEntryName_of_head {text : String} (head : text.toList.head? = some 'a')
    (plain : '/' ∉ text.toList) : isEntryName text = true := by
  simp only [isEntryName, Bool.and_eq_true, bne_iff_ne, Bool.not_eq_true', List.contains_eq_mem,
    decide_eq_false_iff_not]
  refine ⟨⟨⟨?_, ?_⟩, ?_⟩, plain⟩ <;> rintro rfl <;> exact absurd head (by decide)

private theorem not_slash_append {first second : String} (h : '/' ∉ first.toList)
    (h' : '/' ∉ second.toList) : '/' ∉ (first ++ second).toList := by
  rw [String.toList_append, List.mem_append, not_or]
  exact ⟨h, h'⟩

theorem head?_append {first : String} {c : Char} (h : first.toList.head? = some c)
    (second : String) : (first ++ second).toList.head? = some c := by
  rw [String.toList_append, List.head?_append, h, Option.some_or]

private theorem Stamp.not_slash_mem_stem (stamp : Stamp) : '/' ∉ stamp.stem.toList := by
  have number (width n : Nat) : '/' ∉ (padded width n).toList := by
    intro mem
    have digit := Text.isDigit_of_mem_padded mem
    exact absurd digit (by decide)
  have front : '/' ∉ "ascii_stream_".toList := by decide
  have underscore : '/' ∉ "_".toList := by decide
  have date := not_slash_append (not_slash_append (not_slash_append front (number 4 stamp.year))
    (number 2 stamp.month)) (number 2 stamp.day)
  exact not_slash_append (not_slash_append (not_slash_append (not_slash_append date underscore)
    (number 2 stamp.hour)) (number 2 stamp.minute)) (number 2 stamp.second)

private theorem Stamp.head?_stem (stamp : Stamp) : stamp.stem.toList.head? = some 'a' := by
  have front : "ascii_stream_".toList.head? = some 'a' := by decide
  have date := head?_append (head?_append (head?_append front (padded 4 stamp.year))
    (padded 2 stamp.month)) (padded 2 stamp.day)
  exact head?_append (head?_append (head?_append (head?_append date "_") (padded 2 stamp.hour))
    (padded 2 stamp.minute)) (padded 2 stamp.second)

theorem isEntryName_of_mem_candidates {stamp : Stamp} {name : String}
    (mem : name ∈ Recorder.candidates stamp.stem) : isEntryName name = true := by
  have behind {rest : String} (plain : '/' ∉ rest.toList) :
      isEntryName (stamp.stem ++ rest) = true := by
    exact isEntryName_of_head (head?_append stamp.head?_stem rest)
      (not_slash_append stamp.not_slash_mem_stem plain)
  have ending : '/' ∉ ("." ++ fileExtension).toList := by decide
  obtain ⟨n, -, named⟩ := List.mem_map.mp mem
  split_ifs at named
  · rw [← named, String.append_assoc]
    exact behind ending
  · have numeral : '/' ∉ (toString n).toList := by
      rw [Text.toList_toString]
      intro mem
      have digit := Decimal.isDigit_of_mem_digits mem
      exact absurd digit (by decide)
    have underscore : '/' ∉ "_".toList := by decide
    rw [← named, String.append_assoc, String.append_assoc, String.append_assoc]
    exact behind (not_slash_append underscore (not_slash_append numeral ending))

end Glyphcast.Recording
