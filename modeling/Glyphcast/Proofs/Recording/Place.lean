import Glyphcast.Proofs.Recording.Disk
import Glyphcast.Recording.Listing

/-!
# Where a name leads

A name is joined to the path of a directory, and the whole is a path like any other. What comes of
it is told twice here.

## By its text

`Place.ofPath` takes the steps of a path without looking at any disk: a step up undoes the step down
before it, and where there is none it stays at the top, or leads further out if the path does not
begin at the top. `Within` says that one path leads to where another leads or directly into it, and
a name that is safe cannot make a path that does not.

## On a disk

Walking along a joined path is walking along the directory's and taking one step more, and that
step needs a directory to be taken in. The one thing to be careful with is a slash at the end of the
directory's path. It is a step of its own, which stays, and it is not there when something follows.
-/

namespace Glyphcast.Recording

/-! ## Joined paths -/

private theorem parts_ne_nil (cs : List Char) : parts cs ≠ [] := by
  cases cs with
  | nil => exact List.cons_ne_nil _ _
  | cons c cs =>
    rw [parts]
    split
    · exact List.cons_ne_nil _ _
    · split <;> exact List.cons_ne_nil _ _

theorem parts_append_slash (front back : List Char) :
    parts (front ++ '/' :: back) = parts front ++ parts back := by
  induction front with
  | nil => rfl
  | cons c front ih =>
    rw [List.cons_append, parts, parts]
    split
    · rw [ih, List.cons_append]
    · obtain ⟨part, rest, whole⟩ := List.exists_cons_of_ne_nil (parts_ne_nil front)
      rw [ih, whole]
      rfl

variable {directory name path : String}

/-- The steps of a joined path are those of the directory and the one that the name stands for. A
slash at the end of the directory's path makes no step then. -/
theorem exists_steps_join (plain : '/' ∉ name.toList) (directory : String) :
    ∃ way, (steps directory = way ∨ steps directory = way ++ [.stay]) ∧
      steps (join directory name) = way ++ [.ofPart name] := by
  have single : parts name.toList = [name.toList] := parts_eq_singleton plain
  have relative : name.toList.head? ≠ some '/' := fun head ↦ plain (List.mem_of_head? head)
  rw [join, if_neg relative]
  by_cases empty : directory = ""
  · subst empty
    refine ⟨[], .inr rfl, ?_⟩
    rw [if_pos (.inl rfl), String.empty_append, steps, single]
    simp
  · by_cases slash : directory.toList.getLast? = some '/'
    · obtain ⟨front, whole⟩ := List.getLast?_eq_some_iff.mp slash
      refine ⟨(parts front).map fun part ↦ .ofPart (.ofList part), .inr ?_, ?_⟩
      · rw [steps, whole, parts_append_slash, List.map_append]
        rfl
      · rw [if_pos (.inr slash), steps, String.toList_append, whole, List.append_assoc,
          List.singleton_append, parts_append_slash, List.map_append, single]
        simp
    · refine ⟨steps directory, .inl rfl, ?_⟩
      rw [if_neg (not_or_intro empty slash), steps, String.toList_append, String.toList_append,
        List.append_assoc]
      change (parts (directory.toList ++ '/' :: name.toList)).map _ = _
      rw [parts_append_slash, List.map_append, single, steps]
      simp

/-! ## Places -/

/-- A place, as far as the text of a path tells it. -/
structure Place where
  /-- Whether it is told from the top of all directories. -/
  rooted : Bool
  /-- How far out it lies from where the path begins. -/
  above : Nat := 0
  /-- The names on the way down from there, its own first. -/
  names : Trail := []
  deriving DecidableEq

namespace Place

/-- Where a step leads. There is nothing above the top, but there may be something above the place
that another path begins at. -/
def follow (place : Place) : Step → Place
  | .stay => place
  | .up =>
    match place.names with
    | _ :: names => { place with names }
    | [] => if place.rooted then place else { place with above := place.above + 1 }
  | .down name => { place with names := name :: place.names }

/-- The place that a path tells. -/
def ofPath (path : String) : Place :=
  (steps path).foldl follow { rooted := path.toList.head? == some '/' }

/-- The parts of a path to it that has none too many. -/
def components (place : Place) : List String :=
  List.replicate place.above ".." ++ place.names.reverse.map (·.text)

example : (ofPath "a/../../b/./c/").components = ["..", "b", "c"] := by decide

@[simp] private theorem components_down (place : Place) (name : EntryName) :
    (place.follow (.down name)).components = place.components ++ [name.text] := by
  simp [follow, components]

private theorem rooted_join (plain : '/' ∉ name.toList) :
    ((join directory name).toList.head? == some '/') = (directory.toList.head? == some '/') := by
  have relative : name.toList.head? ≠ some '/' := fun head ↦ plain (List.mem_of_head? head)
  rw [join, if_neg relative]
  by_cases empty : directory = ""
  · rw [if_pos (.inl empty), empty, String.empty_append]
    exact beq_eq_false_iff_ne.mpr relative
  · have first (rest : String) : (directory ++ rest).toList.head? = directory.toList.head? := by
      have some : directory.toList ≠ [] := mt String.toList_eq_nil_iff.mp empty
      rw [String.toList_append, List.head?_append, List.head?_eq_some_head some, Option.some_or]
    split
    · rw [first]
    · rw [String.append_assoc, first]

private theorem ofPath_join (plain : '/' ∉ name.toList) :
    ofPath (join directory name) = (ofPath directory).follow (.ofPart name) := by
  obtain ⟨way, ways, all⟩ := exists_steps_join plain directory
  have begins : (steps directory).foldl follow { rooted := directory.toList.head? == some '/' } =
      way.foldl follow { rooted := directory.toList.head? == some '/' } := by
    rcases ways with same | same
    · rw [same]
    · rw [same, List.foldl_append]
      rfl
  rw [ofPath, ofPath, all, List.foldl_append, begins, rooted_join plain]
  rfl

end Place

/-! ## Names from outside -/

private theorem hasTwoDots_iff {cs : List Char} : hasTwoDots cs = true ↔ ['.', '.'] <:+: cs := by
  induction cs with
  | nil => decide
  | cons c cs ih =>
    have front : (c == '.' && cs.head? == some '.') = true ↔ ['.', '.'] <+: c :: cs := by
      rw [List.cons_prefix_cons, Bool.and_eq_true, beq_iff_eq, beq_iff_eq, eq_comm (a := c)]
      refine and_congr_right fun _ ↦ ?_
      cases cs with
      | nil => decide
      | cons d cs =>
        rw [List.head?_cons, Option.some_inj, List.cons_prefix_cons, eq_comm,
          and_iff_left (List.nil_prefix)]
    rw [hasTwoDots, Bool.or_eq_true, front, ih, List.infix_cons_iff]

/-- What makes a name a safe one. -/
theorem isSafeName_iff : isSafeName name = true ↔ name ≠ "" ∧ '/' ∉ name.toList ∧
    '\\' ∉ name.toList ∧ ¬['.', '.'] <:+: name.toList := by
  rw [← hasTwoDots_iff, isSafeName]
  simp [and_assoc]

theorem resolve?_eq_none_iff : resolve? directory name = none ↔
    name = "" ∨ '/' ∈ name.toList ∨ '\\' ∈ name.toList ∨ ['.', '.'] <:+: name.toList := by
  have safe : isSafeName name = true ↔ ¬(name = "" ∨ '/' ∈ name.toList ∨ '\\' ∈ name.toList ∨
      ['.', '.'] <:+: name.toList) := by
    rw [isSafeName_iff, not_or, not_or, not_or]
  rw [resolve?]
  split_ifs with isSafe
  · constructor
    · intro h
      cases h
    · intro h
      exact absurd h (safe.mp isSafe)
  · rw [safe, Classical.not_not] at isSafe
    exact iff_of_true rfl isSafe

theorem resolve?_eq_some_iff : resolve? directory name = some path ↔
    isSafeName name = true ∧ path = join directory name := by
  rw [resolve?]
  split_ifs with safe
  · rw [Option.some_inj, and_iff_right safe, eq_comm]
  · constructor
    · intro h
      cases h
    · intro h
      exact absurd h.1 safe

/-- One path leads to where another leads, or directly into it, whatever there is on a disk. -/
structure Within (directory path : String) : Prop where
  /-- Both begin at the top, or neither does. -/
  rooted_eq : (Place.ofPath path).rooted = (Place.ofPath directory).rooted
  /-- The way to the directory is a part of the way. -/
  front : (Place.ofPath directory).components <+: (Place.ofPath path).components
  /-- It is no more than a single step longer. -/
  length_le : (Place.ofPath path).components.length ≤
    (Place.ofPath directory).components.length + 1

example : ¬Within "rec" "rec/../secret" := fun h ↦ absurd h.front (by decide)

/-- A safe name leads nowhere, or down to the entry of that name. -/
theorem Step.ofPart_cases (safe : isSafeName name = true) :
    Step.ofPart name = .stay ∨ ∃ entry, Step.ofPart name = .down entry ∧ entry.text = name := by
  obtain ⟨-, -, -, dots⟩ := isSafeName_iff.mp safe
  have notUp : name ≠ ".." := by
    rintro rfl
    exact dots (List.infix_refl _)
  rw [Step.ofPart, EntryName.ofText?]
  by_cases isName : isEntryName name = true
  · rw [dif_pos isName]
    exact .inr ⟨_, rfl, rfl⟩
  · rw [dif_neg isName]
    exact .inl (if_neg notUp)

/-- A safe name does not lead out of the directory. -/
theorem within_join (safe : isSafeName name = true) (directory : String) :
    Within directory (join directory name) := by
  have place : Place.ofPath (join directory name) =
      (Place.ofPath directory).follow (.ofPart name) :=
    Place.ofPath_join (isSafeName_iff.mp safe).2.1
  rcases Step.ofPart_cases safe with stays | ⟨entry, leads, -⟩
  · rw [stays] at place
    constructor
    · rw [place]
      rfl
    · rw [place]
      exact List.prefix_refl _
    · rw [place]
      exact Nat.le_succ _
  · rw [leads] at place
    constructor
    · rw [place]
      rfl
    · rw [place, Place.components_down]
      exact List.prefix_append _ _
    · rw [place, Place.components_down, List.length_append]
      exact Nat.le_refl _

/-! ## Walks -/

namespace Disk

variable {disk : Disk} {here there : Trail}

theorem walk_append_eq_ok_iff {first second : List Step} :
    disk.walk (first ++ second) here = .ok there ↔
      ∃ middle, disk.walk first here = .ok middle ∧ disk.walk second middle = .ok there := by
  induction first generalizing here with
  | nil => exact ⟨fun h ↦ ⟨here, rfl, h⟩, fun ⟨_, same, h⟩ ↦ Except.ok.inj same ▸ h⟩
  | cons step steps ih =>
    rw [List.cons_append, walk, walk]
    cases disk.entryAt here with
    | none => exact ⟨nofun, fun ⟨_, h, _⟩ ↦ nomatch h⟩
    | some entry =>
      cases entry with
      | file reversed => exact ⟨nofun, fun ⟨_, h, _⟩ ↦ nomatch h⟩
      | directory =>
        dsimp only
        cases follow step here with
        | error cause => exact ⟨nofun, fun ⟨_, h, _⟩ ↦ nomatch h⟩
        | ok next => exact ih

theorem walk_singleton_eq_ok_iff {step : Step} : disk.walk [step] here = .ok there ↔
    disk.entryAt here = some .directory ∧ follow step here = .ok there := by
  rw [walk]
  cases disk.entryAt here with
  | none => exact ⟨nofun, nofun⟩
  | some entry =>
    cases entry with
    | file reversed => exact ⟨nofun, nofun⟩
    | directory =>
      dsimp only
      cases follow step here with
      | error cause => exact ⟨nofun, nofun⟩
      | ok next => exact ⟨fun h ↦ ⟨rfl, h⟩, fun h ↦ h.2⟩

theorem walk_join_eq_ok_iff (plain : '/' ∉ name.toList) (directory : String) :
    disk.walk (steps (join directory name)) [] = .ok there ↔
      ∃ trail, disk.walk (steps directory) [] = .ok trail ∧
        disk.entryAt trail = some .directory ∧ follow (.ofPart name) trail = .ok there := by
  obtain ⟨way, ways, all⟩ := exists_steps_join plain directory
  rw [all, walk_append_eq_ok_iff]
  simp only [walk_singleton_eq_ok_iff]
  rcases ways with same | same
  · rw [same]
  · -- the slash at the end makes a step that is only taken in a directory, too
    simp only [same, walk_append_eq_ok_iff, walk_singleton_eq_ok_iff, follow, Except.ok.injEq]
    constructor
    · rintro ⟨trail, walked, isDirectory, led⟩
      exact ⟨trail, ⟨trail, walked, isDirectory, rfl⟩, isDirectory, led⟩
    · rintro ⟨_, ⟨trail, walked, isDirectory, rfl⟩, -, led⟩
      exact ⟨trail, walked, isDirectory, led⟩

/-- A path leads to a directory. -/
def IsDirectory (disk : Disk) (path : String) (trail : Trail) : Prop :=
  disk.walk (steps path) [] = .ok trail ∧ disk.entryAt trail = some .directory

theorem follow_down_eq_ok_iff {entry : EntryName} :
    follow (.down entry) here = .ok there ↔
      entry.text.utf8ByteSize ≤ maxName ∧ there = entry :: here := by
  rw [follow]
  split_ifs with long
  · constructor
    · intro h
      cases h
    · intro h
      exact absurd long (Nat.not_lt.mpr h.1)
  · rw [Except.ok.injEq, eq_comm, and_iff_right (Nat.not_lt.mp long)]

theorem admits_eq_ok_iff : admits path = .ok () ↔
    '\x00' ∉ path.toList ∧ path.utf8ByteSize ≤ maxPath := by
  rw [admits]
  split_ifs with nul long
  · exact ⟨nofun, fun h ↦ absurd nul h.1⟩
  · exact ⟨nofun, fun h ↦ absurd long (Nat.not_lt.mpr h.2)⟩
  · exact ⟨fun _ ↦ ⟨nul, Nat.not_lt.mp long⟩, fun _ ↦ rfl⟩

/-- What is read under a safe name is the file of that name in the directory. -/
theorem exists_entry_of_read (safe : isSafeName name = true) {data : Bytes}
    (read : disk.read (join directory name) = .ok data) :
    ∃ trail entry, disk.walk (steps directory) [] = .ok trail ∧ entry.text = name ∧
      disk.entryAt (entry :: trail) = some (.ofBytes data) := by
  obtain ⟨there, located, file⟩ := read_eq_ok_iff.mp read
  obtain ⟨-, -, walked⟩ := locate_eq_ok_iff.mp located
  obtain ⟨trail, led, isDirectory, last⟩ :=
    (walk_join_eq_ok_iff (isSafeName_iff.mp safe).2.1 directory).mp walked
  rcases Step.ofPart_cases safe with stays | ⟨entry, leads, named⟩
  · -- a directory is not read
    rw [stays, follow] at last
    cases last
    cases isDirectory.symm.trans file
  · rw [leads] at last
    obtain ⟨-, rfl⟩ := follow_down_eq_ok_iff.mp last
    exact ⟨trail, entry, led, named, file⟩

end Disk

end Glyphcast.Recording
