import Glyphcast.Error
import Glyphcast.Recording.Path
import Glyphcast.Text.Utf8

/-!
# What lies on a disk

A disk holds files and directories, which hold entries in turn. All are kept in one list, each
under the trail of names that leads to it, and no trail twice. The entries stand in the order in
which they were made, which nobody should rely on; that no trail stands twice is part of the type,
so whatever is said of an entry found by its trail is said of the only one.

The top of all directories is always there. It has the empty trail and no place in the list.

The disk is the program's own and has room: nothing on it may not be read or made, so no operation
is refused as `permissionDenied`, and what is sent to an open file is written. Where a client is
told of a write that failed, at the end of a recording, the refusal is an argument
(`Recorder.finish`).
-/

namespace Glyphcast.Recording

/-- Something on a disk. -/
inductive Entry where
  /-- A plain file and its bytes, the last one first: a file grows at its end, and what it held is
  not copied then. -/
  | file (reversed : Bytes)
  /-- A directory. What it holds is kept under longer trails. -/
  | directory
  deriving DecidableEq, Repr

/-- A plain file of these bytes. -/
def Entry.ofBytes (bytes : Bytes) : Entry := .file bytes.reverse

/-- Entries under their trails. -/
structure Disk where
  /-- The entries with their trails, oldest first. -/
  list : List (Trail × Entry)
  /-- No trail stands twice. -/
  nodup : (list.map (·.1)).Nodup
  deriving DecidableEq, Repr

/-- The name of what a trail leads to, if that lies in the directory with this other trail. -/
def Trail.nameIn? (directory : Trail) : Trail → Option EntryName
  | [] => none
  | name :: above => if above = directory then some name else none

theorem Trail.nameIn?_eq_some_iff {directory trail : Trail} {name : EntryName} :
    Trail.nameIn? directory trail = some name ↔ trail = name :: directory := by
  cases trail with
  | nil => simp [nameIn?]
  | cons first above => simp [nameIn?, and_comm]

namespace Disk

/-- A disk with nothing on it. -/
def empty : Disk := ⟨[], List.nodup_nil⟩

/-- What a trail leads to. -/
def entryAt (disk : Disk) (trail : Trail) : Option Entry :=
  if trail = [] then some .directory else disk.list.lookup trail

/-- The names of what a directory holds. -/
def names (disk : Disk) (directory : Trail) : List EntryName :=
  disk.list.filterMap fun item ↦ Trail.nameIn? directory item.1

/-- A directory holds no two entries of one name. -/
theorem nodup_names (disk : Disk) (directory : Trail) : (disk.names directory).Nodup := by
  have apart := disk.nodup
  rw [List.Nodup, List.pairwise_map] at apart
  refine List.pairwise_filterMap.2 (apart.imp fun differ first hFirst second hSecond same ↦ ?_)
  exact differ ((Trail.nameIn?_eq_some_iff.1 hFirst).trans
    (congrArg (· :: directory) same |>.trans (Trail.nameIn?_eq_some_iff.1 hSecond).symm))

/-- A list with an entry under a trail: in place of the one that is there, or else at the end. -/
def putIn (trail : Trail) (entry : Entry) : List (Trail × Entry) → List (Trail × Entry)
  | [] => [(trail, entry)]
  | (key, old) :: rest =>
    if key = trail then (trail, entry) :: rest else (key, old) :: putIn trail entry rest

private theorem mem_trails_putIn {trail key : Trail} {entry : Entry} {list : List (Trail × Entry)} :
    key ∈ (putIn trail entry list).map (·.1) ↔ key = trail ∨ key ∈ list.map (·.1) := by
  induction list with
  | nil => simp [putIn]
  | cons first rest ih =>
    obtain ⟨other, old⟩ := first
    by_cases h : other = trail
    · simp [putIn, h]
    · simp only [putIn, h, if_false, List.map_cons, List.mem_cons, ih]
      exact or_left_comm

private theorem nodup_putIn {trail : Trail} {entry : Entry} {list : List (Trail × Entry)}
    (h : (list.map (·.1)).Nodup) : ((putIn trail entry list).map (·.1)).Nodup := by
  induction list with
  | nil => simp [putIn]
  | cons first rest ih =>
    obtain ⟨other, old⟩ := first
    rw [List.map_cons, List.nodup_cons] at h
    by_cases same : other = trail
    · subst same
      simpa [putIn] using h
    · simp only [putIn, same, if_false, List.map_cons, List.nodup_cons]
      refine ⟨fun mem ↦ ?_, ih h.2⟩
      rcases mem_trails_putIn.1 mem with rfl | mem
      · exact same rfl
      · exact h.1 mem

/-- What has been put under a trail is found there, and nothing else has moved. -/
theorem lookup_putIn {trail key : Trail} {entry : Entry} {list : List (Trail × Entry)} :
    (putIn trail entry list).lookup key = if key = trail then some entry else list.lookup key := by
  induction list with
  | nil =>
    by_cases h : key = trail
    · simp [putIn, h]
    · simp [putIn, List.lookup_cons, h, beq_eq_false_iff_ne.2 h]
  | cons first rest ih =>
    obtain ⟨other, old⟩ := first
    by_cases same : other = trail
    · subst same
      by_cases h : key = other
      · simp [putIn, h]
      · simp [putIn, List.lookup_cons, h, beq_eq_false_iff_ne.2 h]
    · by_cases h : key = other
      · subst h
        simp [putIn, same]
      · simp [putIn, List.lookup_cons, same, ih, beq_eq_false_iff_ne.2 h]

/-- Put an entry under a trail, in place of one that has it. -/
def put (disk : Disk) (trail : Trail) (entry : Entry) : Disk :=
  ⟨putIn trail entry disk.list, nodup_putIn disk.nodup⟩

theorem entryAt_put {disk : Disk} {trail key : Trail} {entry : Entry} (h : trail ≠ []) :
    (disk.put trail entry).entryAt key = if key = trail then some entry else disk.entryAt key := by
  by_cases top : key = []
  · subst top
    simp [entryAt, Ne.symm h]
  · simp [entryAt, put, top, lookup_putIn]

/-- Add bytes at the end of a file. Where there is no such file nothing changes. -/
def append (disk : Disk) (trail : Trail) (bytes : Bytes) : Disk :=
  match disk.entryAt trail with
  | some (.file reversed) => disk.put trail (.file (bytes.reverse ++ reversed))
  | some .directory | none => disk

end Disk

end Glyphcast.Recording
