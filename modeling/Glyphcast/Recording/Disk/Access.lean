import Glyphcast.Recording.Disk.Basic

/-!
# Files by their paths

Every operation on a disk takes a path and fails as the host's file system would. Where two things
are wrong with a path the host's order decides which is reported:

1. a NUL in it, which no path can hold;
2. no path at all, or one of more than `maxPath` bytes;
3. the steps, one after the other: each needs a directory to be taken in, so it fails where there
   is nothing or a plain file, and one that goes down needs a name of at most `maxName` bytes;
4. the entry itself.

The walk of every path begins at the top of all directories, which is also where commands are run:
a slash in front makes no difference to where a path leads.

## Making directories

A directory is made together with those on the way to it, but only if it is for want of these that
it could not be made at once. A plain file on the way is therefore reported as such, by the step
that cannot be taken in it, and at the end of the way as something that has the name already.
-/

namespace Glyphcast.Recording.Disk

/-- The most bytes of a path. -/
def maxPath : Nat := 4095

/-- The most bytes of a name. -/
def maxName : Nat := 255

/-! ## Walking -/

/-- Where a step leads from a directory. There is nothing above the top. -/
def follow : Step → Trail → Except OsError Trail
  | .stay, trail => .ok trail
  | .up, trail => .ok trail.tail
  | .down name, trail =>
    if maxName < name.text.utf8ByteSize then .error .nameTooLong else .ok (name :: trail)

/-- Where steps lead from what a trail leads to. Whether something is there is looked at only when
there is a further step to take. -/
def walk (disk : Disk) : List Step → Trail → Except OsError Trail
  | [], trail => .ok trail
  | step :: steps, trail =>
    match disk.entryAt trail with
    | none => .error .notFound
    | some (.file _) => .error .notADirectory
    | some .directory =>
      match follow step trail with
      | .error cause => .error cause
      | .ok trail => disk.walk steps trail

/-- Whether the host takes a text for a path. -/
def admits (path : String) : Except IoError Unit :=
  if '\x00' ∈ path.toList then .error .nulInName
  else if maxPath < path.utf8ByteSize then .error (.os .nameTooLong)
  else .ok ()

/-- Where a path leads. An empty one leads nowhere. -/
def locate (disk : Disk) (path : String) : Except IoError Trail := do
  admits path
  if path = "" then throw (.os .notFound)
  (disk.walk (steps path) []).mapError .os

/-! ## Reading -/

/-- The bytes of a file. -/
def read (disk : Disk) (path : String) : Except IoError Bytes := do
  match disk.entryAt (← disk.locate path) with
  | none => throw (.os .notFound)
  | some .directory => throw (.os .isADirectory)
  | some (.file reversed) => return reversed.reverse

/-- The names of what a directory holds. -/
def namesIn (disk : Disk) (path : String) : Except IoError (List EntryName) := do
  let trail ← disk.locate path
  match disk.entryAt trail with
  | none => throw (.os .notFound)
  | some .directory => return disk.names trail
  | some (.file _) => throw (.os .notADirectory)

/-! ## Writing -/

/-- Make a file that was not there before. -/
def createNew (disk : Disk) (path : String) : Except IoError Disk := do
  let trail ← disk.locate path
  match disk.entryAt trail with
  | none => return disk.put trail (.ofBytes [])
  | some _ => throw (.os .alreadyExists)

/-- Write a file, whether or not it was there. -/
def write (disk : Disk) (path : String) (bytes : Bytes) : Except IoError Disk := do
  let trail ← disk.locate path
  match disk.entryAt trail with
  | some .directory => throw (.os .isADirectory)
  | some (.file _) | none => return disk.put trail (.ofBytes bytes)

/-- Write more bytes at the end of a file that is there. -/
def extend (disk : Disk) (path : String) (bytes : Bytes) : Disk :=
  match disk.locate path with
  | .ok trail => disk.append trail bytes
  | .error _ => disk

/-! ## Making directories -/

/-- Make the directory that steps lead to, unless it is there. -/
def makeDirectory (disk : Disk) (steps : List Step) : Except OsError Disk := do
  let trail ← disk.walk steps []
  match disk.entryAt trail with
  | none => return disk.put trail .directory
  | some .directory => return disk
  | some (.file _) => throw .alreadyExists

/-- Make each directory that steps lead through, unless it is there. -/
def makeWay (disk : Disk) : List Step → Trail → Except OsError Disk
  | [], _ => .ok disk
  | step :: steps, trail =>
    match follow step trail with
    | .error cause => .error cause
    | .ok trail =>
      match disk.entryAt trail with
      | none => (disk.put trail .directory).makeWay steps trail
      | some .directory => disk.makeWay steps trail
      | some (.file _) => .error .alreadyExists

/-- Make the directory that steps lead to and, if it is for want of them that this fails, those on
the way to it. The last step is the last one that leads elsewhere: staying makes no directory. -/
def makeDirectories (disk : Disk) (steps : List Step) : Except OsError Disk :=
  match disk.makeDirectory steps with
  | .error .notFound => do
    let disk ← disk.makeWay (steps.filter (· ≠ .stay)).dropLast []
    disk.makeDirectory steps
  | made => made

/-- Make a directory and those on the way to it, unless they are there. For an empty path there is
nothing to make, and since it is to be a directory, slashes at the end make no difference. -/
def createDirectory (disk : Disk) (path : String) : Except IoError Disk := do
  admits path
  if path = "" then return disk
  (disk.makeDirectories (steps (dropLastSlashes path))).mapError .os

end Glyphcast.Recording.Disk
