import Glyphcast.Recording.Folder
import Glyphcast.Recording.Info
import Glyphcast.Text.Cut

/-!
# Finding recordings

`Folder.recordings` lists a folder, and `resolve?` finds a recording by the name that a client
gave. A list holds what is a recording by name and by content, sorted by name, whatever order the
folder keeps its entries in. A file that is not one is left out and disturbs no other.

## Names from outside

A client's name must not lead out of the folder. A name without a slash of either kind and without
two dots in a row cannot: joined to the folder's path it adds at most one step down.
-/

namespace Glyphcast.Recording

/-- What the names of recordings end in, after a dot. -/
def fileExtension : String := "asr"

/-- Whether a name is that of a recording: something, a dot, and the extension, which no dot
follows. -/
def isRecordingName (name : String) : Bool :=
  match Text.cut? (· == '.') name.toList.reverse with
  | some (last, first) => last.reverse == fileExtension.toList && !first.isEmpty
  | none => false

namespace Folder

/-- Sum up one file of the folder. -/
def info (folder : Folder) (name : String) : Except Error Info := do
  let data ← (folder.read name).mapError .io
  (Info.ofBytes (fileName name) data).mapError .format

/-- The recordings in the folder, sorted by name. -/
def recordings (folder : Folder) : Except IoError (List Info) := do
  let names := (← folder.names).map (·.text)
  let infos := names.filter isRecordingName |>.filterMap fun name ↦ (folder.info name).toOption
  return infos.mergeSort fun a b ↦ decide (a.filename ≤ b.filename)

end Folder

/-- Whether two dots stand in a row. -/
def hasTwoDots : List Char → Bool
  | [] => false
  | c :: cs => (c == '.' && cs.head? == some '.') || hasTwoDots cs

/-- Whether a name from outside stays inside the folder. -/
def isSafeName (name : String) : Bool :=
  name != "" && !name.toList.contains '/' && !name.toList.contains '\\' && !hasTwoDots name.toList

/-- The path of the recording that a client asks for by name, if the name is a safe one. -/
def resolve? (directory name : String) : Option String :=
  if isSafeName name then some (join directory name) else none

end Glyphcast.Recording
