import Glyphcast.Recording.Disk.Access

/-!
# The recordings folder

All files of the program lie in one folder: it records into it, lists it and plays from it. A
folder is a path and the disk on which the path is looked up. Whether there is anything at the
path, and whether it is a directory, is for the disk to say, and is asked anew by each operation:
a name is joined to the path, and the whole is walked.
-/

namespace Glyphcast.Recording

/-- The folder that recordings are kept in. -/
structure Folder where
  /-- Its path, as it was given. -/
  path : String
  /-- The disk that it lies on. -/
  disk : Disk := .empty
  deriving DecidableEq, Repr

namespace Folder

/-- The path of a file in the folder. -/
def pathOf (folder : Folder) (name : String) : String := join folder.path name

/-- The bytes of a file. -/
def read (folder : Folder) (name : String) : Except IoError Bytes :=
  folder.disk.read (folder.pathOf name)

/-- The names of what the folder holds. -/
def names (folder : Folder) : Except IoError (List EntryName) := folder.disk.namesIn folder.path

/-- Make the folder if it is missing. -/
def ensure (folder : Folder) : Except IoError Folder :=
  (folder.disk.createDirectory folder.path).map ({ folder with disk := · })

/-- Make a file that was not there before. -/
def createNew (folder : Folder) (name : String) : Except IoError Folder :=
  (folder.disk.createNew (folder.pathOf name)).map ({ folder with disk := · })

/-- Write a file, whether or not it was there. -/
def write (folder : Folder) (name : String) (bytes : Bytes) : Except IoError Folder :=
  (folder.disk.write (folder.pathOf name) bytes).map ({ folder with disk := · })

/-- Write more bytes at the end of a file that is there. -/
def append (folder : Folder) (name : String) (bytes : Bytes) : Folder :=
  { folder with disk := folder.disk.extend (folder.pathOf name) bytes }

/-- Make a directory in the folder, and those on the way to it, unless they are there. -/
def createDirectory (folder : Folder) (name : String) : Except IoError Folder :=
  (folder.disk.createDirectory (folder.pathOf name)).map ({ folder with disk := · })

end Folder

end Glyphcast.Recording
