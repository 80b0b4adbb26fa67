/-!
# Paths

A path is walked step by step: each part between two slashes stays where it is, goes up, or goes
down to an entry by its name. `steps` cuts a path into these steps, and no path is without one.

An empty part and a single dot stay, so a slash too many changes nothing; but staying is a step,
and only in a directory can a step be taken. That is why `a/` and `a/.` do not lead to a plain
file `a`.

What a step goes down to is an `EntryName`. That it has no slash and is neither empty nor one of
the two dotted names is part of the type, so an entry is reached by its name alone.
-/

namespace Glyphcast.Recording

/-- The path of a name inside a directory. A name with a slash in front tells the whole way. -/
def join (directory name : String) : String :=
  if name.toList.head? = some '/' then name
  else if directory = "" ∨ directory.toList.getLast? = some '/' then directory ++ name
  else directory ++ "/" ++ name

/-- The last part of a path. -/
def fileName (path : String) : String :=
  .ofList (path.toList.reverse.takeWhile (· != '/')).reverse

/-- A path without the slashes at its end, unless it is nothing else. -/
def dropLastSlashes (path : String) : String :=
  let rest := path.toList.reverse.dropWhile (· == '/')
  if rest.isEmpty then path else .ofList rest.reverse

/-! ## Names of entries -/

/-- Whether a text can be the name of an entry. -/
def isEntryName (text : String) : Bool :=
  text != "" && text != "." && text != ".." && !text.toList.contains '/'

/-- The name of an entry of a directory. -/
structure EntryName where
  /-- The name as a text. -/
  text : String
  /-- It is not empty, has no slash, and is not the name of the directory or of the one above. -/
  isName : isEntryName text = true
  deriving DecidableEq, Repr

/-- The name that a text is. -/
def EntryName.ofText? (text : String) : Option EntryName :=
  if h : isEntryName text then some ⟨text, h⟩ else none

/-! ## Steps -/

/-- One step on the way that a path describes. -/
inductive Step where
  /-- Stay in the directory. -/
  | stay
  /-- Go to the directory above. -/
  | up
  /-- Go to an entry of the directory. -/
  | down (name : EntryName)
  deriving DecidableEq, Repr

/-- The step that a part of a path stands for. A part without a slash that names no entry is empty
or dotted. -/
def Step.ofPart (part : String) : Step :=
  match EntryName.ofText? part with
  | some name => .down name
  | none => if part = ".." then .up else .stay

/-- The parts between the slashes of a path. -/
def parts : List Char → List (List Char)
  | [] => [[]]
  | c :: cs =>
    if c = '/' then [] :: parts cs
    else
      match parts cs with
      | [] => [[c]]
      | part :: rest => (c :: part) :: rest

/-- The steps of a path. -/
def steps (path : String) : List Step := (parts path.toList).map fun part ↦ .ofPart (.ofList part)

theorem parts_eq_singleton {cs : List Char} (h : '/' ∉ cs) : parts cs = [cs] := by
  induction cs with
  | nil => rfl
  | cons c cs ih =>
    rw [List.mem_cons, not_or] at h
    simp [parts, Ne.symm h.1, ih h.2]

/-! ## Trails -/

/-- The names on the way to an entry, its own first and that of the outermost directory last. The
top of all directories has no name on the way. -/
abbrev Trail := List EntryName

end Glyphcast.Recording
