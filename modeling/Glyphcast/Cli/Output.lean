/-!
# What a command leaves behind

A command of the command line is a function from what it was given to what it writes and its exit
code. Writing it is left to the caller.
-/

namespace Glyphcast.Cli

/-- What a command writes, and how it ends. -/
structure Output where
  /-- What goes to the standard output. -/
  out : String := ""
  /-- What goes to the standard error. -/
  err : String := ""
  /-- The exit code. -/
  code : UInt32 := 0
  deriving DecidableEq, Repr

/-- Lines, each with its end. -/
def unlines (lines : List String) : String := String.join (lines.map (· ++ "\n"))

/-- A command that failed, with what it had written before. -/
def Output.failure (reason : String) (out : String) : Output :=
  { out, err := unlines ["Error: " ++ reason], code := 1 }

end Glyphcast.Cli
