import Glyphcast.Cli.Inspect
import Glyphcast.Cli.Serve

/-!
# The command line

`inspect [DIRECTORY [RECORDING]]` looks at recordings, and `serve [ADDRESS [DIRECTORY]]` runs a
server. What either writes and how it ends is decided by `Cli.Inspect.run` and `Cli.Serve.run`.
Left for here is what only the host knows: the files of a folder, the key in the environment,
random numbers, and that there is no network to listen on.
-/

namespace Glyphcast.Cli

open Recording

/-- The entry of a path on the disk, if it can be read. -/
def readEntry (path : String) : IO (Option Entry) := do
  match ← (IO.FS.readBinFile path).toBaseIO with
  | .ok bytes => return some (.ofBytes bytes.toList)
  | .error (.inappropriateType ..) => return some .directory
  | .error _ => return none

/-- A folder with an entry under a path, if the path can be walked. -/
def place (folder : Folder) (path : String) (entry : Entry) : Folder :=
  match folder.disk.locate path with
  | .ok trail => { folder with disk := folder.disk.put trail entry }
  | .error _ => folder

/-- The folder at a path, on a disk with nothing else. What its directories hold is left out: no
recording is looked for there. -/
def readFolder (path : String) : IO Folder := do
  let missing : Folder := { path }
  let folder := missing.ensure.toOption.getD missing
  try
    let names ← (← IO.FS.realPath path).readDir
    let found ← names.toList.filterMapM fun entry ↦ do
      let path := folder.pathOf entry.fileName
      return (← readEntry path).map (path, ·)
    return found.foldl (fun folder item ↦ place folder item.1 item.2) folder
  catch
    | .noFileOrDirectory .. | .invalidArgument .. => return missing
    | .inappropriateType .. => return place folder path (.ofBytes [])
    | error => throw error

/-- A key of random characters. -/
def drawKey : IO ApiKey := do
  let draws ← (List.range ApiKey.generatedLength).mapM fun _ ↦
    IO.rand 0 (ApiKey.alphabet.length - 1)
  return .generate fun n ↦ draws.getD n 0

/-- Where the server may listen: nowhere, since there is no network. -/
def noNetwork (_ : Net.SocketAddress) : Except OsError Unit := .error .addressNotAvailable

/-- The command that the arguments name. -/
def command : List String → IO Output
  | "inspect" :: args => return Inspect.run (← readFolder (Inspect.directory args)) args
  | "serve" :: args => do
    let key := (← IO.getEnv ApiKey.environmentName).map ApiKey.mk
    return Serve.run args key (← drawKey) noNetwork
  | _ =>
    return { err := unlines ["Usage: glyphcast inspect [DIRECTORY [RECORDING]]",
      "       glyphcast serve [ADDRESS [DIRECTORY]]"], code := 1 }

end Glyphcast.Cli

/-- Run the command that the arguments name, write what it writes, and end as it ends. -/
def main (args : List String) : IO UInt32 := do
  let output ← Glyphcast.Cli.command args
  IO.print output.out
  IO.eprint output.err
  return output.code
