import Glyphcast.Cli.Output
import Glyphcast.Device.Pattern
import Glyphcast.Server.Basic

/-!
# Running a server

The server command takes an address and a directory, sets up a station that shows the test
pattern, and serves it. Whether the address can be listened at is for the host to say.
-/

namespace Glyphcast.Cli.Serve

open Recording

/-- What the command can be given. -/
def usage : String :=
  unlines ["Usage: broadcast_server [BIND_ADDR] [RECORDINGS_DIR]",
    "",
    "Arguments:",
    "  BIND_ADDR       Address to bind to (default: 0.0.0.0:" ++ toString defaultPort ++ ")",
    "  RECORDINGS_DIR  Where recordings are written (default: " ++
      ({} : HubConfig).recordingsDir ++ ")",
    "",
    "Environment:",
    "  " ++ ApiKey.environmentName ++ "  Fixed API key (default: random)"]

/-- The address to listen at: an address with or without a port, where `localhost` may stand for
the host's own. -/
def bindAddress? (arg : String) : Option Net.SocketAddress :=
  let text := arg.replace "localhost" "127.0.0.1"
  (Net.SocketAddress.ofText? text).or
    ((Net.IpAddress.ofText? text).map fun ip ↦ { ip, port := defaultPort })

/-- What is said of an argument that is no address. -/
def invalidAddress (arg : String) : String :=
  "Invalid bind address: '" ++ arg ++ "'. Expected format: IP:PORT or IP or 'localhost'"

/-- What is said before the server listens. -/
def banner (address key recordingsDir : String) : String :=
  unlines ["Starting ASCII stream server on " ++ address,
    "API key:    " ++ key,
    "Recordings: " ++ recordingsDir,
    "",
    "Live:     ws://" ++ address ++ streamPath,
    "Playback: ws://" ++ address ++ playbackPath,
    ""]

/-- What is said at the end. -/
def farewell {δ ρ : Type} (station : Station δ ρ) : String :=
  unlines ["Stopped: viewers=" ++ toString (station.hub.roster.size station.floor) ++
    " frames=" ++ toString station.hub.counters.captured ++
    " errors=" ++ toString station.hub.counters.errors]

/-- Serve at an address until the host ends it. -/
def serve (address : Net.SocketAddress) (recordingsDir : String) (key : Option ApiKey)
    (generated : ApiKey) (host : Net.SocketAddress → Except OsError Unit) : Output :=
  let config : ServerConfig := { bindAddress := address, key }
  let hub : Hub PatternDevice RampRenderer :=
    .new {} {} (({} : HubConfig).withRecordingsDir recordingsDir) .empty
  let server := Server.new config hub generated
  let opening := banner address.text server.station.key.text recordingsDir
  match Server.bind config host with
  | .error error =>
    { out := opening ++ farewell server.station
      err := unlines ["Server error: " ++ error.message] }
  | .ok () => { out := opening ++ farewell (server.stop 0).station }

/-- The server command. -/
def run (args : List String) (key : Option ApiKey) (generated : ApiKey)
    (host : Net.SocketAddress → Except OsError Unit) : Output :=
  if args.any fun arg ↦ arg = "--help" ∨ arg = "-h" then { err := usage }
  else
    let recordingsDir := args[1]?.getD ({} : HubConfig).recordingsDir
    match args.head? with
    | none => serve (.anywhere defaultPort) recordingsDir key generated host
    | some arg =>
      match bindAddress? arg with
      | some address => serve address recordingsDir key generated host
      | none =>
        { err := unlines ["Error: " ++ invalidAddress arg, ""] ++ usage, code := 1 }

end Glyphcast.Cli.Serve
