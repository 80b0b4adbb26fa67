import Glyphcast.ApiKey
import Glyphcast.Net.Address

/-!
# The settings of a server

Where it listens, how many connections it takes, on which paths, and with which key.
-/

namespace Glyphcast

/-- The port that a server listens on when none is given. -/
def defaultPort : Nat := 8080

/-- The path of connections that watch the stream. -/
def streamPath : String := "/stream"

/-- The path of connections that play recordings. -/
def playbackPath : String := "/playback"

/-- The settings of a server. -/
structure ServerConfig where
  /-- Where to listen. -/
  bindAddress : Net.SocketAddress := .anywhere defaultPort
  /-- How many connections there may be at once; zero is any number. -/
  maxConnections : Nat := 0
  /-- Whether small packets are sent without delay. -/
  tcpNodelay : Bool := true
  /-- The paths that connections may be opened on. -/
  paths : List String := [streamPath, playbackPath]
  /-- The key, unless one is to be generated. -/
  key : Option ApiKey := none
  deriving DecidableEq, Repr

namespace ServerConfig

/-- Set where to listen. -/
def withAddress (config : ServerConfig) (address : Net.SocketAddress) : ServerConfig :=
  { config with bindAddress := address }

/-- Set how many connections there may be. -/
def withMaxConnections (config : ServerConfig) (count : Nat) : ServerConfig :=
  { config with maxConnections := count }

/-- Set whether small packets are sent without delay. -/
def withTcpNodelay (config : ServerConfig) (enabled : Bool) : ServerConfig :=
  { config with tcpNodelay := enabled }

/-- Allow another path; one that is allowed already is not added again. -/
def withPath (config : ServerConfig) (path : String) : ServerConfig :=
  if path ∈ config.paths then config else { config with paths := config.paths ++ [path] }

/-- Set the key. -/
def withKey (config : ServerConfig) (key : ApiKey) : ServerConfig :=
  { config with key := some key }

/-- Whether connections may be opened on a path. -/
def acceptsPath (config : ServerConfig) (path : String) : Bool := path ∈ config.paths

end ServerConfig

end Glyphcast
