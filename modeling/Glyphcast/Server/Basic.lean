import Glyphcast.Server.Config
import Glyphcast.Station

/-!
# The server

A server takes connections for a station. Every connection gets a session of its own; the sessions
are numbered in the order in which the connections were taken. A connection that is refused, for
its path, has taken a number too, but holds no place any longer; one that finds all places taken
is let go without an answer and takes no number.

What clients and server say to each other at the level of packets is not modelled. What is left
is which connections there are, whose texts reach which session, and what is undone when a
connection ends.
-/

namespace Glyphcast

/-- How an attempt to connect ends. -/
inductive Handshake where
  /-- The connection is open. -/
  | accepted
  /-- The path is not one that connections may be opened on. -/
  | notFound
  /-- All places are taken. -/
  | dropped
  /-- Nobody listens. -/
  | refused
  deriving DecidableEq, Repr

/-- A server, its station and its connections. -/
structure Server (δ ρ : Type) where
  /-- The settings. -/
  config : ServerConfig
  /-- The station. -/
  station : Station δ ρ
  /-- Whether the host lets clients reach the server. -/
  isReachable : Bool := true
  /-- Whether connections are being taken. -/
  isListening : Bool := true
  /-- The number of the next session. -/
  nextId : Nat := 1
  /-- The connected clients, each with the seat of its session. -/
  peers : List (Nat × SeatNumber) := []

namespace Server

variable {δ ρ : Type} [CaptureDevice δ] [FrameRenderer ρ]

/-- The name by which the server introduces itself. -/
def serverName : String := "ascii-stream-rs"

/-- A server for a hub. The key is the one in the settings or, without one, the one given here. -/
def new (config : ServerConfig) (hub : Hub δ ρ) (generated : ApiKey) : Server δ ρ where
  config := config
  station := { hub, key := config.key.getD generated }

/-- The path of a request, without the query. -/
def requestPath (target : String) : String := .ofList (target.toList.takeWhile (· != '?'))

/-- Whether there is a place for another connection. -/
def hasPlace (server : Server δ ρ) : Bool :=
  server.config.maxConnections == 0 || server.peers.length < server.config.maxConnections

/-- The seat of a client. -/
def seatOf? (server : Server δ ρ) (client : Nat) : Option SeatNumber := server.peers.lookup client

/-- End a connection: its session is closed, and then the sink, unless the client has gone. -/
def hangUp (server : Server δ ρ) (client : Nat) : Server δ ρ :=
  match server.seatOf? client with
  | none => server
  | some number =>
    let station := server.station.teardown number
    let floor := (station.floor.modifySession number (·.closeSink)).release number
    { server with
      station := { station with floor }
      peers := server.peers.filter (·.1 != client) }

/-- Open a connection for a client. -/
def connect (server : Server δ ρ) (now client : Nat) (target : String) :
    Handshake × Server δ ρ :=
  if !server.isListening ∨ !server.isReachable then (.refused, server)
  else if !server.hasPlace then (.dropped, server)
  else
    -- a connection that is refused for its path has taken a number all the same
    let id := server.nextId
    let server := { server with nextId := id + 1 }
    if !server.config.acceptsPath (requestPath target) then (.notFound, server)
    else
      let session := Session.new id server.station.hub.config.viewerQueueCapacity now
      let (number, floor) := server.station.floor.enroll session {}
      (.accepted, { server with
        station := { server.station with floor }
        peers := server.peers ++ [(client, number)] })

/-- A text of a client. -/
def receiveText (server : Server δ ρ) (now : Nat) (stamp : Recording.Stamp)
    (number : SeatNumber) (text : String) : Server δ ρ :=
  { server with station := (server.station.handleText now stamp number text).2 }

/-- Bytes of a client that are no text. They are answered and otherwise ignored. -/
def receiveBytes (server : Server δ ρ) (number : SeatNumber) : Server δ ρ :=
  let floor := server.station.floor.sendReply number Reply.unknownCommand.text
  { server with station := { server.station with floor } }

/-- Take no more connections, and shut the hub down. Connections that are open stay open. -/
def stop (server : Server δ ρ) (now : Nat) : Server δ ρ :=
  { server with
    isListening := false
    station := { server.station with hub := server.station.hub.shutdown now } }

/-- Listen at the address of the settings. The host tells whether that is possible. -/
def bind (config : ServerConfig) (host : Net.SocketAddress → Except OsError Unit) :
    Except Error Unit :=
  (host config.bindAddress).mapError fun cause ↦ .io (.os cause)

instance : Timed (Server δ ρ) Floor.Delivery where
  settle server now :=
    let (deliveries, station) := server.station.settle now
    (deliveries, { server with station })
  nextDue? server := server.station.nextDue?

end Server

end Glyphcast
