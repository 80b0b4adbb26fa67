import Glyphcast.Cli.Inspect
import Glyphcast.Cli.Serve
import Glyphcast.Main
import Glyphcast.Proofs.Hub.Broadcast
import Glyphcast.Proofs.Hub.Shutdown
import Glyphcast.Proofs.Playback.Delivery
import Glyphcast.Proofs.Playback.Settle
import Glyphcast.Proofs.Recording.Interrupted
import Glyphcast.Proofs.Recording.RoundTrip
import Glyphcast.Proofs.Session.Delivery
import Glyphcast.Proofs.Station.Departure
import Glyphcast.Proofs.Station.Exclusivity
import Glyphcast.Proofs.Station.Isolation
import Glyphcast.Proofs.Station.Playback
import Glyphcast.Proofs.Station.Settle
import Glyphcast.Proofs.Device.Logged
import Glyphcast.Proofs.Hub.Start
import Glyphcast.Proofs.Hub.Accounting
import Glyphcast.Proofs.Json.Written
import Glyphcast.Proofs.Json.Reading
import Glyphcast.Proofs.Message.Fields
import Glyphcast.Proofs.Message.Layout
import Glyphcast.Proofs.Json.Grammar
import Glyphcast.Proofs.Roster.Slot
import Glyphcast.Proofs.Session.Silence
import Glyphcast.Proofs.Hub.Request
import Glyphcast.Proofs.Playback.Diary
import Glyphcast.Proofs.Playback.Pacing
import Glyphcast.Proofs.Playback.Bounds
import Glyphcast.Proofs.Recording.Metadata
import Glyphcast.Proofs.Recording.Listing
import Glyphcast.Proofs.Hub.Offer
import Glyphcast.Proofs.Hub.Confinement
import Glyphcast.Proofs.Renderer.Grid
import Glyphcast.Proofs.Renderer.Drawing
import Glyphcast.Proofs.Renderer.Brightness
import Glyphcast.Proofs.Hub.Pattern
import Glyphcast.Proofs.Recording.HeaderLine
import Glyphcast.Proofs.Recording.Caution
import Glyphcast.Proofs.Station.Defaults
import Glyphcast.Proofs.Station.Replies
import Glyphcast.Proofs.ApiKey.Comparison
