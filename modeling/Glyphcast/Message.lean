import Glyphcast.Json.Reader
import Glyphcast.Session.Phase

/-!
# What clients send

A message is a JSON value tagged by its type. The usual form is an object whose member `type`
names the message and whose other members are its fields; the short form is an array of the type
and the fields in their order. `Fields` is what the two forms have in common, and each message is
read from it by the list of its field names.

## What counts as the same message

The order of an object's members does not matter, and members that a message does not know are
ignored however often they occur. A member that it does know, or `type` itself, may occur only
once. In the short form fields may be missing at the end, but none may be too many.
-/

namespace Glyphcast

/-- A message from a client. -/
inductive Message where
  /-- Present the key and ask for a role. -/
  | auth (apiKey : String) (role : Role)
  /-- Start the stream; what is left open is up to the hub. -/
  | config (cameraIndex : UInt32) (resolution : Option String) (fps : Option UInt32)
  /-- Stop the stream. -/
  | stop
  /-- Start recording the stream. -/
  | recordStart
  /-- Finish the recording. -/
  | recordStop
  /-- Play a recording back to the sender. -/
  | playbackStart (filename : String)
  /-- Pause the playback. -/
  | playbackPause
  /-- Go on with the playback. -/
  | playbackResume
  /-- Stop the playback. -/
  | playbackStop
  /-- Change the speed of the playback. -/
  | playbackSpeed (speed : Float)

namespace Message

/-- The type name of a message. -/
def kind : Message → String
  | auth .. => "auth"
  | config .. => "config"
  | stop => "stop"
  | recordStart => "record_start"
  | recordStop => "record_stop"
  | playbackStart _ => "playback_start"
  | playbackPause => "playback_pause"
  | playbackResume => "playback_resume"
  | playbackStop => "playback_stop"
  | playbackSpeed _ => "playback_speed"

/-- Whether only the controller may send the message. -/
def requiresController : Message → Bool
  | config .. | stop | recordStart | recordStop => true
  | _ => false

/-! ## Reading -/

/-- The fields of a message, in either form. -/
inductive Fields where
  /-- The members of an object, without its type. -/
  | named (members : List (String × Json))
  /-- The items of an array, after its type. -/
  | positional (items : List Json)

namespace Fields

/-- The value of a member that may be missing and must not be repeated. -/
def member? (members : List (String × Json)) (name : String) : Option (Option Json) :=
  match members.filter (·.1 == name) with
  | [] => some none
  | [(_, value)] => some (some value)
  | _ => none

/-- The values of the fields with these names, in order, `none` for those left out. -/
def values? (names : List String) : Fields → Option (List (Option Json))
  | named members => names.mapM (member? members)
  | positional items =>
    if items.length ≤ names.length then
      some (items.map some ++ List.replicate (names.length - items.length) none)
    else none

end Fields

/-- The type and the fields of a message in either form. -/
def split? : Json → Option (String × Fields)
  | .object members => do
    let kind ← (← Fields.member? members "type").bind Json.asText?
    return (kind, .named (members.filter (·.1 != "type")))
  | .array (.string kind :: items) => some (kind, .positional items)
  | _ => none

/-- The role that a field asks for: its name, or an object with that name and nothing in it. -/
def readRole? : Json → Option Role
  | .string name => Role.ofName? name
  | .object [(name, .null)] => Role.ofName? name
  | .object [(name, .object [])] => Role.ofName? name
  | _ => none

/-- A field that may be left out. -/
def defaulted {α : Type} (value : Option Json) (read : Json → Option α) (otherwise : α) :
    Option α :=
  match value with
  | none => some otherwise
  | some value => read value

/-- Messages that have no fields. -/
def bare? : String → Option Message
  | "stop" => some stop
  | "record_start" => some recordStart
  | "record_stop" => some recordStop
  | "playback_pause" => some playbackPause
  | "playback_resume" => some playbackResume
  | "playback_stop" => some playbackStop
  | _ => none

/-- The message of a type with these fields. -/
def ofFields? (kind : String) (fields : Fields) : Option Message :=
  match kind with
  | "auth" => do
    match ← fields.values? ["api_key", "role"] with
    | [apiKey, role] =>
      return auth (← apiKey.bind Json.asText?) (← defaulted role readRole? .viewer)
    | _ => none
  | "config" => do
    match ← fields.values? ["camera_index", "resolution", "fps"] with
    | [cameraIndex, resolution, fps] =>
      return config (← defaulted cameraIndex Json.asWord? 0)
        (← defaulted resolution (Json.asOptional? Json.asText?) none)
        (← defaulted fps (Json.asOptional? Json.asWord?) none)
    | _ => none
  | "playback_start" => do
    match ← fields.values? ["filename"] with
    | [filename] => return playbackStart (← filename.bind Json.asText?)
    | _ => none
  | "playback_speed" => do
    match ← fields.values? ["speed"] with
    | [speed] => return playbackSpeed (← speed.bind Json.asFloat?)
    | _ => none
  | _ => do
    let _ ← fields.values? []
    bare? kind

/-- The message that a JSON value stands for. -/
def ofJson? (value : Json) : Option Message := do
  let (kind, fields) ← split? value
  ofFields? kind fields

/-- The message that a text stands for. -/
def parse? (text : String) : Option Message := do ofJson? (← Json.parse? text)

end Message

end Glyphcast
