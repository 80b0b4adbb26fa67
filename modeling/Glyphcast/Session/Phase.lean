/-!
# The life of a session

A session starts without a role, is granted one at most once, and ends closed. `Phase` is where it
stands; a role, once granted, is kept until the end, whatever is asked for afterwards.
-/

namespace Glyphcast

/-- What a session may do. -/
inductive Role where
  /-- Watch the stream and play recordings. -/
  | viewer
  /-- Start, stop and record the stream as well. -/
  | controller
  deriving DecidableEq, Repr

namespace Role

/-- The name of a role. -/
def name : Role → String
  | viewer => "viewer"
  | controller => "controller"

/-- The role that a name stands for. -/
def ofName? : String → Option Role
  | "viewer" => some viewer
  | "controller" => some controller
  | _ => none

end Role

/-- Where a session stands. -/
inductive Phase where
  /-- No role has been granted yet. -/
  | unauthenticated
  /-- The session is a viewer. -/
  | viewer
  /-- The session is the controller. -/
  | controller
  /-- The connection is gone. -/
  | closed
  deriving DecidableEq, Repr

namespace Phase

/-- The name of a phase. -/
def name : Phase → String
  | unauthenticated => "unauthenticated"
  | viewer => "viewer"
  | controller => "controller"
  | closed => "closed"

/-- The phase that a name stands for. -/
def ofName? : String → Option Phase
  | "unauthenticated" => some unauthenticated
  | "viewer" => some viewer
  | "controller" => some controller
  | "closed" => some closed
  | _ => none

/-- The phase's name as it stands in a log. -/
def label : Phase → String
  | unauthenticated => "Unauthenticated"
  | viewer => "Viewer"
  | controller => "Controller"
  | closed => "Closed"

/-- The phase that comes with a role. -/
def ofRole : Role → Phase
  | .viewer => viewer
  | .controller => controller

/-- The role held in a phase. -/
def role? : Phase → Option Role
  | viewer => some .viewer
  | controller => some .controller
  | unauthenticated | closed => none

/-- Whether a role has been granted. -/
def isAuthenticated (phase : Phase) : Bool := phase.role?.isSome

/-- Whether the stream may be controlled. -/
def isController (phase : Phase) : Bool := phase == controller

/-- Grant a role. Only a session that has none takes it. -/
def authenticate (phase : Phase) (role : Role) : Phase :=
  if phase = unauthenticated then ofRole role else phase

end Phase

end Glyphcast
