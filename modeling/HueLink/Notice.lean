-- What is written to the log, and how it reads.
import HueLink.Fault
import HueLink.Pairing.Basic

namespace HueLink

/-- How grave a line of the log is. -/
inductive Level where
  | error | warn | info | debug
deriving DecidableEq, Repr

def Level.name : Level → String
  | error => "error"
  | warn => "warn"
  | info => "info"
  | debug => "debug"

/-- A line of the log. -/
inductive Notice where
  | unexpectedBridgeId (id : String)
  /-- A bridge answered an exchange with a protocol fault. -/
  | unknownLinkingError (message : String)
  | cannotReach (host : String)
  /-- An exchange ended in an error that none ends in. -/
  | unknownConnectingError (host : String) (error : BridgeError)
  | alreadySetUp (host : String)
  | modelFound (host model : String) (limit : Nat)
  | connected (host : String)
  | refreshing (host : String)
  | groupMissing (name : String)
  | sceneMissing (name : String)
  | usernameRejected (host : String)
  | discoveryFailed (fault : Fault)
  | linkWithoutHost
  | imported (host : String) (path : Option String)
  | usernameInvalid (host : String)
  | replacing (host : String)
  | aborting (flow : Uuid) (reason : Pairing.AbortReason)
  /-- A legacy file does not hold an object. -/
  | legacyIgnored
deriving DecidableEq

namespace Notice

def level : Notice → Level
  | unexpectedBridgeId _ | alreadySetUp _ | groupMissing _ | sceneMissing _ => .warn
  | unknownLinkingError _ | cannotReach _ | unknownConnectingError _ _ | usernameRejected _
  | discoveryFailed _ | linkWithoutHost => .error
  | connected _ | imported _ _ | usernameInvalid _ => .info
  | modelFound _ _ _ | refreshing _ | replacing _ | aborting _ _ | legacyIgnored => .debug

/-- A path as the log shows it, or that there is none. -/
def pathText : Option String → String
  | none => "None"
  | some path => "Some(" ++ Text.quoted path ++ ")"

/-- The text of a line; `flowName` says how flows are called. -/
def text (flowName : Uuid → String) : Notice → String
  | unexpectedBridgeId id => "Unexpected bridge id number found: " ++ id
  | unknownLinkingError message => "Unknown Hue linking error occurred: " ++ message
  | cannotReach host => "Error connecting to the Hue bridge at " ++ host
  | unknownConnectingError host error =>
    "Unknown error connecting with Hue bridge at " ++ host ++ ": " ++ error.message
  | alreadySetUp host => "Bridge session for " ++ host ++ " was already set up"
  | modelFound host model limit =>
    "Bridge " ++ host ++ " is a " ++ model ++ ", allowing " ++ toString limit ++
      " parallel requests"
  | connected host => "Connected to Hue bridge at " ++ host
  | refreshing host => "Refreshing groups and scenes of " ++ host
  | groupMissing name => "Unable to find group " ++ name
  | sceneMissing name => "Unable to find scene " ++ name
  | usernameRejected host =>
    "Unable to authorize to bridge " ++ host ++ ", setup the linking again."
  | discoveryFailed fault => "Bridge discovery failed: " ++ fault.message
  | linkWithoutHost => "Link step entered without a bridge host"
  | imported host path => "Imported authentication for " ++ host ++ " from " ++ pathText path
  | usernameInvalid host => "Invalid authentication for " ++ host ++ ", requesting link."
  | replacing host => "Registration for " ++ host ++ " will be replaced"
  | aborting flow reason => "Aborting pairing flow " ++ flowName flow ++ ": " ++ reason.name
  | legacyIgnored => "Ignoring legacy config"

end Notice

end HueLink
