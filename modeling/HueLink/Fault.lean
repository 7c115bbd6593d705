-- What can go wrong. A `Fault` is what a bridge or a discovery round reports; a `BridgeError` is
-- what the pairing flow and the session make of it.
import HueLink.Codec.Error

namespace HueLink

/-- A fault reported by a bridge or a discovery round. -/
inductive Fault where
  /-- A user could not be created because nobody pressed the link button. -/
  | linkButtonNotPressed
  /-- The bridge rejected the username. -/
  | unauthorized
  /-- The request did not get through. -/
  | request (message : String)
  /-- Any other error of the bridge. -/
  | protocol (message : String)
deriving DecidableEq, Repr

def Fault.message : Fault → String
  | linkButtonNotPressed => "link button not pressed"
  | unauthorized => "unauthorized"
  | request message => "request error: " ++ message
  | protocol message => "bridge protocol error: " ++ message

/-- An error of a session. -/
inductive BridgeError where
  /-- The username is missing or was rejected; pairing again helps. -/
  | authenticationRequired
  /-- The bridge could not be reached in time; trying later helps. -/
  | cannotConnect
  /-- An answer that was not expected. -/
  | unknown (message : String)
  /-- The session was not set up. -/
  | notReady
  /-- The data of a service call has the wrong form. -/
  | invalidServiceData (error : Codec.DecodeError)
deriving DecidableEq, Repr

def BridgeError.message : BridgeError → String
  | authenticationRequired => "authentication required"
  | cannotConnect => "cannot connect to bridge"
  | unknown message => "unknown bridge error: " ++ message
  | notReady => "bridge session is not set up"
  | invalidServiceData error =>
    "invalid service data: Error(" ++ Text.quoted error.message ++ ", line: 0, column: 0)"

/-- The error a fault stands for. -/
def Fault.classify : Fault → BridgeError
  | linkButtonNotPressed => .authenticationRequired
  | unauthorized => .authenticationRequired
  | request _ => .cannotConnect
  | protocol message => .unknown message

end HueLink
