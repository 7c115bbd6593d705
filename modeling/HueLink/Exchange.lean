-- The exchange with a bridge that gives a client with an accepted username. Without a username the
-- bridge is first asked to create one, which works only shortly after its link button was pressed.
-- The exchange as a whole has ten seconds.
import HueLink.Integration
import HueLink.Routine.Attempt

namespace HueLink

/-- A client whose username the bridge accepted. -/
structure LinkedBridge where
  client : Client
  config : BridgeConfig
  username : String
deriving DecidableEq, Repr

namespace Exchange

variable {κ : Type}

/-- The calls of an exchange: a username is created if there is none, then the one held is
validated. -/
def calls (c : Client) (hasUsername : Bool) (home : HomeName) :
    Attempt (Except Fault BridgeConfig) := do
  if hasUsername then .request (.validate c)
  else
    match ← Attempt.request (.createUser c (Label.forHome home)) with
    | .ok () => .request (.validate c)
    | .error fault => pure (.error fault)

/-- What a fault means for an exchange. A fault of the protocol is noted, and pairing is
asked for. -/
def refuse (fault : Fault) : Routine κ BridgeError :=
  match fault.classify with
  | .unknown message => do
    Routine.note (.unknownLinkingError message)
    pure .authenticationRequired
  | e => pure e

/-- A client for a host, with the username given or else a new one. `home` labels a new username. -/
def acquire (host : String) (username : Option String) (home : HomeName) :
    Routine κ (Except BridgeError LinkedBridge) := do
  let client ← Routine.query (.connect host username)
  match ← (calls client username.isSome home).within authLimit with
  | none => pure (.error .cannotConnect)
  | some (.error fault) => return .error (← refuse fault)
  | some (.ok config) =>
    match ← Routine.query (.clientUsername client) with
    | some held => pure (.ok ⟨client, config, held⟩)
    | none => pure (.error .authenticationRequired)

end Exchange

end HueLink
