-- Sessions: one for each registered bridge. A session is set up once; from then on its calls go
-- through a gate that lets no more of them run at once than the bridge can take.
import HueLink.Exchange
import HueLink.Semaphore
import HueLink.Session.Options

namespace HueLink

/-- Where a session stands in its life. The two failures are meant to be for ever. -/
inductive SessionState where
  | uninitialized | authenticating | authorized | authFailed | connFailed
deriving DecidableEq, Repr

/-- What a setup answers to the host. -/
inductive SetupOutcome where
  | loaded
  /-- The bridge could not be reached. -/
  | retryLater
  /-- This registration cannot be set up. -/
  | failed
deriving DecidableEq, Repr

/-- What a session has once it is set up. -/
structure Ready where
  client : Client
  config : BridgeConfig
  /-- How many calls may run at once. -/
  limit : Nat
  gate : Semaphore
deriving DecidableEq, Repr

/-- What a session keeps. -/
structure Cell where
  state : SessionState
  ready : Option Ready
  /-- The bridge could be reached when the platforms last tried. -/
  available : Bool
  /-- The bridge has not rejected the username since the setup. -/
  authorized : Bool
deriving DecidableEq, Repr

/-- A session that was not set up yet. -/
def Cell.fresh : Cell := ⟨.uninitialized, none, true, false⟩

/-- The session of a registration. -/
structure Session where
  handle : SessionId
  registration : Registration
  options : Options
deriving DecidableEq, Repr

namespace Cell

/-- An update of the gate, if there is one. -/
def mapGate (f : Semaphore → Semaphore) (c : Cell) : Cell :=
  { c with ready := c.ready.map fun r => { r with gate := f r.gate } }

/-- The gate, if there is one. -/
def gate? (c : Cell) : Option Semaphore := c.ready.map (·.gate)

/-- How many calls may run at once, if that is known. -/
def limit? (c : Cell) : Option Nat := c.ready.map (·.limit)

/-- What the bridge told of itself, if it was asked. -/
def config? (c : Cell) : Option BridgeConfig := c.ready.map (·.config)

/-- The client, or the error that there is none. -/
def client (c : Cell) : Except BridgeError Client :=
  match c.ready with
  | some r => .ok r.client
  | none => .error .notReady

end Cell

namespace Session

/-- The address of the bridge. -/
def host (s : Session) : String := s.registration.host

variable {κ : Type}

/-- Writes the state of the session, under its lock. -/
def setState (state : SessionState) : Routine Cell Unit :=
  .lock (Routine.modify fun c => { c with state })

end Session

end HueLink
