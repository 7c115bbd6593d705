-- What this library asks of its surroundings: the clients of bridges, the host with its store and
-- its platforms, the registry of services, and discovery. A query is answered at once. A call takes
-- time, and may never be answered. Time is counted in milliseconds.
import HueLink.Bridge.Config
import HueLink.Bridge.Scene
import HueLink.Label
import HueLink.Notice
import HueLink.Platform

namespace HueLink

/-- A client of a bridge, as the surroundings number them. -/
structure Client where
  index : Nat
deriving DecidableEq, Repr

/-- A session, as the surroundings number them. -/
structure SessionId where
  index : Nat
deriving DecidableEq, Repr

/-- What is asked and answered at once. -/
inductive Query where
  /-- A new client for an address, with the username it starts with. -/
  | connect (host : String) (username : Option String)
  /-- The address a client says it talks to. -/
  | clientHost (c : Client)
  /-- The username a client holds. -/
  | clientUsername (c : Client)
  /-- The name of the home. -/
  | locationName
  /-- The stored registrations. -/
  | registrations
  /-- The contexts of the flows in progress. -/
  | flowsInProgress
  /-- A path, resolved against the directory of the host's configuration. -/
  | configPath (relative : String)
  /-- The username that a legacy file holds, as the lookup of a flow finds it. -/
  | legacyUsername (flow : Uuid) (path : String)
  /-- Have a bridge paired again. -/
  | startPairing (host : String)
  /-- Have a platform set up for a registration. -/
  | forwardSetup (registration : Registration) (platform : Platform)
  /-- Have a platform of a registration unloaded. The host begins with it at once; `unloaded` waits
  until it is done. -/
  | forwardUnload (registration : Registration) (platform : Platform)
  /-- Offer the scene service of a session. -/
  | registerSceneService (session : SessionId)
  /-- Withdraw the scene service; the answer says if there was one. -/
  | removeSceneService
  /-- Write a line to the log. -/
  | note (line : Notice)

abbrev Query.Answer : Query → Type
  | connect _ _ => Client
  | clientHost _ => String
  | clientUsername _ => Option String
  | locationName => HomeName
  | registrations => List Registration
  | flowsInProgress => List Pairing.FlowContext
  | configPath _ => String
  | legacyUsername _ _ => Option String
  | startPairing _ => Unit
  | forwardSetup _ _ => Unit
  | forwardUnload _ _ => Unit
  | registerSceneService _ => Unit
  | removeSceneService => Bool
  | note _ => Unit

/-- What takes time to be answered. -/
inductive Call where
  /-- Ask a bridge for a new username under a label; the client keeps it. -/
  | createUser (c : Client) (label : String)
  /-- Have the username of a client accepted, and load what the bridge tells of itself. -/
  | validate (c : Client)
  /-- The groups that a client last loaded. -/
  | groups (c : Client)
  /-- The scenes that a client last loaded. -/
  | scenes (c : Client)
  | updateGroups (c : Client)
  | updateScenes (c : Client)
  /-- Recall a scene on a group. -/
  | setGroupScene (c : Client) (group scene : String)
  /-- A discovery round. -/
  | discover
  /-- Wait until the host is done with unloading a platform. The answer says if that went well, and
  `none` that there was nothing to unload. -/
  | unloaded (registration : Registration) (platform : Platform)
  /-- Let time pass. -/
  | sleep (span : Nat)

abbrev Call.Answer : Call → Type
  | createUser _ _ => Except Fault Unit
  | validate _ => Except Fault BridgeConfig
  | groups _ => Except Fault (List Group)
  | scenes _ => Except Fault (List Scene)
  | updateGroups _ => Except Fault Unit
  | updateScenes _ => Except Fault Unit
  | setGroupScene _ _ _ => Except Fault Unit
  | discover => Except Fault (List Pairing.DiscoveredBridge)
  | unloaded _ _ => Option Bool
  | sleep _ => Unit

/-- How a call is received. -/
structure Reply (ω α : Type) where
  /-- The surroundings once they have the call. -/
  world : ω
  /-- How long the answer takes, or `none` if it never comes. -/
  delay : Option Nat
  /-- The answer, made from the surroundings at that time. A call that is given up has none, and
  then they do not change either. -/
  finish : ω → α × ω

/-- Surroundings: how they answer queries and receive calls. -/
structure Outside (ω : Type) where
  answer : (q : Query) → ω → q.Answer × ω
  receive : (c : Call) → ω → Reply ω c.Answer

end HueLink
