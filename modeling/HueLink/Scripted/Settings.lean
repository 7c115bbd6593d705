-- Changes to a scripted home. Only what is given changes.
import HueLink.Scripted.Home

namespace HueLink.Scripted

open Pairing

/-- Changes to a bridge. -/
structure BridgeSettings where
  name : Option String
  modelId : Option String
  bridgeId : Option String
  swVersion : Option (Option String)
  linkPressed : Option Bool
  usernames : Option (List String)
  nextUsername : Option (Option String)
  keepsUsername : Option Bool
  reportHost : Option (Option String)
  groups : Option (List Group)
  scenes : Option (List Scene)
  always : Option (List (Method × Action))
  script : Option (List (Method × List Action))

/-- A flow of someone else, as the host is told of it. -/
structure ForeignFlow where
  source : FlowSource
  host : Option String
  uniqueId : Option String

/-- Changes to the host. -/
structure HostSettings where
  location : Option HomeName
  registrations : Option (List Registration)
  flows : Option (List ForeignFlow)
  unload : Option (List (Platform × Option Bool))

/-- A bridge after changes. -/
def Bridge.set (b : Bridge) (s : BridgeSettings) : Bridge where
  config :=
    { name := s.name.getD b.config.name
      modelId := s.modelId.getD b.config.modelId
      bridgeId := s.bridgeId.getD b.config.bridgeId
      swVersion := s.swVersion.getD b.config.swVersion }
  linkPressed := s.linkPressed.getD b.linkPressed
  usernames := s.usernames.getD b.usernames
  nextUsername := s.nextUsername.getD b.nextUsername
  keepsUsername := s.keepsUsername.getD b.keepsUsername
  reportHost := s.reportHost.getD b.reportHost
  groups := s.groups.getD b.groups
  scenes := s.scenes.getD b.scenes
  always := s.always.getD b.always
  script := s.script.getD b.script

namespace Home

/-- Changes the bridge at an address, which is there from then on. -/
def changeBridge (address : String) (s : BridgeSettings) (h : Home) : Home :=
  h.setBridge address (((h.bridge? address).getD .plain).set s)

/-- Takes the bridge at an address away. -/
def unplug (address : String) (h : Home) : Home :=
  { h with bridges := h.bridges.filter (·.1 != address) }

/-- One more flow of someone else. -/
def addForeign (f : ForeignFlow) (h : Home) : Home :=
  let (id, h) := h.freshId
  { h with foreign := h.foreign ++ [⟨id, f.source, f.host, f.uniqueId⟩] }

/-- Changes the host. -/
def changeHost (s : HostSettings) (h : Home) : Home :=
  let h := { h with
    location := s.location.getD h.location
    registrations := s.registrations.getD h.registrations
    unload := s.unload.getD h.unload }
  match s.flows with
  | some flows => flows.foldl (fun h f => h.addForeign f) { h with foreign := [] }
  | none => h

/-- A new flow under a name; a flow that had the name before is gone. -/
def newFlow (name : String) (source : FlowSource) (usernames : Option (List (String × String)))
    (h : Home) : Home :=
  let (id, h) := h.freshId
  let flow := Flow.begin id source
  h.setFlow ⟨name, flow, some flow.context, usernames, none⟩

/-- Takes a name away from the session that has it. -/
def dropSession (name : String) (h : Home) : Home :=
  { h with sessions := h.sessions.map fun slot =>
      if slot.name = some name then { slot with name := none } else slot }

/-- A new session under a name; the session that had the name before loses it. -/
def newSession (name : String) (registration : Registration) (options : Options) (h : Home) :
    Home :=
  let h := h.dropSession name
  let session : Session := ⟨⟨h.sessions.length⟩, registration, options⟩
  { h with sessions := h.sessions ++ [⟨session, .fresh, some name, 0⟩] }

end Home

end HueLink.Scripted
