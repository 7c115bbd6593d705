-- A host, a registry of services and discovery rounds in memory, around one bridge that stands
-- behind every address.
import HueLink.InMemory.Bridge
import HueLink.Integration
import HueLink.Json.Basic
import HueLink.Routine.Run
import HueLink.Session.Basic

namespace HueLink.InMemory

open Pairing

/-- What a discovery round does. -/
inductive Discovery where
  | found (bridges : List DiscoveredBridge)
  | failing (fault : Fault)
  /-- It takes a minute, and finds nothing. -/
  | hanging

/-- The host. Its registrations and flows only ever get more. -/
structure Host where
  registrations : List Registration
  flows : List FlowContext
  pairingRequests : List String
  configDirectory : Option String
  forwarded : List Platform
  unloaded : List Platform
  unloadResults : List (Platform × Option Bool)

/-- What is registered as a service. -/
inductive Handler where
  /-- The scene service of a session. -/
  | scene (session : SessionId)
  /-- A handler that records the data it gets under its tag. -/
  | recorder (tag : Json)

/-- A flow with its discovery and the usernames that its lookup finds, by path. -/
structure FlowSlot where
  flow : Flow
  discovery : Discovery
  usernames : List (String × String)

/-- A session, with its name as long as it has one. -/
structure SessionSlot where
  session : Session
  cell : Cell
  name : Option String

structure World where
  bridge : Bridge
  clients : List Api
  /-- Clients that go by a name. -/
  named : List (String × Client)
  host : Host
  /-- Handlers by domain and name, joined by a dot. -/
  services : List (String × Handler)
  handled : List (Json × Json)
  /-- What the next discovery round does. -/
  discovery : Discovery
  flows : List (String × FlowSlot)
  sessions : List SessionSlot
  flowIds : Nat

namespace World

/-- Everything new. -/
def fresh : World where
  bridge := .plain
  clients := []
  named := []
  host := ⟨[], [], [], none, [], [], []⟩
  services := []
  handled := []
  discovery := .found []
  flows := []
  sessions := []
  flowIds := 0

/-! ## Clients -/

/-- A client by its number. -/
def client (w : World) (c : Client) : Api := (w.clients[c.index]?).getD ⟨"", none, [], []⟩

/-- A new client. -/
def connect (host : String) (username : Option String) (w : World) : Client × World :=
  (⟨w.clients.length⟩, { w with clients := w.clients ++ [⟨host, username, [], []⟩] })

/-- What a client has done by the bridge. -/
def onBridge {α : Type} (c : Client) (act : Api → Bridge → Except Fault α × Api × Bridge)
    (w : World) : Except Fault α × World :=
  let (r, a, b) := act (w.client c) w.bridge
  (r, { w with bridge := b, clients := w.clients.set c.index a })

/-! ## Host and services -/

/-- A path inside a directory. An absolute path stays as it is, and there is one slash between the
two. -/
def joinPath (directory relative : String) : String :=
  if relative.startsWith "/" || directory.isEmpty then relative
  else if directory.endsWith "/" then directory ++ relative
  else directory ++ "/" ++ relative

/-- A path resolved against the directory of the configuration, if there is one. -/
def configPath (w : World) (relative : String) : String :=
  match w.host.configDirectory with
  | some directory => joinPath directory relative
  | none => relative

def updateHost (f : Host → Host) (w : World) : World := { w with host := f w.host }

/-- Begins to unload a platform. -/
def beginUnload (platform : Platform) (w : World) : World :=
  w.updateHost fun h => { h with unloaded := h.unloaded ++ [platform] }

/-- Whether a platform unloads. -/
def unloads (w : World) (platform : Platform) : Option Bool :=
  (w.host.unloadResults.lookup platform).getD (some true)

/-- The key of a service in the registry. -/
def serviceKey (domain name : String) : String := domain ++ "." ++ name

/-- Registers a handler; one that was there before gives way. -/
def register (domain name : String) (handler : Handler) (w : World) : World :=
  { w with services := Json.put (serviceKey domain name) handler w.services }

/-- The handler of a service. -/
def handler? (w : World) (domain name : String) : Option Handler :=
  w.services.lookup (serviceKey domain name)

/-- Removes a service; the answer says if it was there. -/
def remove (domain name : String) (w : World) : Bool × World :=
  ((w.handler? domain name).isSome,
    { w with services := w.services.filter (·.1 != serviceKey domain name) })

/-! ## The surroundings -/

/-- The username that a flow finds at a path. -/
def legacyUsername (w : World) (flow : Uuid) (path : String) : Option String :=
  (w.flows.find? (·.2.flow.context.id == flow)).bind (·.2.usernames.lookup path)

/-- How the world answers. -/
def answer : (q : Query) → World → q.Answer × World
  | .connect host username, w => w.connect host username
  | .clientHost c, w => ((w.client c).host, w)
  | .clientUsername c, w => ((w.client c).username, w)
  | .locationName, w => (.plain "Home", w)
  | .registrations, w => (w.host.registrations, w)
  | .flowsInProgress, w => (w.host.flows, w)
  | .configPath relative, w => (w.configPath relative, w)
  | .legacyUsername flow path, w => (w.legacyUsername flow path, w)
  | .startPairing host, w =>
    ((), w.updateHost fun h => { h with pairingRequests := h.pairingRequests ++ [host] })
  | .forwardSetup _ platform, w =>
    ((), w.updateHost fun h => { h with forwarded := h.forwarded ++ [platform] })
  | .forwardUnload _ platform, w => ((), w.beginUnload platform)
  | .registerSceneService session, w => ((), w.register domain sceneService (.scene session))
  | .removeSceneService, w => w.remove domain sceneService
  | .note _, w => ((), w)

/-- How long a discovery round takes. -/
def Discovery.delay : Discovery → Nat
  | .hanging => 60000
  | _ => 0

/-- What a discovery round answers. -/
def Discovery.result : Discovery → Except Fault (List DiscoveredBridge)
  | .found bridges => .ok bridges
  | .failing fault => .error fault
  | .hanging => .ok []

/-- How the world receives calls. -/
def receive : (c : Call) → World → Reply World c.Answer
  | .createUser c label, w => ⟨w, some 0, onBridge c (Bridge.createUser label)⟩
  | .validate c, w => ⟨w, some (w.bridge.delay.getD 0), onBridge c Bridge.validate⟩
  | .groups c, w => ⟨w, some 0, fun w => (.ok (w.client c).groups, w)⟩
  | .scenes c, w => ⟨w, some 0, fun w => (.ok (w.client c).scenes, w)⟩
  | .updateGroups c, w => ⟨w, some 0, onBridge c Bridge.updateGroups⟩
  | .updateScenes c, w => ⟨w, some 0, onBridge c Bridge.updateScenes⟩
  | .setGroupScene c group scene, w => ⟨w, some 0, onBridge c (Bridge.setGroupScene group scene)⟩
  | .discover, w =>
    let plan := w.discovery
    ⟨w, some (Discovery.delay plan), fun w => (Discovery.result plan, w)⟩
  | .unloaded _ platform, w => ⟨w, some 0, fun w => (w.unloads platform, w)⟩
  | .sleep span, w => ⟨w, some span, fun w => ((), w)⟩

/-- The world as surroundings. -/
def outside : Outside World := ⟨answer, receive⟩

end World

end HueLink.InMemory
