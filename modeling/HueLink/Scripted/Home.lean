-- A home in which everything around this library is scripted: bridges, the host and its store,
-- discovery, legacy files, and the registry of services. It also keeps the flows and the sessions,
-- since the host knows of both, and it records what it is asked.
import HueLink.Routine.Run
import HueLink.Scripted.Bridge
import HueLink.Scripted.Files
import HueLink.Session.Basic

namespace HueLink.Scripted

open Pairing

/-! ## What a home consists of -/

/-- Something that the surroundings were asked. -/
inductive Event where
  | connect (host : String) (username : Option String)
  | createUser (address label : String)
  | validate (address : String) (username : Option String)
  | groups (address : String)
  | scenes (address : String)
  | updateGroups (address : String)
  | updateScenes (address : String)
  | setGroupScene (address group scene : String)
  | startPairing (host : String)
  | configPath (relative : String)
  | forwardSetup (host : String) (platform : Platform)
  | forwardUnload (host : String) (platform : Platform)
  | register
  | remove (found : Bool)
  | discover
deriving DecidableEq, Repr

/-- A client with what it last loaded. -/
structure ClientState where
  address : String
  /-- The address it says it talks to. -/
  host : String
  username : Option String
  groups : List Group
  scenes : List Scene
deriving DecidableEq, Repr

/-- What a discovery round does: wait, then fail or answer. -/
structure DiscoveryPlan where
  bridges : List DiscoveredBridge
  delay : Nat
  fault : Option Fault
deriving DecidableEq, Repr

/-- A flow by its name, with what the host knows of it. -/
structure FlowSlot where
  name : String
  flow : Flow
  /-- The context as it was after the last step, while the flow is in progress. -/
  shown : Option FlowContext
  /-- Usernames by path, if they are not to be looked up in the legacy files. -/
  usernames : Option (List (String × String))
  /-- What the flow last completed with. -/
  entry : Option Entry

/-- A session with the name it goes by, and how many routines are at work on it. -/
structure SessionSlot where
  session : Session
  cell : Cell
  name : Option String
  users : Nat

/-- Work on the calls of one batch: how many run, how many ran at once at most, and when each began
and ended. -/
structure Meter where
  running : Nat
  peak : Nat
  began : List (Nat × Nat)
  ended : List (Nat × Nat)
deriving DecidableEq, Repr

structure Home where
  bridges : List (String × Bridge)
  clients : List ClientState
  location : HomeName
  registrations : List Registration
  /-- Flows of others. -/
  foreign : List FlowContext
  unload : List (Platform × Option Bool)
  discovery : DiscoveryPlan
  /-- The files in the directory of the configuration, by name. -/
  files : List (String × LegacyCredentials.File)
  flows : List FlowSlot
  sessions : List SessionSlot
  /-- Whose scene service is registered. -/
  service : Option SessionId
  meters : List Meter
  /-- How many flow ids were given out. -/
  flowIds : Nat
  events : List Event
  log : List Notice

namespace Home

/-- A home where nothing is. -/
def empty : Home where
  bridges := []
  clients := []
  location := .plain "Home"
  registrations := []
  foreign := []
  unload := []
  discovery := ⟨[], 0, none⟩
  files := []
  flows := []
  sessions := []
  service := none
  meters := []
  flowIds := 0
  events := []
  log := []

/-- One more thing asked. -/
def record (e : Event) (h : Home) : Home := { h with events := h.events ++ [e] }

/-- One more line of the log. -/
def note (n : Notice) (h : Home) : Home := { h with log := h.log ++ [n] }

def freshId (h : Home) : Uuid × Home := (.ofNat h.flowIds, { h with flowIds := h.flowIds + 1 })

/-! ## Bridges and clients -/

def bridge? (h : Home) (address : String) : Option Bridge := h.bridges.lookup address

/-- Puts a bridge at an address. -/
def setBridge (address : String) (b : Bridge) (h : Home) : Home :=
  { h with bridges := Json.put address b h.bridges }

/-- A client by its number. -/
def client (h : Home) (c : Client) : ClientState :=
  (h.clients[c.index]?).getD ⟨"", "", none, [], []⟩

def updateClient (c : Client) (f : ClientState → ClientState) (h : Home) : Home :=
  { h with clients := h.clients.modify c.index f }

/-- A new client for an address. -/
def connect (host : String) (username : Option String) (h : Home) : Client × Home :=
  let reported := ((h.bridge? host).bind (·.reportHost)).getD host
  (⟨h.clients.length⟩, { h with clients := h.clients ++ [⟨host, reported, username, [], []⟩] })

/-- The fault where no bridge is. -/
def noRoute (address : String) : Fault := .request ("no route to " ++ address)

/-- A call to the bridge of a client: it is recorded, takes its order, waits, and then fails or
takes effect. -/
def toBridge {α : Type} (c : Client) (m : Method) (e : Event)
    (effect : ClientState → Home → Except Fault α × Home) (h : Home) :
    Reply Home (Except Fault α) :=
  let h := h.record e
  let state := h.client c
  match h.bridge? state.address with
  | none => ⟨h, some 0, fun h => (.error (noRoute state.address), h)⟩
  | some b =>
    let (action, b) := b.take m
    ⟨h.setBridge state.address b, some action.delay, fun h =>
      match action.fault with
      | some fault => (.error fault, h)
      | none => effect (h.client c) h⟩

/-- An effect that is in the hands of the bridge, which must still be there. -/
def atBridge {α : Type} (effect : ClientState → Bridge → Home → Except Fault α × Home)
    (state : ClientState) (h : Home) : Except Fault α × Home :=
  match h.bridge? state.address with
  | some b => effect state b h
  | none => (.error (noRoute state.address), h)

/-- The answer with what a client last loaded, whatever became of the bridge meanwhile. -/
def loaded {α : Type} (view : ClientState → α) (state : ClientState) (h : Home) :
    Except Fault α × Home :=
  (.ok (view state), h)

/-- An effect that the bridge grants only to clients it accepts. -/
def authorized {α : Type} (effect : ClientState → Bridge → Home → α × Home) :
    ClientState → Home → Except Fault α × Home :=
  atBridge fun state b h =>
    if b.accepts state.username then
      let (a, h) := effect state b h
      (.ok a, h)
    else (.error .unauthorized, h)

/-- A new user is created if the link button is pressed. -/
def createUser (c : Client) (state : ClientState) (b : Bridge) (h : Home) :
    Except Fault Unit × Home :=
  if b.linkPressed then
    let username := b.freshUsername
    let h := h.setBridge state.address { b with usernames := b.usernames ++ [username] }
    (.ok (), if b.keepsUsername then
      h.updateClient c fun s => { s with username := some username } else h)
  else (.error .linkButtonNotPressed, h)

/-! ## Flows and sessions -/

def flow? (h : Home) (name : String) : Option FlowSlot := h.flows.find? (·.name == name)

/-- Puts a flow among the others, which are in the order of their names. -/
def setFlow (slot : FlowSlot) (h : Home) : Home :=
  let (before, after) := (h.flows.filter (·.name != slot.name)).span (·.name < slot.name)
  { h with flows := before ++ slot :: after }

def flowsInProgress (h : Home) : List FlowContext := h.foreign ++ h.flows.filterMap (·.shown)

/-- The name of a flow, for the log. -/
def flowName (h : Home) (id : Uuid) : String :=
  ((h.flows.find? (·.flow.context.id == id)).map (·.name)).getD ""

def session? (h : Home) (name : String) : Option SessionSlot :=
  h.sessions.find? (·.name == some name)

/-- A session by its handle, as long as anyone has it. -/
def living? (h : Home) (handle : SessionId) : Option SessionSlot :=
  (h.sessions[handle.index]?).filter fun slot => slot.name.isSome || 0 < slot.users

def updateSession (handle : SessionId) (f : SessionSlot → SessionSlot) (h : Home) : Home :=
  { h with sessions := h.sessions.modify handle.index f }

/-! ## Files -/

/-- The directory of the configuration. -/
def configDirectory : String := "/config/"

/-- A path resolved against the directory of the configuration. -/
def configPath (relative : String) : String :=
  if relative.startsWith "/" then relative else configDirectory ++ relative

/-- All files that there are: those in the directory of the configuration. -/
def allFiles (h : Home) : Files := h.files.map fun f => ("config" :: pathParts f.1, f.2)

/-- The username that a flow finds at a path. -/
def legacyUsername (flow : Uuid) (path : String) (h : Home) : Option String × Home :=
  match (h.flows.find? (·.flow.context.id == flow)).bind (·.usernames) with
  | some usernames => (usernames.lookup path, h)
  | none =>
    let (username, notices) := LegacyCredentials.read (h.allFiles.content path)
    (username, notices.foldl (fun h n => h.note n) h)

/-! ## The surroundings -/

/-- Whether a platform unloads. -/
def unloads (h : Home) (platform : Platform) : Option Bool :=
  (h.unload.lookup platform).getD (some true)

/-- How the home answers. -/
def answer : (q : Query) → Home → q.Answer × Home
  | .connect host username, h => (h.record (.connect host username)).connect host username
  | .clientHost c, h => ((h.client c).host, h)
  | .clientUsername c, h => ((h.client c).username, h)
  | .locationName, h => (h.location, h)
  | .registrations, h => (h.registrations, h)
  | .flowsInProgress, h => (h.flowsInProgress, h)
  | .configPath relative, h => (configPath relative, h.record (.configPath relative))
  | .legacyUsername flow path, h => h.legacyUsername flow path
  | .startPairing host, h => ((), h.record (.startPairing host))
  | .forwardSetup registration platform, h =>
    ((), h.record (.forwardSetup registration.host platform))
  | .forwardUnload registration platform, h =>
    ((), h.record (.forwardUnload registration.host platform))
  | .registerSceneService session, h => ((), { h.record .register with service := some session })
  | .removeSceneService, h =>
    (h.service.isSome, { h.record (.remove h.service.isSome) with service := none })
  | .note line, h => ((), h.note line)

/-- How the home receives calls. -/
def receive : (c : Call) → Home → Reply Home c.Answer
  | .createUser c label, h =>
    toBridge c .createUser (.createUser (h.client c).address label) (atBridge (createUser c)) h
  | .validate c, h =>
    toBridge c .validate (.validate (h.client c).address (h.client c).username)
      (authorized fun _ b h => (b.config,
        h.updateClient c fun s => { s with groups := b.groups, scenes := b.scenes })) h
  | .groups c, h =>
    toBridge c .groups (.groups (h.client c).address) (loaded (·.groups)) h
  | .scenes c, h =>
    toBridge c .scenes (.scenes (h.client c).address) (loaded (·.scenes)) h
  | .updateGroups c, h =>
    toBridge c .updateGroups (.updateGroups (h.client c).address)
      (authorized fun _ b h => ((), h.updateClient c fun s => { s with groups := b.groups })) h
  | .updateScenes c, h =>
    toBridge c .updateScenes (.updateScenes (h.client c).address)
      (authorized fun _ b h => ((), h.updateClient c fun s => { s with scenes := b.scenes })) h
  | .setGroupScene c group scene, h =>
    toBridge c .setGroupScene (.setGroupScene (h.client c).address group scene)
      (authorized fun _ _ h => ((), h)) h
  | .discover, h =>
    let plan := h.discovery
    ⟨h.record .discover, some plan.delay, fun h =>
      (match plan.fault with
      | some fault => .error fault
      | none => .ok plan.bridges, h)⟩
  | .unloaded _ platform, h => ⟨h, some 0, fun h => (h.unloads platform, h)⟩
  | .sleep span, h => ⟨h, some span, fun h => ((), h)⟩

/-- The home as surroundings. -/
def outside : Outside Home := ⟨answer, receive⟩

end Home

end HueLink.Scripted
