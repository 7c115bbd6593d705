-- What can be done with the bridge, the host, the services and the discovery in memory, and with
-- flows and sessions on top of them.
import HueLink.InMemory.World
import HueLink.Pairing.Steps
import HueLink.Session.SceneRecall
import HueLink.Session.Setup

namespace HueLink.InMemory

open Pairing

/-- Something a client is asked. -/
inductive ClientCall where
  | host | username
  | createUser (label : String)
  | validate | groups | scenes | updateGroups | updateScenes
  | setGroupScene (group scene : String)

/-- Something the host is asked or told. -/
inductive HostCall where
  | locationName
  | configPath (path : String)
  | forwardUnload (platform : Platform)
  | startPairing (host : String)
  | forwardSetup (platform : Platform)
  | addRegistration (r : Registration)
  | addFlow (source : FlowSource) (host uniqueId : Option String)
  | setUnloadResult (platform : Platform) (value : Option Bool)
  | setConfigDirectory (path : String)
  | view

/-- Something done with the registry of services. -/
inductive ServiceCall where
  | has | remove
  | call (data : Json)
  | register (tag : Json)
  | handled

/-- A step of a flow. What is announced or imported is still to be decoded. -/
inductive FlowCall where
  | user (selection : Option HostSelection)
  | link (submitted : Bool)
  | ssdp (info : Json)
  | homekit (info : Json)
  | known (info : Json)

/-- Something done with a session. -/
inductive SessionCall where
  | new (registration : Registration)
  | setup | markUnauthorized | teardown
  | activate (group scene : String)

inductive Step where
  | bridge (change : Bridge.Change)
  | bridgeView
  | connect (client host : String) (username : Option String)
  | client (client : String) (call : ClientCall)
  | host (call : HostCall)
  | service (domain name : String) (call : ServiceCall)
  | discover (discovery : Discovery) (limit : Nat)
  | newFlow (flow : String) (source : FlowSource) (discovery : Discovery)
    (usernames : List (String × String))
  | flow (flow : String) (call : FlowCall)
  | session (session : String) (call : SessionCall)

/-! ## Answers -/

/-- What a call on a session answers. -/
inductive SessionResult where
  | ok
  | outcome (o : SetupOutcome)
  | unit (r : Except BridgeError Unit)
  | truth (b : Bool)

/-- What a step answers. -/
inductive Answer where
  | ok
  | text (s : String)
  | optionalText (s : Option String)
  | truth (b : Bool)
  | optionalTruth (b : Option Bool)
  | noClient | noFlow | noSession
  | invalid (e : Codec.DecodeError)
  | unit (r : Except Fault Unit)
  | config (r : Except Fault BridgeConfig)
  | groups (r : Except Fault (List Group))
  | scenes (r : Except Fault (List Scene))
  /-- The bridges found, or `none` if the time was over before. -/
  | bridges (r : Option (Except Fault (List DiscoveredBridge)))
  | bridgeView (labels : List String) (activations : List (String × String)) (refreshes : Nat)
  | hostView (h : Host)
  | service (r : Except BridgeError Unit)
  | handled (records : List (Json × Json))
  | flow (r : FlowResult) (after : Flow)
  | session (r : SessionResult) (after : Cell)

/-- What a routine on all of it does. -/
abbrev Work := Routine World

/-! ## Bridge and clients -/

def withClient (name : String) (work : Client → Work Answer) : Work Answer := do
  match (← Routine.read).named.lookup name with
  | some c => work c
  | none => pure .noClient

/-- What a client answers. -/
def ClientCall.work (c : Client) : ClientCall → Work Answer
  | host => return .text (← Routine.query (.clientHost c))
  | username => return .optionalText (← Routine.query (.clientUsername c))
  | createUser label => return .unit (← Routine.request (.createUser c label))
  | validate => return .config (← Routine.request (.validate c))
  | groups => return .groups (← Routine.request (.groups c))
  | scenes => return .scenes (← Routine.request (.scenes c))
  | updateGroups => return .unit (← Routine.request (.updateGroups c))
  | updateScenes => return .unit (← Routine.request (.updateScenes c))
  | setGroupScene group scene => return .unit (← Routine.request (.setGroupScene c group scene))

/-- A client gets a name. -/
def connectAs (name host : String) (username : Option String) : Work Answer := do
  let c ← Routine.query (.connect host username)
  Routine.modify fun w => { w with named := Json.put name c w.named }
  pure .ok

/-! ## Host and services -/

def changeHost (f : Host → Host) : Work Answer := do
  Routine.modify (World.updateHost f)
  pure .ok

/-- A flow of someone else under a fresh id. -/
def addFlow (source : FlowSource) (host uniqueId : Option String) (w : World) : World :=
  { w.updateHost fun h =>
      { h with flows := h.flows ++ [⟨.ofNat w.flowIds, source, host, uniqueId⟩] }
    with flowIds := w.flowIds + 1 }

/-- What the host does. -/
def HostCall.work : HostCall → Work Answer
  | locationName => return .text (← Routine.query .locationName).text
  | configPath path => return .text (← Routine.query (.configPath path))
  | forwardUnload platform => do
    let answer := (← Routine.read).unloads platform
    Routine.modify (·.beginUnload platform)
    pure (.optionalTruth answer)
  | startPairing host => do
    Routine.query (.startPairing host)
    pure .ok
  | forwardSetup platform => changeHost fun h => { h with forwarded := h.forwarded ++ [platform] }
  | addRegistration r => changeHost fun h => { h with registrations := h.registrations ++ [r] }
  | addFlow source host uniqueId => do
    Routine.modify (InMemory.addFlow source host uniqueId)
    pure .ok
  | setUnloadResult platform value =>
    changeHost fun h => { h with unloadResults := (platform, value) :: h.unloadResults }
  | setConfigDirectory path => changeHost fun h => { h with configDirectory := some path }
  | view => return .hostView (← Routine.read).host

/-- Where the state of a session is kept. -/
def cellPlace (handle : SessionId) : Routine.Place Cell World where
  get w := ((w.sessions[handle.index]?).map (·.cell)).getD .fresh
  set cell w :=
    { w with sessions := w.sessions.modify handle.index fun slot => { slot with cell } }

/-- A session by its handle, as long as it has a name. -/
def living? (w : World) (handle : SessionId) : Option Session :=
  ((w.sessions[handle.index]?).filter fun slot => slot.name.isSome).map (·.session)

/-- A handler at work. A recorder fails if its data asks for it. -/
def Handler.work (data : Json) : Handler → Work (Except BridgeError Unit)
  | scene handle => do
    let session := living? (← Routine.read) handle
    (Session.serveScene session data).zoom (cellPlace handle)
  | recorder tag => do
    Routine.modify fun w => { w with handled := w.handled ++ [(tag, data)] }
    pure (match data.get? "fail" with
      | some (.bool true) => .error .cannotConnect
      | _ => .ok ())

/-- What is done with the registry. -/
def ServiceCall.work (domain name : String) : ServiceCall → Work Answer
  | has => return .truth ((← Routine.read).handler? domain name).isSome
  | remove => do
    let (there, _) := (← Routine.read).remove domain name
    Routine.modify fun w => (w.remove domain name).2
    pure (.truth there)
  | call data => do
    match (← Routine.read).handler? domain name with
    | some handler => return .service (← handler.work data)
    | none =>
      pure (.service (.error (.unknown
        ("service " ++ World.serviceKey domain name ++ " not found"))))
  | register tag => do
    Routine.modify (World.register domain name (.recorder tag))
    pure .ok
  | handled => return .handled (← Routine.read).handled

/-! ## Flows and sessions -/

/-- Where the flow of a name is kept. -/
def flowPlace (name : String) : Routine.Place Flow World where
  get w := ((w.flows.lookup name).map (·.flow)).getD (.begin default .user)
  set flow w := match w.flows.lookup name with
    | some slot => { w with flows := Json.put name { slot with flow } w.flows }
    | none => w

/-- A new flow under a name. -/
def newFlow (name : String) (source : FlowSource) (discovery : Discovery)
    (usernames : List (String × String)) (w : World) : World :=
  { w with
    flows := Json.put name ⟨.begin (.ofNat w.flowIds) source, discovery, usernames⟩ w.flows
    flowIds := w.flowIds + 1 }

/-- Runs a step of the flow of a name, with its own discovery. -/
def withFlow (name : String) (step : Pairing.Step FlowResult) : Work Answer := do
  match (← Routine.read).flows.lookup name with
  | none => pure .noFlow
  | some slot =>
    Routine.modify fun w => { w with discovery := slot.discovery }
    let r ← step.zoom (flowPlace name)
    return .flow r ((flowPlace name).get (← Routine.read))

/-- Runs a step that needs decoded data. -/
def withDecoded {α : Type} (name : String) (record : Codec.Record α) (info : Json)
    (step : α → Pairing.Step FlowResult) : Work Answer := do
  match (← Routine.read).flows.lookup name with
  | none => pure .noFlow
  | some _ =>
    match record.decode info with
    | .error e => pure (.invalid e)
    | .ok info => withFlow name (step info)

/-- A step of the flow of a name. -/
def FlowCall.work (name : String) : FlowCall → Work Answer
  | user selection => withFlow name (stepUser selection)
  | link submitted => withFlow name (stepLink submitted)
  | ssdp info => withDecoded name SsdpInfo.record info stepSsdp
  | homekit info => withDecoded name HomekitInfo.record info stepHomekit
  | known info => withDecoded name ImportInfo.record info stepImport

/-- A new session under a name; the session that had the name before is gone. -/
def newSession (name : String) (registration : Registration) (w : World) : World :=
  let others := w.sessions.map fun slot =>
    if slot.name = some name then { slot with name := none } else slot
  { w with sessions := others ++ [⟨⟨⟨others.length⟩, registration, .default⟩, .fresh, some name⟩] }

def withSession (name : String) (work : Session → Routine Cell SessionResult) : Work Answer := do
  match (← Routine.read).sessions.find? (·.name == some name) with
  | none => pure .noSession
  | some slot =>
    let place := cellPlace slot.session.handle
    let r ← (work slot.session).zoom place
    return .session r (place.get (← Routine.read))

/-- What is done with the session of a name. -/
def SessionCall.work (name : String) : SessionCall → Work Answer
  | new registration => do
    Routine.modify (newSession name registration)
    pure .ok
  | setup => withSession name fun s => return .outcome (← s.setup)
  | markUnauthorized => withSession name fun s => do s.markUnauthorized; pure .ok
  | teardown => withSession name fun s => return .truth (← s.teardown)
  | activate group scene =>
    withSession name fun s => return .unit (← s.activateNamedScene group scene)

/-! ## All steps -/

/-- A step as a routine. -/
def Step.work : Step → Work Answer
  | bridge change => do
    Routine.modify fun w => { w with bridge := w.bridge.change change }
    pure .ok
  | bridgeView => do
    let b := (← Routine.read).bridge
    pure (.bridgeView b.labels b.activations b.refreshes)
  | connect name address username => connectAs name address username
  | client name call => withClient name call.work
  | host call => call.work
  | service domain name call => call.work domain name
  | discover discovery limit => do
    Routine.modify fun w => { w with discovery }
    return .bridges (← (Attempt.request .discover).within limit)
  | newFlow name source discovery usernames => do
    Routine.modify (InMemory.newFlow name source discovery usernames)
    pure .ok
  | flow name call => call.work name
  | session name call => call.work name

/-- Runs steps one after another: what each answers, and when. -/
def runSteps : List Step → Nat → World → List (Option Answer × Nat)
  | [], _, _ => []
  | step :: rest, t, w =>
    let outcome := step.work.run World.outside .whole t w
    (outcome.result, outcome.time) :: runSteps rest outcome.time outcome.world

end HueLink.InMemory
