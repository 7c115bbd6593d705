-- What can be done in a scripted home, each as a routine: change something, take a step of a flow,
-- use a session, or call the scene service.
import HueLink.Pairing.Steps
import HueLink.Scripted.Settings
import HueLink.Session.SceneRecall
import HueLink.Session.Setup

namespace HueLink.Scripted

open Pairing

/-- A step of a flow. What is announced or imported is still to be decoded. -/
inductive FlowMove where
  | user (selection : Option HostSelection)
  | init (selection : Option HostSelection)
  | link (submitted : Bool)
  | ssdp (info : Json)
  | homekit (info : Json)
  | known (info : Json)

/-- A call to a bridge through the gate of a session. -/
inductive ApiCall where
  | groups | scenes | updateGroups | updateScenes
  | setGroupScene (group scene : String)

/-- One of the calls of a batch: how long its work takes, if it fails, and when it is given up. -/
structure BatchCall where
  span : Nat
  fails : Bool
  cancelAfter : Option Nat

/-- What is done with a session. -/
inductive SessionMove where
  | setup | status | api | markUnauthorized | teardown | drop
  | setAvailable (value : Bool)
  | activate (group scene : String)
  | callApi (call : ApiCall)
  | batch (calls : List BatchCall)

/-- Where the registration of a new session comes from. -/
inductive Origin where
  | registration (r : Registration)
  | flow (name : String)

/-- One step in a home. -/
inductive Step where
  | setBridge (address : String) (s : BridgeSettings)
  | unplug (address : String)
  | setHost (s : HostSettings)
  | setDiscovery (plan : DiscoveryPlan)
  | wait (span : Nat)
  | newFlow (flow : String) (source : FlowSource) (usernames : Option (List (String × String)))
  | flow (flow : String) (move : FlowMove)
  | uniqueId (flow id : String) (raise : Bool)
  | look (flow : String)
  | persist (flow : String)
  | acquire (host : String) (username : Option String) (home : HomeName)
  | newSession (session : String) (origin : Origin) (options : Option Json)
  | session (session : String) (move : SessionMove)
  | service (domain name : String) (data : Json)

/-! ## Answers -/

/-- What a session shows of itself. -/
structure SessionStatus where
  host : String
  registration : Registration
  options : Options
  config : Option BridgeConfig

/-- How a call of a batch ended. -/
inductive CallEnd where
  | done | failed | cancelled
  | refused (e : BridgeError)
deriving DecidableEq, Repr

/-- A call of a batch: when its work began and ended, and how. -/
structure CallReport where
  start : Option Nat
  finish : Option Nat
  ending : CallEnd

/-- What a step answers. -/
inductive Answer where
  | ok
  | truth (b : Bool)
  | flow (r : FlowResult)
  | refused (reason : AbortReason)
  | noFlow | noEntry | noSession
  | invalid (e : Codec.DecodeError)
  | store (rs : List Registration)
  | linked (r : Except BridgeError (LinkedBridge × String × Option String))
  | outcome (o : SetupOutcome)
  | status (s : SessionStatus)
  | api (r : Except BridgeError (String × Option String))
  | unit (r : Except BridgeError Unit)
  | groups (r : Except BridgeError (List Group))
  | scenes (r : Except BridgeError (List Scene))
  | batch (calls : List CallReport) (peak left : Nat)

/-- What a routine in a home does. -/
abbrev Work := Routine Home

/-! ## Flows -/

/-- Where the flow of a name is kept. -/
def flowPlace (name : String) : Routine.Place Flow Home where
  get h := ((h.flow? name).map (·.flow)).getD (.begin default .user)
  set flow h := match h.flow? name with
    | some slot => h.setFlow { slot with flow }
    | none => h

/-- The host learns how a step of a flow ended: a form keeps the flow in progress, anything else
ends it. -/
def publish (name : String) (r : FlowResult) (h : Home) : Home :=
  match h.flow? name with
  | none => h
  | some slot =>
    h.setFlow <| match r with
    | .form _ _ _ => { slot with shown := some slot.flow.context }
    | .entry e => { slot with shown := none, entry := some e }
    | .abort _ => { slot with shown := none }

/-- Runs a step on the flow of a name. -/
def withFlow (name : String) (step : Pairing.Step FlowResult) : Work Answer := do
  match (← Routine.read).flow? name with
  | none => pure .noFlow
  | some _ =>
    let r ← step.zoom (flowPlace name)
    Routine.modify (publish name r)
    pure (.flow r)

/-- Runs a step that needs decoded data. What cannot be decoded leaves the flow untouched. -/
def withDecoded {α : Type} (name : String) (record : Codec.Record α) (info : Json)
    (step : α → Pairing.Step FlowResult) : Work Answer := do
  match (← Routine.read).flow? name with
  | none => pure .noFlow
  | some _ =>
    match record.decode info with
    | .error e => pure (.invalid e)
    | .ok info => withFlow name (step info)

/-- A step of the flow of a name. -/
def FlowMove.work (name : String) : FlowMove → Work Answer
  | user selection => withFlow name (stepUser selection)
  | init selection => withFlow name (stepInit selection)
  | link submitted => withFlow name (stepLink submitted)
  | ssdp info => withDecoded name SsdpInfo.record info stepSsdp
  | homekit info => withDecoded name HomekitInfo.record info stepHomekit
  | known info => withDecoded name ImportInfo.record info stepImport

/-- Binds a flow to an id from outside. -/
def bindUniqueId (name id : String) (raise : Bool) : Work Answer := do
  match (← Routine.read).flow? name with
  | none => pure .noFlow
  | some _ =>
    let reason ← (setUniqueId id raise).zoom (flowPlace name)
    Routine.modify fun h => match h.flow? name with
      | some slot => h.setFlow { slot with shown := slot.shown.map fun _ => slot.flow.context }
      | none => h
    match reason with
    | some reason => pure (.refused reason)
    | none => pure .ok

/-- The host stores what a flow last completed with. -/
def persistEntry (name : String) : Work Answer := do
  match ((← Routine.read).flow? name).bind (·.entry) with
  | none => pure .noEntry
  | some e =>
    Routine.modify fun h =>
      { h with registrations := e.registration.persist e.replaces h.registrations }
    return .store (← Routine.read).registrations

/-! ## Sessions -/

/-- An exchange by itself, with what the client then says of itself. -/
def acquireAlone (host : String) (username : Option String) (home : HomeName) : Work Answer := do
  match ← Exchange.acquire host username home with
  | .error e => pure (.linked (.error e))
  | .ok linked =>
    let host ← Routine.query (.clientHost linked.client)
    let held ← Routine.query (.clientUsername linked.client)
    pure (.linked (.ok (linked, host, held)))

/-- The registration that a session is made from. -/
def Origin.registration? (h : Home) : Origin → Option Registration
  | registration r => some r
  | flow name => ((h.flow? name).bind (·.entry)).map (·.registration)

/-- A new session. -/
def createSession (name : String) (origin : Origin) (options : Option Json) : Work Answer := do
  match origin.registration? (← Routine.read) with
  | none => pure .noEntry
  | some r =>
    match options.elim (.ok .default) Options.record.decode with
    | .error e => pure (.invalid e)
    | .ok options =>
      Routine.modify (Home.newSession name r options)
      pure .ok

/-- Where the state of a session is kept. -/
def cellPlace (handle : SessionId) : Routine.Place Cell Home where
  get h := ((h.sessions[handle.index]?).map (·.cell)).getD .fresh
  set cell h := h.updateSession handle fun slot => { slot with cell }

/-- Routines at work on a session keep it alive. -/
def hold (handle : SessionId) (h : Home) : Home :=
  h.updateSession handle fun slot => { slot with users := slot.users + 1 }

/-- A routine at work on a session is over. -/
def release (handle : SessionId) (h : Home) : Home :=
  h.updateSession handle fun slot => { slot with users := slot.users - 1 }

/-- Work on a session, which stays alive meanwhile. -/
def holding {α : Type} (handle : SessionId) (work : Work α) : Work α := do
  Routine.modify (hold handle)
  Routine.guarded (release handle) do
    let a ← work
    Routine.modify (release handle)
    pure a

def withSession (name : String) (work : Session → Routine Cell Answer) : Work Answer := do
  match (← Routine.read).session? name with
  | none => pure .noSession
  | some slot =>
    let s := slot.session
    holding s.handle ((work s).zoom (cellPlace s.handle))

/-- What a session shows of itself. -/
def statusOf (s : Session) : Routine Cell Answer := do
  return .status ⟨s.host, s.registration, s.options, (← Routine.read).config?⟩

/-- What the client of a session says of itself. -/
def apiOf : Routine Cell Answer := do
  match (← Routine.read).client with
  | .error e => pure (.api (.error e))
  | .ok client =>
    let host ← Routine.query (.clientHost client)
    let username ← Routine.query (.clientUsername client)
    pure (.api (.ok (host, username)))

/-- A call through the gate. -/
def ApiCall.work (s : Session) : ApiCall → Routine Cell Answer
  | groups => return .groups (← s.callApi fun c => Routine.request (.groups c))
  | scenes => return .scenes (← s.callApi fun c => Routine.request (.scenes c))
  | updateGroups => return .unit (← s.callApi fun c => Routine.request (.updateGroups c))
  | updateScenes => return .unit (← s.callApi fun c => Routine.request (.updateScenes c))
  | setGroupScene group scene =>
    return .unit (← s.callApi fun c => Routine.request (.setGroupScene c group scene))

/-- What is done with the session of a name, other than a batch. -/
def SessionMove.work (name : String) : SessionMove → Work Answer
  | setup => withSession name fun s => return .outcome (← s.setup)
  | status => withSession name statusOf
  | api => withSession name fun _ => apiOf
  | markUnauthorized => withSession name fun s => do s.markUnauthorized; pure .ok
  | teardown => withSession name fun s => return .truth (← s.teardown)
  | setAvailable value => withSession name fun _ => do Session.setAvailable value; pure .ok
  | activate group scene =>
    withSession name fun s => return .unit (← s.activateNamedScene group scene)
  | callApi call => withSession name call.work
  | drop => do
    if ((← Routine.read).session? name).isSome then
      Routine.modify (Home.dropSession name)
      pure .ok
    else pure .noSession
  | batch _ => withSession name fun _ => pure (.batch [] 0 0)

/-- A call of the registry of services. Only the scene service is ever registered. -/
def callService (domainName name : String) (data : Json) : Work Answer := do
  let h ← Routine.read
  match h.service with
  | some handle =>
    if domainName = domain ∧ name = sceneService then
      match h.living? handle with
      | some slot => holding handle do
        return .unit (← (Session.serveScene (some slot.session) data).zoom (cellPlace handle))
      | none => return .unit (← (Session.serveScene none data).zoom (cellPlace handle))
    else pure (notFound domainName name)
  | none => pure (notFound domainName name)
where
  /-- The registry has no such service. -/
  notFound (domainName name : String) : Answer :=
    .unit (.error (.unknown ("service " ++ domainName ++ "." ++ name ++ " not found")))

/-! ## All steps -/

/-- A step as a routine. -/
def Step.work : Step → Work Answer
  | setBridge address s => change (Home.changeBridge address s)
  | unplug address => do
    let there := ((← Routine.read).bridge? address).isSome
    Routine.modify (Home.unplug address)
    pure (.truth there)
  | setHost s => change (Home.changeHost s)
  | setDiscovery plan => change fun h => { h with discovery := plan }
  | wait span => do
    Routine.request (.sleep span)
    pure .ok
  | newFlow name source usernames => change (Home.newFlow name source usernames)
  | flow name move => move.work name
  | uniqueId name id raise => bindUniqueId name id raise
  | look name => do
    return if ((← Routine.read).flow? name).isSome then .ok else .noFlow
  | persist name => persistEntry name
  | acquire host username home => acquireAlone host username home
  | newSession name origin options => createSession name origin options
  | session name move => move.work name
  | service domainName name data => callService domainName name data
where
  /-- A change that always works. -/
  change (f : Home → Home) : Work Answer := do
    Routine.modify f
    pure .ok

end HueLink.Scripted
