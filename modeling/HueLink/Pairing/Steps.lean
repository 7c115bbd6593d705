-- The steps of a pairing flow. Each ends in a form, an entry or an abort. A flow is entered by
-- hand, by an announcement, or for an address that the host knows; the paths meet in the link step,
-- which asks the bridge for a username, and in the import step, which tries one from a legacy file
-- before.
import HueLink.Bridge.Id
import HueLink.Exchange

namespace HueLink.Pairing

/-- What a step does on its flow. -/
abbrev Step := Routine Flow

/-! ## Small moves -/

/-- Where the flow stands now. -/
def enter (state : FlowState) : Step Unit := Routine.modify fun f => { f with state }

/-- The host that the flow is about now. -/
def bindHost (host : String) : Step Unit :=
  Routine.modify fun f => { f with context := { f.context with host := some host } }

/-- The host that the link step is to try. -/
def remember (host : String) : Step Unit :=
  Routine.modify fun f => { f with candidate := some host }

/-- A host was chosen. -/
def selectHost (host : String) : Step Unit := do
  remember host
  bindHost host

/-- The flow ends without a registration. -/
def abort (reason : AbortReason) : Step FlowResult := do
  let flow ← Routine.read
  Routine.note (.aborting flow.context.id reason)
  enter .aborted
  pure (.abort reason)

/-- The short form of a bridge id, with a warning if it is spelled as no bridge spells it. -/
def normalizeId (id : String) : Step String := do
  (BridgeId.remarks id).forM Routine.note
  pure (BridgeId.normalize id)

/-! ## Other flows and registrations -/

/-- The flows in progress besides this one. -/
def otherFlows : Step (List FlowContext) := do
  let flow ← Routine.read
  let flows ← Routine.query .flowsInProgress
  pure (flows.filter (·.id != flow.context.id))

/-- Why a host cannot be taken: another flow is about it, or it has a registration. -/
def claimed? (host : String) : Step (Option AbortReason) := do
  let others ← otherFlows
  if others.any (·.host == some host) then
    pure (some .alreadyInProgress)
  else
    let store ← Routine.query .registrations
    pure (if (configuredHosts store).contains host then some .alreadyConfigured else none)

/-- Binds the flow to a bridge id. With `raise`, another flow bound to the same id is a reason not
to. -/
def setUniqueId (uniqueId : String) (raise : Bool) : Step (Option AbortReason) := do
  let taken ← if raise then do
      let others ← otherFlows
      pure (others.any (·.uniqueId == some uniqueId))
    else pure false
  if taken then pure (some .alreadyInProgress)
  else
    Routine.modify fun f => { f with context := { f.context with uniqueId := some uniqueId } }
    pure none

/-! ## The end of a flow -/

/-- The entry for a bridge with an accepted username. It names the registrations it displaces, and
binds the flow to the bridge if it is not bound yet. -/
def entryFor (linked : LinkedBridge) : Step FlowResult := do
  let bridgeId ← normalizeId linked.config.bridgeId
  Routine.modify fun f =>
    { f with context := { f.context with uniqueId := some (f.context.uniqueId.getD bridgeId) } }
  let host ← Routine.query (.clientHost linked.client)
  let registration : Registration := ⟨host, bridgeId, linked.username⟩
  let store ← Routine.query .registrations
  let replaces := registration.displaced store
  replaces.forM fun stale => Routine.note (.replacing stale.host)
  enter .complete
  pure (.entry ⟨linked.config.name, registration, replaces⟩)

/-! ## Link -/

/-- Ask the bridge remembered for a username. That is tried at every entry into the step, in case
the button was pressed already; an error is shown only if the form was submitted. -/
def stepLink (submitted : Bool) : Step FlowResult := do
  enter .link
  match (← Routine.read).candidate with
  | none =>
    Routine.note .linkWithoutHost
    abort .unknown
  | some host =>
    let home ← Routine.query .locationName
    let show? := fun error => FlowResult.form .link [] (if submitted then some error else none)
    match ← Exchange.acquire host none home with
    | .ok linked => entryFor linked
    | .error .authenticationRequired => pure (show? .registerFailed)
    | .error .cannotConnect =>
      Routine.note (.cannotReach host)
      pure (show? .linking)
    | .error e =>
      Routine.note (.unknownConnectingError host e)
      pure (show? .linking)

/-! ## Init -/

/-- Go on with a host that was chosen. -/
def linkHost (host : String) : Step FlowResult := do
  selectHost host
  stepLink false

/-- Go on with the hosts a discovery round found. -/
def offer (bridges : List DiscoveredBridge) : Step FlowResult := do
  enter .discoveryResult
  if bridges.isEmpty then abort .noBridges
  else
    let store ← Routine.query .registrations
    match (bridges.map (·.host)).filter (fun host => !(configuredHosts store).contains host) with
    | [] => abort .allConfigured
    | [host] => linkHost host
    | hosts => pure (.form .init hosts none)

/-- Take the host given, or look for bridges. A single bridge without a registration is not asked
about. -/
def stepInit (selection : Option HostSelection) : Step FlowResult := do
  enter .init
  match selection with
  | some chosen => linkHost chosen.host
  | none =>
    match ← (Attempt.request .discover).within discoveryLimit with
    | none => abort .discoverTimeout
    | some (.error fault) =>
      Routine.note (.discoveryFailed fault)
      abort .cannotConnect
    | some (.ok bridges) => offer bridges

/-- A flow begun by hand. -/
def stepUser (selection : Option HostSelection) : Step FlowResult := stepInit selection

/-! ## Import -/

/-- The resolved path of a legacy file and the username found in it. -/
def legacyUsername (path : Option String) : Step (Option String × Option String) := do
  match path with
  | none => pure (none, none)
  | some relative =>
    let resolved ← Routine.query (.configPath relative)
    let flow ← Routine.read
    let username ← Routine.query (.legacyUsername flow.context.id resolved)
    pure (some resolved, username)

/-- Register a host without asking anyone, with a username from a legacy file if there is one. Where
none is accepted, the link step follows. -/
def stepImport (info : ImportInfo) : Step FlowResult := do
  enter .importing
  bindHost info.host
  let (path, username) ← legacyUsername info.path
  let home ← Routine.query .locationName
  match ← Exchange.acquire info.host username home with
  | .ok linked =>
    Routine.note (.imported info.host path)
    entryFor linked
  | .error .authenticationRequired =>
    Routine.note (.usernameInvalid info.host)
    remember info.host
    stepLink false
  | .error .cannotConnect =>
    Routine.note (.cannotReach info.host)
    abort .cannotConnect
  | .error e =>
    Routine.note (.unknownConnectingError info.host e)
    abort .unknown

/-! ## Announcements -/

/-- The word occurs somewhere in the text. -/
def occursIn (word : List Char) : List Char → Bool
  | [] => word.isEmpty
  | c :: rest => word.isPrefixOf (c :: rest) || occursIn word rest

/-- A name that an emulated bridge gives itself. -/
def isIgnored (name : String) : Bool :=
  ignoredNames.any fun word => occursIn word.toList name.toList

/-- The announcement comes from a real bridge, as far as it tells. -/
def SsdpInfo.isGenuine (info : SsdpInfo) : Bool :=
  info.manufacturerUrl == genuineManufacturer && !info.name.any isIgnored

/-- An announced host that nobody has claimed becomes the flow's, with the announced id; then it is
imported. -/
def claimAndImport (host announcedId : String) (path : Option String) : Step FlowResult := do
  bindHost host
  match ← claimed? host with
  | some reason => abort reason
  | none =>
    match ← setUniqueId (← normalizeId announcedId) true with
    | some reason => abort reason
    | none => stepImport ⟨host, path⟩

/-- A bridge announced over SSDP. -/
def stepSsdp (info : SsdpInfo) : Step FlowResult := do
  enter .discovered
  if info.isGenuine then
    claimAndImport info.host info.serial (some ("phue-" ++ info.serial ++ ".conf"))
  else abort .notHueBridge

/-- The announced id without its colons. -/
def HomekitInfo.bareId (info : HomekitInfo) : String :=
  String.ofList (info.id.toList.filter (· != ':'))

/-- A bridge announced over HomeKit. -/
def stepHomekit (info : HomekitInfo) : Step FlowResult := do
  enter .discovered
  claimAndImport info.host info.bareId none

end HueLink.Pairing
