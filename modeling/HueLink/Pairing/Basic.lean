-- The words of pairing: how a flow began, where it stands, and what a step of it answers.
import HueLink.Registration
import HueLink.Uuid

namespace HueLink.Pairing

/-- How a flow was started: by hand, for an address the host knows, or by an announcement. -/
inductive FlowSource where
  | user | known | ssdp | homekit
deriving DecidableEq, Repr

/-- A form a step can answer with. -/
inductive FlowStep where
  | init | link
deriving DecidableEq, Repr

/-- An error shown on the link form. -/
inductive FormError where
  /-- The link button was not pressed. -/
  | registerFailed
  /-- The bridge could not be reached. -/
  | linking
deriving DecidableEq, Repr

/-- Why a flow ended without a registration. -/
inductive AbortReason where
  | discoverTimeout | noBridges | allConfigured | notHueBridge
  | alreadyInProgress | alreadyConfigured | cannotConnect | unknown
deriving DecidableEq, Repr

/-- Where a flow stands. -/
inductive FlowState where
  | init | discoveryResult | link | discovered | importing | complete | aborted
deriving DecidableEq, Repr

/-! ## Names -/

namespace FlowSource

def all : List FlowSource := [user, known, ssdp, homekit]

def name : FlowSource → String
  | user => "user"
  | known => "import"
  | ssdp => "ssdp"
  | homekit => "homekit"

def ofName? (s : String) : Option FlowSource := all.find? (·.name == s)

end FlowSource

namespace FlowStep

def all : List FlowStep := [init, link]

def name : FlowStep → String
  | init => "init"
  | link => "link"

end FlowStep

namespace FormError

def all : List FormError := [registerFailed, linking]

def name : FormError → String
  | registerFailed => "register_failed"
  | linking => "linking"

end FormError

namespace AbortReason

def all : List AbortReason :=
  [discoverTimeout, noBridges, allConfigured, notHueBridge, alreadyInProgress, alreadyConfigured,
    cannotConnect, unknown]

def name : AbortReason → String
  | discoverTimeout => "discover_timeout"
  | noBridges => "no_bridges"
  | allConfigured => "all_configured"
  | notHueBridge => "not_hue_bridge"
  | alreadyInProgress => "already_in_progress"
  | alreadyConfigured => "already_configured"
  | cannotConnect => "cannot_connect"
  | unknown => "unknown"

end AbortReason

namespace FlowState

def all : List FlowState := [init, discoveryResult, link, discovered, importing, complete, aborted]

def name : FlowState → String
  | init => "init"
  | discoveryResult => "discovery_result"
  | link => "link"
  | discovered => "discovered"
  | importing => "import"
  | complete => "complete"
  | aborted => "aborted"

end FlowState

/-! ## Flows -/

/-- What a host knows of a flow while it is in progress. -/
structure FlowContext where
  id : Uuid
  source : FlowSource
  host : Option String
  uniqueId : Option String
deriving DecidableEq

/-- One pairing attempt. It holds no client and stores nothing until it completes, so dropping it at
any step leaves no trace. -/
structure Flow where
  context : FlowContext
  /-- The host that the link step tries. -/
  candidate : Option String
  state : FlowState
deriving DecidableEq

/-- A flow that has not taken a step yet. -/
def Flow.begin (id : Uuid) (source : FlowSource) : Flow := ⟨⟨id, source, none, none⟩, none, .init⟩

/-- What a completed flow hands to its host. -/
structure Entry where
  title : String
  registration : Registration
  /-- The stored registrations that the host drops when it stores this one. -/
  replaces : List Registration
deriving DecidableEq, Repr

/-- What a step answers. -/
inductive FlowResult where
  /-- A form to show; `hosts` are the choices of the init form. -/
  | form (step : FlowStep) (hosts : List String) (error : Option FormError)
  | entry (e : Entry)
  | abort (reason : AbortReason)
deriving DecidableEq, Repr

/-! ## What a flow is told -/

/-- A bridge found by a discovery round. -/
structure DiscoveredBridge where
  host : String
  id : String
deriving DecidableEq, Repr

/-- The host chosen on the init form. -/
structure HostSelection where
  host : String
deriving DecidableEq, Repr

/-- An announcement over SSDP. -/
structure SsdpInfo where
  host : String
  manufacturerUrl : String
  name : Option String
  serial : String
deriving DecidableEq, Repr

/-- An announcement over HomeKit; its id has colons. -/
structure HomekitInfo where
  host : String
  id : String
deriving DecidableEq, Repr

/-- A bridge to register without asking anyone, if that is possible. -/
structure ImportInfo where
  host : String
  /-- A legacy configuration file that may hold a username. -/
  path : Option String
deriving DecidableEq, Repr

end HueLink.Pairing
