-- The setup of a session and its end. A setup that succeeds hooks the session into the host; one
-- that fails leaves nothing behind but its state, and for a rejected username the wish to pair
-- again.
import HueLink.Session.Basic

namespace HueLink.Session

/-- The first part of a setup: only a session that was not set up yet may go on. -/
def claim : Routine Cell Bool :=
  .lock <| .own
    (fun c => if c.state = .uninitialized then { c with state := .authenticating } else c)
    fun before => .done (decide (before.state = .uninitialized))

/-- Keeps what a session has once it is set up. What it has already stays, and the answer is
`false`. -/
def keep (ready : Ready) : Routine Cell Bool :=
  .own (fun c => { c with ready := c.ready.or (some ready) }) fun before =>
    .done before.ready.isNone

/-- Hooks a session with an accepted username into the host. -/
def load (s : Session) (linked : LinkedBridge) : Routine Cell SetupOutcome := do
  let limit := concurrencyLimit linked.config.modelId
  Routine.note (.modelFound s.host linked.config.modelId limit)
  if ← keep ⟨linked.client, linked.config, limit, .ofPermits limit⟩ then
    Platform.all.forM fun platform => Routine.query (.forwardSetup s.registration platform)
    Routine.query (.registerSceneService s.handle)
    Routine.modify fun c => { c with authorized := true }
    setState .authorized
    Routine.note (.connected s.host)
    pure .loaded
  else pure .failed

/-- Authenticates with the stored username and hooks the session into the host. -/
def setup (s : Session) : Routine Cell SetupOutcome := do
  if ← claim then
    let home ← Routine.query .locationName
    match ← Exchange.acquire s.host (some s.registration.username) home with
    | .ok linked => s.load linked
    | .error .authenticationRequired =>
      setState .authFailed
      Routine.query (.startPairing s.host)
      pure .failed
    | .error .cannotConnect =>
      Routine.note (.cannotReach s.host)
      setState .connFailed
      pure .retryLater
    | .error e =>
      Routine.note (.unknownConnectingError s.host e)
      setState .authFailed
      pure .failed
  else
    Routine.note (.alreadySetUp s.host)
    pure .failed

/-- Has platforms unloaded side by side: the host begins with all of them before it is waited for
any. The answers are in the order of the platforms. -/
def unloadAll (s : Session) (platforms : List Platform) : Routine Cell (List (Option Bool)) := do
  platforms.forM fun platform => Routine.query (.forwardUnload s.registration platform)
  platforms.mapM fun platform => Routine.request (.unloaded s.registration platform)

/-- Withdraws the scene service and unloads every platform. Nothing to unload counts as success. A
session that was never loaded has nothing to take down. -/
def teardown (s : Session) : Routine Cell Bool := do
  if (← Routine.read).ready.isSome then
    let _ ← Routine.query .removeSceneService
    let answers ← s.unloadAll Platform.all
    pure (answers.all fun answer => answer.getD true)
  else pure true

/-- Notes if the bridge can be reached. -/
def setAvailable (available : Bool) : Routine Cell Unit :=
  Routine.modify fun c => { c with available }

end HueLink.Session
