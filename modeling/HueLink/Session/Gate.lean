-- The gate of a session. A call waits until it holds a slot, runs, and gives the slot back, however
-- it ends. A call that the bridge rejects as unauthorized also ends the authorization of the
-- session.
import HueLink.Session.Basic

namespace HueLink.Session

variable {κ α : Type}

/-- Runs some work while it holds a slot of the gate of the session kept at `p`. Giving up the work
gives back its slot or its place among those that wait. -/
def gated (p : Routine.Place Cell κ) (work : Routine κ α) : Routine κ (Except BridgeError α) :=
  .own (p.update (Cell.mapGate Semaphore.arrive)) fun before =>
    match (p.get before).gate? with
    | none => .done (.error .notReady)
    | some gate =>
      let ticket := gate.next
      let leave := p.update (Cell.mapGate (·.leave ticket))
      Routine.guarded leave <|
        .await id (fun s => (p.get s).gate?.any (·.settled ticket)) fun s =>
          if (p.get s).gate?.any (·.holds ticket) then do
            let a ← work
            Routine.modify leave
            pure (.ok a)
          else .done (.error .notReady)

/-- The bridge rejected the username: have it paired again. Only the first call after a setup has
any effect. -/
def markUnauthorized (s : Session) : Routine Cell Unit :=
  .own (fun c => { c with authorized := false }) fun before =>
    if before.authorized then do
      Routine.note (.usernameRejected s.host)
      setState .authFailed
      Routine.query (.startPairing s.host)
    else .done ()

/-- A call to the bridge through the gate. -/
def callApi (s : Session) (work : Client → Routine Cell (Except Fault α)) :
    Routine Cell (Except BridgeError α) := do
  match (← Routine.read).client with
  | .error e => pure (.error e)
  | .ok client =>
    match ← gated .whole (work client) with
    | .error e => pure (.error e)
    | .ok (.ok a) => pure (.ok a)
    | .ok (.error .unauthorized) =>
      s.markUnauthorized
      pure (.error .authenticationRequired)
    | .ok (.error fault) => pure (.error fault.classify)

end HueLink.Session
