-- A batch of calls through the gate of one session, all made at once. Each keeps a record of when
-- its work began and ended, and may be given up after a while, waiting or at work.
import HueLink.Routine.Together
import HueLink.Scripted.Step

namespace HueLink.Scripted

/-! ## Meters -/

namespace Meter

/-- Nothing has run yet. -/
def zero : Meter := ⟨0, 0, [], []⟩

/-- The work of a call begins. -/
def begin (call : Nat) (t : Nat) (m : Meter) : Meter :=
  { m with
    running := m.running + 1
    peak := max m.peak (m.running + 1)
    began := m.began ++ [(call, t)] }

/-- The work of a call is over, whether it ended or was given up. -/
def stop (m : Meter) : Meter := { m with running := m.running - 1 }

/-- The work of a call came to its end. -/
def finish (call : Nat) (t : Nat) (m : Meter) : Meter :=
  { m.stop with ended := m.ended ++ [(call, t)] }

end Meter

def updateMeter (meter : Nat) (f : Meter → Meter) (h : Home) : Home :=
  { h with meters := h.meters.modify meter f }

/-! ## Calls -/

/-- The work of a call: it takes its time, and says if it went well. -/
def callWork (meter call : Nat) (c : BatchCall) : Work Bool := do
  let t ← Routine.clock .done
  Routine.modify (updateMeter meter (Meter.begin call t))
  Routine.guarded (updateMeter meter Meter.stop) do
    Routine.request (.sleep c.span)
    let t ← Routine.clock .done
    Routine.modify (updateMeter meter (Meter.finish call t))
    pure (!c.fails)

/-- A call of the batch through the gate of a session. -/
def throughGate (s : Session) (meter call : Nat) (c : BatchCall) : Work CallEnd :=
  holding s.handle do
    match ← Session.gated (cellPlace s.handle) (callWork meter call c) with
    | .error e => pure (.refused e)
    | .ok true => pure .done
    | .ok false => pure .failed

/-- A call of the batch, given up when its time is over. -/
def startCall (s : Session) (meter call : Nat) (c : BatchCall) (t : Nat) (h : Home) :
    Resumption Home (Option CallEnd) :=
  let started := (throughGate s meter call c).start Home.outside t h
  match c.cancelAfter with
  | some span => started.giveUpAt (t + span) t
  | none => started.map some

/-- A call of a batch as its meter and its end tell it. -/
def reportCall (m : Meter) (call : Nat) : Option CallEnd → CallReport
  | some ending => ⟨m.began.lookup call, m.ended.lookup call, ending⟩
  | none => ⟨m.began.lookup call, none, .cancelled⟩

end HueLink.Scripted
