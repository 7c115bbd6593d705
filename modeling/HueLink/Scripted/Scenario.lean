-- Scenarios: items in a scripted home one after another, with a report of each and what stands in
-- the home at the end. A scenario also says at which flow and which session to look after an item.
import HueLink.Scripted.Item

namespace HueLink.Scripted

open Pairing

/-! ## Reports -/

/-- What can be seen of a flow. -/
structure FlowView where
  state : FlowState
  candidate : Option String
  context : FlowContext

/-- What can be seen of a session. -/
structure SessionView where
  state : SessionState
  available : Bool
  authorized : Bool
  limit : Option Nat

/-- One stage of a scenario: an item, and the names of the flow and the session to look
at after it. -/
structure Stage where
  item : Item
  flow : Option String
  session : Option String

/-- What happened in a stage. `flow` and `session` are there if it says to look at one, and then
hold what can be seen of it, if it exists. -/
structure Report where
  result : Result
  time : Nat
  events : List Event
  log : List (Level × String)
  flow : Option (Option FlowView)
  session : Option (Option SessionView)

/-- What stands in the home at the end. -/
structure Ending where
  registrations : List Registration
  usernames : List (String × List String)
  flows : List String

/-- What can be seen of the flow of a name. -/
def viewFlow (h : Home) (name : String) : Option FlowView :=
  (h.flow? name).map fun slot => ⟨slot.flow.state, slot.flow.candidate, slot.flow.context⟩

/-- What can be seen of the session of a name. -/
def viewSession (h : Home) (name : String) : Option SessionView :=
  (h.session? name).map fun slot =>
    ⟨slot.cell.state, slot.cell.available, slot.cell.authorized, slot.cell.limit?⟩

/-- A line of the log as it reads. -/
def readLine (h : Home) (n : Notice) : Level × String :=
  (n.level, n.text fun id => "<" ++ h.flowName id ++ ">")

/-- Runs a stage and reports what happened in it. -/
def Stage.report (stage : Stage) (t : Nat) (h : Home) : Report × Home :=
  let ⟨result, t, h⟩ := stage.item.run t { h with events := [], log := [] }
  (⟨result, t, h.events, h.log.map (readLine h), stage.flow.map (viewFlow h),
    stage.session.map (viewSession h)⟩, h)

/-- Runs stages one after another. -/
def runStages : List Stage → Nat → Home → List Report × Home
  | [], _, h => ([], h)
  | stage :: rest, t, h =>
    let (report, h) := stage.report t h
    let (reports, h) := runStages rest report.time h
    (report :: reports, h)

/-- What stands in a home. -/
def Home.ending (h : Home) : Ending where
  registrations := h.registrations
  usernames := h.bridges.map fun b => (b.1, b.2.usernames)
  flows := (h.flows.filter (·.shown.isSome)).map (·.name)

def runScenario (stages : List Stage) (h : Home) : List Report × Ending :=
  let (reports, h) := runStages stages 0 h
  (reports, h.ending)

end HueLink.Scripted
