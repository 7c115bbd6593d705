-- Items of a scenario: a step, or several items that run together, which may again be such groups.
-- The routines of all of them take turns in the order in which they stand, whatever groups they are
-- in.
import HueLink.Scripted.Batch

namespace HueLink.Scripted

/-- One item of a scenario. -/
inductive Item where
  | one (step : Step)
  | together (items : List Item)

instance : Inhabited Item := ⟨.together []⟩

/-- The answer of a step, if it came to its end, or the results of items that ran together with the
times at which they ended. -/
inductive Result where
  | one (a : Option Answer)
  | together (results : List (Result × Nat))

/-! ## Starting -/

/-- What a started routine of a step ends with: its answer, or the end of one call of a batch. -/
inductive Part where
  | answer (a : Answer)
  | call (ending : Option CallEnd)

/-- A started item: the routines of a step with the meter of its batch if it is one, or the started
items of a group. -/
inductive Started where
  | one (tasks : List (Resumption Home Part)) (meter : Option Nat)
  | together (parts : List Started)

/-- Starts routines in order. -/
def startAll (t : Nat) : Home → List (Nat → Home → Resumption Home Part) →
    List (Resumption Home Part) × Home
  | h, [] => ([], h)
  | h, start :: rest =>
    let task := start t h
    let (tasks, h) := startAll t task.world rest
    (task :: tasks, h)

def startBatch (s : Session) (calls : List BatchCall) (t : Nat) (h : Home) : Started × Home :=
  let meter := h.meters.length
  let starts := calls.zipIdx.map fun (c, call) t h => (startCall s meter call c t h).map Part.call
  let (tasks, h) := startAll t { h with meters := h.meters ++ [.zero] } starts
  (.one tasks (some meter), h)

def Step.start (step : Step) (t : Nat) (h : Home) : Started × Home :=
  match step with
  | session name (.batch calls) =>
    match h.session? name with
    | some slot => startBatch slot.session calls t h
    | none => (.one [.finished h t (.answer .noSession)] none, h)
  | step =>
    let task := (step.work.start Home.outside t h).map Part.answer
    (.one [task] none, task.world)

mutual

def Item.start (t : Nat) : Item → Home → Started × Home
  | .one step, h => step.start t h
  | .together items, h =>
    let (parts, h) := startItems t items h
    (.together parts, h)

/-- Starts items in order. -/
def startItems (t : Nat) : List Item → Home → List Started × Home
  | [], h => ([], h)
  | item :: rest, h =>
    let (started, h) := item.start t h
    let (others, h) := startItems t rest h
    (started :: others, h)

end

mutual

/-- The routines of a started item. -/
def Started.tasks : Started → List (Resumption Home Part)
  | .one tasks _ => tasks
  | .together parts => allTasks parts

/-- The routines of started items. -/
def allTasks : List Started → List (Resumption Home Part)
  | [] => []
  | s :: rest => s.tasks ++ allTasks rest

end

/-! ## Results -/

def batchAnswer (m : Meter) (parts : List (Option CallEnd)) : Answer :=
  .batch (parts.zipIdx.map fun (ending, call) => reportCall m call ending) m.peak m.running

/-- The end of a call of a batch. -/
def Part.ending? : Part → Option CallEnd
  | call ending => ending
  | answer _ => none

/-- The last of the times at which something ended that began at `begun`. -/
def lastTime (begun : Nat) (times : List Nat) : Nat := times.foldl max begun

/-- The answer of a step from its routines, and when the last of them ended. A step that waits for
ever has none. -/
def collect (h : Home) (begun : Nat) (meter : Option Nat) (tasks : List (Resumption Home Part)) :
    Option Answer × Nat :=
  let ended : List (Part × Nat) := tasks.filterMap (·.result?)
  let time := lastTime begun (ended.map (·.2))
  if ended.length < tasks.length then (none, time)
  else match meter, ended with
    | some meter, ended =>
      (some (batchAnswer (h.meters[meter]?.getD .zero) (ended.map (·.1.ending?))), time)
    | none, [(.answer a, _)] => (some a, time)
    | none, _ => (none, time)

mutual

/-- The result of an item, given how its routines stand at the end, and when it ended. -/
def Started.result (h : Home) (begun : Nat) :
    Started → List (Resumption Home Part) → Result × Nat
  | .one _ meter, tasks =>
    let (answer, time) := collect h begun meter tasks
    (.one answer, time)
  | .together parts, tasks =>
    let results := share h begun parts tasks
    (.together results, lastTime begun (results.map (·.2)))

/-- Divides the routines among the items they belong to. -/
def share (h : Home) (begun : Nat) :
    List Started → List (Resumption Home Part) → List (Result × Nat)
  | [], _ => []
  | s :: rest, tasks =>
    let own := s.tasks.length
    s.result h begun (tasks.take own) :: share h begun rest (tasks.drop own)

end

/-! ## Running -/

/-- What a run ends with: a result, and the time and the home at the end. -/
structure Finished where
  result : Result
  time : Nat
  home : Home

/-- Runs an item whose routines take turns. -/
def Item.runTurns (item : Item) (t : Nat) (h : Home) : Finished :=
  let (started, h) := item.start t h
  let (time, h, tasks) := Resumption.finish t h started.tasks
  ⟨(started.result h t tasks).1, time, h⟩

/-- Runs an item. A step that is no batch has one routine, and nothing to take turns with. -/
def Item.run (item : Item) (t : Nat) (h : Home) : Finished :=
  match item with
  | .one (.session _ (.batch _)) | .together _ => item.runTurns t h
  | .one step =>
    let outcome := step.work.run Home.outside .whole t h
    ⟨.one outcome.result, outcome.time, outcome.world⟩

end HueLink.Scripted
