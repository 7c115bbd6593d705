-- A bench to try the parts that sessions are built from: one semaphore, one counter, and work with
-- a limit to its time.
import HueLink.Json.Basic
import HueLink.Routine.Timekeeping
import HueLink.Semaphore

namespace HueLink

/-- What lies on the bench. -/
structure Bench where
  gate : Semaphore
  /-- The tickets of the permits kept, the oldest first. -/
  kept : List Nat
  total : Int

namespace Bench

/-! ## Surroundings with nothing in them -/

/-- Where nobody answers: time passes for those who sleep, and all other calls wait for ever. -/
def nobody : Outside Unit where
  answer
    | .connect _ _, w => (⟨0⟩, w)
    | .clientHost _, w => ("", w)
    | .clientUsername _, w => (none, w)
    | .locationName, w => (.plain "", w)
    | .registrations, w => ([], w)
    | .flowsInProgress, w => ([], w)
    | .configPath relative, w => (relative, w)
    | .legacyUsername _ _, w => (none, w)
    | .startPairing _, w => ((), w)
    | .forwardSetup _ _, w => ((), w)
    | .forwardUnload _ _, w => ((), w)
    | .registerSceneService _, w => ((), w)
    | .removeSceneService, w => (false, w)
    | .note _, w => ((), w)
  receive
    | .sleep span, w => ⟨w, some span, fun w => ((), w)⟩
    | .createUser _ _, w => ⟨w, none, fun w => (.ok (), w)⟩
    | .validate _, w => ⟨w, none, fun w => (.error .unauthorized, w)⟩
    | .groups _, w => ⟨w, none, fun w => (.ok [], w)⟩
    | .scenes _, w => ⟨w, none, fun w => (.ok [], w)⟩
    | .updateGroups _, w => ⟨w, none, fun w => (.ok (), w)⟩
    | .updateScenes _, w => ⟨w, none, fun w => (.ok (), w)⟩
    | .setGroupScene _ _ _, w => ⟨w, none, fun w => (.ok (), w)⟩
    | .discover, w => ⟨w, none, fun w => (.ok [], w)⟩
    | .unloaded _ _, w => ⟨w, none, fun w => (none, w)⟩

/-- Work for a bench. -/
inductive Task where
  /-- It is over at once. -/
  | ready
  /-- It lets others go first once. -/
  | yields
  /-- It never ends. -/
  | never
deriving DecidableEq, Repr

/-- The work, with the value it gives. -/
def Task.attempt {α : Type} (value : α) : Task → Attempt α
  | ready => pure value
  | yields => do
    Attempt.request (.sleep 0)
    pure value
  | never => do
    let _ ← Attempt.request .discover
    pure value

/-- Sleeps one after another under a limit: if they came to their end, and how long it took. -/
def sleepWithin (b : Backend) (limit : Nat) (spans : List Nat) : Option (Bool × Nat) :=
  (b.run .workFirst nobody limit (Attempt.sleeps spans) 0 ()).map fun r => (r.1.isOk, r.2)

/-! ## The bench -/

/-- A bench with so many permits. -/
def ofPermits (permits : Nat) : Bench := ⟨.ofPermits permits, [], 0⟩

/-- What can be tried. -/
inductive Step where
  | acquire | release | releaseOldest | close
  | add (n : Int)
  | timeout (task : Task) (limit : Nat) (value : Json)

/-- What a step answers. -/
inductive Answer where
  | admission (a : Semaphore.Admission)
  | truth (b : Bool)
  | closed
  | number (n : Int)
  /-- The value of work that was in time. -/
  | value (v : Option Json)

/-- Gives back the permit of a ticket, if there is one. -/
def give (b : Bench) : Option Nat → Answer × Bench
  | none => (.truth false, b)
  | some t => (.truth true, { b with gate := b.gate.leave t, kept := b.kept.erase t })

/-- One step on a bench whose time is kept by a backend. -/
def step (backend : Backend) (b : Bench) : Step → Answer × Bench
  | .acquire =>
    let (a, gate) := b.gate.tryAcquire
    (.admission a, match a with
      | .admitted t => { b with gate, kept := b.kept ++ [t] }
      | _ => { b with gate })
  | .release => b.give b.kept.getLast?
  | .releaseOldest => b.give b.kept.head?
  | .close => (.closed, { b with gate := b.gate.close })
  | .add n => (.number (b.total + n), { b with total := b.total + n })
  | .timeout task limit value =>
    let ended := backend.run .workFirst nobody limit (task.attempt value) 0 ()
    (.value (ended.bind (·.1.toOption)), b)

/-- Steps one after another: the answer of each, with the bench after it. -/
def run (backend : Backend) (b : Bench) : List Step → List (Answer × Bench)
  | [] => []
  | s :: rest =>
    let (a, b) := b.step backend s
    (a, b) :: b.run backend rest

end Bench

end HueLink
