-- Work with a limit to its time, on each of three backends. Two have a timeout of their own. The
-- third has only a timer, and waits for the work and the timer side by side. The timeouts, the
-- timer and the waiting side by side are those of libraries, of which only this is known: the work
-- is looked at before the clock.
import HueLink.Routine.Together

namespace HueLink

/-- The time of some work was over before it was done. -/
structure TimedOut where
deriving DecidableEq, Repr

def TimedOut.message (_ : TimedOut) : String := "operation timed out"

/-- The backends that tasks can run on. -/
inductive Backend where
  | tokio | asyncStd | smol
deriving DecidableEq, Repr

namespace Resumption

variable {ω α β ε : Type}

/-- The sooner of two moments, of which either may be missing. -/
def sooner : Option Nat → Option Nat → Option Nat
  | some a, some b => some (min a b)
  | some a, none => some a
  | none, b => b

/-- Which of two was finished first: its result, and the other one as it stands. -/
abbrev First (ω α β : Type) : Type := α × Resumption ω β ⊕ β × Resumption ω α

end Resumption

/-! ## What the libraries give -/

open Resumption in
/-- What the backends take from libraries. What is made `now` is looked at for the first time right
then. -/
structure Libraries where
  /-- The error of tokio's timeout. -/
  Elapsed : Type
  /-- The error of async-std's timeout. -/
  TimeoutError : Type
  tokioTimeout {ω α : Type} (limit now : Nat) (work : Resumption ω α) :
    Resumption ω (Except Elapsed α)
  asyncStdTimeout {ω α : Type} (limit now : Nat) (work : Resumption ω α) :
    Resumption ω (Except TimeoutError α)
  /-- A timer of smol. It tells the moment at which it went off. -/
  smolTimer {ω : Type} (limit now : Nat) (w : ω) : Resumption ω Nat
  /-- Two side by side until one of them is finished. -/
  select {ω α β : Type} (left : Resumption ω α) (right : Resumption ω β) :
    Resumption ω (First ω α β)

/-! ## Libraries as documented -/

namespace Resumption

variable {ω α β : Type}

/-- Waits for a point in time. -/
def timer (deadline : Nat) (w : ω) : Resumption ω Nat :=
  blocked w (some deadline) id (fun t _ => deadline ≤ t) fun t w => finished w t t

/-- Waiting work that is given up at `deadline`, as it stands between two looks at it. -/
def watched (deadline : Nat) : Resumption ω α → Resumption ω (Option α)
  | finished w t a => finished w t (some a)
  | blocked w due drop ready resume =>
    blocked w (some (due.elim deadline (min deadline))) drop
      (fun t w => deadline ≤ t || ready t w)
      fun t w => if ready t w then (resume t w).giveUpAt deadline t else finished (drop w) t none

/-- What becomes of waiting work beside something on its right that was just looked at. `next` goes
on with both once the work can go on. -/
def beside (due : Option Nat) (drop : ω → ω) (ready : Nat → ω → Bool)
    (resume : Nat → ω → Resumption ω α)
    (next : Nat → ω → Resumption ω β → Resumption ω (First ω α β)) (w : ω) :
    Resumption ω β → Resumption ω (First ω α β)
  | finished w' t b => finished w' t (.inr (b, blocked w due drop ready resume))
  | blocked w' due' drop' ready' resume' =>
    blocked w' (sooner due due') (drop' ∘ drop) (fun t w => ready t w || ready' t w) fun t w =>
      if ready t w then next t w (blocked w' due' drop' ready' resume')
      else (resume' t w).beside due drop ready resume next w

/-- Two of which the first to finish counts. The left one was just looked at, and the right one is
looked at only if the left one still waits. -/
def race (t : Nat) : Resumption ω α → Resumption ω β → Resumption ω (First ω α β)
  | finished w t' a, right => finished w t' (.inl (a, right))
  | blocked w due drop ready resume, right =>
    (right.turn t w).beside due drop ready resume (fun t w right => (resume t w).race t right) w

/-- Two of which the first to finish counts, as they stand between two looks at them. -/
def either : Resumption ω α → Resumption ω β → Resumption ω (First ω α β)
  | finished w t a, right => finished w t (.inl (a, right))
  | blocked w due drop ready resume, right =>
    right.beside due drop ready resume (fun t w right => (resume t w).race t right) w

end Resumption

/-- Libraries that look at the work before the clock. -/
def Libraries.workFirst : Libraries where
  Elapsed := Unit
  TimeoutError := Unit
  tokioTimeout limit now work := (work.watched (now + limit)).map (·.elim (.error ()) .ok)
  asyncStdTimeout limit now work := (work.watched (now + limit)).map (·.elim (.error ()) .ok)
  smolTimer limit now w := .timer (now + limit) w
  select left right := left.either right

/-! ## Backends -/

namespace Backend

variable {ω α β : Type}

/-- Either the work is finished, or the timer that was set beside it. The other one is dropped. -/
def settle : Resumption.First ω α β → ω → Except TimedOut α × ω
  | .inl (a, timer), w => (.ok a, timer.abandoned w)
  | .inr (_, work), w => (.error ⟨⟩, work.abandoned w)

/-- Work that may take as long as `limit` from now on. -/
def timeout (libs : Libraries) (limit now : Nat) (work : Resumption ω α) :
    Backend → Resumption ω (Except TimedOut α)
  | tokio => (libs.tokioTimeout limit now work).map (Except.mapError fun _ => ⟨⟩)
  | asyncStd => (libs.asyncStdTimeout limit now work).map (Except.mapError fun _ => ⟨⟩)
  | smol => (libs.select work (libs.smolTimer limit now work.world)).thenDo settle

/-- Starts calls that may take as long as `limit`. -/
def start (b : Backend) (libs : Libraries) (o : Outside ω) (limit : Nat) (p : Attempt α) (t : Nat)
    (w : ω) : Resumption ω (Except TimedOut α) :=
  (b.timeout libs limit t (.unstarted ((p.unbounded : Routine ω α).start o) w)).turn t w

/-- Makes calls that may take as long as `limit`: their result and the time at the end. -/
def run (b : Backend) (libs : Libraries) (o : Outside ω) (limit : Nat) (p : Attempt α) (t : Nat)
    (w : ω) : Option (Except TimedOut α × Nat) :=
  let started := b.start libs o limit p t w
  let (_, _, tasks) := Resumption.finish t started.world [started]
  (tasks.head?).bind (·.result?)

end Backend

end HueLink
