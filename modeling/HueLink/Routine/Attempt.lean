-- Attempts: calls made one after another that are given up together once their time is over. The
-- work goes before the clock: what is answered at the last moment is in time.
import HueLink.Routine.Basic

namespace HueLink

/-- Calls one after another, up to a result. -/
inductive Attempt (α : Type) where
  | done (a : α)
  | call (c : Call) (rest : c.Answer → Attempt α)

namespace Attempt

variable {κ α β : Type}

/-- One attempt after another. -/
def bind (f : α → Attempt β) : Attempt α → Attempt β
  | done a => f a
  | call c rest => call c fun a => (rest a).bind f

instance : Monad Attempt where
  pure := done
  bind p f := p.bind f

/-- A single call. -/
def request (c : Call) : Attempt c.Answer := call c done

/-- The attempt with each call given up at a deadline. -/
def boundedBy (deadline : Nat) : Attempt α → Routine κ (Option α)
  | done a => .done (some a)
  | call c rest => .callBy id deadline c fun answer =>
    answer.elim (.done none) fun a => (rest a).boundedBy deadline

/-- The attempt, given up when it takes longer than `limit`. -/
def within (limit : Nat) (p : Attempt α) : Routine κ (Option α) :=
  .clock fun now => p.boundedBy (now + limit)

/-- The attempt with all the time it takes. -/
def unbounded : Attempt α → Routine κ α
  | done a => .done a
  | call c rest => .call id c fun a => (rest a).unbounded

/-- Sleeps one after another. -/
def sleeps : List Nat → Attempt Unit
  | [] => done ()
  | span :: spans => call (.sleep span) fun _ => sleeps spans

end Attempt

end HueLink
