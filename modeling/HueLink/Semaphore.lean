-- Counting semaphores. A permit given back goes to whoever waits longest, and is free only if
-- nobody waits. Whoever arrives draws the next number as a ticket. A semaphore that is closed lets
-- nobody in any more, but takes its permits back.

namespace HueLink

/-- The permits of a resource. -/
structure Semaphore where
  /-- Permits that nobody holds. -/
  free : Nat
  /-- The tickets that hold a permit. -/
  holders : List Nat
  /-- The tickets that wait for one, the longest first. -/
  waiting : List Nat
  closed : Bool
  /-- The ticket of the next to arrive. -/
  next : Nat
deriving DecidableEq, Repr

namespace Semaphore

/-- A semaphore with all its permits free. -/
def ofPermits (permits : Nat) : Semaphore := ⟨permits, [], [], false, 0⟩

/-- Someone arrives with the next ticket: they get a permit if one is free, and wait otherwise. At a
closed semaphore they get nothing. -/
def arrive (s : Semaphore) : Semaphore :=
  if s.closed then { s with next := s.next + 1 }
  else if s.free = 0 then { s with waiting := s.waiting ++ [s.next], next := s.next + 1 }
  else { s with free := s.free - 1, holders := s.holders ++ [s.next], next := s.next + 1 }

/-- The ticket holds a permit. -/
def holds (s : Semaphore) (t : Nat) : Bool := s.holders.contains t

/-- Whoever waits with this ticket can go on: they hold a permit, or they never will. -/
def settled (s : Semaphore) (t : Nat) : Bool := s.closed || s.holds t

/-- Takes the permit of a ticket back, and gives it to whoever waits longest. -/
def giveBack (s : Semaphore) (t : Nat) : Semaphore :=
  match s.waiting with
  | [] => { s with free := s.free + 1, holders := s.holders.erase t }
  | first :: rest => { s with holders := s.holders.erase t ++ [first], waiting := rest }

/-- The ticket is not used any more. -/
def leave (s : Semaphore) (t : Nat) : Semaphore :=
  if s.holds t then s.giveBack t else { s with waiting := s.waiting.erase t }

/-- Nobody gets a permit any more. -/
def close (s : Semaphore) : Semaphore := { s with closed := true, waiting := [] }

/-! ## Without waiting -/

/-- How it reads that a semaphore lets nobody in any more. -/
def closedMessage : String := "semaphore closed"

/-- What becomes of someone who waits only a moment. -/
inductive Admission where
  | admitted (t : Nat)
  | closed
  | timedOut
deriving DecidableEq, Repr

/-- Someone arrives who leaves again if there is no permit at once. -/
def tryAcquire (s : Semaphore) : Admission × Semaphore :=
  let arrived := s.arrive
  if s.closed then (.closed, arrived)
  else if arrived.holds s.next then (.admitted s.next, arrived)
  else (.timedOut, arrived.leave s.next)

end Semaphore

end HueLink
