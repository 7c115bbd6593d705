-- A routine that was started among others: how it stands whenever it does not run. It is finished,
-- or it waits for a time to come or for the world to let it go on.
import HueLink.Routine.Run

namespace HueLink

/-- How a started routine stands, with the world as it left it. -/
inductive Resumption (ω α : Type) where
  | finished (world : ω) (time : Nat) (a : α)
  /-- `due` is when to look at it again, if time alone can let it go on; `drop` is what becomes of
  the world if it is given up. -/
  | blocked (world : ω) (due : Option Nat) (drop : ω → ω) (ready : Nat → ω → Bool)
    (resume : Nat → ω → Resumption ω α)

namespace Resumption

variable {ω α β : Type}

/-- The world as the routine left it. -/
def world : Resumption ω α → ω
  | finished w _ _ => w
  | blocked w _ _ _ _ => w

/-- The result with the time at which it was there. -/
def result? : Resumption ω α → Option (α × Nat)
  | finished _ t a => some (a, t)
  | blocked _ _ _ _ _ => none

/-- When to look at it again, if time alone can let it go on. -/
def due? : Resumption ω α → Option Nat
  | finished _ _ _ => none
  | blocked _ due _ _ _ => due

/-- It can go on now. -/
def isReady (t : Nat) (w : ω) : Resumption ω α → Bool
  | finished _ _ _ => false
  | blocked _ _ _ ready _ => ready t w

/-- Lets it go on if it can. -/
def turn (t : Nat) (w : ω) : Resumption ω α → Resumption ω α
  | finished w' t' a => finished w' t' a
  | blocked _ due drop ready resume =>
    if ready t w then resume t w else blocked w due drop ready resume

/-- The world once it is given up. -/
def abandoned (w : ω) : Resumption ω α → ω
  | finished _ _ _ => w
  | blocked _ _ drop _ _ => drop w

/-- What was not begun yet can go on at once. -/
def unstarted (start : Nat → ω → Resumption ω α) (w : ω) : Resumption ω α :=
  blocked w none id (fun _ _ => true) start

/-- A waiting routine that is given up at `deadline`. What it can still do at that time
comes first. -/
def giveUpAt (deadline : Nat) (now : Nat) : Resumption ω α → Resumption ω (Option α)
  | finished w t a => finished w t (some a)
  | blocked w due drop ready resume =>
    if deadline ≤ now then finished (drop w) now none
    else blocked w (some (due.elim deadline (min deadline))) drop
      (fun t w => deadline ≤ t || ready t w)
      fun t w => if ready t w then (resume t w).giveUpAt deadline t else finished (drop w) t none

/-- A waiting routine whose result is changed. -/
def map (f : α → β) : Resumption ω α → Resumption ω β
  | finished w t a => finished w t (f a)
  | blocked w due drop ready resume =>
    blocked w due drop ready fun t w => (resume t w).map f

/-- A waiting routine that does one thing more in the end. -/
def thenDo (f : α → ω → β × ω) : Resumption ω α → Resumption ω β
  | finished w t a =>
    let (b, w) := f a w
    finished w t b
  | blocked w due drop ready resume =>
    blocked w due drop ready fun t w => (resume t w).thenDo f

end Resumption

/-- Runs a routine as far as it comes at one time. A call that begins when its deadline has come is
given up at once, unless its answer is there at once. -/
def Routine.start {ω α : Type} (o : Outside ω) : Routine ω α → Nat → ω → Resumption ω α
  | done a, t, w => .finished w t a
  | own f rest, t, w => (rest w).start o t (f w)
  | await drop ok rest, t, w =>
    if ok w then (rest w).start o t w
    else .blocked w none drop (fun _ w => ok w) fun t w => (rest w).start o t w
  | lock rest, t, w => rest.start o t w
  | clock rest, t, w => (rest t).start o t w
  | ask q rest, t, w =>
    let (a, w) := o.answer q w
    (rest a).start o t w
  | call drop c rest, t, w =>
    let reply := o.receive c w
    match reply.delay with
    | some 0 =>
      let (a, w) := reply.finish reply.world
      (rest a).start o t w
    | some d => .blocked reply.world (some (t + d)) drop (fun now _ => t + d ≤ now) fun now w =>
        let (a, w) := reply.finish w
        (rest a).start o now w
    | none => .blocked reply.world none drop (fun _ _ => false) fun now w =>
        let (a, w) := reply.finish w
        (rest a).start o now w
  | callBy drop deadline c rest, t, w =>
    let reply := o.receive c w
    match reply.delay with
    | some 0 =>
      let (a, w) := reply.finish reply.world
      (rest (some a)).start o t w
    | delay =>
      if deadline ≤ t then (rest none).start o t reply.world
      else
        let due := delay.elim deadline (min deadline <| t + ·)
        .blocked reply.world (some due) drop (fun now _ => due ≤ now) fun now w =>
          if delay.any (t + · ≤ deadline) then
            let (a, w) := reply.finish w
            (rest (some a)).start o now w
          else (rest none).start o now w

end HueLink
