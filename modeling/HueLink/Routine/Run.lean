-- Running one routine alone. Time passes only while a call is under way, and then by the delay of
-- its answer.
import HueLink.Routine.Attempt

namespace HueLink

/-- How a run ends: its result, or `none` if it waits for ever, with the time and the world it
leaves. -/
structure Outcome (ω α : Type) where
  result : Option α
  time : Nat
  world : ω

namespace Routine

variable {κ ω α β : Type}

/-- Runs a routine from a time and a world on. Its own state is kept in the world at `p`. -/
def run (o : Outside ω) (p : Place κ ω) : Routine κ α → Nat → ω → Outcome ω α
  | done a, t, w => ⟨some a, t, w⟩
  | own f rest, t, w => (rest (p.get w)).run o p t (p.update f w)
  | await _ ok rest, t, w =>
    if ok (p.get w) then (rest (p.get w)).run o p t w else ⟨none, t, w⟩
  | lock rest, t, w => rest.run o p t w
  | clock rest, t, w => (rest t).run o p t w
  | ask q rest, t, w =>
    let (a, w) := o.answer q w
    (rest a).run o p t w
  | call _ c rest, t, w =>
    let reply := o.receive c w
    match reply.delay with
    | some d =>
      let (a, w) := reply.finish reply.world
      (rest a).run o p (t + d) w
    | none => ⟨none, t, reply.world⟩
  | callBy _ deadline c rest, t, w =>
    let reply := o.receive c w
    match reply.delay with
    | some d =>
      if t + d ≤ deadline then
        let (a, w) := reply.finish reply.world
        (rest (some a)).run o p (t + d) w
      else (rest none).run o p (max t deadline) reply.world
    | none => (rest none).run o p (max t deadline) reply.world

/-- What follows in a run after a first part of it. -/
def Outcome.andThen (x : Outcome ω α) (f : α → Nat → ω → Outcome ω β) : Outcome ω β :=
  match x.result with
  | some a => f a x.time x.world
  | none => ⟨none, x.time, x.world⟩

@[simp] theorem andThen_some (a : α) (t : Nat) (w : ω) (f : α → Nat → ω → Outcome ω β) :
    Outcome.andThen ⟨some a, t, w⟩ f = f a t w := rfl

@[simp] theorem andThen_none (t : Nat) (w : ω) (f : α → Nat → ω → Outcome ω β) :
    Outcome.andThen ⟨none, t, w⟩ f = ⟨none, t, w⟩ := rfl

/-- A run of one routine after another is the run of the second from where the first ends. -/
theorem run_bind (o : Outside ω) (p : Place κ ω) (r : Routine κ α) (f : α → Routine κ β) (t : Nat)
    (w : ω) : (r.bind f).run o p t w = Outcome.andThen (r.run o p t w) fun a => (f a).run o p := by
  induction r generalizing t w with
  | done a => rfl
  | own g rest ih => exact ih _ t _
  | await drop ok rest ih =>
    simp only [bind, run]
    split
    · exact ih _ t w
    · rfl
  | lock rest ih => exact ih t w
  | clock rest ih => exact ih t t w
  | ask q rest ih => exact ih _ t _
  | call drop c rest ih =>
    simp only [bind, run]
    split
    · exact ih _ _ _
    · rfl
  | callBy drop deadline c rest ih =>
    simp only [bind, run]
    split
    · split
      · exact ih _ _ _
      · exact ih _ _ _
    · exact ih _ _ _

end Routine

end HueLink
