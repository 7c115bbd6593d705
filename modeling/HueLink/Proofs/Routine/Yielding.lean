-- What results a routine can end with. What follows it matters only for these.
import HueLink.Routine.Basic

namespace HueLink.Routine

variable {κ α β : Type} {p : Routine κ α} {f g : α → Routine κ β}

/-- Whatever happens, if the routine comes to its end, its result is as it may be. -/
def Yields (ok : α → Prop) : Routine κ α → Prop
  | done a => ok a
  | own _ rest | await _ _ rest => ∀ s, (rest s).Yields ok
  | lock rest => rest.Yields ok
  | clock rest => ∀ t, (rest t).Yields ok
  | ask _ rest | call _ _ rest | callBy _ _ _ rest => ∀ x, (rest x).Yields ok

theorem yields_bind {ok : α → Prop} {ok' : β → Prop} (hp : p.Yields ok)
    (hf : ∀ a, ok a → (f a).Yields ok') : (p.bind f).Yields ok' := by
  induction p with
  | done a => exact hf a hp
  | own g rest ih => exact fun s => ih s (hp s)
  | await drop free rest ih => exact fun s => ih s (hp s)
  | lock rest ih => exact ih hp
  | clock rest ih => exact fun t => ih t (hp t)
  | ask q rest ih => exact fun x => ih x (hp x)
  | call drop c rest ih => exact fun x => ih x (hp x)
  | callBy drop t c rest ih => exact fun x => ih x (hp x)

theorem yields_guarded {ok : α → Prop} (undo : κ → κ) (hp : p.Yields ok) :
    (p.guarded undo).Yields ok := by
  induction p with
  | done a => exact hp
  | own g rest ih => exact fun s => ih s (hp s)
  | await drop free rest ih => exact fun s => ih s (hp s)
  | lock rest ih => exact ih hp
  | clock rest ih => exact fun t => ih t (hp t)
  | ask q rest ih => exact fun x => ih x (hp x)
  | call drop c rest ih => exact fun x => ih x (hp x)
  | callBy drop t c rest ih => exact fun x => ih x (hp x)

/-- Of many routines nothing is known but that they may end with anything. -/
theorem yields_any (p : Routine κ α) : p.Yields fun _ => True := by
  induction p with
  | done a => trivial
  | own g rest ih => exact ih
  | await drop free rest ih => exact ih
  | lock rest ih => exact ih
  | clock rest ih => exact ih
  | ask q rest ih => exact ih
  | call drop c rest ih => exact ih
  | callBy drop t c rest ih => exact ih

/-- What follows a routine matters only for the results that it can have. -/
theorem Yields.bind_congr {ok : α → Prop} (hp : p.Yields ok) (h : ∀ a, ok a → f a = g a) :
    p.bind f = p.bind g := by
  induction p with
  | done a => exact h a hp
  | own u rest ih => exact congrArg (own u) (funext fun s => ih s (hp s))
  | await drop free rest ih => exact congrArg (await drop free) (funext fun s => ih s (hp s))
  | lock rest ih => exact congrArg lock (ih hp)
  | clock rest ih => exact congrArg clock (funext fun t => ih t (hp t))
  | ask q rest ih => exact congrArg (ask q) (funext fun x => ih x (hp x))
  | call drop c rest ih => exact congrArg (call drop c) (funext fun x => ih x (hp x))
  | callBy drop t c rest ih => exact congrArg (callBy drop t c) (funext fun x => ih x (hp x))

end HueLink.Routine
