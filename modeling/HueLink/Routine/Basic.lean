-- Routines: what a flow or a session does, as a tree of steps. A routine reads and updates a state
-- of its own, asks its surroundings, and waits for their answers; other routines may run while it
-- waits, and only then. A routine that is given up while it waits leaves its state as `drop` says.
import HueLink.Outside

namespace HueLink

/-- What is done on a state `κ` to give a result `α`. -/
inductive Routine (κ α : Type) where
  /-- The result is there. -/
  | done (a : α)
  /-- Update the state; the rest sees the state as it was before. -/
  | own (f : κ → κ) (rest : κ → Routine κ α)
  /-- Wait until the state permits to go on; the rest sees that state. -/
  | await (drop : κ → κ) (ok : κ → Bool) (rest : κ → Routine κ α)
  /-- Take the lock that guards the state of a session. Nobody holds it while waiting. -/
  | lock (rest : Routine κ α)
  /-- Read the clock. -/
  | clock (rest : Nat → Routine κ α)
  /-- Ask what is answered at once. -/
  | ask (q : Query) (rest : q.Answer → Routine κ α)
  /-- Wait for the answer to a call. -/
  | call (drop : κ → κ) (c : Call) (rest : c.Answer → Routine κ α)
  /-- Wait for the answer to a call no longer than to a point in time. An answer that comes at that
  point is in time. -/
  | callBy (drop : κ → κ) (deadline : Nat) (c : Call) (rest : Option c.Answer → Routine κ α)

namespace Routine

variable {κ ω α β γ : Type}

/-- One routine after another. -/
def bind (f : α → Routine κ β) : Routine κ α → Routine κ β
  | done a => f a
  | own g rest => own g fun s => (rest s).bind f
  | await drop ok rest => await drop ok fun s => (rest s).bind f
  | lock rest => lock (rest.bind f)
  | clock rest => clock fun t => (rest t).bind f
  | ask q rest => ask q fun a => (rest a).bind f
  | call drop c rest => call drop c fun a => (rest a).bind f
  | callBy drop t c rest => callBy drop t c fun a => (rest a).bind f

instance : Monad (Routine κ) where
  pure := done
  bind p f := p.bind f

theorem pure_eq (a : α) : (pure a : Routine κ α) = done a := rfl

theorem bind_eq (p : Routine κ α) (f : α → Routine κ β) : (p >>= f) = p.bind f := rfl

/-! ## Single steps -/

/-- The state as it is. -/
def read : Routine κ κ := own id done

/-- Update the state. -/
def modify (f : κ → κ) : Routine κ Unit := own f fun _ => done ()

/-- Ask what is answered at once. -/
def query (q : Query) : Routine κ q.Answer := ask q done

/-- Write a line to the log. -/
def note (line : Notice) : Routine κ Unit := query (.note line)

/-- Wait for the answer to a call. -/
def request (c : Call) : Routine κ c.Answer := call id c done

/-! ## Where a state is kept -/

/-- How a state `κ` is kept inside a larger one. -/
structure Place (κ ω : Type) where
  get : ω → κ
  set : κ → ω → ω

namespace Place

/-- The state is all there is. -/
def whole : Place ω ω := ⟨id, fun s _ => s⟩

/-- The state stands beside the surroundings. -/
def beside : Place κ (κ × ω) := ⟨Prod.fst, fun s w => (s, w.2)⟩

/-- An update of the kept state, as one of the larger state. -/
def update (p : Place κ ω) (f : κ → κ) (w : ω) : ω := p.set (f (p.get w)) w

end Place

/-- A routine on a state that is kept inside a larger one. -/
def zoom (p : Place κ ω) : Routine κ α → Routine ω α
  | done a => done a
  | own f rest => own (p.update f) fun w => (rest (p.get w)).zoom p
  | await drop ok rest =>
    await (p.update drop) (fun w => ok (p.get w)) fun w => (rest (p.get w)).zoom p
  | lock rest => lock (rest.zoom p)
  | clock rest => clock fun t => (rest t).zoom p
  | ask q rest => ask q fun a => (rest a).zoom p
  | call drop c rest => call (p.update drop) c fun a => (rest a).zoom p
  | callBy drop t c rest => callBy (p.update drop) t c fun a => (rest a).zoom p

/-- A routine that, wherever it is given up, also undoes what it had set up before. -/
def guarded (undo : κ → κ) : Routine κ α → Routine κ α
  | done a => done a
  | own f rest => own f fun s => (rest s).guarded undo
  | await drop ok rest => await (undo ∘ drop) ok fun s => (rest s).guarded undo
  | lock rest => lock (rest.guarded undo)
  | clock rest => clock fun t => (rest t).guarded undo
  | ask q rest => ask q fun a => (rest a).guarded undo
  | call drop c rest => call (undo ∘ drop) c fun a => (rest a).guarded undo
  | callBy drop t c rest => callBy (undo ∘ drop) t c fun a => (rest a).guarded undo

/-! ## Laws of sequencing -/

theorem bind_done (p : Routine κ α) : p.bind done = p := by
  induction p with
  | done a => rfl
  | own g rest ih => simp only [bind, ih]
  | await drop ok rest ih => simp only [bind, ih]
  | lock rest ih => simp only [bind, ih]
  | clock rest ih => simp only [bind, ih]
  | ask q rest ih => simp only [bind, ih]
  | call drop c rest ih => simp only [bind, ih]
  | callBy drop t c rest ih => simp only [bind, ih]

theorem bind_bind (p : Routine κ α) (f : α → Routine κ β) (g : β → Routine κ γ) :
    (p.bind f).bind g = p.bind fun a => (f a).bind g := by
  induction p with
  | done a => rfl
  | own h rest ih => simp only [bind, ih]
  | await drop ok rest ih => simp only [bind, ih]
  | lock rest ih => simp only [bind, ih]
  | clock rest ih => simp only [bind, ih]
  | ask q rest ih => simp only [bind, ih]
  | call drop c rest ih => simp only [bind, ih]
  | callBy drop t c rest ih => simp only [bind, ih]

theorem zoom_bind (place : Place κ ω) (p : Routine κ α) (f : α → Routine κ β) :
    (p.bind f).zoom place = (p.zoom place).bind fun a => (f a).zoom place := by
  induction p with
  | done a => rfl
  | own h rest ih => simp only [bind, zoom, ih]
  | await drop ok rest ih => simp only [bind, zoom, ih]
  | lock rest ih => simp only [bind, zoom, ih]
  | clock rest ih => simp only [bind, zoom, ih]
  | ask q rest ih => simp only [bind, zoom, ih]
  | call drop c rest ih => simp only [bind, zoom, ih]
  | callBy drop t c rest ih => simp only [bind, zoom, ih]

instance : LawfulMonad (Routine κ) :=
  LawfulMonad.mk' (Routine κ) (fun p => bind_done p) (fun _ _ => rfl) (fun p f g => bind_bind p f g)

end Routine

end HueLink
