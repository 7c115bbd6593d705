-- What routines ask at most. One that asks only what is allowed still does so after each step, so
-- nothing else is asked while such routines take turns.
import HueLink.Proofs.Routine.Interleaving

namespace HueLink

namespace Routine

variable {κ ω α β : Type} {ok ok' : Query → Prop}

/-- Whatever happens, the routine asks only what is allowed. -/
def Asks (ok : Query → Prop) : Routine κ α → Prop
  | done _ => True
  | own _ rest | await _ _ rest => ∀ s, (rest s).Asks ok
  | lock rest => rest.Asks ok
  | clock rest => ∀ t, (rest t).Asks ok
  | ask q rest => ok q ∧ ∀ a, (rest a).Asks ok
  | call _ _ rest | callBy _ _ _ rest => ∀ a, (rest a).Asks ok

theorem Asks.mono (hok : ∀ q, ok q → ok' q) {p : Routine κ α} (hp : p.Asks ok) : p.Asks ok' := by
  induction p with
  | done a => trivial
  | own g rest ih => exact fun s => ih s (hp s)
  | await drop free rest ih => exact fun s => ih s (hp s)
  | lock rest ih => exact ih hp
  | clock rest ih => exact fun t => ih t (hp t)
  | ask q rest ih => exact ⟨hok q hp.1, fun a => ih a (hp.2 a)⟩
  | call drop c rest ih => exact fun a => ih a (hp a)
  | callBy drop t c rest ih => exact fun a => ih a (hp a)

theorem Asks.bind {p : Routine κ α} {f : α → Routine κ β} (hp : p.Asks ok)
    (hf : ∀ a, (f a).Asks ok) : (p.bind f).Asks ok := by
  induction p with
  | done a => exact hf a
  | own g rest ih => exact fun s => ih s (hp s)
  | await drop free rest ih => exact fun s => ih s (hp s)
  | lock rest ih => exact ih hp
  | clock rest ih => exact fun t => ih t (hp t)
  | ask q rest ih => exact ⟨hp.1, fun a => ih a (hp.2 a)⟩
  | call drop c rest ih => exact fun a => ih a (hp a)
  | callBy drop t c rest ih => exact fun a => ih a (hp a)

theorem Asks.guarded {p : Routine κ α} (hp : p.Asks ok) (undo : κ → κ) :
    (p.guarded undo).Asks ok := by
  induction p with
  | done a => trivial
  | own g rest ih => exact fun s => ih s (hp s)
  | await drop free rest ih => exact fun s => ih s (hp s)
  | lock rest ih => exact ih hp
  | clock rest ih => exact fun t => ih t (hp t)
  | ask q rest ih => exact ⟨hp.1, fun a => ih a (hp.2 a)⟩
  | call drop c rest ih => exact fun a => ih a (hp a)
  | callBy drop t c rest ih => exact fun a => ih a (hp a)

/-- Where the state is kept does not matter. -/
theorem asks_zoom {p : Routine κ α} (place : Place κ ω) (hp : p.Asks ok) :
    (p.zoom place).Asks ok := by
  induction p with
  | done a => trivial
  | own g rest ih => exact fun w => ih _ (hp _)
  | await drop free rest ih => exact fun w => ih _ (hp _)
  | lock rest ih => exact ih hp
  | clock rest ih => exact fun t => ih t (hp t)
  | ask q rest ih => exact ⟨hp.1, fun a => ih a (hp.2 a)⟩
  | call drop c rest ih => exact fun a => ih a (hp a)
  | callBy drop t c rest ih => exact fun a => ih a (hp a)

/-! ## Turns -/

variable {p p' : Routine κ α} {l l' : Ledger κ}

/-- One ledger after another, with nothing asked in between but what is allowed. -/
def AskedOnly (ok : Query → Prop) (l l' : Ledger κ) : Prop :=
  ∃ asked, l'.asked = l.asked ++ asked ∧ ∀ q ∈ asked, ok q

theorem askedOnly_of_eq (h : l'.asked = l.asked) : AskedOnly ok l l' :=
  ⟨[], by rw [h, List.append_nil], fun _ hq => (nomatch hq)⟩

theorem AskedOnly.trans {l'' : Ledger κ} (h : AskedOnly ok l l') (h' : AskedOnly ok l' l'') :
    AskedOnly ok l l'' := by
  obtain ⟨asked, heq, hok⟩ := h
  obtain ⟨asked', heq', hok'⟩ := h'
  refine ⟨asked ++ asked', by rw [heq', heq, List.append_assoc], fun q hq => ?_⟩
  exact (List.mem_append.mp hq).elim (hok q) (hok' q)

theorem Asks.step (h : p.Asks ok) (hs : Step p l p' l') : p'.Asks ok ∧ AskedOnly ok l l' := by
  cases hs with
  | own | await | clock | call | callBy => exact ⟨h _, askedOnly_of_eq rfl⟩
  | lock => exact ⟨h, askedOnly_of_eq rfl⟩
  | ask q rest l a => exact ⟨h.2 a, [q], rfl, List.forall_mem_singleton.mpr h.1⟩

theorem Asks.stretch {sw : Switching} (h : p.Asks ok) (hs : Stretch sw p l p' l') :
    p'.Asks ok ∧ AskedOnly ok l l' := by
  induction hs with
  | rest _ => exact ⟨h, askedOnly_of_eq rfl⟩
  | step _ hstep _ ih =>
    obtain ⟨h₁, hasked⟩ := h.step hstep
    obtain ⟨h', hasked'⟩ := ih h₁
    exact ⟨h', hasked.trans hasked'⟩

end Routine

open Routine

variable {κ : Type} {ok : Query → Prop} {sw : Switching} {x y : Moment κ}

/-- Whatever the tasks still do, they ask only what is allowed. -/
def Moment.Asks (ok : Query → Prop) (x : Moment κ) : Prop :=
  ∀ task ∈ x.tasks, ∀ p, task.rest = some p → p.Asks ok

theorem Moment.Asks.arrive {α : Type} {l l' : Ledger κ} {tasks : List (Task κ)}
    {born p' : Routine κ α} (hx : Asks ok ⟨l, tasks⟩) (hp : p'.Asks ok) (since : κ) :
    Asks ok ⟨l', tasks ++ [⟨born, since, some p'⟩]⟩ := by
  refine List.forall_mem_append.mpr ⟨hx, List.forall_mem_singleton.mpr fun q hq => ?_⟩
  obtain rfl := Option.some.inj hq
  exact hp

theorem Moment.Asks.turn {may : (α : Type) → Routine κ α → Prop} (hx : x.Asks ok)
    (hmay : ∀ α p, may α p → p.Asks ok) (h : Turn sw may x y) :
    y.Asks ok ∧ AskedOnly ok x.ledger y.ledger := by
  cases h with
  | arrive hp hs =>
    obtain ⟨hp', hasked⟩ := (hmay _ _ hp).stretch hs
    exact ⟨hx.arrive hp' _, hasked⟩
  | resume hstep hs =>
    obtain ⟨h₁, hasked⟩ :=
      (hx _ (List.mem_append_right _ List.mem_cons_self) _ rfl).step hstep
    obtain ⟨hp', hasked'⟩ := h₁.stretch hs
    refine ⟨forall_mem_replace hx fun q hq => ?_, hasked.trans hasked'⟩
    obtain rfl := Option.some.inj hq
    exact hp'
  | drop _ => exact ⟨forall_mem_replace hx fun q hq => (nomatch hq), askedOnly_of_eq rfl⟩

end HueLink
