-- What a routine does in one go, deed by deed, where others may run while it waits and also where
-- it has come to the lock of a session.
import HueLink.Proofs.Routine.Deeds

namespace HueLink.Routine

variable {κ α : Type} {p p' : Routine κ α} {l l' : Ledger κ} {d : Deed κ} {ds : List (Deed κ)}

/-- What a routine does until others may run: it is over, it waits, or it has come to the lock. -/
inductive Stint : Routine κ α → Ledger κ → List (Deed κ) → Routine κ α → Ledger κ → Prop where
  | rest {p : Routine κ α} {l : Ledger κ} : p.pauses .atLocks = true → Stint p l [] p l
  | head {p p₁ p' : Routine κ α} {l l₁ l' : Ledger κ} {d : Deed κ} {ds : List (Deed κ)} :
    p.pauses .atLocks = false → Does p d p₁ → d.On l l₁ → Stint p₁ l₁ ds p' l' →
      Stint p l (d :: ds) p' l'

theorem stretch_iff_stint : Stretch .atLocks p l p' l' ↔ ∃ ds, Stint p l ds p' l' := by
  constructor
  · intro h
    induction h with
    | rest hpauses => exact ⟨[], .rest hpauses⟩
    | step hpauses hstep _ ih =>
      obtain ⟨d, hd, hon⟩ := step_iff_does.mp hstep
      obtain ⟨ds, h⟩ := ih
      exact ⟨d :: ds, .head hpauses hd hon h⟩
  · rintro ⟨ds, h⟩
    induction h with
    | rest hpauses => exact .rest hpauses
    | head hpauses hd hon _ ih => exact .step hpauses (step_iff_does.mpr ⟨_, hd, hon⟩) ih

theorem Stint.goes (h : Stint p l ds p' l') : Goes p l ds p' l' := by
  induction h with
  | rest _ => exact .refl _ _
  | head _ hd hon _ ih => exact .head hd hon ih

theorem stint_of_pauses (hp : p.pauses .atLocks = true) (h : Stint p l ds p' l') :
    ds = [] ∧ p' = p ∧ l' = l := by
  cases h with
  | rest _ => exact ⟨rfl, rfl, rfl⟩
  | head hpauses _ _ _ =>
    rw [hp] at hpauses
    exact nomatch hpauses

theorem Stint.own (f : κ → κ) (rest : κ → Routine κ α)
    (h : Stint (rest l.cell) (l.write fun _ => f l.cell) ds p' l') :
    Stint (.own f rest) l (.event (.moved l.cell (f l.cell)) :: ds) p' l' :=
  .head rfl (.own f rest l.cell) ⟨rfl, rfl⟩ h

theorem Stint.clock (rest : Nat → Routine κ α) (t : Nat) (h : Stint (rest t) l ds p' l') :
    Stint (.clock rest) l (.told t :: ds) p' l' :=
  .head rfl (.clock rest t) rfl h

theorem Stint.ask (q : Query) (rest : q.Answer → Routine κ α) (a : q.Answer)
    (h : Stint (rest a) (l.ask q) ds p' l') :
    Stint (.ask q rest) l (.event (.asked q a) :: ds) p' l' :=
  .head rfl (.ask q rest a) rfl h

theorem stint_own {f : κ → κ} {rest : κ → Routine κ α} (h : Stint (.own f rest) l ds p' l') :
    ∃ ds', Stint (rest l.cell) (l.write fun _ => f l.cell) ds' p' l' ∧
      ds = .event (.moved l.cell (f l.cell)) :: ds' := by
  cases h with
  | rest hpauses => exact nomatch hpauses
  | head _ hd hon h =>
    cases hd
    obtain ⟨rfl, rfl⟩ := hon
    exact ⟨_, h, rfl⟩

theorem stint_clock {rest : Nat → Routine κ α} (h : Stint (.clock rest) l ds p' l') :
    ∃ t ds', Stint (rest t) l ds' p' l' ∧ ds = .told t :: ds' := by
  cases h with
  | rest hpauses => exact nomatch hpauses
  | head _ hd hon h =>
    cases hd
    obtain rfl := hon
    exact ⟨_, _, h, rfl⟩

theorem stint_ask {q : Query} {rest : q.Answer → Routine κ α} (h : Stint (.ask q rest) l ds p' l') :
    ∃ a ds', Stint (rest a) (l.ask q) ds' p' l' ∧ ds = .event (.asked q a) :: ds' := by
  cases h with
  | rest hpauses => exact nomatch hpauses
  | head _ hd hon h =>
    cases hd
    obtain rfl := hon
    exact ⟨_, _, h, rfl⟩

/-- What holds of the deeds so far holds of all, if each keeps it. -/
theorem Goes.carry {P : Ledger κ → List (Deed κ) → Prop} {ok : Deed κ → Prop} {ts : List (Deed κ)}
    (hkeeps : ∀ l l' ts d, P l ts → d.On l l' → ok d → P l' (ts ++ [d]))
    (h : Goes p l ds p' l') (hok : ∀ d ∈ ds, ok d) (hP : P l ts) : P l' (ts ++ ds) := by
  induction h generalizing ts with
  | refl p l =>
    rw [List.append_nil]
    exact hP
  | @head _ _ _ _ _ _ d ds _ hon _ ih =>
    obtain ⟨hd, hds⟩ := List.forall_mem_cons.mp hok
    rw [List.append_cons]
    exact ih hds (hkeeps _ _ _ _ hP hon hd)

theorem Yields.goes {ok : α → Prop} (hp : p.Yields ok) (h : Goes p l ds p' l') : p'.Yields ok := by
  induction h with
  | refl p l => exact hp
  | head hd _ _ ih => exact ih (hp.does hd)

end HueLink.Routine
