-- Routines that run side by side on one state. Any of them may go on while the others wait, new
-- ones may arrive at any time, and one that waits may be given up. How the surroundings answer is
-- left open.
import HueLink.Routine.Basic

namespace HueLink

universe u

/-! ## What happened to a state -/

/-- A state, with all it was before, the newest first, and all that was asked, the oldest first. -/
structure Ledger (κ : Type) where
  cell : κ
  past : List κ
  asked : List Query

namespace Ledger

variable {κ : Type}

/-- A state to which nothing happened yet. -/
def opened (cell : κ) : Ledger κ := ⟨cell, [], []⟩

def write (f : κ → κ) (l : Ledger κ) : Ledger κ :=
  { l with cell := f l.cell, past := l.cell :: l.past }

def ask (q : Query) (l : Ledger κ) : Ledger κ := { l with asked := l.asked ++ [q] }

/-- A change of the state that counts as one with the last one. -/
def amend (f : κ → κ) (l : Ledger κ) : Ledger κ := { l with cell := f l.cell }

/-- All the state has been, the newest first. -/
def cells (l : Ledger κ) : List κ := l.cell :: l.past

@[simp] theorem cell_write (f : κ → κ) (l : Ledger κ) : (l.write f).cell = f l.cell := rfl

end Ledger

namespace Routine

variable {κ α β : Type}

/-! ## Steps -/

/-- One step of a routine. A deadline may come before any answer. -/
inductive Step : Routine κ α → Ledger κ → Routine κ α → Ledger κ → Prop where
  | own (f : κ → κ) (rest : κ → Routine κ α) (l : Ledger κ) :
    Step (.own f rest) l (rest l.cell) (l.write f)
  | await (drop : κ → κ) (ok : κ → Bool) (rest : κ → Routine κ α) (l : Ledger κ) :
    ok l.cell = true → Step (.await drop ok rest) l (rest l.cell) l
  | lock (rest : Routine κ α) (l : Ledger κ) : Step (.lock rest) l rest l
  | clock (rest : Nat → Routine κ α) (l : Ledger κ) (t : Nat) : Step (.clock rest) l (rest t) l
  | ask (q : Query) (rest : q.Answer → Routine κ α) (l : Ledger κ) (a : q.Answer) :
    Step (.ask q rest) l (rest a) (l.ask q)
  | call (drop : κ → κ) (c : Call) (rest : c.Answer → Routine κ α) (l : Ledger κ) (a : c.Answer) :
    Step (.call drop c rest) l (rest a) l
  | callBy (drop : κ → κ) (deadline : Nat) (c : Call) (rest : Option c.Answer → Routine κ α)
    (l : Ledger κ) (a : Option c.Answer) : Step (.callBy drop deadline c rest) l (rest a) l

/-- Where other routines may run. -/
inductive Switching where
  /-- Only while a routine waits. -/
  | atWaits
  /-- Also before it takes the lock of a session. -/
  | atLocks
  /-- Between any two steps. -/
  | anywhere
deriving DecidableEq

/-- Others may run before the lock of a session is taken. -/
def Switching.beforeLock : Switching → Bool
  | atWaits => false
  | atLocks | anywhere => true

/-- Others may run before a step that does not wait. -/
def Switching.beforeAny : Switching → Bool
  | atWaits | atLocks => false
  | anywhere => true

/-- The routine is at its end, or others may run before it goes on. -/
def pauses (sw : Switching) : Routine κ α → Bool
  | done _ | await _ _ _ | call _ _ _ | callBy _ _ _ _ => true
  | lock _ => sw.beforeLock
  | own _ _ | clock _ | ask _ _ => sw.beforeAny

/-- What giving up the routine does to the state, if it waits. -/
def onDrop : Routine κ α → Option (κ → κ)
  | await drop _ _ | call drop _ _ | callBy drop _ _ _ => some drop
  | done _ | own _ _ | lock _ | clock _ | ask _ _ => none

/-- What a routine does until it pauses. -/
inductive Stretch (sw : Switching) :
    Routine κ α → Ledger κ → Routine κ α → Ledger κ → Prop where
  | rest {p : Routine κ α} {l : Ledger κ} : p.pauses sw = true → Stretch sw p l p l
  | step {p p₁ p' : Routine κ α} {l l₁ l' : Ledger κ} :
    p.pauses sw = false → Step p l p₁ l₁ → Stretch sw p₁ l₁ p' l' → Stretch sw p l p' l'

theorem Stretch.pauses {sw : Switching} {p p' : Routine κ α} {l l' : Ledger κ}
    (h : Stretch sw p l p' l') : p'.pauses sw = true := by
  induction h with
  | rest h => exact h
  | step _ _ _ ih => exact ih

end Routine

/-! ## Tasks -/

/-- A routine that was started. -/
structure Task (κ : Type) where
  {result : Type}
  born : Routine κ result
  /-- The state when it was started. -/
  since : κ
  /-- What is left of it, or `none` once it was given up. -/
  rest : Option (Routine κ result)

/-- The task has its result, or was given up. -/
def Task.isOver {κ : Type} (task : Task κ) : Bool :=
  match task.rest with
  | none | some (.done _) => true
  | some _ => false

/-- A moment at which every task pauses. -/
structure Moment (κ : Type) where
  ledger : Ledger κ
  tasks : List (Task κ)

namespace Moment

variable {κ : Type}

/-- The state at a moment. -/
def cell (x : Moment κ) : κ := x.ledger.cell

/-- All the state has been until a moment, the oldest first. -/
def story (x : Moment κ) : List κ := x.ledger.cells.reverse

end Moment

open Routine

/-- One turn: a routine of an admissible kind arrives and runs until it pauses, a task goes on until
it pauses again, or a task that waits is given up. -/
inductive Turn {κ : Type} (sw : Switching) (may : (α : Type) → Routine κ α → Prop) :
    Moment κ → Moment κ → Prop where
  | arrive {α : Type} {p p' : Routine κ α} {l l' : Ledger κ} {tasks : List (Task κ)} :
    may α p → Stretch sw p l p' l' →
      Turn sw may ⟨l, tasks⟩ ⟨l', tasks ++ [⟨p, l.cell, some p'⟩]⟩
  | resume {α : Type} {born p p₁ p' : Routine κ α} {since : κ} {l l₁ l' : Ledger κ}
    {before after : List (Task κ)} : Step p l p₁ l₁ → Stretch sw p₁ l₁ p' l' →
      Turn sw may ⟨l, before ++ ⟨born, since, some p⟩ :: after⟩
        ⟨l', before ++ ⟨born, since, some p'⟩ :: after⟩
  | drop {α : Type} {born p : Routine κ α} {since : κ} {l : Ledger κ} {undo : κ → κ}
    {before after : List (Task κ)} : p.onDrop = some undo →
      Turn sw may ⟨l, before ++ ⟨born, since, some p⟩ :: after⟩
        ⟨l.write undo, before ++ ⟨born, since, none⟩ :: after⟩

/-- The moments to which turns lead from a state without tasks. -/
inductive Reached {κ : Type} (sw : Switching) (may : (α : Type) → Routine κ α → Prop) (start : κ) :
    Moment κ → Prop where
  | start : Reached sw may start ⟨.opened start, []⟩
  | turn {x y : Moment κ} : Reached sw may start x → Turn sw may x y → Reached sw may start y

theorem Turn.mono {κ : Type} {sw : Switching} {may may' : (α : Type) → Routine κ α → Prop}
    (hmay : ∀ α p, may α p → may' α p) {x y : Moment κ} (h : Turn sw may x y) :
    Turn sw may' x y := by
  cases h with
  | arrive hp hs => exact .arrive (hmay _ _ hp) hs
  | resume hstep hs => exact .resume hstep hs
  | drop hundo => exact .drop hundo

theorem Reached.mono {κ : Type} {sw : Switching} {may may' : (α : Type) → Routine κ α → Prop}
    (hmay : ∀ α p, may α p → may' α p) {start : κ} {x : Moment κ} (h : Reached sw may start x) :
    Reached sw may' start x := by
  induction h with
  | start => exact .start
  | turn _ ht ih => exact .turn ih (ht.mono hmay)

/-- What holds of all in a list still does when one of them is replaced. -/
theorem forall_mem_replace {γ : Type u} {P : γ → Prop} {before after : List γ} {a b : γ}
    (h : ∀ x ∈ before ++ a :: after, P x) (hb : P b) : ∀ x ∈ before ++ b :: after, P x := by
  intro x hx
  rcases List.mem_append.mp hx with hx | hx
  · exact h x (List.mem_append_left _ hx)
  · rcases List.mem_cons.mp hx with rfl | hx
    · exact hb
    · exact h x (List.mem_append_right _ (List.mem_cons_of_mem _ hx))

/-- What is held beside tasks is split where the tasks are. -/
theorem exists_between {κ : Type} {ρ : Type u} {held : List (Task κ × ρ)}
    {before after : List (Task κ)} {task : Task κ}
    (h : held.map Prod.fst = before ++ task :: after) : ∃ before' mine after',
      held = before' ++ (task, mine) :: after' ∧ before'.map Prod.fst = before ∧
        after'.map Prod.fst = after := by
  obtain ⟨before', held', rfl, hbefore, h'⟩ := List.map_eq_append_iff.mp h
  obtain ⟨⟨_, mine⟩, after', rfl, rfl, hafter⟩ := List.map_eq_cons_iff.mp h'
  exact ⟨before', mine, after', rfl, hbefore, hafter⟩

/-! ## Nothing is forgotten -/

namespace Routine

variable {κ α : Type} {sw : Switching} {p p' : Routine κ α} {l l' : Ledger κ}

theorem Step.cells_suffix (h : Step p l p' l') : l.cells <:+ l'.cells := by
  cases h with
  | own f rest l => exact List.suffix_cons _ _
  | await | lock | clock | ask | call | callBy => exact List.suffix_refl _

theorem Stretch.cells_suffix (h : Stretch sw p l p' l') : l.cells <:+ l'.cells := by
  induction h with
  | rest _ => exact List.suffix_refl _
  | step _ hstep _ ih => exact hstep.cells_suffix.trans ih

theorem pauses_anywhere (p : Routine κ α) : p.pauses .anywhere = true := by
  cases p <;> rfl

theorem stretch_of_pauses (hp : p.pauses sw = true) :
    Stretch sw p l p' l' ↔ p' = p ∧ l' = l := by
  constructor
  · intro h
    cases h with
    | rest _ => exact ⟨rfl, rfl⟩
    | step hpauses _ _ =>
      rw [hp] at hpauses
      exact nomatch hpauses
  · rintro ⟨rfl, rfl⟩
    exact .rest hp

/-- With others anywhere in between, there is nothing that is done in one go. -/
theorem stretch_anywhere (h : Stretch .anywhere p l p' l') : p' = p ∧ l' = l :=
  (stretch_of_pauses (pauses_anywhere p)).mp h

theorem stretch_own {f : κ → κ} {rest : κ → Routine κ α} :
    Stretch .atWaits (.own f rest) l p' l' ↔ Stretch .atWaits (rest l.cell) (l.write f) p' l' := by
  constructor
  · intro h
    cases h with
    | rest hpauses => exact nomatch hpauses
    | step _ hstep h =>
      cases hstep
      exact h
  · exact .step rfl (.own f rest l)

theorem stretch_ask {q : Query} {rest : q.Answer → Routine κ α} :
    Stretch .atWaits (.ask q rest) l p' l' ↔ ∃ a, Stretch .atWaits (rest a) (l.ask q) p' l' := by
  constructor
  · intro h
    cases h with
    | rest hpauses => exact nomatch hpauses
    | step _ hstep h =>
      cases hstep
      exact ⟨_, h⟩
  · rintro ⟨a, h⟩
    exact .step rfl (.ask q rest l a) h

end Routine

variable {κ : Type} {sw : Switching} {may : (α : Type) → Routine κ α → Prop} {x y : Moment κ}

theorem Turn.story_prefix (h : Turn sw may x y) : x.story <+: y.story := by
  unfold Moment.story
  rw [List.reverse_prefix]
  cases h with
  | arrive _ hs => exact hs.cells_suffix
  | resume hstep hs => exact hstep.cells_suffix.trans hs.cells_suffix
  | drop _ => exact List.suffix_cons _ _

/-- Every story begins with the state at the start. -/
theorem Reached.story_prefix {start : κ} (h : Reached sw may start x) : [start] <+: x.story := by
  induction h with
  | start => exact List.prefix_refl _
  | turn _ ht ih => exact ih.trans ht.story_prefix

theorem Reached.stretch {start : κ} {α : Type} {born p p' : Routine κ α} {since : κ}
    {l l' : Ledger κ} {before after : List (Task κ)} (hs : Stretch sw p l p' l')
    (h : Reached .anywhere may start ⟨l, before ++ ⟨born, since, some p⟩ :: after⟩) :
    Reached .anywhere may start ⟨l', before ++ ⟨born, since, some p'⟩ :: after⟩ := by
  induction hs with
  | rest _ => exact h
  | step _ hstep _ ih => exact ih (.turn h (.resume hstep (.rest (pauses_anywhere _))))

/-- Whatever is reached when others run only here and there is also reached when they
run anywhere. -/
theorem Reached.anywhere {start : κ} (h : Reached sw may start x) :
    Reached .anywhere may start x := by
  induction h with
  | start => exact .start
  | turn _ ht ih =>
    cases ht with
    | arrive hp hs => exact .stretch hs (.turn ih (.arrive hp (.rest (pauses_anywhere _))))
    | resume hstep hs => exact .stretch hs (.turn ih (.resume hstep (.rest (pauses_anywhere _))))
    | drop hundo => exact .turn ih (.drop hundo)

end HueLink
