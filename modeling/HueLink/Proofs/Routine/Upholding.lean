-- What routines uphold together. An invariant speaks of the state and of shares in it that are
-- spread over the routines. Whenever a routine pauses it keeps a share of its own, and relies on
-- nothing else when it goes on. What each routine upholds by itself then holds at every moment,
-- however they take turns.
import HueLink.Proofs.Routine.Asking
import Mathlib.Algebra.BigOperators.Group.List.Basic

namespace HueLink.Routine

variable {κ ρ α β : Type} [AddCommMonoid ρ]

/-- A pause: with some share of its own a routine has the invariant hold, and whatever the others
make of theirs, with that share it can be given up or go on. -/
def Pause (inv : ρ → Ledger κ → Prop) (undo : Option (κ → κ)) (go : ρ → Ledger κ → Prop)
    (others : ρ) (l : Ledger κ) : Prop :=
  ∃ mine, inv (mine + others) l ∧ ∀ others' l', inv (mine + others') l' →
    (∀ f ∈ undo, inv others' (l'.write f)) ∧ go others' l'

/-- Going on after a pause if others may run here, and at once otherwise. -/
def PauseIf (inv : ρ → Ledger κ → Prop) (mayRun : Bool) (go : ρ → Ledger κ → Prop) :
    ρ → Ledger κ → Prop :=
  match mayRun with
  | true => Pause inv none go
  | false => go

/-- A routine upholds an invariant at each of its pauses, and `post` at its end. The shares of all
other routines together are a parameter. -/
def Upholds (sw : Switching) (inv : ρ → Ledger κ → Prop) (post : α → ρ → Ledger κ → Prop) :
    Routine κ α → ρ → Ledger κ → Prop
  | done a => post a
  | own f rest => PauseIf inv sw.beforeAny fun others l =>
    (rest l.cell).Upholds sw inv post others (l.write f)
  | await drop ok rest => Pause inv (some drop) fun others l =>
    ok l.cell = true → (rest l.cell).Upholds sw inv post others l
  | lock rest => PauseIf inv sw.beforeLock (rest.Upholds sw inv post)
  | clock rest => PauseIf inv sw.beforeAny fun others l =>
    ∀ t, (rest t).Upholds sw inv post others l
  | ask q rest => PauseIf inv sw.beforeAny fun others l =>
    ∀ a, (rest a).Upholds sw inv post others (l.ask q)
  | call drop _ rest => Pause inv (some drop) fun others l =>
    ∀ a, (rest a).Upholds sw inv post others l
  | callBy drop _ _ rest => Pause inv (some drop) fun others l =>
    ∀ a, (rest a).Upholds sw inv post others l

variable {sw : Switching} {inv : ρ → Ledger κ → Prop} {post post' : α → ρ → Ledger κ → Prop}
  {others : ρ} {l : Ledger κ}

/-! ## Rules -/

theorem Pause.mono {undo : Option (κ → κ)} {go go' : ρ → Ledger κ → Prop}
    (hgo : ∀ others l, go others l → go' others l) (h : Pause inv undo go others l) :
    Pause inv undo go' others l := by
  obtain ⟨mine, hinv, hnext⟩ := h
  exact ⟨mine, hinv, fun others' l' h' => ⟨(hnext _ _ h').1, hgo _ _ (hnext _ _ h').2⟩⟩

theorem PauseIf.mono {mayRun : Bool} {go go' : ρ → Ledger κ → Prop}
    (hgo : ∀ others l, go others l → go' others l) (h : PauseIf inv mayRun go others l) :
    PauseIf inv mayRun go' others l := by
  cases mayRun with
  | true => exact Pause.mono hgo h
  | false => exact hgo _ _ h

/-- A pause at which the routine keeps no share. -/
theorem Pause.empty {undo : Option (κ → κ)} {go : ρ → Ledger κ → Prop} (hinv : inv others l)
    (hundo : ∀ f ∈ undo, ∀ others l, inv others l → inv others (l.write f))
    (hgo : ∀ others l, inv others l → go others l) : Pause inv undo go others l := by
  refine ⟨0, by rwa [zero_add], fun others' l' h => ?_⟩
  rw [zero_add] at h
  exact ⟨fun f hf => hundo f hf _ _ h, hgo _ _ h⟩

theorem upholds_bind (p : Routine κ α) (f : α → Routine κ β) {post : β → ρ → Ledger κ → Prop} :
    (p.bind f).Upholds sw inv post = p.Upholds sw inv fun a => (f a).Upholds sw inv post := by
  induction p with
  | done a => rfl
  | own g rest ih => simp only [bind, Upholds, ih]
  | await drop ok rest ih => simp only [bind, Upholds, ih]
  | lock rest ih => simp only [bind, Upholds, ih]
  | clock rest ih => simp only [bind, Upholds, ih]
  | ask q rest ih => simp only [bind, Upholds, ih]
  | call drop c rest ih => simp only [bind, Upholds, ih]
  | callBy drop t c rest ih => simp only [bind, Upholds, ih]

theorem Upholds.mono {p : Routine κ α} (hpost : ∀ a others l, post a others l → post' a others l)
    (h : p.Upholds sw inv post others l) : p.Upholds sw inv post' others l := by
  induction p generalizing others l with
  | done a => exact hpost _ _ _ h
  | own g rest ih => exact PauseIf.mono (fun _ _ h => ih _ h) h
  | await drop ok rest ih => exact Pause.mono (fun _ _ h hok => ih _ (h hok)) h
  | lock rest ih => exact PauseIf.mono (fun _ _ h => ih h) h
  | clock rest ih => exact PauseIf.mono (fun _ _ h t => ih t (h t)) h
  | ask q rest ih => exact PauseIf.mono (fun _ _ h a => ih a (h a)) h
  | call drop c rest ih => exact Pause.mono (fun _ _ h a => ih a (h a)) h
  | callBy drop t c rest ih => exact Pause.mono (fun _ _ h a => ih a (h a)) h

/-! ## Shares held on to -/

/-- What holding on to a share `kept` all the while makes of a pause. -/
theorem Pause.holding {kept : ρ} {undo undo' : Option (κ → κ)} {go go' : ρ → Ledger κ → Prop}
    (hundo : ∀ f' ∈ undo', ∃ f ∈ undo, ∀ others (l : Ledger κ),
      inv (kept + others) (l.write f) → inv others (l.write f'))
    (hgo : ∀ others l, go (kept + others) l → go' others l)
    (h : Pause inv undo go (kept + others) l) : Pause inv undo' go' others l := by
  obtain ⟨mine, hinv, hnext⟩ := h
  refine ⟨mine + kept, by rwa [add_assoc], fun others' l' h' => ?_⟩
  rw [add_assoc] at h'
  obtain ⟨hdrop, hon⟩ := hnext _ _ h'
  refine ⟨fun f' hf' => ?_, hgo _ _ hon⟩
  obtain ⟨f, hf, hinv'⟩ := hundo f' hf'
  exact hinv' _ _ (hdrop f hf)

theorem PauseIf.holding {kept : ρ} {mayRun : Bool} {go go' : ρ → Ledger κ → Prop}
    (hgo : ∀ others l, go (kept + others) l → go' others l)
    (h : PauseIf inv mayRun go (kept + others) l) : PauseIf inv mayRun go' others l := by
  cases mayRun with
  | true => exact Pause.holding (fun f hf => nomatch hf) hgo h
  | false => exact hgo _ _ h

/-- A share that a guard gives back wherever the routine is given up can be held on to all the
while. -/
theorem Upholds.guarded {kept : ρ} {undo : κ → κ}
    (hundo : ∀ others l, inv (kept + others) l → inv others (l.amend undo)) {p : Routine κ α}
    (h : p.Upholds sw inv post (kept + others) l) :
    (p.guarded undo).Upholds sw inv (fun a others => post a (kept + others)) others l := by
  have hwrite : ∀ drop : κ → κ, ∀ f' ∈ some (undo ∘ drop), ∃ f ∈ some drop,
      ∀ others (l : Ledger κ), inv (kept + others) (l.write f) → inv others (l.write f') := by
    intro drop f' hf'
    obtain rfl := Option.mem_some_iff.mp hf'
    exact ⟨drop, rfl, fun others l h => hundo others _ h⟩
  induction p generalizing others l with
  | done a => exact h
  | own g rest ih => exact PauseIf.holding (fun _ _ h => ih _ h) h
  | await drop ok rest ih => exact Pause.holding (hwrite drop) (fun _ _ h hok => ih _ (h hok)) h
  | lock rest ih => exact PauseIf.holding (fun _ _ h => ih h) h
  | clock rest ih => exact PauseIf.holding (fun _ _ h t => ih t (h t)) h
  | ask q rest ih => exact PauseIf.holding (fun _ _ h a => ih a (h a)) h
  | call drop c rest ih => exact Pause.holding (hwrite drop) (fun _ _ h a => ih a (h a)) h
  | callBy drop t c rest ih => exact Pause.holding (hwrite drop) (fun _ _ h a => ih a (h a)) h

theorem guarded_id (p : Routine κ α) : p.guarded id = p := by
  induction p with
  | done a => rfl
  | own g rest ih => simp only [Routine.guarded, ih]
  | await drop ok rest ih => simp only [Routine.guarded, ih, Function.id_comp]
  | lock rest ih => simp only [Routine.guarded, ih]
  | clock rest ih => simp only [Routine.guarded, ih]
  | ask q rest ih => simp only [Routine.guarded, ih]
  | call drop c rest ih => simp only [Routine.guarded, ih, Function.id_comp]
  | callBy drop t c rest ih => simp only [Routine.guarded, ih, Function.id_comp]

/-- A guard that has nothing to give back. -/
theorem Upholds.guarded_of_blind {undo : κ → κ}
    (hundo : ∀ others l, inv others l → inv others (l.amend undo)) {p : Routine κ α}
    (h : p.Upholds sw inv post others l) : (p.guarded undo).Upholds sw inv post others l := by
  have hzero : p.Upholds sw inv post (0 + others) l := by rwa [zero_add]
  refine (hzero.guarded fun others l h => hundo others l (by rwa [zero_add] at h)).mono ?_
  intro a others l h
  rwa [zero_add] at h

/-- A share that may get lost can be held on to all the while. -/
theorem Upholds.holding {kept : ρ} (hlose : ∀ others l, inv (kept + others) l → inv others l)
    {p : Routine κ α} (h : p.Upholds sw inv post (kept + others) l) :
    p.Upholds sw inv (fun a others => post a (kept + others)) others l := by
  rw [← guarded_id p]
  exact h.guarded hlose

/-! ## What is asked meanwhile -/

section Asked

variable {ok : Query → Prop} {kept : List Query → Prop}

theorem Pause.alongside {undo : Option (κ → κ)} {go go' : ρ → Ledger κ → Prop}
    (hgo : ∀ others l, go others l → kept l.asked → go' others l) (hl : kept l.asked)
    (h : Pause inv undo go others l) :
    Pause (fun others l => inv others l ∧ kept l.asked) undo go' others l := by
  obtain ⟨mine, hinv, hnext⟩ := h
  refine ⟨mine, ⟨hinv, hl⟩, fun others' l' ⟨h', hl'⟩ => ?_⟩
  obtain ⟨hdrop, hon⟩ := hnext _ _ h'
  exact ⟨fun f hf => ⟨hdrop f hf, hl'⟩, hgo _ _ hon hl'⟩

theorem PauseIf.alongside {mayRun : Bool} {go go' : ρ → Ledger κ → Prop}
    (hgo : ∀ others l, go others l → kept l.asked → go' others l) (hl : kept l.asked)
    (h : PauseIf inv mayRun go others l) :
    PauseIf (fun others l => inv others l ∧ kept l.asked) mayRun go' others l := by
  cases mayRun with
  | true => exact Pause.alongside hgo hl h
  | false => exact hgo _ _ h hl

/-- A routine that asks only what is allowed also upholds what all allowed queries keep of the
queries before them. -/
theorem Upholds.alongside (hkept : ∀ asked q, ok q → kept asked → kept (asked ++ [q]))
    {p : Routine κ α} (hp : p.Asks ok) (h : p.Upholds sw inv post others l) (hl : kept l.asked) :
    p.Upholds sw (fun others l => inv others l ∧ kept l.asked)
      (fun a others l => post a others l ∧ kept l.asked) others l := by
  induction p generalizing others l with
  | done a => exact ⟨h, hl⟩
  | own g rest ih => exact PauseIf.alongside (fun _ _ h hl => ih _ (hp _) h hl) hl h
  | await drop free rest ih =>
    exact Pause.alongside (fun _ _ h hl hok => ih _ (hp _) (h hok) hl) hl h
  | lock rest ih => exact PauseIf.alongside (fun _ _ h hl => ih hp h hl) hl h
  | clock rest ih => exact PauseIf.alongside (fun _ _ h hl t => ih t (hp t) (h t) hl) hl h
  | ask q rest ih =>
    exact PauseIf.alongside
      (fun _ _ h hl a => ih a (hp.2 a) (h a) (hkept _ _ hp.1 hl)) hl h
  | call drop c rest ih => exact Pause.alongside (fun _ _ h hl a => ih a (hp a) (h a) hl) hl h
  | callBy drop t c rest ih =>
    exact Pause.alongside (fun _ _ h hl a => ih a (hp a) (h a) hl) hl h

end Asked

/-! ## One routine after another -/

/-- A routine that upholds an invariant to its end wherever it begins with it. -/
def Preserves (sw : Switching) (inv : ρ → Ledger κ → Prop) (p : Routine κ α) : Prop :=
  ∀ others l, inv others l → p.Upholds sw inv (fun _ => inv) others l

theorem Preserves.bind {p : Routine κ α} {f : α → Routine κ β} (hp : p.Preserves sw inv)
    (hf : ∀ a, (f a).Preserves sw inv) : (p.bind f).Preserves sw inv := by
  intro others l h
  rw [upholds_bind]
  exact (hp others l h).mono fun a others l h => hf a others l h

theorem Preserves.alongside {ok : Query → Prop} {kept : List Query → Prop}
    (hkept : ∀ asked q, ok q → kept asked → kept (asked ++ [q])) {p : Routine κ α}
    (hasks : p.Asks ok) (hp : p.Preserves sw inv) :
    p.Preserves sw fun others l => inv others l ∧ kept l.asked :=
  fun others l h => (hp others l h.1).alongside hkept hasks h.2

/-! ## Every moment -/

/-- A routine that pauses with a share upholds an invariant however it goes on. -/
def Holds (sw : Switching) (inv : ρ → Ledger κ → Prop) (p : Routine κ α) (mine : ρ) : Prop :=
  ∀ others l, inv (mine + others) l → (∀ f ∈ p.onDrop, inv others (l.write f)) ∧
    ∀ p' l', Step p l p' l' → p'.Upholds sw inv (fun _ => inv) others l'

theorem Upholds.stretch {p p' : Routine κ α} {l' : Ledger κ} (hs : Stretch sw p l p' l')
    (h : p.Upholds sw inv post others l) : p'.Upholds sw inv post others l' := by
  induction hs with
  | rest _ => exact h
  | step hpauses hstep _ ih =>
    refine ih ?_
    cases hstep with
    | own f rest l =>
      simp only [pauses] at hpauses
      simpa only [Upholds, hpauses, PauseIf] using h
    | await drop ok rest l hok => simp [pauses] at hpauses
    | lock rest l =>
      simp only [pauses] at hpauses
      simpa only [Upholds, hpauses, PauseIf] using h
    | clock rest l t =>
      simp only [pauses] at hpauses
      simp only [Upholds, hpauses, PauseIf] at h
      exact h t
    | ask q rest l a =>
      simp only [pauses] at hpauses
      simp only [Upholds, hpauses, PauseIf] at h
      exact h a
    | call drop c rest l a => simp [pauses] at hpauses
    | callBy drop t c rest l a => simp [pauses] at hpauses

theorem Pause.holds {p : Routine κ α} {go : ρ → Ledger κ → Prop}
    (hstep : ∀ others l, go others l → ∀ p' l', Step p l p' l' →
      p'.Upholds sw inv (fun _ => inv) others l') (h : Pause inv p.onDrop go others l) :
    ∃ mine, inv (mine + others) l ∧ p.Holds sw inv mine := by
  obtain ⟨mine, hinv, hnext⟩ := h
  exact ⟨mine, hinv, fun others' l' h' => ⟨(hnext _ _ h').1, hstep _ _ (hnext _ _ h').2⟩⟩

theorem Upholds.holds {p : Routine κ α} (hp : p.pauses sw = true)
    (h : p.Upholds sw inv (fun _ => inv) others l) :
    ∃ mine, inv (mine + others) l ∧ p.Holds sw inv mine := by
  cases p with
  | done a =>
    refine ⟨0, by rwa [zero_add], fun others' l' h' => ?_⟩
    refine ⟨fun f hf => (nomatch hf), fun p' l' hs => ?_⟩
    cases hs
  | own f rest =>
    simp only [pauses] at hp
    simp only [Upholds, hp] at h
    refine Pause.holds (fun others l h p' l' hs => ?_) h
    cases hs
    exact h
  | await drop ok rest =>
    refine Pause.holds (fun others l h p' l' hs => ?_) h
    cases hs with
    | await _ _ _ _ hok => exact h hok
  | lock rest =>
    simp only [pauses] at hp
    simp only [Upholds, hp] at h
    refine Pause.holds (fun others l h p' l' hs => ?_) h
    cases hs
    exact h
  | clock rest =>
    simp only [pauses] at hp
    simp only [Upholds, hp] at h
    refine Pause.holds (fun others l h p' l' hs => ?_) h
    cases hs
    exact h _
  | ask q rest =>
    simp only [pauses] at hp
    simp only [Upholds, hp] at h
    refine Pause.holds (fun others l h p' l' hs => ?_) h
    cases hs
    exact h _
  | call drop c rest =>
    refine Pause.holds (fun others l h p' l' hs => ?_) h
    cases hs
    exact h _
  | callBy drop t c rest =>
    refine Pause.holds (fun others l h p' l' hs => ?_) h
    cases hs
    exact h _

/-- The shares of all tasks together. -/
def total (held : List (Task κ × ρ)) : ρ := (held.map Prod.snd).sum

theorem total_between (before after : List (Task κ × ρ)) (task : Task κ) (mine : ρ) :
    total (before ++ (task, mine) :: after) = mine + total (before ++ after) := by
  simp only [total, List.map_append, List.map_cons, List.sum_append, List.sum_cons]
  exact add_left_comm _ _ _

/-- A moment at which every task holds a share with which it upholds an invariant. -/
def Shared (sw : Switching) (inv : ρ → Ledger κ → Prop) (x : Moment κ) : Prop :=
  ∃ held : List (Task κ × ρ), held.map Prod.fst = x.tasks ∧ inv (total held) x.ledger ∧
    ∀ h ∈ held, ∀ p, h.1.rest = some p → p.Holds sw inv h.2

theorem shared_turn {may : (α : Type) → Routine κ α → Prop}
    (hmay : ∀ α p, may α p → p.Preserves sw inv)
    {x y : Moment κ} (hx : Shared sw inv x) (ht : Turn sw may x y) : Shared sw inv y := by
  obtain ⟨held, htasks, hinv, hholds⟩ := hx
  cases ht with
  | arrive hp hs =>
    obtain ⟨mine, hinv', hmine⟩ := ((hmay _ _ hp _ _ hinv).stretch hs).holds hs.pauses
    refine ⟨held ++ [(_, mine)], by rw [List.map_append, htasks]; rfl, ?_, fun h hmem p hrest => ?_⟩
    · rwa [total_between, List.append_nil]
    · rcases List.mem_append.mp hmem with hmem | hmem
      · exact hholds h hmem p hrest
      · obtain rfl := List.mem_singleton.mp hmem
        obtain rfl := Option.some.inj hrest
        exact hmine
  | @resume _ born p p₁ p' since _ l₁ l' _ _ hstep hs =>
    obtain ⟨before, kept, after, rfl, rfl, rfl⟩ := exists_between htasks
    rw [total_between] at hinv
    have hkept := hholds _ (List.mem_append_right _ List.mem_cons_self) _ rfl
    -- The share kept at the last pause is used up, and the routine keeps a new one at the next.
    obtain ⟨mine, hinv', hmine⟩ := (((hkept _ _ hinv).2 _ _ hstep).stretch hs).holds hs.pauses
    refine ⟨before ++ (⟨born, since, some p'⟩, mine) :: after, by simp, by rwa [total_between], ?_⟩
    refine forall_mem_replace hholds fun q hrest => ?_
    obtain rfl := Option.some.inj hrest
    exact hmine
  | @drop _ born p since _ undo _ _ hundo =>
    obtain ⟨before, kept, after, rfl, rfl, rfl⟩ := exists_between htasks
    rw [total_between] at hinv
    have hkept := hholds _ (List.mem_append_right _ List.mem_cons_self) _ rfl
    refine ⟨before ++ (⟨born, since, none⟩, 0) :: after, by simp, ?_, ?_⟩
    · rw [total_between, zero_add]
      exact (hkept _ _ hinv).1 undo hundo
    · exact forall_mem_replace hholds fun q hrest => nomatch hrest

/-- What holds at the start and is upheld by every routine that may arrive holds at every moment. -/
theorem shared_of_reached {may : (α : Type) → Routine κ α → Prop} {start : κ}
    (hstart : inv 0 (.opened start))
    (hmay : ∀ α p, may α p → p.Preserves sw inv)
    {x : Moment κ} (h : Reached sw may start x) : Shared sw inv x := by
  induction h with
  | start => exact ⟨[], rfl, hstart, fun _ h => nomatch h⟩
  | turn _ ht ih => exact shared_turn hmay ih ht

end HueLink.Routine
