-- Routines on states that stand side by side, each routine on one of them. However they take turns,
-- every state with its own tasks goes through nothing that it could not have gone through alone.
import HueLink.Proofs.Routine.Interleaving
import Mathlib.Logic.Function.Basic

namespace HueLink.Routine

variable {ι κ α : Type} [DecidableEq ι] {sw : Switching} {i : ι}

/-- The place of one state among others. -/
def Place.among (i : ι) : Place κ (ι → κ) where
  get cells := cells i
  set c cells := Function.update cells i c

theorem Place.update_among (f : κ → κ) (cells : ι → κ) :
    (Place.among i).update f cells = Function.update cells i (f (cells i)) := rfl

/-! ## One of the states goes on -/

/-- All states together go on as one of them does alone. -/
structure Along (i : ι) (m m' : Ledger κ) (l l' : Ledger (ι → κ)) (asked : List Query) : Prop where
  own : m'.cell = l'.cell i
  others : ∀ j, j ≠ i → l'.cell j = l.cell j
  askedAlone : m'.asked = m.asked ++ asked
  askedByAll : l'.asked = l.asked ++ asked

section Along

variable {m m' m'' : Ledger κ} {l l' l'' : Ledger (ι → κ)} {asked asked' : List Query}

omit [DecidableEq ι] in
theorem Along.refl (h : m.cell = l.cell i) : Along i m m l l [] :=
  ⟨h, fun _ _ => rfl, (List.append_nil _).symm, (List.append_nil _).symm⟩

omit [DecidableEq ι] in
theorem Along.trans (h : Along i m m' l l' asked) (h' : Along i m' m'' l' l'' asked') :
    Along i m m'' l l'' (asked ++ asked') where
  own := h'.own
  others j hj := (h'.others j hj).trans (h.others j hj)
  askedAlone := by rw [h'.askedAlone, h.askedAlone, List.append_assoc]
  askedByAll := by rw [h'.askedByAll, h.askedByAll, List.append_assoc]

omit [DecidableEq ι] in
theorem along_ask (h : m.cell = l.cell i) (q : Query) : Along i m (m.ask q) l (l.ask q) [q] :=
  ⟨h, fun _ _ => rfl, rfl, rfl⟩

theorem along_write (h : m.cell = l.cell i) (f : κ → κ) :
    Along i m (m.write f) l (l.write ((Place.among i).update f)) [] where
  own := by
    rw [Ledger.cell_write, Ledger.cell_write, Place.update_among, Function.update_self, h]
  others j hj := by rw [Ledger.cell_write, Place.update_among, Function.update_of_ne hj]
  askedAlone := (List.append_nil _).symm
  askedByAll := (List.append_nil _).symm

variable {p : Routine κ α} {p' : Routine (ι → κ) α}

theorem step_zoom (hm : m.cell = l.cell i) (h : Step (p.zoom (.among i)) l p' l') :
    ∃ p₁ m' asked, p' = p₁.zoom (.among i) ∧ Step p m p₁ m' ∧ Along i m m' l l' asked := by
  cases p with
  | done a => cases h
  | own f rest =>
    cases h
    exact ⟨_, _, _, congrArg (fun c => (rest c).zoom (.among i)) hm.symm, .own f rest m,
      along_write hm f⟩
  | await drop ok rest =>
    cases h with
    | await _ _ _ _ hok =>
      refine ⟨_, m, _, congrArg (fun c => (rest c).zoom (.among i)) hm.symm, ?_, .refl hm⟩
      exact .await drop ok rest m (by rw [hm]; exact hok)
  | lock rest =>
    cases h
    exact ⟨_, m, _, rfl, .lock rest m, .refl hm⟩
  | clock rest =>
    cases h with
    | clock _ _ t => exact ⟨_, m, _, rfl, .clock rest m t, .refl hm⟩
  | ask q rest =>
    cases h with
    | ask _ _ _ a => exact ⟨_, _, _, rfl, .ask q rest m a, along_ask hm q⟩
  | call drop c rest =>
    cases h with
    | call _ _ _ _ a => exact ⟨_, m, _, rfl, .call drop c rest m a, .refl hm⟩
  | callBy drop t c rest =>
    cases h with
    | callBy _ _ _ _ _ a => exact ⟨_, m, _, rfl, .callBy drop t c rest m a, .refl hm⟩

omit [DecidableEq ι] in
theorem pauses_zoom (p : Routine κ α) (place : Place κ (ι → κ)) :
    (p.zoom place).pauses sw = p.pauses sw := by
  cases p <;> rfl

omit [DecidableEq ι] in
theorem onDrop_zoom (p : Routine κ α) (place : Place κ (ι → κ)) :
    (p.zoom place).onDrop = p.onDrop.map place.update := by
  cases p <;> rfl

theorem stretch_zoom (hm : m.cell = l.cell i) (h : Stretch sw (p.zoom (.among i)) l p' l') :
    ∃ p₁ m' asked, p' = p₁.zoom (.among i) ∧ Stretch sw p m p₁ m' ∧ Along i m m' l l' asked := by
  generalize hz : p.zoom (.among i) = z at h
  induction h generalizing p m with
  | rest hpauses =>
    subst hz
    rw [pauses_zoom] at hpauses
    exact ⟨p, m, [], rfl, .rest hpauses, .refl hm⟩
  | step hpauses hstep _ ih =>
    subst hz
    rw [pauses_zoom] at hpauses
    obtain ⟨p₁, m₁, asked, rfl, hstep, halong⟩ := step_zoom hm hstep
    obtain ⟨p₂, m₂, asked', rfl, hstretch, halong'⟩ := ih halong.own rfl
    exact ⟨p₂, m₂, _, rfl, .step hpauses hstep hstretch, halong.trans halong'⟩

/-! ## What one does alone, it may do among others -/

theorem step_among {p₁ : Routine κ α} (hm : m.cell = l.cell i) (h : Step p m p₁ m') :
    ∃ l' asked, Step (p.zoom (.among i)) l (p₁.zoom (.among i)) l' ∧ Along i m m' l l' asked := by
  cases h with
  | own f rest =>
    rw [hm]
    exact ⟨_, _, .own _ _ l, along_write hm f⟩
  | await drop ok rest _ hok =>
    rw [hm] at hok ⊢
    exact ⟨l, _, .await _ _ _ l hok, .refl hm⟩
  | lock => exact ⟨l, _, .lock _ l, .refl hm⟩
  | clock rest _ t => exact ⟨l, _, .clock _ l t, .refl hm⟩
  | ask q rest _ a => exact ⟨_, _, .ask q _ l a, along_ask hm q⟩
  | call drop c rest _ a => exact ⟨l, _, .call _ c _ l a, .refl hm⟩
  | callBy drop t c rest _ a => exact ⟨l, _, .callBy _ t c _ l a, .refl hm⟩

theorem stretch_among {p₁ : Routine κ α} (hm : m.cell = l.cell i) (h : Stretch sw p m p₁ m') :
    ∃ l' asked, Stretch sw (p.zoom (.among i)) l (p₁.zoom (.among i)) l' ∧
      Along i m m' l l' asked := by
  induction h generalizing l with
  | rest hpauses => exact ⟨l, [], .rest (by rwa [pauses_zoom]), .refl hm⟩
  | step hpauses hstep _ ih =>
    obtain ⟨l₁, asked, hstep, halong⟩ := step_among hm hstep
    obtain ⟨l', asked', hstretch, halong'⟩ := ih halong.own
    exact ⟨l', _, .step (by rwa [pauses_zoom]) hstep hstretch, halong.trans halong'⟩

end Along

/-! ## Each state with its tasks -/

/-- Routines that each work on one of the states. -/
inductive Each (may : ι → (α : Type) → Routine κ α → Prop) :
    (α : Type) → Routine (ι → κ) α → Prop where
  | one (i : ι) {α : Type} {p : Routine κ α} : may i α p → Each may α (p.zoom (.among i))

theorem Each.mono {may may' : ι → (α : Type) → Routine κ α → Prop}
    (h : ∀ i α p, may i α p → may' i α p) {p : Routine (ι → κ) α} (hp : Each may α p) :
    Each may' α p := by
  obtain ⟨i, hp⟩ := hp
  exact .one i (h i _ _ hp)

/-- A task of one of the states, as a task of all of them. -/
inductive TaskAmong (i : ι) : Task κ → Task (ι → κ) → Prop where
  | mk {α : Type} {born : Routine κ α} {rest : Option (Routine κ α)} {since : κ} {cells : ι → κ} :
    since = cells i → TaskAmong i ⟨born, since, rest⟩
      ⟨born.zoom (.among i), cells, rest.map (·.zoom (.among i))⟩

theorem TaskAmong.of_some {task : Task κ} {born p : Routine (ι → κ) α} {since : ι → κ}
    (h : TaskAmong i task ⟨born, since, some p⟩) : ∃ born' p', born = born'.zoom (.among i) ∧
      p = p'.zoom (.among i) ∧ task = ⟨born', since i, some p'⟩ := by
  generalize hall : Task.mk born since (some p) = all at h
  cases h with
  | @mk α born' rest since' cells hsince =>
    cases rest with
    | none => cases hall
    | some p' =>
      cases hall
      exact ⟨born', p', rfl, rfl, by rw [hsince]⟩

/-- The tasks of one of the states, out of all tasks. -/
def tasksOn (i : ι) (held : List (Task (ι → κ) × ι × Task κ)) : List (Task κ) :=
  (held.filter (·.2.1 = i)).map (·.2.2)

section TasksOn

variable {j : ι} {before after : List (Task (ι → κ) × ι × Task κ)} {all : Task (ι → κ)}
  {task : Task κ}

@[simp] theorem tasksOn_append :
    tasksOn i (before ++ after) = tasksOn i before ++ tasksOn i after := by
  simp [tasksOn]

@[simp] theorem tasksOn_self :
    tasksOn i ((all, i, task) :: after) = task :: tasksOn i after := by
  simp [tasksOn]

theorem tasksOn_of_ne (h : j ≠ i) : tasksOn j ((all, i, task) :: after) = tasksOn j after := by
  simp [tasksOn, h.symm]

end TasksOn

/-- A moment of all states at which each of them is at a moment of its own. -/
structure SideBySide (sw : Switching) (may : ι → (α : Type) → Routine κ α → Prop) (start : ι → κ)
    (x : Moment (ι → κ)) (alone : ι → Moment κ) : Prop where
  reached : ∀ i, Reached sw (may i) (start i) (alone i)
  cell : ∀ i, (alone i).cell = x.cell i
  tasks : ∃ held : List (Task (ι → κ) × ι × Task κ), held.map Prod.fst = x.tasks ∧
    (∀ h ∈ held, TaskAmong h.2.1 h.2.2 h.1) ∧ ∀ i, (alone i).tasks = tasksOn i held

variable {may : ι → (α : Type) → Routine κ α → Prop} {start : ι → κ} {x y : Moment (ι → κ)}
  {alone : ι → Moment κ} {n : Moment κ} {asked : List Query}

theorem sideBySide_start : SideBySide sw may start ⟨.opened start, []⟩
    fun i => ⟨.opened (start i), []⟩ where
  reached _ := .start
  cell _ := rfl
  tasks := ⟨[], rfl, fun _ h => (nomatch h), fun _ => rfl⟩

/-- The moments of the others stay as they are. -/
theorem SideBySide.update (hx : SideBySide sw may start x alone) (hn : Turn sw (may i) (alone i) n)
    (halong : Along i (alone i).ledger n.ledger x.ledger y.ledger asked)
    {held : List (Task (ι → κ) × ι × Task κ)} (htasks : held.map Prod.fst = y.tasks)
    (hamong : ∀ h ∈ held, TaskAmong h.2.1 h.2.2 h.1) (hown : n.tasks = tasksOn i held)
    (hothers : ∀ j, j ≠ i → (alone j).tasks = tasksOn j held) :
    SideBySide sw may start y (Function.update alone i n) := by
  refine ⟨fun j => ?_, fun j => ?_, held, htasks, hamong, fun j => ?_⟩
  all_goals rcases eq_or_ne j i with rfl | hj
  · rw [Function.update_self]
    exact .turn (hx.reached j) hn
  · rw [Function.update_of_ne hj]
    exact hx.reached j
  · rw [Function.update_self]
    exact halong.own
  · rw [Function.update_of_ne hj]
    exact (hx.cell j).trans (halong.others j hj).symm
  · rw [Function.update_self]
    exact hown
  · rw [Function.update_of_ne hj]
    exact hothers j hj

/-- One task of one state was replaced. -/
theorem SideBySide.replace (hx : SideBySide sw may start x alone)
    {before after : List (Task (ι → κ) × ι × Task κ)} {all all' : Task (ι → κ)}
    {task task' : Task κ} {m : Ledger κ} {l : Ledger (ι → κ)}
    (hamong : ∀ h ∈ before ++ (all, i, task) :: after, TaskAmong h.2.1 h.2.2 h.1)
    (hown : ∀ j, (alone j).tasks = tasksOn j (before ++ (all, i, task) :: after))
    (hnew : TaskAmong i task' all')
    (hturn : ∀ b a : List (Task κ),
      Turn sw (may i) ⟨(alone i).ledger, b ++ task :: a⟩ ⟨m, b ++ task' :: a⟩)
    (halong : Along i (alone i).ledger m x.ledger l asked) :
    ∃ n, Turn sw (may i) (alone i) n ∧ Along i (alone i).ledger n.ledger x.ledger l asked ∧
      SideBySide sw may start ⟨l, before.map Prod.fst ++ all' :: after.map Prod.fst⟩
        (Function.update alone i n) := by
  have hn := hturn (tasksOn i before) (tasksOn i after)
  have hsplit := hown i
  rw [tasksOn_append, tasksOn_self] at hsplit
  rw [← hsplit] at hn
  have htasks : (before ++ (all', i, task') :: after).map Prod.fst =
      before.map Prod.fst ++ all' :: after.map Prod.fst := by
    rw [List.map_append, List.map_cons]
  refine ⟨_, hn, halong, hx.update hn halong htasks (forall_mem_replace hamong hnew) ?_ ?_⟩
  · rw [tasksOn_append, tasksOn_self]
  · intro j hj
    rw [hown j, tasksOn_append, tasksOn_append, tasksOn_of_ne hj, tasksOn_of_ne hj]

/-- Whenever all states together go on, one of them goes on alone. -/
theorem SideBySide.turn (hx : SideBySide sw may start x alone) (h : Turn sw (Each may) x y) :
    ∃ i n asked, Turn sw (may i) (alone i) n ∧
      Along i (alone i).ledger n.ledger x.ledger y.ledger asked ∧
      SideBySide sw may start y (Function.update alone i n) := by
  obtain ⟨held, htasks, hamong, hown⟩ := hx.tasks
  cases h with
  | @arrive α _ _ l l' tasks hp hs =>
    obtain ⟨i, hp⟩ := hp
    rename_i p
    obtain ⟨p', m', asked, rfl, hs, halong⟩ := stretch_zoom (hx.cell i) hs
    have hturn : Turn sw (may i) ⟨(alone i).ledger, (alone i).tasks⟩ _ := .arrive hp hs
    let new : Task (ι → κ) × ι × Task κ :=
      (⟨p.zoom (.among i), l.cell, some (p'.zoom (.among i))⟩, i, ⟨p, (alone i).cell, some p'⟩)
    have hnew : TaskAmong new.2.1 new.2.2 new.1 := .mk (hx.cell i)
    have hamong' : ∀ h ∈ held ++ [new], TaskAmong h.2.1 h.2.2 h.1 :=
      List.forall_mem_append.mpr ⟨hamong, List.forall_mem_singleton.mpr hnew⟩
    refine ⟨i, _, asked, hturn, halong, hx.update hturn halong ?_ hamong' ?_ ?_⟩
    · rw [List.map_append, htasks]
      rfl
    · rw [tasksOn_append, tasksOn_self, ← hown i]
      rfl
    · intro j hj
      rw [tasksOn_append, tasksOn_of_ne hj, hown j]
      exact (List.append_nil _).symm
  | resume hstep hs =>
    obtain ⟨before, ⟨i, task⟩, after, rfl, rfl, rfl⟩ := exists_between htasks
    have hmine : TaskAmong i task _ := hamong _ (List.mem_append_right _ List.mem_cons_self)
    obtain ⟨born, p, rfl, rfl, rfl⟩ := hmine.of_some
    obtain ⟨p₁, m₁, asked, rfl, hstep, halong⟩ := step_zoom (hx.cell i) hstep
    obtain ⟨p', m', asked', rfl, hs, halong'⟩ := stretch_zoom halong.own hs
    obtain ⟨n, h⟩ := hx.replace hamong hown (.mk rfl) (fun _ _ => .resume hstep hs)
      (halong.trans halong')
    exact ⟨i, n, _, h⟩
  | drop hundo =>
    obtain ⟨before, ⟨i, task⟩, after, rfl, rfl, rfl⟩ := exists_between htasks
    have hmine : TaskAmong i task _ := hamong _ (List.mem_append_right _ List.mem_cons_self)
    obtain ⟨born, p, rfl, rfl, rfl⟩ := hmine.of_some
    rw [onDrop_zoom] at hundo
    obtain ⟨undo, hdrop, rfl⟩ := Option.map_eq_some_iff.mp hundo
    obtain ⟨n, h⟩ := hx.replace hamong hown (.mk rfl) (fun _ _ => .drop hdrop)
      (along_write (hx.cell i) undo)
    exact ⟨i, n, _, h⟩

end HueLink.Routine
