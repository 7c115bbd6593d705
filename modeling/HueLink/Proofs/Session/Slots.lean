-- The slots of the gate of a session, whatever tasks do with the session and wherever they are
-- interrupted. The gate knows exactly the tickets that the tasks have, so no slot is ever lost or
-- given out twice.
import HueLink.Proofs.Semaphore
import HueLink.Proofs.Session.Lifecycle
import HueLink.Proofs.Session.Stands
import Mathlib.Data.List.Permutation

namespace HueLink

open Routine

namespace Session

/-! ## The gate and the tickets of all tasks -/

/-- The gate knows exactly the tickets with which tasks are queued or have a slot, and who has a
slot holds it. Without a gate there are no tickets. -/
def Balanced (ready : Option Ready) (q r : List Nat) : Prop :=
  match ready with
  | none => q = [] ∧ r = []
  | some ready => 1 ≤ ready.limit ∧ ready.gate.Sound ready.limit ∧
    (q ++ r).Perm ready.gate.tickets ∧ r ⊆ ready.gate.holders

/-- Nothing that a session knows gets lost, and who keeps a ticket keeps the slot. -/
def KeepsSlots (ready ready' : Option Ready) (kept : List Nat) : Prop :=
  ∀ r, ready = some r → ∃ r', ready' = some r' ∧ r' = { r with gate := r'.gate } ∧
    ∀ t ∈ r.gate.holders, t ∈ kept → t ∈ r'.gate.holders

variable {c c' : Cell} {t : Nat} {q r q' r' : List Nat}

theorem Balanced.regroup {ready : Option Ready} (h : Balanced ready q r)
    (hperm : (q ++ r).Perm (q' ++ r')) (hsub : r' ⊆ r) : Balanced ready q' r' := by
  rcases ready with _ | ready
  · obtain ⟨rfl, rfl⟩ := h
    exact List.append_eq_nil_iff.mp hperm.nil_eq.symm
  · obtain ⟨hlimit, hsound, htickets, hruns⟩ := h
    exact ⟨hlimit, hsound, hperm.symm.trans htickets, List.Subset.trans hsub hruns⟩

theorem Balanced.nodup {ready : Option Ready} (h : Balanced ready q r) : (q ++ r).Nodup := by
  rcases ready with _ | ready
  · obtain ⟨rfl, rfl⟩ := h
    exact List.nodup_nil
  · exact h.2.2.1.nodup_iff.mpr h.2.1.nodup

theorem ready_of_gate {g : Semaphore} (hg : c.gate? = some g) :
    ∃ ready, c.ready = some ready ∧ ready.gate = g := Option.map_eq_some_iff.mp hg

theorem ready_mapGate (f : Semaphore → Semaphore) :
    (c.mapGate f).ready = c.ready.map fun ready => { ready with gate := f ready.gate } := rfl

theorem Balanced.giveUp (h : Balanced c.ready q r) (hperm : (q ++ r).Perm (t :: (q' ++ r')))
    (hsub : r' ⊆ r) : Balanced (giveUp t c).ready q' r' := by
  unfold Session.giveUp
  rw [ready_mapGate]
  generalize c.ready = ready at h ⊢
  rcases ready with _ | ready
  · obtain ⟨rfl, rfl⟩ := h
    exact absurd hperm.nil_eq (List.cons_ne_nil _ _).symm
  · have hnodup := hperm.nodup_iff.mp h.nodup
    obtain ⟨hlimit, hsound, htickets, hruns⟩ := h
    refine ⟨hlimit, Semaphore.sound_leave hsound, ?_, fun t' ht' => ?_⟩
    · have herase : (q' ++ r').Perm (ready.gate.tickets.erase t) := by
        simpa using (hperm.symm.trans htickets).erase t
      exact herase.trans (Semaphore.tickets_leave hsound.nodup).symm
    · refine Semaphore.mem_holders_leave (hruns (hsub ht')) ?_
      rintro rfl
      exact (List.nodup_cons.mp hnodup).1 (List.mem_append_right _ ht')

theorem Balanced.giveUpAll {tickets : List Nat} (h : Balanced c.ready q r)
    (hperm : (q ++ r).Perm (tickets ++ (q' ++ r'))) (hsub : r' ⊆ r) :
    Balanced (giveUpAll tickets c).ready q' r' := by
  induction tickets generalizing q' with
  | nil => exact h.regroup hperm hsub
  | cons t tickets ih =>
    have hmiddle : (q ++ r).Perm (tickets ++ (t :: q' ++ r')) :=
      hperm.trans List.perm_middle.symm
    exact (ih hmiddle).giveUp (List.Perm.refl _) (List.Subset.refl _)

theorem keepsSlots_mapGate {f : Semaphore → Semaphore} {kept : List Nat}
    (hf : ∀ g : Semaphore, ∀ t ∈ g.holders, t ∈ kept → t ∈ (f g).holders) :
    KeepsSlots c.ready (c.mapGate f).ready kept := by
  intro ready hready
  rw [ready_mapGate, hready]
  exact ⟨_, rfl, rfl, hf ready.gate⟩

theorem KeepsSlots.refl {ready : Option Ready} {kept : List Nat} : KeepsSlots ready ready kept :=
  fun r hr => ⟨r, hr, rfl, fun _ ht _ => ht⟩

theorem KeepsSlots.trans {ready₁ ready₂ ready₃ : Option Ready} {kept : List Nat}
    (h : KeepsSlots ready₁ ready₂ kept) (h' : KeepsSlots ready₂ ready₃ kept) :
    KeepsSlots ready₁ ready₃ kept := by
  intro r₁ hr₁
  obtain ⟨r₂, hr₂, heq₂, hkeeps₂⟩ := h r₁ hr₁
  obtain ⟨r₃, hr₃, heq₃, hkeeps₃⟩ := h' r₂ hr₂
  refine ⟨r₃, hr₃, ?_, fun t ht hk => hkeeps₃ t (hkeeps₂ t ht hk) hk⟩
  rw [heq₃, heq₂]

theorem keepsSlots_giveUp {kept : List Nat} (ht : t ∉ kept) :
    KeepsSlots c.ready (giveUp t c).ready kept := by
  refine keepsSlots_mapGate fun g t' ht' hk => Semaphore.mem_holders_leave ht' ?_
  rintro rfl
  exact ht hk

theorem keepsSlots_giveUpAll {tickets kept : List Nat} (h : ∀ t ∈ tickets, t ∉ kept) :
    KeepsSlots c.ready (giveUpAll tickets c).ready kept := by
  induction tickets with
  | nil => exact .refl
  | cons t tickets ih =>
    exact (ih fun t' ht' => h t' (List.mem_cons_of_mem _ ht')).trans
      (keepsSlots_giveUp (h t List.mem_cons_self))

theorem keepsSlots_of_calmly {kept : List Nat} (h : c.Calmly c') :
    KeepsSlots c.ready c'.ready kept := by
  rcases h with h | ⟨hnone, _⟩
  · rw [h]
    exact .refl
  · intro ready hready
    rw [hnone] at hready
    exact nomatch hready

variable {qs rs : List Nat}

/-- A step of one task, with the tickets of all others. -/
theorem Change.balanced (h : Change c q r c' q' r') (hb : Balanced c.ready (q ++ qs) (r ++ rs)) :
    Balanced c'.ready (q' ++ qs) (r' ++ rs) := by
  cases h with
  | stay hcalm =>
    rcases hcalm with heq | ⟨hnone, ready, hready, hgate, hlimit⟩
    · rwa [heq]
    · rw [hnone] at hb
      rw [hready, hb.1, hb.2]
      refine ⟨hlimit, ?_, ?_, fun t ht => nomatch ht⟩
      · rw [hgate]
        exact Semaphore.sound_ofPermits _
      · rw [hgate]
        exact List.Perm.refl _
  | draw hg =>
    obtain ⟨ready, hready, rfl⟩ := ready_of_gate hg
    rw [hready] at hb
    obtain ⟨hlimit, hsound, htickets, hruns⟩ := hb
    rw [ready_mapGate, hready]
    refine ⟨hlimit, Semaphore.sound_arrive hsound, ?_,
      List.Subset.trans hruns Semaphore.subset_holders_arrive⟩
    exact (htickets.cons _).trans (Semaphore.tickets_arrive hsound.unclosed).symm
  | @begin _ _ g t hg hholds =>
    obtain ⟨ready, hready, rfl⟩ := ready_of_gate hg
    rw [hready] at hb ⊢
    obtain ⟨hlimit, hsound, htickets, hruns⟩ := hb
    refine ⟨hlimit, hsound, ?_, fun t' ht' => ?_⟩
    · refine List.Perm.trans ?_ htickets
      have hmove : (q' ++ qs ++ (r ++ [t] ++ rs)).Perm (t :: (q' ++ qs ++ (r ++ rs))) := by
        simpa using @List.perm_middle _ t (q' ++ (qs ++ r)) rs
      simpa using hmove
    · simp only [List.append_assoc, List.mem_append, List.mem_singleton] at ht'
      rcases ht' with ht' | rfl | ht'
      · exact hruns (List.mem_append_left _ ht')
      · exact Semaphore.holds_iff.mp hholds
      · exact hruns (List.mem_append_right _ ht')
  | @finish _ _ t =>
    refine hb.giveUp ?_ fun t' ht' => ?_
    · simpa using @List.perm_middle _ t (q ++ (qs ++ r')) rs
    · rcases List.mem_append.mp ht' with ht' | ht'
      · exact List.mem_append_left _ (List.mem_append_left _ ht')
      · exact List.mem_append_right _ ht'

theorem Change.keepsSlots (h : Change c q r c' q' r') (hb : Balanced c.ready (q ++ qs) (r ++ rs)) :
    KeepsSlots c.ready c'.ready ((q' ++ qs) ++ (r' ++ rs)) := by
  cases h with
  | stay hcalm => exact keepsSlots_of_calmly hcalm
  | draw hg => exact keepsSlots_mapGate fun g t ht _ => Semaphore.subset_holders_arrive ht
  | begin hg hholds => exact .refl
  | @finish _ _ t =>
    refine keepsSlots_giveUp ?_
    have hmiddle : (q ++ qs ++ (r' ++ [t] ++ rs)).Perm (t :: (q ++ qs ++ (r' ++ rs))) := by
      simpa using @List.perm_middle _ t (q ++ (qs ++ r')) rs
    exact (List.nodup_cons.mp (hmiddle.nodup_iff.mp hb.nodup)).1

/-! ## The tickets of all tasks -/

/-- The tickets of a task: those with which it is queued, and those with which it has a slot. -/
structure Slots where
  queued : List Nat
  running : List Nat

/-- A task has these tickets, and makes no call without a slot that needs one. -/
def Slots.Of (m : Slots) (task : Task Cell) : Prop :=
  match task.rest with
  | none => m = ⟨[], []⟩
  | some p => Stands false (fun c => ¬ NeedsSlot task.born c) (fun _ => True) m.queued m.running p

def allQueued (held : List (Task Cell × Slots)) : List Nat := held.flatMap (·.2.queued)

def allRunning (held : List (Task Cell × Slots)) : List Nat := held.flatMap (·.2.running)

def allTickets (held : List (Task Cell × Slots)) : List Nat := allQueued held ++ allRunning held

/-- The tickets of all tasks at a moment, in balance with the gate. -/
structure Account (x : Moment Cell) (held : List (Task Cell × Slots)) : Prop where
  tasks : held.map Prod.fst = x.tasks
  stands : ∀ h ∈ held, h.2.Of h.1
  balanced : Balanced x.cell.ready (allQueued held) (allRunning held)

/-- What going on may do to the tickets of a task, with those whose calls end. -/
inductive Slots.Shift : Slots → List Nat → Slots → Prop where
  | stay (m : Slots) : Shift m [] m
  | draw (q r : List Nat) (t : Nat) : Shift ⟨q, r⟩ [] ⟨t :: q, r⟩
  | begin (q r : List Nat) (t : Nat) : Shift ⟨t :: q, r⟩ [] ⟨q, r ++ [t]⟩
  | finish (q r : List Nat) (t : Nat) : Shift ⟨q, r ++ [t]⟩ [t] ⟨q, r⟩

/-- What a turn may do to the tickets of all tasks, with those whose calls end: a task arrives
without any, a task goes on, or a task is given up with all its tickets. -/
inductive Shifts : List (Task Cell × Slots) → List Nat → List (Task Cell × Slots) → Prop where
  | arrive (held : List (Task Cell × Slots)) (task : Task Cell) :
    Shifts held [] (held ++ [(task, ⟨[], []⟩)])
  | resume (before after : List (Task Cell × Slots)) (task : Task Cell)
    (rest : Option (Routine Cell task.result)) {m m' : Slots} {ended : List Nat} :
    m.Shift ended m' →
    Shifts (before ++ (task, m) :: after) ended (before ++ ({ task with rest }, m') :: after)
  | drop (before after : List (Task Cell × Slots)) (task : Task Cell) (m : Slots) :
    Shifts (before ++ (task, m) :: after) (m.queued ++ m.running)
      (before ++ ({ task with rest := none }, ⟨[], []⟩) :: after)

theorem Change.shift (h : Change c q r c' q' r') : ∃ ended, Slots.Shift ⟨q, r⟩ ended ⟨q', r'⟩ := by
  cases h with
  | stay _ => exact ⟨_, .stay _⟩
  | draw _ => exact ⟨_, .draw _ _ _⟩
  | begin _ _ => exact ⟨_, .begin _ _ _⟩
  | finish => exact ⟨_, .finish _ _ _⟩

section Between

variable {before after held held' : List (Task Cell × Slots)} {task : Task Cell} {m m' : Slots}
  {ready : Option Ready} {ended : List Nat}

theorem allQueued_between : (allQueued (before ++ (task, m) :: after)).Perm
    (m.queued ++ allQueued (before ++ after)) := by
  simp only [allQueued, List.flatMap_append, List.flatMap_cons]
  exact List.perm_append_comm_assoc _ _ _

theorem allRunning_between : (allRunning (before ++ (task, m) :: after)).Perm
    (m.running ++ allRunning (before ++ after)) := by
  simp only [allRunning, List.flatMap_append, List.flatMap_cons]
  exact List.perm_append_comm_assoc _ _ _

theorem allTickets_between : (allTickets (before ++ (task, m) :: after)).Perm
    ((m.queued ++ m.running) ++ allTickets (before ++ after)) := by
  refine (allQueued_between.append allRunning_between).trans ?_
  simp only [allTickets, List.append_assoc]
  exact (List.perm_append_comm_assoc _ _ _).append_left _

theorem balanced_between : Balanced ready (allQueued (before ++ (task, m) :: after))
      (allRunning (before ++ (task, m) :: after)) ↔
    Balanced ready (m.queued ++ allQueued (before ++ after))
      (m.running ++ allRunning (before ++ after)) :=
  ⟨fun h => h.regroup (allQueued_between.append allRunning_between) allRunning_between.symm.subset,
    fun h => h.regroup (allQueued_between.append allRunning_between).symm allRunning_between.subset⟩

end Between

theorem KeepsSlots.mono {ready ready' : Option Ready} {kept kept' : List Nat} (hsub : kept' ⊆ kept)
    (h : KeepsSlots ready ready' kept) : KeepsSlots ready ready' kept' := by
  intro r hr
  obtain ⟨r', hr', heq, hkeeps⟩ := h r hr
  exact ⟨r', hr', heq, fun t ht hk => hkeeps t ht (hsub hk)⟩

theorem Balanced.unclosed {c : Cell} {q r : List Nat} (h : Balanced c.ready q r) :
    ∀ g, c.gate? = some g → g.closed = false := by
  intro g hg
  obtain ⟨ready, hready, rfl⟩ := ready_of_gate hg
  rw [hready] at h
  exact h.2.1.unclosed

theorem perm_regroup (q qs r rs : List Nat) :
    (q ++ qs ++ (r ++ rs)).Perm ((r ++ q) ++ (qs ++ rs)) := by
  rw [List.perm_iff_count]
  intro t
  simp only [List.count_append]
  omega

variable {s : Session} {x y : Moment Cell} {held : List (Task Cell × Slots)}

/-- One turn, with what it does to the tickets of all tasks and to the gate. -/
theorem account_turn (hx : Account x held) (ht : Turn .anywhere s.Usage x y) :
    ∃ ended held', Account y held' ∧ Shifts held ended held' ∧
      KeepsSlots x.cell.ready y.cell.ready (allTickets held') := by
  obtain ⟨htasks, hstands, hbalanced⟩ := hx
  cases ht with
  | @arrive _ _ p _ l tasks hp hs =>
    obtain ⟨rfl, rfl⟩ := stretch_anywhere hs
    let task : Task Cell := ⟨p, l.cell, some p⟩
    refine ⟨[], held ++ [(task, ⟨[], []⟩)], ⟨?_, ?_, ?_⟩, .arrive held task, .refl⟩
    · rw [List.map_append, htasks]
      rfl
    · intro h hmem
      rcases List.mem_append.mp hmem with hmem | hmem
      · exact hstands h hmem
      · obtain rfl := List.mem_singleton.mp hmem
        exact Stands.outside (calm_of_usage hp)
    · exact balanced_between.mpr (by simpa [Moment.cell] using hbalanced)
  | @resume _ born p _ p₁ since l _ l₁ _ _ hstep hs =>
    obtain ⟨rfl, rfl⟩ := stretch_anywhere hs
    obtain ⟨before, m, after, rfl, rfl, rfl⟩ := exists_between htasks
    have hmine : Stands false (fun c => ¬ NeedsSlot born c) (fun _ => True) m.queued m.running p :=
      hstands _ (List.mem_append_right _ List.mem_cons_self)
    rw [balanced_between] at hbalanced
    obtain ⟨q', r', hstands', hchange⟩ :=
      stands_step hmine hstep hbalanced.unclosed fun h => absurd h Bool.false_ne_true
    obtain ⟨ended, hshift⟩ := hchange.shift
    refine ⟨ended, before ++ (⟨born, since, some p₁⟩, ⟨q', r'⟩) :: after, ⟨?_, ?_, ?_⟩,
      .resume before after ⟨born, since, some p⟩ (some p₁) hshift, ?_⟩
    · simp
    · exact forall_mem_replace hstands hstands'
    · exact balanced_between.mpr (hchange.balanced hbalanced)
    · refine (hchange.keepsSlots hbalanced).mono fun t ht => ?_
      have ht := allTickets_between.mem_iff.mp ht
      simp only [allTickets, List.mem_append] at ht ⊢
      tauto
  | @drop _ born p since l undo _ _ hundo =>
    obtain ⟨before, m, after, rfl, rfl, rfl⟩ := exists_between htasks
    have hmine : Stands false (fun c => ¬ NeedsSlot born c) (fun _ => True) m.queued m.running p :=
      hstands _ (List.mem_append_right _ List.mem_cons_self)
    obtain rfl := stands_onDrop hmine hundo
    rw [balanced_between] at hbalanced
    have hperm := perm_regroup m.queued (allQueued (before ++ after)) m.running
      (allRunning (before ++ after))
    -- No ticket is used twice, so nobody else loses a slot by what the task gives back.
    have hdisjoint := List.disjoint_of_nodup_append (hperm.nodup_iff.mp hbalanced.nodup)
    refine ⟨_, before ++ (⟨born, since, none⟩, ⟨[], []⟩) :: after, ⟨?_, ?_, ?_⟩,
      .drop before after ⟨born, since, some p⟩ m, ?_⟩
    · simp
    · exact forall_mem_replace hstands rfl
    · exact balanced_between.mpr (hbalanced.giveUpAll hperm (List.subset_append_right _ _))
    · exact keepsSlots_giveUpAll fun t ht hmem => hdisjoint ht (allTickets_between.mem_iff.mp hmem)

theorem account_of_reached (h : Reached .anywhere s.Usage Cell.fresh x) :
    ∃ held, Account x held := by
  induction h with
  | start => exact ⟨[], rfl, fun _ h => (nomatch h), rfl, rfl⟩
  | turn _ ht ih =>
    obtain ⟨held, hx⟩ := ih
    obtain ⟨_, held', hy, _⟩ := account_turn hx ht
    exact ⟨held', hy⟩

/-! ## Answers -/

theorem slots_of_over {m : Slots} {task : Task Cell} (h : m.Of task) (hover : task.isOver = true) :
    m = ⟨[], []⟩ := by
  rcases task with ⟨born, since, _ | p⟩
  · exact h
  · cases p with
    | done a =>
      obtain ⟨hq, hr, _⟩ := stands_done h
      rcases m with ⟨q, r⟩
      rw [show q = [] from hq, show r = [] from hr]
    | own | await | lock | clock | ask | call | callBy => exact nomatch hover

theorem tickets_of_over (hx : Account x held) (hover : ∀ task ∈ x.tasks, task.isOver = true) :
    allTickets held = [] := by
  have hnone : ∀ h ∈ held, h.2 = ⟨[], []⟩ := by
    intro h hmem
    refine slots_of_over (hx.stands h hmem) (hover _ ?_)
    rw [← hx.tasks]
    exact List.mem_map_of_mem hmem
  unfold allTickets allQueued allRunning
  rw [List.append_eq_nil_iff, List.flatMap_eq_nil_iff, List.flatMap_eq_nil_iff]
  exact ⟨fun h hmem => by rw [hnone h hmem], fun h hmem => by rw [hnone h hmem]⟩

end Session

end HueLink
