-- Work with a limit to its time, made alone. On every backend it ends with the same result, at the
-- same time, and leaves the same world: that of the work with each call bounded by the deadline.
-- For sleeps one after another, the sum of their spans decides.
import HueLink.Bench
import HueLink.Proofs.Routine.Libraries
import Mathlib.Algebra.GroupWithZero.Nat

namespace HueLink

open Resumption

variable {ω α β ε : Type} {o : Outside ω}

/-! ## Every backend -/

namespace Resumption

variable {δ : Type} {deadline t : Nat} {w₀ : ω} {work : Resumption ω α}
  {R : Resumption ω α → Resumption ω (Except ε α) → Prop}

theorem Looked.map {r : Resumption ω (Except ε α)} (h : Looked R deadline t work r) (f : ε → δ) :
    Looked (fun work r' => ∃ r, R work r ∧ r' = r.map (Except.mapError f)) deadline t work
      (r.map (Except.mapError f)) := by
  cases h with
  | done w t' a => exact .done w t' a
  | late error hwaits hover => exact .late (f error) hwaits hover
  | waits hlt hr => exact .waits hlt ⟨r, hr, rfl⟩

theorem WorkFirst.map (h : WorkFirst deadline R) (f : ε → δ) :
    WorkFirst deadline fun work r' => ∃ r, R work r ∧ r' = r.map (Except.mapError f) where
  waits := fun ⟨_, hr, _⟩ => h.waits hr
  world := by
    rintro work _ ⟨r, hr, rfl⟩
    rw [world_map, h.world hr]
  due := by
    rintro work _ ⟨r, hr, rfl⟩
    rw [due?_map, h.due hr]
  ready := by
    rintro work _ ⟨r, hr, rfl⟩ t w
    rw [isReady_map, h.ready hr]
  turn := by
    rintro work _ ⟨r, hr, rfl⟩ t w hgoes
    rw [isReady_map] at hgoes
    rw [turn_map]
    exact (h.turn hr t w hgoes).map f

theorem Rings.waits {timer : Resumption ω Nat} (h : Rings deadline w₀ timer) :
    timer.result? = none := by
  cases timer with
  | finished => exact nomatch h.due
  | blocked => rfl

/-- Looked at too early, a timer stays as it is. -/
theorem Rings.turn {timer : Resumption ω Nat} (h : Rings deadline w₀ timer) (ht : t < deadline)
    (w : ω) : Rings deadline w (timer.turn t w) := by
  have hready : timer.isReady t w = false := (h.ready t w).trans (by simp [ht])
  obtain ⟨w₁, due, drop, ready, resume, rfl⟩ := exists_blocked h.waits
  have hturn : (blocked w₁ due drop ready resume).turn t w = blocked w due drop ready resume :=
    if_neg (Bool.not_eq_true _ ▸ hready)
  rw [hturn]
  exact ⟨rfl, h.due, h.ready, h.goesOff, h.quiet⟩

end Resumption

namespace Backend

variable {libs : Libraries} {deadline t : Nat}

/-- Waiting work beside the timer that limits it. -/
def BesideTimer (libs : Libraries) (deadline : Nat) (work : Resumption ω α)
    (r : Resumption ω (Except TimedOut α)) : Prop :=
  work.result? = none ∧ ∃ timer, Rings deadline work.world timer ∧
    r = (libs.select work timer).thenDo settle

theorem looked_of_chosen {work : Resumption ω α} {w₀ : ω} {timer : Resumption ω Nat}
    {r : Resumption ω (First ω α Nat)} (htimer : Rings deadline w₀ timer)
    (h : Chosen libs.select t timer work r) :
    Looked (BesideTimer libs deadline) deadline t work (r.thenDo settle) := by
  cases h with
  | left w t' a =>
    have hended : (Resumption.finished w t' (.inl (a, timer))).thenDo settle =
        .finished w t' (.ok a) := by
      simp only [thenDo, settle, htimer.quiet]
    rw [hended]
    exact .done w t' a
  | right hwaits hrung =>
    have hover : deadline ≤ t := by
      refine Nat.le_of_not_lt fun hearly => ?_
      have hwaits := (htimer.turn hearly work.world).waits
      rw [hrung] at hwaits
      exact absurd hwaits (Option.some_ne_none _)
    obtain ⟨told, htold⟩ := htimer.goesOff t work.world hover
    obtain ⟨rfl, rfl, rfl⟩ := Resumption.finished.inj (htold.symm.trans hrung)
    exact .late TimedOut.mk hwaits hover
  | neither hwaits hquiet =>
    have hearly : t < deadline := by
      refine Nat.lt_of_not_le fun hover => ?_
      obtain ⟨told, htold⟩ := htimer.goesOff t work.world hover
      rw [htold] at hquiet
      exact absurd hquiet (Option.some_ne_none _)
    exact .waits hearly ⟨hwaits, _, htimer.turn hearly work.world, rfl⟩

theorem workFirst_besideTimer (hlibs : libs.Lawful) :
    WorkFirst deadline (BesideTimer (ω := ω) (α := α) libs deadline) where
  waits h := h.1
  world := by
    rintro work _ ⟨hwaits, timer, htimer, rfl⟩
    rw [world_thenDo _ (hlibs.select.waits hwaits htimer.waits),
      hlibs.select.world hwaits htimer.waits, htimer.world]
  due := by
    rintro work _ ⟨hwaits, timer, htimer, rfl⟩
    rw [due?_thenDo, hlibs.select.due hwaits htimer.waits, htimer.due]
  ready := by
    rintro work _ ⟨hwaits, timer, htimer, rfl⟩ t w
    rw [isReady_thenDo, hlibs.select.ready hwaits htimer.waits, htimer.ready]
  turn := by
    rintro work _ ⟨hwaits, timer, htimer, rfl⟩ t w hgoes
    rw [isReady_thenDo] at hgoes
    rw [turn_thenDo]
    exact looked_of_chosen htimer (hlibs.select.turn hwaits htimer.waits t w hgoes)

/-- Whatever the backend, work under a limit is looked at before the clock. -/
theorem exists_workFirst (hlibs : libs.Lawful) (b : Backend) (limit now : Nat) :
    ∃ R : Resumption ω α → Resumption ω (Except TimedOut α) → Prop,
      WorkFirst (now + limit) R ∧
        ∀ work, work.result? = none → R work (b.timeout libs limit now work) := by
  cases b with
  | tokio =>
    exact ⟨_, (hlibs.tokio limit now).map fun _ => ⟨⟩, fun work hwaits =>
      ⟨_, ⟨hwaits, rfl⟩, rfl⟩⟩
  | asyncStd =>
    exact ⟨_, (hlibs.asyncStd limit now).map fun _ => ⟨⟩, fun work hwaits =>
      ⟨_, ⟨hwaits, rfl⟩, rfl⟩⟩
  | smol =>
    exact ⟨_, workFirst_besideTimer hlibs, fun work hwaits =>
      ⟨hwaits, _, hlibs.timer limit now work.world, rfl⟩⟩

end Backend

/-! ## How limited work ends -/

/-- What limited calls come to, given what the calls bounded by the deadline come to. -/
def Backend.verdict : Option α → Except TimedOut α
  | some a => .ok a
  | none => .error ⟨⟩

/-- A call that would be answered after the deadline is given up then. -/
theorem run_boundedBy_late {deadline : Nat} {c : Call} {rest : c.Answer → Attempt α} {t : Nat}
    {w : ω} (hlate : ∀ d, (o.receive c w).delay = some d → deadline < t + d) :
    ((Attempt.call c rest).boundedBy deadline).run o .whole t w =
      ⟨some none, max t deadline, (o.receive c w).world⟩ := by
  simp only [Attempt.boundedBy, Routine.run]
  cases hd : (o.receive c w).delay with
  | none => rfl
  | some d => simp only [Nat.not_le.mpr (hlate d hd), if_false]; rfl

namespace Resumption

variable {deadline t : Nat} {work : Resumption ω α} {r : Resumption ω (Except TimedOut α)}
  {R : Resumption ω α → Resumption ω (Except TimedOut α) → Prop}

theorem Looked.eq_of_late (h : Looked R deadline t work r) (hwaits : work.result? = none)
    (hover : deadline ≤ t) :
    r = .finished (work.abandoned work.world) t (.error ⟨⟩) := by
  cases h with
  | done => exact nomatch hwaits
  | late => rfl
  | waits hlt => exact absurd hover (Nat.not_le.mpr hlt)

theorem Looked.related (h : Looked R deadline t work r) (hwaits : work.result? = none)
    (hearly : t < deadline) : R work r := by
  cases h with
  | done => exact nomatch hwaits
  | late _ _ hover => exact absurd hover (Nat.not_le.mpr hearly)
  | waits _ hr => exact hr

theorem WorkFirst.eq_of_done (h : WorkFirst deadline R) {w : ω} {t' : Nat} {a : α}
    (hlooked : Looked R deadline t (.finished w t' a) r) : r = .finished w t' (.ok a) := by
  cases hlooked with
  | done => rfl
  | late _ hwaits => exact nomatch hwaits
  | waits _ hr => exact nomatch h.waits hr

theorem finish_finished (t : Nat) (w w₀ : ω) (t₀ : Nat) (a : α) :
    finish t w [finished w₀ t₀ a] = (t, w, [finished w₀ t₀ a]) := by
  have hdue : nextDue [finished w₀ t₀ a] = none := rfl
  rw [finish]
  simp [round, isReady, hdue]

/-- What waits for a time goes on when that has come. -/
theorem finish_of_due (hwaits : r.isReady t w = false) (hdue : r.due? = some d) (hlater : t ≤ d)
    (hgoes : r.isReady d w = true) :
    finish t w [r] = finish d (r.turn d w).world [r.turn d w] := by
  have hnext : nextDue [r] = some d := by simp [nextDue, hdue]
  rw [finish]
  simp [round, hwaits, hnext, Nat.max_eq_right hlater, hgoes]

/-- Work that cannot go on until the deadline is dropped then. -/
theorem WorkFirst.finish_late (h : WorkFirst deadline R) (hlooked : Looked R deadline t work r)
    (hwaits : work.result? = none) (ht : t ≤ deadline)
    (hstuck : ∀ now, now ≤ deadline → work.isReady now work.world = false)
    (hdue : sooner work.due? (some deadline) = some deadline) :
    let w := work.abandoned work.world
    finish t r.world [r] = (deadline, w, [.finished w deadline (.error ⟨⟩)]) := by
  intro w
  rcases Nat.lt_or_eq_of_le ht with hearly | rfl
  · have hr := hlooked.related hwaits hearly
    have hgoes : r.isReady deadline r.world = true := by simp [h.ready hr]
    have hlater := h.turn hr deadline r.world hgoes
    rw [h.world hr, turn_of_not_ready (hstuck deadline (Nat.le_refl _)), ← h.world hr] at hlater
    have hnow : r.isReady t r.world = false := by
      rw [h.ready hr, h.world hr, hstuck t ht]
      simp [hearly]
    rw [finish_of_due hnow ((h.due hr).trans hdue) ht hgoes,
      hlater.eq_of_late hwaits (Nat.le_refl _)]
    exact finish_finished _ _ _ _ _
  · rw [hlooked.eq_of_late hwaits (Nat.le_refl _)]
    exact finish_finished _ _ _ _ _

/-- Limited work ends as its calls bounded by the deadline do. -/
theorem WorkFirst.finish_of_looked (h : WorkFirst deadline R) (p : Attempt α) {t : Nat} {w : ω}
    {r : Resumption ω (Except TimedOut α)} (ht : t ≤ deadline)
    (hlooked : Looked R deadline t ((p.unbounded : Routine ω α).start o t w) r) :
    let ended := (p.boundedBy deadline).run o .whole t w
    ∃ result, ended.result = some result ∧ finish t r.world [r] =
      (ended.time, ended.world, [.finished ended.world ended.time (Backend.verdict result)]) := by
  induction p generalizing t w r with
  | done a =>
    rw [h.eq_of_done hlooked]
    exact ⟨some a, rfl, finish_finished _ _ _ _ _⟩
  | call c rest ih =>
    rcases hdelay : (o.receive c w).delay with _ | _ | d
    · -- Nobody ever answers.
      simp only [Attempt.unbounded, Routine.start, hdelay] at hlooked
      rw [run_boundedBy_late (by simp [hdelay]), Nat.max_eq_right ht]
      exact ⟨none, rfl, h.finish_late hlooked rfl ht (fun _ _ => rfl) rfl⟩
    · simp only [Attempt.unbounded, Routine.start, hdelay] at hlooked
      simp only [Attempt.boundedBy, Routine.run, hdelay, Nat.add_zero, ht, if_true]
      exact ih _ ht hlooked
    · simp only [Attempt.unbounded, Routine.start, hdelay] at hlooked
      by_cases hin : t + (d + 1) ≤ deadline
      · -- The answer comes in time, and the calls after it decide.
        have hr := hlooked.related rfl (by omega)
        have hdue : r.due? = some (t + (d + 1)) :=
          (h.due hr).trans (congrArg some (Nat.min_eq_left hin))
        have hnow : r.isReady t r.world = false := by
          refine (h.ready hr t r.world).trans ?_
          simp only [isReady, Bool.or_eq_false_iff, decide_eq_false_iff_not]
          omega
        have hgoes : r.isReady (t + (d + 1)) r.world = true := by
          refine (h.ready hr _ r.world).trans ?_
          simp only [isReady, Nat.le_refl, decide_true, Bool.true_or]
        have hlater := h.turn hr _ _ hgoes
        simp only [Resumption.turn, Nat.le_refl, decide_true, if_true] at hlater
        rw [finish_of_due hnow hdue (Nat.le_add_right _ _) hgoes]
        simp only [Attempt.boundedBy, Routine.run, hdelay, hin, if_true, Option.elim]
        rw [h.world hr] at hlater ⊢
        exact ih _ hin hlater
      · rw [run_boundedBy_late (by simp [hdelay]; omega), Nat.max_eq_right ht]
        refine ⟨none, rfl, h.finish_late hlooked rfl ht (fun now hnow => ?_) ?_⟩
        · exact decide_eq_false (by omega)
        · exact congrArg some (Nat.min_eq_right (by omega))

end Resumption

namespace Backend

variable {libs : Libraries}

/-- On every backend limited calls end alike: with one result, at one time and in one world, however
their surroundings behave. -/
theorem finish_start (hlibs : libs.Lawful) (b : Backend) (o : Outside ω) (limit : Nat)
    (p : Attempt α) (t : Nat) (w : ω) :
    let started := b.start libs o limit p t w
    let ended := (p.boundedBy (t + limit)).run o .whole t w
    ∃ result, ended.result = some result ∧ finish t started.world [started] =
      (ended.time, ended.world, [.finished ended.world ended.time (verdict result)]) := by
  obtain ⟨R, hfirst, hrelated⟩ := exists_workFirst (ω := ω) (α := α) hlibs b limit t
  have hr := hrelated (.unstarted ((p.unbounded : Routine ω α).start o) w) rfl
  have hgoes : (b.timeout libs limit t (.unstarted ((p.unbounded : Routine ω α).start o) w)).isReady
      t w = true := by
    rw [hfirst.ready hr]
    rfl
  exact hfirst.finish_of_looked p (Nat.le_add_right t limit) (hfirst.turn hr t w hgoes)

end Backend

/-! ## Sleeps one after another -/

/-- Who sleeps wakes up after the time asked for. -/
def Outside.LetsSleep (o : Outside ω) : Prop :=
  ∀ span w, (o.receive (.sleep span) w).delay = some span

/-- The world after sleeps that all came to their end. -/
def Outside.rested (o : Outside ω) (spans : List Nat) (w : ω) : ω :=
  spans.foldl (fun w span =>
    let reply := o.receive (.sleep span) w
    (reply.finish reply.world).2) w

theorem run_sleeps_in_time {deadline : Nat} (hsleep : o.LetsSleep) (spans : List Nat) (a : α)
    (t : Nat) (w : ω) (h : t + spans.sum ≤ deadline) :
    (((Attempt.sleeps spans).bind fun _ => .done a).boundedBy deadline).run o .whole t w =
      ⟨some (some a), t + spans.sum, o.rested spans w⟩ := by
  induction spans generalizing t w with
  | nil => rfl
  | cons span spans ih =>
    rw [List.sum_cons, ← Nat.add_assoc] at h
    have hspan : t + span ≤ deadline := Nat.le_trans (Nat.le_add_right _ _) h
    simp only [Attempt.sleeps, Attempt.bind, Attempt.boundedBy, Routine.run, hsleep span w, hspan,
      if_true, Option.elim, List.sum_cons, ← Nat.add_assoc]
    exact ih _ _ h

theorem run_sleeps_late {deadline : Nat} (hsleep : o.LetsSleep) (spans : List Nat) (a : α) (t : Nat)
    (w : ω) (ht : t ≤ deadline) (h : deadline < t + spans.sum) :
    ∃ before span after, spans = before ++ span :: after ∧
      t + before.sum ≤ deadline ∧ deadline < t + before.sum + span ∧
      (((Attempt.sleeps spans).bind fun _ => .done a).boundedBy deadline).run o .whole t w =
        ⟨some none, deadline, (o.receive (.sleep span) (o.rested before w)).world⟩ := by
  induction spans generalizing t w with
  | nil => exact absurd ht (Nat.not_le.mpr h)
  | cons span spans ih =>
    by_cases hspan : t + span ≤ deadline
    · rw [List.sum_cons, ← Nat.add_assoc] at h
      obtain ⟨before, late, after, rfl, hbefore, hlate, hrun⟩ := ih (t + span)
        ((o.receive (.sleep span) w).finish (o.receive (.sleep span) w).world).2 hspan h
      refine ⟨span :: before, late, after, rfl, ?_, ?_, ?_⟩
      · rw [List.sum_cons]; omega
      · rw [List.sum_cons]; omega
      · simp only [Attempt.sleeps, Attempt.bind, Attempt.boundedBy, Routine.run, hsleep span w,
          hspan, if_true, Option.elim]
        exact hrun
    · refine ⟨[], span, spans, rfl, ht, Nat.lt_of_not_le hspan, ?_⟩
      have hlate : ∀ d, (o.receive (.sleep span) w).delay = some d → deadline < t + d := by
        intro d hd
        rw [hsleep span w, Option.some.injEq] at hd
        omega
      rw [Attempt.sleeps, Attempt.bind, run_boundedBy_late hlate, Nat.max_eq_right ht]
      rfl

/-- How sleeps under a limit end: in time if and only if they take no longer than the limit, and
after the shorter of the two. If they are given up, the one under way at the limit is the last that
was begun. -/
theorem run_sleeps (hsleep : o.LetsSleep) (limit : Nat) (spans : List Nat) (a : α) (t : Nat)
    (w : ω) :
    ∃ w', (((Attempt.sleeps spans).bind fun _ => .done a).boundedBy (t + limit)).run o .whole t w =
        ⟨some (if spans.sum ≤ limit then some a else none), t + min spans.sum limit, w'⟩ ∧
      (spans.sum ≤ limit → w' = o.rested spans w) ∧
      (limit < spans.sum → ∃ before span after, spans = before ++ span :: after ∧
        before.sum ≤ limit ∧ limit < before.sum + span ∧
        w' = (o.receive (.sleep span) (o.rested before w)).world) := by
  by_cases hin : spans.sum ≤ limit
  · refine ⟨o.rested spans w, ?_, fun _ => rfl, fun hlate => absurd hin (Nat.not_le.mpr hlate)⟩
    rw [run_sleeps_in_time hsleep spans a t w (by omega), if_pos hin, Nat.min_eq_left hin]
  · have hlate : limit < spans.sum := Nat.lt_of_not_le hin
    obtain ⟨before, span, after, hspans, hbefore, hspan, hrun⟩ :=
      run_sleeps_late hsleep spans a t w (Nat.le_add_right t limit) (by omega)
    refine ⟨_, ?_, fun h => absurd h hin, fun _ =>
      ⟨before, span, after, hspans, by omega, by omega, rfl⟩⟩
    rw [hrun, if_neg hin, Nat.min_eq_right (Nat.le_of_lt hlate)]

/-- Sleeps one after another under a limit. On every backend they are in time if and only if they
take no longer than the limit, and it takes as long as the shorter of the two. If they are given up,
the one under way at the limit is the last that was begun. -/
theorem backends_time_out_alike {libs : Libraries} (hlibs : libs.Lawful) (b : Backend)
    (hsleep : o.LetsSleep) (limit : Nat) (spans : List Nat) (a : α) (t : Nat) (w : ω) :
    let started := b.start libs o limit ((Attempt.sleeps spans).bind fun _ => .done a) t w
    let later := t + min spans.sum limit
    ∃ w', finish t started.world [started] =
        (later, w', [.finished w' later (if spans.sum ≤ limit then .ok a else .error ⟨⟩)]) ∧
      (spans.sum ≤ limit → w' = o.rested spans w) ∧
      (limit < spans.sum → ∃ before span after, spans = before ++ span :: after ∧
        before.sum ≤ limit ∧ limit < before.sum + span ∧
        w' = (o.receive (.sleep span) (o.rested before w)).world) := by
  obtain ⟨result, hresult, hfinish⟩ :=
    b.finish_start hlibs o limit ((Attempt.sleeps spans).bind fun _ => .done a) t w
  obtain ⟨w', hrun, hworld⟩ := run_sleeps hsleep limit spans a t w
  rw [hrun] at hresult hfinish
  obtain rfl := Option.some.inj hresult
  refine ⟨w', ?_, hworld⟩
  rw [hfinish]
  split <;> rfl

/-- Surroundings in which one can only sleep, and which write down each sleep that is begun. -/
def sleepJournal : Outside (List Nat) where
  answer q w := ((Bench.nobody.answer q ()).1, w)
  receive
    | .sleep span, w => ⟨w ++ [span], some span, fun w => ((), w)⟩
    | c, w => ⟨w, none, fun w => (((Bench.nobody.receive c ()).finish ()).1, w)⟩

/-- The third sleep is begun at the very limit and given up at once; the fourth is never begun. -/
theorem smol_gives_up_third_sleep : Libraries.workFirst.Lawful ∧ sleepJournal.LetsSleep ∧
    let started := Backend.smol.start .workFirst sleepJournal 5
      ((Attempt.sleeps [2, 3, 4, 1]).bind fun _ => .done true) 0 []
    finish 0 started.world [started] =
      (5, [2, 3, 4], [.finished [2, 3, 4] 5 (.error ⟨⟩)]) := by
  have hsleep : sleepJournal.LetsSleep := fun _ _ => rfl
  obtain ⟨w', hfinish, -, hlate⟩ :=
    backends_time_out_alike lawful_workFirst .smol hsleep 5 [2, 3, 4, 1] true 0 []
  obtain ⟨before, span, after, hspans, hbefore, hspan, hw'⟩ := hlate (by decide)
  refine ⟨lawful_workFirst, hsleep, ?_⟩
  rcases before with _ | ⟨_, _ | ⟨_, _ | ⟨_, before⟩⟩⟩ <;>
    simp only [List.nil_append, List.cons_append, List.cons.injEq] at hspans
  · obtain ⟨rfl, -⟩ := hspans
    exact absurd hspan (by decide)
  · obtain ⟨rfl, rfl, -⟩ := hspans
    exact absurd hspan (by decide)
  · obtain ⟨rfl, rfl, rfl, -⟩ := hspans
    rw [hw'] at hfinish
    exact hfinish
  · obtain ⟨rfl, rfl, rfl, -⟩ := hspans
    simp only [List.sum_cons] at hbefore
    omega

/-! ## On the bench -/

theorem Backend.run_eq {libs : Libraries} (hlibs : libs.Lawful) (b : Backend) (o : Outside ω)
    (limit : Nat) (p : Attempt α) (t : Nat) (w : ω) :
    let ended := (p.boundedBy (t + limit)).run o .whole t w
    b.run libs o limit p t w = ended.result.map fun result => (verdict result, ended.time) := by
  obtain ⟨result, hresult, hfinish⟩ := b.finish_start hlibs o limit p t w
  simp only [Backend.run, hfinish, hresult, List.head?_cons, Option.bind_some, result?,
    Option.map_some]

theorem sleeps_bind_done (spans : List Nat) :
    ((Attempt.sleeps spans).bind fun _ => .done ()) = Attempt.sleeps spans := by
  induction spans with
  | nil => rfl
  | cons span spans ih => simp only [Attempt.sleeps, Attempt.bind, ih]

/-- What a bench tells of sleeps under a limit does not depend on the backend. -/
theorem sleepWithin_eq (b : Backend) (limit : Nat) (spans : List Nat) :
    Bench.sleepWithin b limit spans =
      some (decide (spans.sum ≤ limit), min spans.sum limit) := by
  have hsleep : Bench.nobody.LetsSleep := fun _ _ => rfl
  obtain ⟨_, hrun, -⟩ := run_sleeps hsleep limit spans () 0 ()
  rw [sleeps_bind_done] at hrun
  rw [Bench.sleepWithin, b.run_eq lawful_workFirst, hrun, Nat.zero_add]
  by_cases hin : spans.sum ≤ limit <;> simp [hin, Backend.verdict, Except.isOk, Except.toBool]

example : Bench.sleepWithin .smol 5 [2, 3] = some (true, 5) := sleepWithin_eq .smol 5 [2, 3]

end HueLink
