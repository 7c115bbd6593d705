-- What is known of the libraries that limit the time of some work: they look at the work before the
-- clock. Each law says what one look comes to, and how things stand between two looks.
import HueLink.Routine.Timekeeping

namespace HueLink

variable {ω α β ε : Type}

namespace Resumption

variable {r : Resumption ω α} {t : Nat}

theorem exists_blocked (hwaits : r.result? = none) :
    ∃ w due drop ready resume, r = blocked w due drop ready resume := by
  cases r with
  | finished w₀ t₀ a => exact nomatch hwaits
  | blocked w₀ due drop ready resume => exact ⟨_, _, _, _, _, rfl⟩

/-- What cannot go on stays as it is, in the world as it is now. -/
theorem turn_of_not_ready (hwaits : r.isReady t r.world = false) : r.turn t r.world = r := by
  cases r with
  | finished w₀ t₀ a => rfl
  | blocked w₀ due drop ready resume => exact if_neg (by simpa [isReady, world] using hwaits)

@[simp] theorem due?_map (f : α → β) (r : Resumption ω α) : (r.map f).due? = r.due? := by
  cases r <;> rfl

@[simp] theorem isReady_map (f : α → β) (r : Resumption ω α) (t : Nat) (w : ω) :
    (r.map f).isReady t w = r.isReady t w := by
  cases r <;> rfl

@[simp] theorem world_map (f : α → β) (r : Resumption ω α) : (r.map f).world = r.world := by
  cases r <;> rfl

theorem turn_map (f : α → β) (r : Resumption ω α) (t : Nat) (w : ω) :
    (r.map f).turn t w = (r.turn t w).map f := by
  cases r with
  | finished w₀ t₀ a => rfl
  | blocked w₀ due drop ready resume =>
    simp only [map, turn]
    split <;> rfl

@[simp] theorem due?_thenDo (f : α → ω → β × ω) (r : Resumption ω α) :
    (r.thenDo f).due? = r.due? := by
  cases r <;> rfl

@[simp] theorem isReady_thenDo (f : α → ω → β × ω) (r : Resumption ω α) (t : Nat) (w : ω) :
    (r.thenDo f).isReady t w = r.isReady t w := by
  cases r <;> rfl

theorem world_thenDo (f : α → ω → β × ω) (hwaits : r.result? = none) :
    (r.thenDo f).world = r.world := by
  cases r with
  | finished w₀ t₀ a => exact nomatch hwaits
  | blocked w₀ due drop ready resume => rfl

theorem turn_thenDo (f : α → ω → β × ω) (r : Resumption ω α) (t : Nat) (w : ω) :
    (r.thenDo f).turn t w = (r.turn t w).thenDo f := by
  cases r with
  | finished w₀ t₀ a => rfl
  | blocked w₀ due drop ready resume =>
    simp only [thenDo, turn]
    split <;> rfl

/-! ## The work before the clock -/

/-- What a look at limited work comes to, given the work after it was looked at itself. The relation
`R` says how the two stand if both still wait. -/
inductive Looked (R : Resumption ω α → Resumption ω (Except ε α) → Prop) (deadline t : Nat) :
    Resumption ω α → Resumption ω (Except ε α) → Prop where
  | done (w : ω) (t' : Nat) (a : α) :
    Looked R deadline t (.finished w t' a) (.finished w t' (.ok a))
  /-- The work is dropped as it stands. -/
  | late {work : Resumption ω α} (error : ε) : work.result? = none → deadline ≤ t →
    Looked R deadline t work (.finished (work.abandoned work.world) t (.error error))
  | waits {work : Resumption ω α} {r : Resumption ω (Except ε α)} :
    t < deadline → R work r → Looked R deadline t work r

/-- Whatever limits some work looks at the work before the clock. The relation `R` says how the
limited work stands, given how the work itself stands. -/
structure WorkFirst (deadline : Nat) (R : Resumption ω α → Resumption ω (Except ε α) → Prop) :
    Prop where
  waits {work : Resumption ω α} {r : Resumption ω (Except ε α)} : R work r → work.result? = none
  world {work : Resumption ω α} {r : Resumption ω (Except ε α)} : R work r → r.world = work.world
  due {work : Resumption ω α} {r : Resumption ω (Except ε α)} : R work r →
    r.due? = sooner work.due? (some deadline)
  ready {work : Resumption ω α} {r : Resumption ω (Except ε α)} : R work r → ∀ t w,
    r.isReady t w = (work.isReady t w || decide (deadline ≤ t))
  turn {work : Resumption ω α} {r : Resumption ω (Except ε α)} : R work r → ∀ t w,
    r.isReady t w = true → Looked R deadline t (work.turn t w) (r.turn t w)

/-- Waiting work inside a timeout. -/
def Inside (timeout : Resumption ω α → Resumption ω (Except ε α)) (work : Resumption ω α)
    (r : Resumption ω (Except ε α)) : Prop := work.result? = none ∧ r = timeout work

/-- A timer that goes off at `deadline`, and does nothing else. -/
structure Rings (deadline : Nat) (w₀ : ω) (timer : Resumption ω Nat) : Prop where
  world : timer.world = w₀
  due : timer.due? = some deadline
  ready (t : Nat) (w : ω) : timer.isReady t w = decide (deadline ≤ t)
  goesOff (t : Nat) (w : ω) : deadline ≤ t → ∃ told, timer.turn t w = finished w t told
  quiet (w : ω) : timer.abandoned w = w

/-- What a look at two side by side comes to, given the left one after it was looked at itself. The
right one is looked at only if the left one still waits. -/
inductive Chosen (select : Resumption ω α → Resumption ω β → Resumption ω (First ω α β)) (t : Nat)
    (right : Resumption ω β) : Resumption ω α → Resumption ω (First ω α β) → Prop where
  | left (w : ω) (t' : Nat) (a : α) :
    Chosen select t right (.finished w t' a) (.finished w t' (.inl (a, right)))
  | right {left : Resumption ω α} {w : ω} {t' : Nat} {b : β} : left.result? = none →
    right.turn t left.world = .finished w t' b →
      Chosen select t right left (.finished w t' (.inr (b, left)))
  | neither {left : Resumption ω α} : left.result? = none →
    (right.turn t left.world).result? = none →
      Chosen select t right left (select left (right.turn t left.world))

/-- Two side by side, of which the left one is looked at before the right one. -/
structure LeftFirst
    (select : Resumption ω α → Resumption ω β → Resumption ω (First ω α β)) : Prop where
  waits {left : Resumption ω α} {right : Resumption ω β} : left.result? = none →
    right.result? = none → (select left right).result? = none
  world {left : Resumption ω α} {right : Resumption ω β} : left.result? = none →
    right.result? = none → (select left right).world = right.world
  due {left : Resumption ω α} {right : Resumption ω β} : left.result? = none →
    right.result? = none → (select left right).due? = sooner left.due? right.due?
  ready {left : Resumption ω α} {right : Resumption ω β} : left.result? = none →
    right.result? = none → ∀ t w,
      (select left right).isReady t w = (left.isReady t w || right.isReady t w)
  turn {left : Resumption ω α} {right : Resumption ω β} : left.result? = none →
    right.result? = none → ∀ t w, (select left right).isReady t w = true →
      Chosen select t right (left.turn t w) ((select left right).turn t w)

end Resumption

open Resumption

/-- What is documented of the libraries: a timeout or a choice looks at the work before the
timer. -/
structure Libraries.Lawful (libs : Libraries) : Prop where
  tokio {ω α : Type} (limit now : Nat) :
    WorkFirst (now + limit) (Inside (libs.tokioTimeout (ω := ω) (α := α) limit now))
  asyncStd {ω α : Type} (limit now : Nat) :
    WorkFirst (now + limit) (Inside (libs.asyncStdTimeout (ω := ω) (α := α) limit now))
  timer {ω : Type} (limit now : Nat) (w : ω) : Rings (now + limit) w (libs.smolTimer limit now w)
  select {ω α β : Type} : LeftFirst (libs.select (ω := ω) (α := α) (β := β))

/-! ## Libraries that look at the work first -/

namespace Resumption

theorem looked_giveUpAt (work : Resumption ω α) (deadline t : Nat) :
    Looked (Inside fun work => (work.watched deadline).map (·.elim (.error ()) .ok)) deadline t work
      ((work.giveUpAt deadline t).map (·.elim (.error ()) .ok)) := by
  cases work with
  | finished w t' a => exact .done w t' a
  | blocked w due drop ready resume =>
    by_cases hover : deadline ≤ t
    · simp only [giveUpAt, hover, if_true]
      exact .late () rfl hover
    · simp only [giveUpAt, hover, if_false]
      exact .waits (Nat.lt_of_not_le hover) ⟨rfl, rfl⟩

theorem workFirst_watched (deadline : Nat) : WorkFirst (ω := ω) (α := α) deadline
    (Inside fun work => (work.watched deadline).map (·.elim (.error ()) .ok)) where
  waits h := h.1
  world := by
    rintro work _ ⟨hwaits, rfl⟩
    obtain ⟨_, _, _, _, _, rfl⟩ := exists_blocked hwaits
    rfl
  due := by
    rintro work _ ⟨hwaits, rfl⟩
    obtain ⟨_, due, _, _, _, rfl⟩ := exists_blocked hwaits
    cases due with
    | none => rfl
    | some due => exact congrArg some (Nat.min_comm deadline due)
  ready := by
    rintro work _ ⟨hwaits, rfl⟩ t w
    obtain ⟨_, _, _, ready, _, rfl⟩ := exists_blocked hwaits
    exact Bool.or_comm (decide (deadline ≤ t)) (ready t w)
  turn := by
    rintro work _ ⟨hwaits, rfl⟩ t w hgoes
    obtain ⟨_, due, drop, ready, resume, rfl⟩ := exists_blocked hwaits
    have hgoes : (decide (deadline ≤ t) || ready t w) = true := hgoes
    rw [turn_map]
    simp only [watched, turn, hgoes, if_true]
    cases hready : ready t w with
    | true => exact looked_giveUpAt (resume t w) deadline t
    | false =>
      rw [hready, Bool.or_false, decide_eq_true_iff] at hgoes
      exact .late () rfl hgoes

theorem rings_timer (deadline : Nat) (w₀ : ω) : Rings deadline w₀ (timer deadline w₀) where
  world := rfl
  due := rfl
  ready _ _ := rfl
  goesOff t _ h := ⟨t, if_pos (decide_eq_true h)⟩
  quiet _ := rfl

theorem chosen_race (t : Nat) (left : Resumption ω α) (right : Resumption ω β) :
    Chosen either t right left (left.race t right) := by
  cases left with
  | finished w t' a => exact .left w t' a
  | blocked w due drop ready resume =>
    rw [race]
    cases hright : right.turn t w with
    | finished w' t' b => exact .right rfl hright
    | blocked w' due' drop' ready' resume' =>
      rw [← hright]
      exact .neither rfl (by rw [world, hright]; rfl)

/-- Two that wait side by side, as they are seen from outside. -/
theorem exists_either {left : Resumption ω α} {right : Resumption ω β} (hleft : left.result? = none)
    (hright : right.result? = none) : ∃ drop resume, left.either right =
      blocked right.world (sooner left.due? right.due?) drop
        (fun t w => left.isReady t w || right.isReady t w) resume := by
  obtain ⟨_, _, _, _, _, rfl⟩ := exists_blocked hleft
  obtain ⟨_, _, _, _, _, rfl⟩ := exists_blocked hright
  exact ⟨_, _, rfl⟩

theorem leftFirst_either : LeftFirst (either : Resumption ω α → Resumption ω β → _) where
  waits hleft hright := by
    obtain ⟨_, _, h⟩ := exists_either hleft hright
    rw [h, result?]
  world hleft hright := by
    obtain ⟨_, _, h⟩ := exists_either hleft hright
    rw [h, world]
  due hleft hright := by
    obtain ⟨_, _, h⟩ := exists_either hleft hright
    rw [h, due?]
  ready hleft hright _ _ := by
    obtain ⟨_, _, h⟩ := exists_either hleft hright
    rw [h, isReady]
  turn {left right} hleft hright t w hgoes := by
    obtain ⟨_, due, drop, ready, resume, rfl⟩ := exists_blocked hleft
    obtain ⟨w₁, due', drop', ready', resume', rfl⟩ := exists_blocked hright
    have hgoes : (ready t w || ready' t w) = true := hgoes
    simp only [either, beside, turn, hgoes, if_true]
    cases hready : ready t w with
    | true => exact chosen_race t (resume t w) (.blocked w₁ due' drop' ready' resume')
    | false =>
      -- Only the right one goes on, beside the left one as it is.
      rw [hready, Bool.false_or] at hgoes
      have hrace := chosen_race t (.blocked w due drop ready resume)
        (.blocked w₁ due' drop' ready' resume')
      simp only [race, turn, hgoes, if_true] at hrace
      exact hrace

end Resumption

theorem lawful_workFirst : Libraries.workFirst.Lawful where
  tokio limit now := workFirst_watched (now + limit)
  asyncStd limit now := workFirst_watched (now + limit)
  timer limit now w := rings_timer (now + limit) w
  select := leftFirst_either

end HueLink
