-- How long routines take. Time passes only while a call is under way, so a routine whose calls all
-- have a deadline comes to its end, however its surroundings behave.
import HueLink.Routine.Run

namespace HueLink.Routine

variable {κ α β : Type} {span span' : Nat}

/-- However the surroundings behave, the routine has its result after this span of time at the
latest. -/
def EndsWithin (span : Nat) (r : Routine κ α) : Prop :=
  ∀ (ω : Type) (o : Outside ω) (p : Place κ ω) (t : Nat) (w : ω),
    (r.run o p t w).result.isSome ∧ (r.run o p t w).time ≤ t + span

theorem EndsWithin.mono {r : Routine κ α} (h : r.EndsWithin span) (hle : span ≤ span') :
    r.EndsWithin span' := by
  intro ω o p t w
  obtain ⟨hsome, htime⟩ := h ω o p t w
  exact ⟨hsome, Nat.le_trans htime (Nat.add_le_add_left hle t)⟩

/-! ## Single steps -/

theorem endsWithin_pure (a : α) : (pure a : Routine κ α).EndsWithin span := by
  intro ω o p t w
  exact ⟨rfl, Nat.le_add_right t span⟩

theorem endsWithin_query_bind {q : Query} {f : q.Answer → Routine κ α}
    (h : ∀ a, (f a).EndsWithin span) : (Routine.query q >>= f).EndsWithin span := by
  intro ω o p t w
  exact h (o.answer q w).1 ω o p t (o.answer q w).2

theorem endsWithin_own {g : κ → κ} {rest : κ → Routine κ α} (h : ∀ s, (rest s).EndsWithin span) :
    (Routine.own g rest).EndsWithin span := by
  intro ω o p t w
  exact h (p.get w) ω o p t (p.update g w)

theorem endsWithin_modify_bind {g : κ → κ} {f : Unit → Routine κ α}
    (h : (f ()).EndsWithin span) : (Routine.modify g >>= f).EndsWithin span :=
  endsWithin_own fun _ => h

theorem endsWithin_read_bind {f : κ → Routine κ α} (h : ∀ s, (f s).EndsWithin span) :
    (Routine.read >>= f).EndsWithin span := endsWithin_own h

theorem endsWithin_lock {r : Routine κ α} (h : r.EndsWithin span) :
    (Routine.lock r).EndsWithin span := h

/-! ## Steps in sequence -/

theorem EndsWithin.bind {r : Routine κ α} {f : α → Routine κ β} (hr : r.EndsWithin span)
    (hf : ∀ a, (f a).EndsWithin span') : (r >>= f).EndsWithin (span + span') := by
  intro ω o p t w
  obtain ⟨hsome, htime⟩ := hr ω o p t w
  obtain ⟨a, ha⟩ := Option.isSome_iff_exists.mp hsome
  obtain ⟨hsome', htime'⟩ := hf a ω o p (r.run o p t w).time (r.run o p t w).world
  rw [bind_eq, run_bind]
  simp only [Outcome.andThen, ha]
  exact ⟨hsome', by omega⟩

/-- What takes no time may stand before anything. -/
theorem endsWithin_instant_bind {r : Routine κ α} {f : α → Routine κ β} (hr : r.EndsWithin 0)
    (hf : ∀ a, (f a).EndsWithin span) : (r >>= f).EndsWithin span := by
  have h := hr.bind hf
  rwa [Nat.zero_add] at h

/-- And after anything. -/
theorem EndsWithin.bind_instant {r : Routine κ α} {f : α → Routine κ β} (hr : r.EndsWithin span)
    (hf : ∀ a, (f a).EndsWithin 0) : (r >>= f).EndsWithin span := hr.bind hf

theorem endsWithin_forM_note (lines : List α) (line : α → Notice) :
    (lines.forM fun a => (Routine.note (line a) : Routine κ Unit)).EndsWithin 0 := by
  induction lines with
  | nil => exact endsWithin_pure ()
  | cons a lines ih => exact endsWithin_query_bind fun _ => ih

/-! ## Attempts -/

/-- An attempt that begins before its deadline is over by then. -/
theorem over_by_deadline {ω : Type} (o : Outside ω) (p : Place κ ω) {deadline : Nat}
    (attempt : Attempt α) {t : Nat} (ht : t ≤ deadline) (w : ω) :
    ((attempt.boundedBy deadline).run o p t w).result.isSome ∧
      ((attempt.boundedBy deadline).run o p t w).time ≤ deadline := by
  induction attempt generalizing t w with
  | done a => exact ⟨rfl, ht⟩
  | call c rest ih =>
    simp only [Attempt.boundedBy, run]
    -- A call that is late ends the attempt at the deadline; one in time leaves it before.
    cases hdelay : (o.receive c w).delay with
    | none => exact ⟨rfl, Nat.max_le.mpr ⟨ht, Nat.le_refl _⟩⟩
    | some d =>
      dsimp only
      split
      · rename_i hintime
        exact ih _ hintime _
      · exact ⟨rfl, Nat.max_le.mpr ⟨ht, Nat.le_refl _⟩⟩

theorem endsWithin_within (limit : Nat) (attempt : Attempt α) :
    (attempt.within limit : Routine κ (Option α)).EndsWithin limit := by
  intro ω o p t w
  exact over_by_deadline o p attempt (Nat.le_add_right t limit) w

end HueLink.Routine
