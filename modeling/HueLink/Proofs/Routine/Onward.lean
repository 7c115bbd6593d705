-- Running on. A routine that has come to a certain point runs on as what is left of it, from the
-- time and the world it has come to. Two routines that come to the same point end the same.
import HueLink.Proofs.Routine.Passage

namespace HueLink.Routine

variable {κ ω α β : Type} {o : Outside ω} {p : Place κ ω}

/-- Once this has been said, the routine runs on as another one, from another time and world. -/
structure RunsOn (o : Outside ω) (p : Place κ ω) (r : Routine κ α) (t : Nat) (w : ω)
    (said : List (Event κ)) (r' : Routine κ α) (t' : Nat) (w' : ω) : Prop where
  run : r.run o p t w = r'.run o p t' w'
  talk : talk (r.record o p t w) = said ++ Routine.talk (r'.record o p t' w')

variable {r r' r'' : Routine κ α} {f : α → Routine κ β} {t t' t'' : Nat} {w w' w'' : ω}
  {said said' : List (Event κ)}

theorem RunsOn.trans (h : RunsOn o p r t w said r' t' w')
    (h' : RunsOn o p r' t' w' said' r'' t'' w'') :
    RunsOn o p r t w (said ++ said') r'' t'' w'' := by
  constructor
  · exact h.run.trans h'.run
  · rw [h.talk, h'.talk, List.append_assoc]

/-- What has come to the same point with nothing said since can stand for one another. -/
theorem RunsOn.of_silent (h : RunsOn o p r t w said r'' t'' w'')
    (h' : RunsOn o p r' t' w' [] r'' t'' w'') : RunsOn o p r t w said r' t' w' := by
  constructor
  · exact h.run.trans h'.run.symm
  · rw [h.talk, h'.talk, List.nil_append]

/-! ## Single steps -/

theorem runsOn_query_bind {q : Query} {x : q.Answer} (h : o.answer q w = (x, w'))
    (f : q.Answer → Routine κ β) (t : Nat) :
    RunsOn o p (Routine.query q >>= f) t w (Routine.talk [.asked q x]) (f x) t w' := by
  constructor
  · exact run_query_bind h f
  · rw [record_query_bind h, ← talk_append]
    rfl

/-- The answer to a call came within the limit. -/
theorem runsOn_answered {c : Call} {x : c.Answer} {d limit : Nat}
    (hdelay : (o.receive c w).delay = some d) (hd : d ≤ limit)
    (hx : (o.receive c w).finish (o.receive c w).world = (x, w'))
    (f : Option c.Answer → Routine κ β) (t : Nat) :
    RunsOn o p ((Attempt.request c).within limit >>= f) t w [.calledBy c (some x)] (f (some x))
      (t + d) w' := by
  have hintime : t + d ≤ t + limit := Nat.add_le_add_left hd t
  simp only [Attempt.request, Attempt.within, Attempt.boundedBy, bind_eq, Routine.bind]
  constructor
  · simp only [run, hdelay, hintime, if_true, hx]
    rfl
  · simp only [record, hdelay, hintime, if_true, hx, talk_cons]
    rfl

/-- The limit was reached first. -/
theorem runsOn_late {c : Call} {limit : Nat} (h : ∀ d, (o.receive c w).delay = some d → limit < d)
    (f : Option c.Answer → Routine κ β) (t : Nat) :
    RunsOn o p ((Attempt.request c).within limit >>= f) t w [.calledBy c none] (f none)
      (t + limit) (o.receive c w).world := by
  have hlimit : max t (t + limit) = t + limit := Nat.max_eq_right (Nat.le_add_right t limit)
  simp only [Attempt.request, Attempt.within, Attempt.boundedBy, bind_eq, Routine.bind]
  cases hdelay : (o.receive c w).delay with
  | none =>
    constructor
    · simp only [run, hdelay, hlimit]
      rfl
    · simp only [record, hdelay, hlimit, talk_cons]
      rfl
  | some d =>
    have hlate : ¬ t + d ≤ t + limit := by
      have := h d hdelay
      omega
    constructor
    · simp only [run, hdelay, hlate, if_false, hlimit]
      rfl
    · simp only [record, hdelay, hlate, if_false, hlimit, talk_cons]
      rfl

/-! ## Parts that come to their end -/

/-- What follows a part that has its result. -/
theorem runsOn_bind {a : α} (h : r.run o p t w = ⟨some a, t', w'⟩) (f : α → Routine κ β) :
    RunsOn o p (r >>= f) t w (Routine.talk (r.record o p t w)) (f a) t' w' := by
  constructor
  · rw [bind_eq, run_bind, h]
    rfl
  · rw [bind_eq, record_bind, h, talk_append]
    rfl

/-- The routine comes to this result at this time, leaves its state like this, and has said this. -/
structure ComesTo (o : Outside ω) (p : Place κ ω) (r : Routine κ α) (t : Nat) (w : ω)
    (a : α) (t' : Nat) (s' : κ) (said : List (Event κ)) : Prop where
  result : (r.run o p t w).result = some a
  time : (r.run o p t w).time = t'
  left : p.get (r.run o p t w).world = s'
  said : Routine.talk (r.record o p t w) = said

variable {a : α} {s' : κ}

theorem comesTo_pure : ComesTo o p (pure a) t w a t (p.get w) [] := ⟨rfl, rfl, rfl, rfl⟩

theorem RunsOn.comesTo (h : RunsOn o p r t w said r' t' w')
    (h' : ComesTo o p r' t' w' a t'' s' said') : ComesTo o p r t w a t'' s' (said ++ said') := by
  constructor
  · rw [h.run, h'.result]
  · rw [h.run, h'.time]
  · rw [h.run, h'.left]
  · rw [h.talk, h'.said]

end HueLink.Routine
