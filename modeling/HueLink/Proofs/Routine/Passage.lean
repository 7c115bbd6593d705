-- Routines run to their end, with all that happens on the way. What a routine does not decide
-- itself is open: the answers it gets, and how others leave its state until it looks at it again.
import HueLink.Routine.Run

namespace HueLink.Routine

/-- Something that happens while a routine runs. -/
inductive Event (κ : Type) where
  /-- It looks at its state and leaves it in another way. -/
  | moved (seen left : κ)
  /-- It waited, and goes on when it sees this state. -/
  | passed (seen : κ)
  | asked (q : Query) (a : q.Answer)
  | called (c : Call) (a : c.Answer)
  /-- A call with a deadline, and its answer if that came in time. -/
  | calledBy (c : Call) (a : Option c.Answer)

variable {κ ω α β : Type}

/-- A routine runs from a state to its result and a last state. Whenever it looks at its state,
others may have changed it `meanwhile`. -/
inductive Passage (meanwhile : κ → κ → Prop) :
    Routine κ α → κ → List (Event κ) → α → κ → Prop where
  | done (a : α) (s : κ) : Passage meanwhile (.done a) s [] a s
  | own {f : κ → κ} {rest : κ → Routine κ α} {s s₁ s' : κ} {es : List (Event κ)} {a : α} :
    meanwhile s s₁ → Passage meanwhile (rest s₁) (f s₁) es a s' →
      Passage meanwhile (.own f rest) s (.moved s₁ (f s₁) :: es) a s'
  | await {drop : κ → κ} {ok : κ → Bool} {rest : κ → Routine κ α} {s s₁ s' : κ}
    {es : List (Event κ)} {a : α} :
    meanwhile s s₁ → ok s₁ = true → Passage meanwhile (rest s₁) s₁ es a s' →
      Passage meanwhile (.await drop ok rest) s (.passed s₁ :: es) a s'
  | lock {rest : Routine κ α} {s s' : κ} {es : List (Event κ)} {a : α} :
    Passage meanwhile rest s es a s' → Passage meanwhile (.lock rest) s es a s'
  | clock {rest : Nat → Routine κ α} {s s' : κ} {es : List (Event κ)} {a : α} (t : Nat) :
    Passage meanwhile (rest t) s es a s' → Passage meanwhile (.clock rest) s es a s'
  | ask {q : Query} {rest : q.Answer → Routine κ α} {s s' : κ} {es : List (Event κ)} {a : α}
    (answer : q.Answer) : Passage meanwhile (rest answer) s es a s' →
      Passage meanwhile (.ask q rest) s (.asked q answer :: es) a s'
  | call {drop : κ → κ} {c : Call} {rest : c.Answer → Routine κ α} {s s' : κ}
    {es : List (Event κ)} {a : α} (answer : c.Answer) : Passage meanwhile (rest answer) s es a s' →
      Passage meanwhile (.call drop c rest) s (.called c answer :: es) a s'
  | callBy {drop : κ → κ} {deadline : Nat} {c : Call} {rest : Option c.Answer → Routine κ α}
    {s s' : κ} {es : List (Event κ)} {a : α} (answer : Option c.Answer) :
    Passage meanwhile (rest answer) s es a s' →
      Passage meanwhile (.callBy drop deadline c rest) s (.calledBy c answer :: es) a s'

variable {meanwhile : κ → κ → Prop} {s s' : κ} {es : List (Event κ)} {a : α} {b : β}

theorem passage_pure {x : α} :
    Passage meanwhile (pure x) s es a s' ↔ es = [] ∧ a = x ∧ s' = s := by
  constructor
  · intro h
    cases h
    exact ⟨rfl, rfl, rfl⟩
  · rintro ⟨rfl, rfl, rfl⟩
    exact .done _ _

theorem passage_bind {p : Routine κ α} {f : α → Routine κ β} :
    Passage meanwhile (p >>= f) s es b s' ↔ ∃ es₁ a s₁ es₂, Passage meanwhile p s es₁ a s₁ ∧
      Passage meanwhile (f a) s₁ es₂ b s' ∧ es = es₁ ++ es₂ := by
  rw [bind_eq]
  constructor
  · -- What happens in `p` comes first, and `p` says how far that goes.
    intro h
    induction p generalizing s es with
    | done a => exact ⟨[], a, s, es, .done a s, h, rfl⟩
    | own g rest ih =>
      cases h with
      | own hs h =>
        obtain ⟨es₁, a, s₁, es₂, hp, hf, rfl⟩ := ih _ h
        exact ⟨_, a, s₁, es₂, .own hs hp, hf, rfl⟩
    | await drop ok rest ih =>
      cases h with
      | await hs hok h =>
        obtain ⟨es₁, a, s₁, es₂, hp, hf, rfl⟩ := ih _ h
        exact ⟨_, a, s₁, es₂, .await hs hok hp, hf, rfl⟩
    | lock rest ih =>
      cases h with
      | lock h =>
        obtain ⟨es₁, a, s₁, es₂, hp, hf, rfl⟩ := ih h
        exact ⟨_, a, s₁, es₂, .lock hp, hf, rfl⟩
    | clock rest ih =>
      cases h with
      | clock t h =>
        obtain ⟨es₁, a, s₁, es₂, hp, hf, rfl⟩ := ih t h
        exact ⟨_, a, s₁, es₂, .clock t hp, hf, rfl⟩
    | ask q rest ih =>
      cases h with
      | ask answer h =>
        obtain ⟨es₁, a, s₁, es₂, hp, hf, rfl⟩ := ih answer h
        exact ⟨_, a, s₁, es₂, .ask answer hp, hf, rfl⟩
    | call drop c rest ih =>
      cases h with
      | call answer h =>
        obtain ⟨es₁, a, s₁, es₂, hp, hf, rfl⟩ := ih answer h
        exact ⟨_, a, s₁, es₂, .call answer hp, hf, rfl⟩
    | callBy drop t c rest ih =>
      cases h with
      | callBy answer h =>
        obtain ⟨es₁, a, s₁, es₂, hp, hf, rfl⟩ := ih answer h
        exact ⟨_, a, s₁, es₂, .callBy answer hp, hf, rfl⟩
  · rintro ⟨es₁, a, s₁, es₂, hp, hf, rfl⟩
    induction hp with
    | done a s => exact hf
    | own hs _ ih => exact .own hs (ih hf)
    | await hs hok _ ih => exact .await hs hok (ih hf)
    | lock _ ih => exact .lock (ih hf)
    | clock t _ ih => exact .clock t (ih hf)
    | ask answer _ ih => exact .ask answer (ih hf)
    | call answer _ ih => exact .call answer (ih hf)
    | callBy answer _ ih => exact .callBy answer (ih hf)

/-! ## Single steps -/

theorem passage_own {f : κ → κ} {rest : κ → Routine κ α} :
    Passage meanwhile (.own f rest) s es a s' ↔ ∃ s₁ es', meanwhile s s₁ ∧
      Passage meanwhile (rest s₁) (f s₁) es' a s' ∧ es = .moved s₁ (f s₁) :: es' := by
  constructor
  · intro h
    cases h with
    | own hs h => exact ⟨_, _, hs, h, rfl⟩
  · rintro ⟨s₁, es', hs, h, rfl⟩
    exact .own hs h

/-- Whoever looks at the state sees it as others left it. -/
theorem passage_look_bind {f : κ → Routine κ β} :
    Passage meanwhile (Routine.read >>= f) s es b s' ↔ ∃ seen es', meanwhile s seen ∧
      Passage meanwhile (f seen) seen es' b s' ∧ es = .moved seen seen :: es' := passage_own

theorem passage_query {q : Query} {answer : q.Answer} :
    Passage meanwhile (Routine.query q) s es answer s' ↔ es = [.asked q answer] ∧ s' = s := by
  constructor
  · intro h
    cases h with
    | ask answer h =>
      cases h
      exact ⟨rfl, rfl⟩
  · rintro ⟨rfl, rfl⟩
    exact .ask answer (.done _ _)

theorem passage_request {c : Call} {answer : c.Answer} :
    Passage meanwhile (Routine.request c) s es answer s' ↔ es = [.called c answer] ∧ s' = s := by
  constructor
  · intro h
    cases h with
    | call answer h =>
      cases h
      exact ⟨rfl, rfl⟩
  · rintro ⟨rfl, rfl⟩
    exact .call answer (.done _ _)

theorem passage_query_bind {q : Query} {f : q.Answer → Routine κ β} :
    Passage meanwhile (Routine.query q >>= f) s es b s' ↔
      ∃ answer es', es = .asked q answer :: es' ∧ Passage meanwhile (f answer) s es' b s' := by
  constructor
  · intro h
    cases h with
    | ask answer h => exact ⟨answer, _, rfl, h⟩
  · rintro ⟨answer, es', rfl, h⟩
    exact .ask answer h

theorem passage_request_bind {c : Call} {f : c.Answer → Routine κ β} :
    Passage meanwhile (Routine.request c >>= f) s es b s' ↔
      ∃ answer es', es = .called c answer :: es' ∧ Passage meanwhile (f answer) s es' b s' := by
  constructor
  · intro h
    cases h with
    | call answer h => exact ⟨answer, _, rfl, h⟩
  · rintro ⟨answer, es', rfl, h⟩
    exact .call answer h

/-- Being given up is no part of a passage. -/
theorem passage_guarded {undo : κ → κ} {p : Routine κ α} :
    Passage meanwhile (p.guarded undo) s es a s' ↔ Passage meanwhile p s es a s' := by
  constructor
  · intro h
    induction p generalizing s es with
    | done x =>
      cases h
      exact .done _ _
    | own f rest ih =>
      cases h with
      | own hs h => exact .own hs (ih _ h)
    | await drop ok rest ih =>
      cases h with
      | await hs hok h => exact .await hs hok (ih _ h)
    | lock rest ih =>
      cases h with
      | lock h => exact .lock (ih h)
    | clock rest ih =>
      cases h with
      | clock t h => exact .clock t (ih t h)
    | ask q rest ih =>
      cases h with
      | ask answer h => exact .ask answer (ih answer h)
    | call drop c rest ih =>
      cases h with
      | call answer h => exact .call answer (ih answer h)
    | callBy drop t c rest ih =>
      cases h with
      | callBy answer h => exact .callBy answer (ih answer h)
  · intro h
    induction h with
    | done a s => exact .done a s
    | own hs _ ih => exact .own hs ih
    | await hs hok _ ih => exact .await hs hok ih
    | lock _ ih => exact .lock ih
    | clock t _ ih => exact .clock t ih
    | ask answer _ ih => exact .ask answer ih
    | call answer _ ih => exact .call answer ih
    | callBy answer _ ih => exact .callBy answer ih

theorem passage_boundedBy {deadline : Nat} {c : Call} {rest : c.Answer → Attempt α}
    {r : Option α} (h : Passage meanwhile ((Attempt.call c rest).boundedBy deadline) s es r s') :
    (es = [.calledBy c none] ∧ r = none ∧ s' = s) ∨ ∃ a es', es = .calledBy c (some a) :: es' ∧
      Passage meanwhile ((rest a).boundedBy deadline) s es' r s' := by
  cases h with
  | callBy answer h =>
    cases answer with
    | none =>
      cases h
      exact Or.inl ⟨rfl, rfl, rfl⟩
    | some a => exact Or.inr ⟨a, _, rfl, h⟩

/-! ## On a state that nobody else changes -/

theorem passage_read_bind {f : κ → Routine κ β} :
    Passage Eq (Routine.read >>= f) s es b s' ↔
      ∃ es', es = .moved s s :: es' ∧ Passage Eq (f s) s es' b s' := by
  constructor
  · intro h
    cases h with
    | own hs h =>
      subst hs
      exact ⟨_, rfl, h⟩
  · rintro ⟨es', rfl, h⟩
    exact .own rfl h

theorem passage_modify {f : κ → κ} {u : Unit} :
    Passage Eq (Routine.modify f) s es u s' ↔ es = [.moved s (f s)] ∧ s' = f s := by
  constructor
  · intro h
    cases h with
    | own hs h =>
      subst hs
      cases h
      exact ⟨rfl, rfl⟩
  · rintro ⟨rfl, rfl⟩
    exact .own rfl (.done _ _)

theorem passage_modify_bind {f : κ → κ} {g : Unit → Routine κ β} :
    Passage Eq (Routine.modify f >>= g) s es b s' ↔
      ∃ es', es = .moved s (f s) :: es' ∧ Passage Eq (g ()) (f s) es' b s' := by
  constructor
  · intro h
    cases h with
    | own hs h =>
      subst hs
      exact ⟨_, rfl, h⟩
  · rintro ⟨es', rfl, h⟩
    exact .own rfl h

/-! ## Runs in given surroundings -/

/-- The surroundings leave the state at `p` alone. -/
structure Apart (o : Outside ω) (p : Place κ ω) : Prop where
  moved : ∀ f w, p.get (p.update f w) = f (p.get w)
  asked : ∀ q w, p.get (o.answer q w).2 = p.get w
  received : ∀ c w, p.get (o.receive c w).world = p.get w
  finished : ∀ c w w', p.get ((o.receive c w).finish w').2 = p.get w'

/-- The answers to all questions are those of the surroundings. -/
def AnsweredBy (o : Outside ω) (es : List (Event κ)) : Prop :=
  ∀ q x, .asked q x ∈ es → ∃ w, x = (o.answer q w).1

/-- What happens while a routine runs alone. -/
def record (o : Outside ω) (p : Place κ ω) : Routine κ α → Nat → ω → List (Event κ)
  | done _, _, _ => []
  | own f rest, t, w =>
    .moved (p.get w) (f (p.get w)) :: (rest (p.get w)).record o p t (p.update f w)
  | await _ ok rest, t, w =>
    if ok (p.get w) then .passed (p.get w) :: (rest (p.get w)).record o p t w else []
  | lock rest, t, w => rest.record o p t w
  | clock rest, t, w => (rest t).record o p t w
  | ask q rest, t, w =>
    let (a, w) := o.answer q w
    .asked q a :: (rest a).record o p t w
  | call _ c rest, t, w =>
    let reply := o.receive c w
    match reply.delay with
    | some d =>
      let (a, w) := reply.finish reply.world
      .called c a :: (rest a).record o p (t + d) w
    | none => []
  | callBy _ deadline c rest, t, w =>
    let reply := o.receive c w
    match reply.delay with
    | some d =>
      if t + d ≤ deadline then
        let (a, w) := reply.finish reply.world
        .calledBy c (some a) :: (rest (some a)).record o p (t + d) w
      else .calledBy c none :: (rest none).record o p (max t deadline) reply.world
    | none => .calledBy c none :: (rest none).record o p (max t deadline) reply.world

variable {o : Outside ω} {p : Place κ ω}

theorem run_query_bind {q : Query} {x : q.Answer} {t : Nat} {w w' : ω}
    (h : o.answer q w = (x, w')) (f : q.Answer → Routine κ β) :
    (Routine.query q >>= f).run o p t w = (f x).run o p t w' := by
  simp only [Routine.query, bind_eq, bind, run, h]

theorem record_query_bind {q : Query} {x : q.Answer} {t : Nat} {w w' : ω}
    (h : o.answer q w = (x, w')) (f : q.Answer → Routine κ β) :
    (Routine.query q >>= f).record o p t w = .asked q x :: (f x).record o p t w' := by
  simp only [Routine.query, bind_eq, bind, record, h]

/-- What follows in a record after a first part of it. -/
theorem record_bind (r : Routine κ α) (f : α → Routine κ β) (t : Nat) (w : ω) :
    (r.bind f).record o p t w = r.record o p t w ++ (r.run o p t w).result.elim []
      fun a => (f a).record o p (r.run o p t w).time (r.run o p t w).world := by
  induction r generalizing t w with
  | done a => rfl
  | own g rest ih => exact congrArg (_ :: ·) (ih _ t _)
  | await drop ok rest ih =>
    simp only [bind, run, record]
    split
    · exact congrArg (_ :: ·) (ih _ t w)
    · rfl
  | lock rest ih => exact ih t w
  | clock rest ih => exact ih t t w
  | ask q rest ih => exact congrArg (_ :: ·) (ih _ t _)
  | call drop c rest ih =>
    cases hdelay : (o.receive c w).delay with
    | none =>
      simp only [bind, run, record, hdelay]
      rfl
    | some d =>
      simp only [bind, run, record, hdelay]
      exact congrArg (_ :: ·) (ih _ _ _)
  | callBy drop deadline c rest ih =>
    cases hdelay : (o.receive c w).delay with
    | none =>
      simp only [bind, run, record, hdelay]
      exact congrArg (_ :: ·) (ih _ _ _)
    | some d =>
      by_cases hintime : t + d ≤ deadline
      · simp only [bind, run, record, hdelay, hintime, if_true]
        exact congrArg (_ :: ·) (ih _ _ _)
      · simp only [bind, run, record, hdelay, hintime, if_false]
        exact congrArg (_ :: ·) (ih _ _ _)

/-- A routine that runs alone to its end passes what is recorded. -/
theorem passage_of_run (ho : Apart o p) (r : Routine κ α) {t : Nat} {w : ω}
    (h : (r.run o p t w).result = some a) :
    Passage Eq r (p.get w) (r.record o p t w) a (p.get (r.run o p t w).world) := by
  -- The surroundings leave the state alone, so each look finds it as the routine left it.
  induction r generalizing t w with
  | done x =>
    obtain rfl : x = a := Option.some.inj h
    exact .done _ _
  | own f rest ih =>
    have hrest := ih _ h
    rw [ho.moved] at hrest
    exact .own rfl hrest
  | await drop ok rest ih =>
    simp only [run, record] at h ⊢
    split at h
    · rename_i hok
      rw [if_pos hok, if_pos hok]
      exact .await rfl hok (ih _ h)
    · cases h
  | lock rest ih => exact .lock (ih h)
  | clock rest ih => exact .clock _ (ih _ h)
  | ask q rest ih =>
    have hrest := ih _ h
    rw [ho.asked] at hrest
    exact .ask _ hrest
  | call drop c rest ih =>
    cases hdelay : (o.receive c w).delay with
    | none =>
      simp only [run, hdelay] at h
      cases h
    | some d =>
      simp only [run, record, hdelay] at h ⊢
      have hrest := ih _ h
      rw [ho.finished, ho.received] at hrest
      exact .call _ hrest
  | callBy drop deadline c rest ih =>
    cases hdelay : (o.receive c w).delay with
    | none =>
      simp only [run, record, hdelay] at h ⊢
      have hrest := ih _ h
      rw [ho.received] at hrest
      exact .callBy _ hrest
    | some d =>
      by_cases hintime : t + d ≤ deadline
      · simp only [run, record, hdelay, hintime, if_true] at h ⊢
        have hrest := ih _ h
        rw [ho.finished, ho.received] at hrest
        exact .callBy _ hrest
      · simp only [run, record, hdelay, hintime, if_false] at h ⊢
        have hrest := ih _ h
        rw [ho.received] at hrest
        exact .callBy _ hrest

theorem answeredBy_record (r : Routine κ α) (t : Nat) (w : ω) :
    AnsweredBy o (r.record o p t w) := by
  intro q x
  induction r generalizing t w with
  | done _ => exact fun hmem => absurd hmem List.not_mem_nil
  | own f rest ih => simpa [record] using ih _ _ _
  | await drop ok rest ih =>
    simp only [record]
    split
    · simpa using ih _ _ _
    · exact fun hmem => absurd hmem List.not_mem_nil
  | lock rest ih => exact ih _ _
  | clock rest ih => exact ih _ _ _
  | ask q' rest ih =>
    intro hmem
    rcases List.mem_cons.mp hmem with heq | hmem
    · cases heq
      exact ⟨w, rfl⟩
    · exact ih _ _ _ hmem
  | call drop c rest ih =>
    simp only [record]
    split
    · simpa using ih _ _ _
    · exact fun hmem => absurd hmem List.not_mem_nil
  | callBy drop deadline c rest ih =>
    simp only [record]
    split
    · split
      · simpa using ih _ _ _
      · simpa using ih _ _ _
    · simpa using ih _ _ _

/-! ## What is talked about -/

/-- The routine turns to its surroundings, and not just to write into the log. -/
def Event.isTalk : Event κ → Bool
  | moved _ _ | passed _ | asked (.note _) _ => false
  | asked _ _ | called _ _ | calledBy _ _ => true

/-- What a routine says to its surroundings, with their answers. -/
def talk (es : List (Event κ)) : List (Event κ) := es.filter Event.isTalk

theorem talk_nil : talk ([] : List (Event κ)) = [] := rfl

theorem talk_cons (e : Event κ) (es : List (Event κ)) :
    talk (e :: es) = if e.isTalk then e :: talk es else talk es := List.filter_cons

theorem talk_append (es es' : List (Event κ)) : talk (es ++ es') = talk es ++ talk es' :=
  List.filter_append ..

end HueLink.Routine
