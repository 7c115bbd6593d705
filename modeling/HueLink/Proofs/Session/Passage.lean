-- Passages through the gate of a session that is set up. Others may use the session at the same
-- time in any way they can, which never takes it down or closes its gate.
import HueLink.Proofs.Routine.Passage
import HueLink.Proofs.Session.Slots

namespace HueLink

open Routine

/-! ## A session that stays ready -/

/-- The session is set up with this client, and its gate is open. -/
def Cell.Serves (client : Client) (c : Cell) : Prop :=
  ∃ ready, c.ready = some ready ∧ ready.client = client ∧ ready.gate.closed = false

/-- What others do leaves the session set up with this client. -/
def Steadily (client : Client) (_ c : Cell) : Prop := c.Serves client

theorem Cell.gate_of_ready {c : Cell} {ready : Ready} (h : c.ready = some ready) :
    c.gate? = some ready.gate := by
  unfold Cell.gate?
  rw [h]
  rfl

theorem Cell.Serves.client_eq {client : Client} {c : Cell} (h : c.Serves client) :
    c.client = .ok client := by
  obtain ⟨ready, hready, hclient, _⟩ := h
  unfold Cell.client
  rw [hready, ← hclient]

namespace Session

/-- A routine that others interrupted up to here, with what is left of it: whatever passage follows,
all is one passage from the start. -/
def Partway {α : Type} (meanwhile : Cell → Cell → Prop) (born : Routine Cell α) (since : Cell)
    (es : List (Event Cell)) (p : Routine Cell α) (c : Cell) : Prop :=
  ∀ es' a c', Passage meanwhile p c es' a c' → Passage meanwhile born since (es ++ es') a c'

variable {s : Session} {α : Type} {meanwhile : Cell → Cell → Prop} {born p p' : Routine Cell α}
  {since c c' : Cell} {es : List (Event Cell)} {l l' : Ledger Cell}

/-- A step leads on, if the state is one that others may have left. -/
theorem Partway.step (h : Partway meanwhile born since es p c) (hstep : Step p l p' l')
    (hmeanwhile : meanwhile c l.cell) : ∃ es' c', Partway meanwhile born since es' p' c' := by
  have hone : ∀ e c₁,
      (∀ es' a c', Passage meanwhile p' c₁ es' a c' → Passage meanwhile p c (e :: es') a c') →
      ∃ es' c', Partway meanwhile born since es' p' c' := by
    intro e c₁ hnext
    refine ⟨es ++ [e], c₁, ?_⟩
    intro es' a c' hrest
    rw [List.append_assoc]
    exact h _ a c' (hnext es' a c' hrest)
  cases hstep with
  | own f rest => exact hone _ _ fun _ _ _ hrest => .own hmeanwhile hrest
  | await drop ok rest _ hok => exact hone _ _ fun _ _ _ hrest => .await hmeanwhile hok hrest
  | lock => exact ⟨es, c, fun es' a c' hrest => h es' a c' (.lock hrest)⟩
  | clock rest _ t => exact ⟨es, c, fun es' a c' hrest => h es' a c' (.clock t hrest)⟩
  | ask q rest _ a => exact hone _ _ fun _ _ _ hrest => .ask a hrest
  | call drop call rest _ a => exact hone _ _ fun _ _ _ hrest => .call a hrest
  | callBy drop deadline call rest _ a => exact hone _ _ fun _ _ _ hrest => .callBy a hrest

/-- Every task that began when the session was set up is on a passage on which the session stays
ready. -/
def OnPassage (x : Moment Cell) (task : Task Cell) : Prop :=
  ∀ client, task.since.Serves client → x.cell.Serves client ∧ ∀ p, task.rest = some p →
    ∃ es c, Partway (Steadily client) task.born task.since es p c

variable {x y : Moment Cell} {held : List (Task Cell × Slots)} {client : Client}

theorem serves_turn (hx : Account x held) (ht : Turn .anywhere s.Usage x y)
    (h : x.cell.Serves client) : y.cell.Serves client := by
  obtain ⟨_, _, hy, _, hkeeps⟩ := account_turn hx ht
  obtain ⟨ready, hready, hclient, _⟩ := h
  obtain ⟨ready', hready', heq, _⟩ := hkeeps ready hready
  refine ⟨ready', hready', ?_, ?_⟩
  · rw [heq]
    exact hclient
  · exact hy.balanced.unclosed _ (Cell.gate_of_ready hready')

theorem onPassage_turn (hx : Account x held) (h : ∀ task ∈ x.tasks, OnPassage x task)
    (ht : Turn .anywhere s.Usage x y) : ∀ task ∈ y.tasks, OnPassage y task := by
  have hold : ∀ task ∈ x.tasks, OnPassage y task := by
    intro task hmem client hsince
    obtain ⟨hserves, hpartway⟩ := h task hmem client hsince
    exact ⟨serves_turn hx ht hserves, hpartway⟩
  cases ht with
  | @arrive _ _ p _ l tasks hp hs =>
    obtain ⟨rfl, rfl⟩ := stretch_anywhere hs
    intro task hmem
    rcases List.mem_append.mp hmem with hmem | hmem
    · exact hold task hmem
    · obtain rfl := List.mem_singleton.mp hmem
      intro client hsince
      refine ⟨hsince, ?_⟩
      intro p' hp'
      obtain rfl := Option.some.inj hp'
      exact ⟨[], l.cell, fun _ _ _ hrest => hrest⟩
  | @resume _ born p _ p₁ since l _ l₁ before after hstep hs =>
    -- All turns since the last step of this task were taken by others, who left the session ready.
    obtain ⟨rfl, rfl⟩ := stretch_anywhere hs
    refine forall_mem_replace hold ?_
    intro client hsince
    have hmem : (⟨born, since, some p⟩ : Task Cell) ∈ before ++ ⟨born, since, some p⟩ :: after :=
      List.mem_append_right _ List.mem_cons_self
    obtain ⟨hserves, hpartway⟩ := h _ hmem client hsince
    refine ⟨(hold _ hmem client hsince).1, ?_⟩
    intro p' hp'
    obtain rfl := Option.some.inj hp'
    obtain ⟨es, c, hpassed⟩ := hpartway p rfl
    exact hpassed.step hstep hserves
  | @drop _ born p since l undo before after hundo =>
    refine forall_mem_replace hold ?_
    intro client hsince
    have hmem : (⟨born, since, some p⟩ : Task Cell) ∈ before ++ ⟨born, since, some p⟩ :: after :=
      List.mem_append_right _ List.mem_cons_self
    exact ⟨(hold _ hmem client hsince).1, fun _ hp' => nomatch hp'⟩

theorem onPassage_of_reached (h : Reached .anywhere s.Usage Cell.fresh x) :
    ∀ task ∈ x.tasks, OnPassage x task := by
  induction h with
  | start => exact fun _ hmem => nomatch hmem
  | turn hx ht ih =>
    obtain ⟨held, haccount⟩ := account_of_reached hx
    exact onPassage_turn haccount ih ht

/-- However a session is used, a task that began when it was set up and has its result ran on a
passage on which the session stayed ready. -/
theorem passage_of_task (h : Reached .anywhere s.Usage Cell.fresh x) {a : α}
    (hsince : since.Serves client) (hmem : ⟨born, since, some (.done a)⟩ ∈ x.tasks) :
    ∃ es c, Passage (Steadily client) born since es a c := by
  obtain ⟨_, hpartway⟩ := onPassage_of_reached h _ hmem client hsince
  obtain ⟨es, c, hpassed⟩ := hpartway _ rfl
  have hpassage := hpassed [] a c (.done a c)
  rw [List.append_nil] at hpassage
  exact ⟨es, c, hpassage⟩

end Session

/-- If this is a look at the session, it is set up with this client and its gate is open. -/
def findsServing (client : Client) : Event Cell → Bool
  | .moved seen _ | .passed seen =>
    seen.ready.any fun ready => ready.client = client && !ready.gate.closed
  | .asked _ _ | .called _ _ | .calledBy _ _ => true

theorem serves_of_any {client : Client} {c : Cell}
    (h : c.ready.any (fun ready => ready.client = client && !ready.gate.closed) = true) :
    c.Serves client := by
  obtain ⟨ready, hready, h⟩ := (Option.any_eq_true _ _).mp h
  simp only [Bool.and_eq_true, decide_eq_true_eq, Bool.not_eq_true'] at h
  exact ⟨ready, hready, h.1, h.2⟩

/-- Left alone, a session stays as it is found. -/
theorem passage_steadily {α : Type} {client : Client} {p : Routine Cell α} {c c' : Cell}
    {es : List (Event Cell)} {a : α} (h : Passage Eq p c es a c')
    (hfinds : es.all (findsServing client) = true) : Passage (Steadily client) p c es a c' := by
  induction h with
  | done a c => exact .done a c
  | own _ _ ih =>
    rw [List.all_cons, Bool.and_eq_true] at hfinds
    exact .own (serves_of_any hfinds.1) (ih hfinds.2)
  | await _ hok _ ih =>
    rw [List.all_cons, Bool.and_eq_true] at hfinds
    exact .await (serves_of_any hfinds.1) hok (ih hfinds.2)
  | lock _ ih => exact .lock (ih hfinds)
  | clock t _ ih => exact .clock t (ih hfinds)
  | ask answer _ ih => exact .ask answer (ih hfinds)
  | call answer _ ih => exact .call answer (ih hfinds)
  | callBy answer _ ih => exact .callBy answer (ih hfinds)

/-! ## Calls and warnings -/

def Routine.Event.isCall {κ : Type} : Event κ → Bool
  | called _ _ | calledBy _ _ => true
  | moved _ _ | passed _ | asked _ _ => false

/-- The calls that are made, with their answers. -/
def calls {κ : Type} (es : List (Event κ)) : List (Event κ) := es.filter Event.isCall

/-- The warnings that are written to the log. -/
def warnings {κ : Type} (es : List (Event κ)) : List Notice :=
  es.filterMap fun
    | .asked (.note line) _ => if line.level = .warn then some line else none
    | _ => none

theorem calls_append {κ : Type} (es es' : List (Event κ)) :
    calls (es ++ es') = calls es ++ calls es' := List.filter_append ..

theorem warnings_append {κ : Type} (es es' : List (Event κ)) :
    warnings (es ++ es') = warnings es ++ warnings es' := List.filterMap_append ..

/-- The call changes something at the bridge or asks it anew, so it is made through the gate. -/
def Call.needsSlot : Call → Bool
  | updateGroups _ | updateScenes _ | setGroupScene _ _ _ => true
  | createUser _ _ | validate _ | groups _ | scenes _ | discover | unloaded _ _ | sleep _ => false

namespace Session

/-- The event is no call that needs a slot. -/
def needsNoSlot : Event Cell → Bool
  | .called c _ | .calledBy c _ => !c.needsSlot
  | .moved _ _ | .passed _ | .asked _ _ => true

/-- Every call that needs a slot is made by whoever drew a ticket before, holds a slot with it, and
gives it back after the answer. -/
inductive ThroughGate : List (Event Cell) → Prop where
  | nil : ThroughGate []
  | other {e : Event Cell} {es : List (Event Cell)} :
    needsNoSlot e = true → ThroughGate es → ThroughGate (e :: es)
  | gated {c₁ c₂ c₃ : Cell} {gate gate' : Semaphore} {c : Call} (a : c.Answer)
    {es : List (Event Cell)} :
    c₁.gate? = some gate → c₂.gate? = some gate' → gate'.holds gate.next = true → ThroughGate es →
      ThroughGate (.moved c₁ (c₁.mapGate Semaphore.arrive) :: .passed c₂ :: .called c a ::
        .moved c₃ (giveUp gate.next c₃) :: es)

variable {es es' : List (Event Cell)}

theorem ThroughGate.append (h : ThroughGate es) (h' : ThroughGate es') :
    ThroughGate (es ++ es') := by
  induction h with
  | nil => exact h'
  | other he _ ih => exact .other he ih
  | gated a hgate hgate' hholds _ ih => exact .gated a hgate hgate' hholds ih

/-- What can be seen of a passage from outside: the calls that are made and the warnings. All calls
that need a slot are made with one. -/
structure Shows (es made : List (Event Cell)) (lines : List Notice) : Prop where
  calls : calls es = made
  warnings : warnings es = lines
  gate : ThroughGate es

variable {made made' : List (Event Cell)} {lines lines' : List Notice}

theorem shows_nil : Shows [] [] [] := ⟨rfl, rfl, .nil⟩

theorem Shows.moved {c c' : Cell} (h : Shows es made lines) :
    Shows (.moved c c' :: es) made lines := ⟨h.calls, h.warnings, .other rfl h.gate⟩

theorem Shows.append (h : Shows es made lines) (h' : Shows es' made' lines') :
    Shows (es ++ es') (made ++ made') (lines ++ lines') := by
  refine ⟨?_, ?_, h.gate.append h'.gate⟩
  · rw [calls_append, h.calls, h'.calls]
  · rw [warnings_append, h.warnings, h'.warnings]

variable {s : Session} {client : Client} {c c' : Cell} {α : Type}

theorem shows_markUnauthorized {u : Unit} {meanwhile : Cell → Cell → Prop}
    (h : Passage meanwhile s.markUnauthorized c es u c') : Shows es [] [] := by
  obtain ⟨seen, es₁, _, h₁, rfl⟩ := passage_own.mp h
  split at h₁
  · obtain ⟨_, es₂, rfl, h₂⟩ := passage_query_bind.mp h₁
    obtain ⟨es₃, _, c₃, es₄, hset, h₃, rfl⟩ := passage_bind.mp h₂
    obtain ⟨rfl, _⟩ := passage_query.mp h₃
    cases hset with
    | lock hset =>
      obtain ⟨seen', es₅, _, hdone, rfl⟩ := passage_own.mp hset
      obtain ⟨rfl, _⟩ := passage_pure.mp hdone
      exact ⟨rfl, rfl, .other rfl (.other rfl (.other rfl (.other rfl .nil)))⟩
  · obtain ⟨rfl, _⟩ := passage_pure.mp h₁
    exact ⟨rfl, rfl, .other rfl .nil⟩

theorem Serves.gate {c : Cell} (h : c.Serves client) :
    ∃ gate, c.gate? = some gate ∧ gate.closed = false := by
  obtain ⟨ready, hready, _, hclosed⟩ := h
  exact ⟨ready.gate, Cell.gate_of_ready hready, hclosed⟩

/-- A gated call on a session that stays ready is let in, sooner or later, and does its work. -/
theorem passage_gated {work : Routine Cell α} {r : Except BridgeError α}
    (h : Passage (Steadily client) (gated .whole work) c es r c') :
    ∃ c₁ c₂ c₃ c₄ gate gate' es' a, c₁.gate? = some gate ∧ c₂.gate? = some gate' ∧
      gate'.holds gate.next = true ∧ Passage (Steadily client) work c₂ es' a c₃ ∧ r = .ok a ∧
      es = .moved c₁ (c₁.mapGate Semaphore.arrive) :: .passed c₂ ::
        (es' ++ [.moved c₄ (giveUp gate.next c₄)]) := by
  rw [gated_eq] at h
  obtain ⟨c₁, es₁, hserves, hentered, rfl⟩ := passage_own.mp h
  obtain ⟨gate, hgate, _⟩ := Serves.gate hserves
  unfold entered at hentered
  rw [hgate] at hentered
  cases hentered with
  | @await _ _ _ _ c₂ _ es₂ _ hserves hsettled hwork =>
    -- The gate is still open, so whoever does not wait any more was let in.
    obtain ⟨gate', hgate', hopen⟩ := Serves.gate hserves
    dsimp only at hsettled hwork
    have hholds : gate'.holds gate.next = true := by
      rw [hgate'] at hsettled
      simpa [Semaphore.settled, hopen] using hsettled
    have hin : c₂.gate?.any (·.holds gate.next) = true := by
      rw [hgate']
      exact hholds
    rw [if_pos hin] at hwork
    unfold running at hwork
    obtain ⟨es₃, a, c₃, es₄, hpassed, hleave, rfl⟩ := passage_bind.mp (passage_guarded.mp hwork)
    obtain ⟨c₄, es₅, _, hdone, rfl⟩ := passage_own.mp hleave
    obtain ⟨rfl, rfl, _⟩ := passage_pure.mp hdone
    exact ⟨c₁, c₂, c₃, c₄, gate, gate', es₃, a, hgate, hgate', hholds, hpassed, rfl, rfl⟩

theorem shows_gated {c₁ c₂ c₃ : Cell} {gate gate' : Semaphore} {call : Call}
    (hgate : c₁.gate? = some gate) (hgate' : c₂.gate? = some gate')
    (hholds : gate'.holds gate.next = true) (a : call.Answer) :
    Shows (.moved c₁ (c₁.mapGate Semaphore.arrive) :: .passed c₂ ::
      ([.called call a] ++ [.moved c₃ (giveUp gate.next c₃)])) [.called call a] [] :=
  ⟨rfl, rfl, .gated a hgate hgate' hholds .nil⟩

theorem passage_callApi (call : Call) (answer : Except Fault α → call.Answer)
    {work : Client → Routine Cell (Except Fault α)} {r : Except BridgeError α}
    (hwork : ∀ {c es a c'}, Passage (Steadily client) (work client) c es a c' →
      es = [.called call (answer a)])
    (h : Passage (Steadily client) (s.callApi work) c es r c') :
    ∃ a, Shows es [.called call (answer a)] [] ∧ r = a.mapError Fault.classify := by
  obtain ⟨seen, es₁, hserves, h₁, rfl⟩ := passage_look_bind.mp h
  rw [Cell.Serves.client_eq hserves] at h₁
  obtain ⟨es, result, _, es₂, hgated, h₂, rfl⟩ := passage_bind.mp h₁
  obtain ⟨_, _, _, _, _, _, _, a, hgate, hgate', hholds, hpassed, rfl, hes⟩ := passage_gated hgated
  rw [hwork hpassed] at hes
  have hcall : Shows es [.called call (answer a)] [] := by
    rw [hes]
    exact shows_gated hgate hgate' hholds (answer a)
  have hend : Shows es₂ [] [] ∧ r = a.mapError Fault.classify := by
    rcases a with (_ | _ | _ | _) | a
    case error.unauthorized =>
      obtain ⟨es₃, _, _, _, hmark, h₃, rfl⟩ := passage_bind.mp h₂
      obtain ⟨rfl, rfl, _⟩ := passage_pure.mp h₃
      rw [List.append_nil]
      exact ⟨shows_markUnauthorized hmark, rfl⟩
    all_goals
      obtain ⟨rfl, rfl, _⟩ := passage_pure.mp h₂
      exact ⟨shows_nil, rfl⟩
  exact ⟨a, (hcall.append hend.1).moved, hend.2⟩

end Session

/-! ## Coming to an end -/

/-- The calls are answered like this, given all that happened before. -/
def Answered (answer : List (Event Cell) → (c : Call) → c.Answer) (es : List (Event Cell)) : Prop :=
  ∀ before c a after, es = before ++ .called c a :: after → a = answer before c

/-- The session is set up with this client, and a slot is free. -/
def Cell.Idle (client : Client) (c : Cell) : Prop :=
  ∃ ready, c.ready = some ready ∧ ready.client = client ∧ ready.gate.closed = false ∧
    ready.gate.waiting = [] ∧ ready.gate.free ≠ 0

theorem Cell.Idle.serves {client : Client} {c : Cell} (h : c.Idle client) : c.Serves client := by
  obtain ⟨ready, hready, hclient, hclosed, _⟩ := h
  exact ⟨ready, hready, hclient, hclosed⟩

namespace Session

variable {answer : List (Event Cell) → (c : Call) → c.Answer} {es es' : List (Event Cell)}

theorem answered_nil : Answered answer [] := by
  intro before c a after h
  simp at h

theorem answered_cons {e : Event Cell} (he : ∀ c a, e = .called c a → a = answer [] c)
    (h : Answered (fun before => answer (e :: before)) es) : Answered answer (e :: es) := by
  intro before c a after hsplit
  cases before with
  | nil =>
    rw [List.nil_append, List.cons.injEq] at hsplit
    exact he c a hsplit.1
  | cons first before =>
    rw [List.cons_append, List.cons.injEq] at hsplit
    obtain ⟨rfl, hsplit⟩ := hsplit
    exact h before c a after hsplit

theorem answered_append (h : Answered answer es)
    (h' : Answered (fun before => answer (es ++ before)) es') : Answered answer (es ++ es') := by
  induction es generalizing answer with
  | nil => exact h'
  | cons e es ih =>
    refine answered_cons ?_ (ih ?_ h')
    · rintro c a rfl
      exact h [] c a es rfl
    · intro before c a after hsplit
      exact h (e :: before) c a after (by rw [hsplit]; rfl)

/-- On a session with a free slot that nobody else uses, the routine comes to its end, whatever its
calls are answered, and leaves the slot free. -/
def Ends (client : Client) {α : Type} (p : Routine Cell α) : Prop :=
  ∀ answer c, c.Idle client → ∃ es a c', Passage (Steadily client) p c es a c' ∧
    Answered answer es ∧ c'.Idle client

variable {s : Session} {client : Client} {α β : Type}

theorem ends_pure (a : α) : Ends client (pure a) := by
  intro answer c hidle
  exact ⟨[], a, c, .done a c, answered_nil, hidle⟩

theorem ends_bind {p : Routine Cell α} {f : α → Routine Cell β} (hp : Ends client p)
    (hf : ∀ a, Ends client (f a)) : Ends client (p >>= f) := by
  intro answer c hidle
  obtain ⟨es₁, a, c₁, hfirst, hanswered, hidle₁⟩ := hp answer c hidle
  obtain ⟨es₂, b, c₂, hsecond, hanswered', hidle₂⟩ :=
    hf a (fun before => answer (es₁ ++ before)) c₁ hidle₁
  exact ⟨es₁ ++ es₂, b, c₂, passage_bind.mpr ⟨es₁, a, c₁, es₂, hfirst, hsecond, rfl⟩,
    answered_append hanswered hanswered', hidle₂⟩

theorem ends_own {f : Cell → Cell} {rest : Cell → Routine Cell α}
    (hf : ∀ c : Cell, (f c).ready = c.ready) (hrest : ∀ c, c.Idle client → Ends client (rest c)) :
    Ends client (.own f rest) := by
  intro answer c hidle
  have hidle' : (f c).Idle client := by
    unfold Cell.Idle
    rw [hf]
    exact hidle
  obtain ⟨es, a, c', hpassage, hanswered, hidle''⟩ :=
    hrest c hidle (fun before => answer (.moved c (f c) :: before)) (f c) hidle'
  exact ⟨_, a, c', .own hidle.serves hpassage, answered_cons (fun _ _ h => nomatch h) hanswered,
    hidle''⟩

theorem ends_ask {q : Query} (x : q.Answer) {rest : q.Answer → Routine Cell α}
    (hrest : Ends client (rest x)) : Ends client (.ask q rest) := by
  intro answer c hidle
  obtain ⟨es, a, c', hpassage, hanswered, hidle'⟩ :=
    hrest (fun before => answer (.asked q x :: before)) c hidle
  exact ⟨_, a, c', .ask x hpassage, answered_cons (fun _ _ h => nomatch h) hanswered, hidle'⟩

theorem ends_note (line : Notice) : Ends client (Routine.note line) := ends_ask () (ends_pure ())

theorem ends_request (call : Call) : Ends client (Routine.request call) := by
  intro answer c hidle
  refine ⟨[.called call (answer [] call)], _, c, .call _ (.done _ _), ?_, hidle⟩
  refine answered_cons ?_ answered_nil
  rintro _ _ ⟨⟩
  rfl

theorem ends_lock {p : Routine Cell α} (hp : Ends client p) : Ends client (.lock p) := by
  intro answer c hidle
  obtain ⟨es, a, c', hpassage, h⟩ := hp answer c hidle
  exact ⟨es, a, c', .lock hpassage, h⟩

theorem ends_markUnauthorized : Ends client s.markUnauthorized := by
  refine ends_own (fun _ => rfl) fun before _ => ?_
  split
  · exact ends_ask () (ends_lock (ends_own (fun _ => rfl) fun _ _ => ends_ask () (ends_pure ())))
  · exact ends_pure ()

theorem holds_arrive {gate : Semaphore} (hclosed : gate.closed = false) (hfree : gate.free ≠ 0) :
    gate.arrive.holds gate.next = true := by
  simp [Semaphore.arrive, Semaphore.holds, hclosed, hfree]

theorem leave_arrive {gate : Semaphore} (hclosed : gate.closed = false)
    (hwaiting : gate.waiting = []) (hfree : gate.free ≠ 0) :
    (gate.arrive.leave gate.next).closed = false ∧ (gate.arrive.leave gate.next).waiting = [] ∧
      (gate.arrive.leave gate.next).free ≠ 0 := by
  unfold Semaphore.leave
  rw [if_pos (holds_arrive hclosed hfree)]
  simp [Semaphore.arrive, Semaphore.giveBack, hclosed, hwaiting, hfree]

theorem ends_gated (call : Call) : Ends client (gated .whole (Routine.request call)) := by
  intro answer c hidle
  have hserves := hidle.serves
  obtain ⟨ready, hready, hclient, hclosed, hwaiting, hfree⟩ := hidle
  obtain ⟨hclosed', hwaiting', hfree'⟩ := leave_arrive hclosed hwaiting hfree
  let arrived := c.mapGate Semaphore.arrive
  let t := ready.gate.next
  have harrived : arrived.ready = some { ready with gate := ready.gate.arrive } := by
    rw [ready_mapGate, hready]
    rfl
  have hleft : (giveUp t arrived).ready =
      some { ready with gate := ready.gate.arrive.leave t } := by
    unfold giveUp
    rw [ready_mapGate, harrived]
    rfl
  have hserves' : arrived.Serves client := by
    refine ⟨_, harrived, hclient, ?_⟩
    simp [Semaphore.arrive, hclosed, hfree]
  have hholds : arrived.gate?.any (·.holds t) = true := by
    rw [Cell.gate_of_ready harrived]
    exact holds_arrive hclosed hfree
  have hsettled : arrived.gate?.any (·.settled t) = true := by
    rw [Cell.gate_of_ready harrived]
    simp [Semaphore.settled, holds_arrive hclosed hfree, t]
  let said := answer [.moved c arrived, .passed arrived] call
  have hrunning : Passage (Steadily client) (running t (Routine.request call)) arrived
      [.called call said, .moved arrived (giveUp t arrived)] (.ok said) (giveUp t arrived) :=
    passage_guarded.mpr (.call said (.own hserves' (.done _ _)))
  have hpassage : Passage (Steadily client) (gated .whole (Routine.request call)) c
      [.moved c arrived, .passed arrived, .called call said, .moved arrived (giveUp t arrived)]
      (.ok said) (giveUp t arrived) := by
    rw [gated_eq]
    refine .own hserves ?_
    unfold entered
    rw [Cell.gate_of_ready hready]
    refine .await hserves' hsettled ?_
    rw [if_pos hholds]
    exact hrunning
  refine ⟨_, _, _, hpassage, ?_, ⟨_, hleft, hclient, hclosed', hwaiting', hfree'⟩⟩
  refine answered_cons (fun _ _ h => nomatch h) (answered_cons (fun _ _ h => nomatch h) ?_)
  refine answered_cons ?_ (answered_cons (fun _ _ h => nomatch h) answered_nil)
  rintro _ _ ⟨⟩
  rfl

theorem ends_read_bind {f : Cell → Routine Cell α}
    (hf : ∀ c, c.Idle client → Ends client (f c)) : Ends client (Routine.read >>= f) :=
  ends_own (fun _ => rfl) hf

theorem ends_callApi {work : Client → Routine Cell (Except Fault α)}
    (hwork : Ends client (gated .whole (work client))) : Ends client (s.callApi work) := by
  refine ends_read_bind fun c hidle => ?_
  rw [hidle.serves.client_eq]
  refine ends_bind hwork fun result => ?_
  rcases result with e | (_ | _ | _ | _) | a
  case ok.error.unauthorized => exact ends_bind ends_markUnauthorized fun _ => ends_pure _
  all_goals exact ends_pure _

end Session
end HueLink
