-- What a completed flow hands over. Whatever way a flow was entered, an entry comes from the end of
-- a step, where nothing is waited for, so the records it replaces are those of the store at that
-- moment.
import HueLink.Pairing.Steps
import HueLink.Routine.Run

namespace HueLink.Pairing

open Routine

/-- A way into a flow, with what it is told. -/
inductive Entrance where
  | user (selection : Option HostSelection)
  | init (selection : Option HostSelection)
  | link (submitted : Bool)
  | ssdp (info : SsdpInfo)
  | homekit (info : HomekitInfo)
  | known (info : ImportInfo)

/-- The step behind an entrance. -/
def Entrance.step : Entrance → Step FlowResult
  | user selection => stepUser selection
  | init selection => stepInit selection
  | link submitted => stepLink submitted
  | ssdp info => stepSsdp info
  | homekit info => stepHomekit info
  | known info => stepImport info

variable {α ω : Type} {o : Outside ω} {p : Place Flow ω} {store : ω → List Registration}

/-- The surroundings answer with the store they have, and neither a question nor a move of the flow
changes it. What happens while a call is under way may change it. -/
structure ShowsStore (o : Outside ω) (p : Place Flow ω) (store : ω → List Registration) : Prop where
  shown : ∀ w, (o.answer .registrations w).1 = store w
  asked : ∀ q w, store (o.answer q w).2 = store w
  moved : ∀ f w, store (p.update f w) = store w

/-- An entry the step answers replaces the records that its registration displaces in the store at
the end of the step. -/
def AnswersCurrent (o : Outside ω) (p : Place Flow ω) (store : ω → List Registration)
    (r : Step FlowResult) : Prop :=
  ∀ t w e, (r.run o p t w).result = some (.entry e) →
    e.replaces = e.registration.displaced (store (r.run o p t w).world)

/-! ## Steps in sequence -/

theorem answersCurrent_bind (r : Step α) (f : α → Step FlowResult)
    (h : ∀ a, AnswersCurrent o p store (f a)) : AnswersCurrent o p store (r >>= f) := by
  intro t w e he
  rw [bind_eq, run_bind] at he ⊢
  rcases hr : (r.run o p t w).result with _ | a
  · simp [Outcome.andThen, hr] at he
  · simp only [Outcome.andThen, hr] at he ⊢
    exact h a _ _ e he

theorem answersCurrent_pure {x : FlowResult} (h : ∀ e, x ≠ .entry e) :
    AnswersCurrent o p store (pure x : Step FlowResult) := by
  intro t w e he
  simp only [pure_eq, run, Option.some.injEq] at he
  exact absurd he (h e)

theorem answersCurrent_abort (reason : AbortReason) : AnswersCurrent o p store (abort reason) :=
  answersCurrent_bind _ _ fun _ => answersCurrent_bind _ _ fun _ => answersCurrent_bind _ _ fun _ =>
    answersCurrent_pure (by simp)

/-! ## The end of a flow -/

/-- Notes leave the store as it is. -/
theorem run_forM_note (hs : ShowsStore o p store) (lines : List α) (line : α → Notice)
    (f : Unit → Step FlowResult) (t : Nat) (w : ω) :
    ∃ w', store w' = store w ∧
      ((lines.forM fun a => (Routine.note (line a) : Step Unit)) >>= f).run o p t w =
        (f ()).run o p t w' := by
  induction lines generalizing w with
  | nil => exact ⟨w, rfl, rfl⟩
  | cons a lines ih =>
    obtain ⟨w', hw', hrun⟩ := ih (o.answer (.note (line a)) w).2
    refine ⟨w', hw'.trans (hs.asked _ w), ?_⟩
    rw [List.forM, bind_assoc]
    exact hrun

theorem answersCurrent_entryFor (hs : ShowsStore o p store) (linked : LinkedBridge) :
    AnswersCurrent o p store (entryFor linked) := by
  refine answersCurrent_bind _ _ fun bridgeId => answersCurrent_bind _ _ fun _ =>
    answersCurrent_bind _ _ fun host => ?_
  -- From here on the store is read and nothing is waited for.
  intro t w e he
  let registration : Registration := ⟨host, bridgeId, linked.username⟩
  obtain ⟨w', hw', hrun⟩ := run_forM_note hs
    (registration.displaced (o.answer .registrations w).1)
    (fun stale => Notice.replacing stale.host)
    (fun _ => do
      enter .complete
      pure (.entry ⟨linked.config.name, registration,
        registration.displaced (o.answer .registrations w).1⟩)) t (o.answer .registrations w).2
  rw [show (Routine.run o p (Routine.query .registrations >>= _) t w) = _ from hrun] at he ⊢
  simp only [enter, Routine.modify, bind_eq, Routine.bind, pure_eq, run, Option.some.injEq,
    FlowResult.entry.injEq] at he ⊢
  subst he
  rw [hs.moved, hw', hs.asked, hs.shown]

/-! ## The steps -/

theorem answersCurrent_stepLink (hs : ShowsStore o p store) (submitted : Bool) :
    AnswersCurrent o p store (stepLink submitted) := by
  refine answersCurrent_bind _ _ fun _ => answersCurrent_bind _ _ fun flow => ?_
  split
  · exact answersCurrent_bind _ _ fun _ => answersCurrent_abort _
  · refine answersCurrent_bind _ _ fun home => answersCurrent_bind _ _ fun ended => ?_
    split
    · exact answersCurrent_entryFor hs _
    · exact answersCurrent_pure (by simp)
    · exact answersCurrent_bind _ _ fun _ => answersCurrent_pure (by simp)
    · exact answersCurrent_bind _ _ fun _ => answersCurrent_pure (by simp)

theorem answersCurrent_linkHost (hs : ShowsStore o p store) (host : String) :
    AnswersCurrent o p store (linkHost host) :=
  answersCurrent_bind _ _ fun _ => answersCurrent_stepLink hs false

theorem answersCurrent_offer (hs : ShowsStore o p store) (bridges : List DiscoveredBridge) :
    AnswersCurrent o p store (offer bridges) := by
  refine answersCurrent_bind _ _ fun _ => ?_
  split
  · exact answersCurrent_abort _
  · refine answersCurrent_bind _ _ fun known => ?_
    split
    · exact answersCurrent_abort _
    · exact answersCurrent_linkHost hs _
    · exact answersCurrent_pure (by simp)

theorem answersCurrent_stepInit (hs : ShowsStore o p store) (selection : Option HostSelection) :
    AnswersCurrent o p store (stepInit selection) := by
  refine answersCurrent_bind _ _ fun _ => ?_
  split
  · exact answersCurrent_linkHost hs _
  · refine answersCurrent_bind _ _ fun found => ?_
    split
    · exact answersCurrent_abort _
    · exact answersCurrent_bind _ _ fun _ => answersCurrent_abort _
    · exact answersCurrent_offer hs _

theorem answersCurrent_stepImport (hs : ShowsStore o p store) (info : ImportInfo) :
    AnswersCurrent o p store (stepImport info) := by
  refine answersCurrent_bind _ _ fun _ => answersCurrent_bind _ _ fun _ =>
    answersCurrent_bind _ _ fun legacy => answersCurrent_bind _ _ fun home =>
    answersCurrent_bind _ _ fun ended => ?_
  split
  · exact answersCurrent_bind _ _ fun _ => answersCurrent_entryFor hs _
  · exact answersCurrent_bind _ _ fun _ => answersCurrent_bind _ _ fun _ =>
      answersCurrent_stepLink hs false
  · exact answersCurrent_bind _ _ fun _ => answersCurrent_abort _
  · exact answersCurrent_bind _ _ fun _ => answersCurrent_abort _

theorem answersCurrent_claimAndImport (hs : ShowsStore o p store) (host announcedId : String)
    (path : Option String) : AnswersCurrent o p store (claimAndImport host announcedId path) := by
  refine answersCurrent_bind _ _ fun _ => answersCurrent_bind _ _ fun claimed => ?_
  split
  · exact answersCurrent_abort _
  · refine answersCurrent_bind _ _ fun id => answersCurrent_bind _ _ fun taken => ?_
    split
    · exact answersCurrent_abort _
    · exact answersCurrent_stepImport hs _

/-- Whatever way a flow is entered, the entry it answers replaces what its registration displaces in
the store of that moment. -/
theorem answersCurrent_step (hs : ShowsStore o p store) (entrance : Entrance) :
    AnswersCurrent o p store entrance.step := by
  cases entrance with
  | user selection => exact answersCurrent_stepInit hs selection
  | init selection => exact answersCurrent_stepInit hs selection
  | link submitted => exact answersCurrent_stepLink hs submitted
  | ssdp info =>
    refine answersCurrent_bind _ _ fun _ => ?_
    split
    · exact answersCurrent_claimAndImport hs _ _ _
    · exact answersCurrent_abort _
  | homekit info => exact answersCurrent_bind _ _ fun _ => answersCurrent_claimAndImport hs _ _ _
  | known info => exact answersCurrent_stepImport hs info

/-! ## Completions -/

/-- A step of some flow can answer this entry at a moment at which the store is this one. What the
step meets before, and how long it takes, is open. -/
def Completes (store : List Registration) (e : Entry) : Prop :=
  ∃ (ω : Type) (o : Outside ω) (p : Place Flow ω) (view : ω → List Registration)
    (entrance : Entrance) (t : Nat) (w : ω), ShowsStore o p view ∧
      (entrance.step.run o p t w).result = some (.entry e) ∧
      view (entrance.step.run o p t w).world = store

theorem Completes.replaces_eq {kept : List Registration} {e : Entry} (h : Completes kept e) :
    e.replaces = e.registration.displaced kept := by
  obtain ⟨ω, o, p, view, entrance, t, w, hs, he, rfl⟩ := h
  exact answersCurrent_step hs entrance t w e he

end HueLink.Pairing
