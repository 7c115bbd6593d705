-- A session that is used while its one setup is still at work, with all that its uses have done.
-- Others may run wherever the setup or a use waits, and where one of them has come to the lock of
-- the session. Uses that come before the session is ready are turned away.
import HueLink.Proofs.Routine.Stints
import HueLink.Proofs.Session.Chronicle
import Mathlib.Logic.Relation

namespace HueLink

open Routine

namespace Session

/-! ## One setup and its uses -/

/-- A new session whose setup has just come to its lock. -/
def begun (s : Session) : Moment Cell := ⟨.opened .fresh, [⟨s.setup, .fresh, some s.setup⟩]⟩

/-- What happens from then on: the setup goes on until others may run, or is given up while it
waits; a use is begun and goes on until others may run, goes on again, or is given up. -/
inductive Opening (s : Session) :
    Ledger Cell → Option (Routine Cell SetupOutcome) → List Pursuit → Prop where
  | start : Opening s (.opened .fresh) (some s.setup) []
  | setup {l l₁ l' : Ledger Cell} {r r₁ r' : Routine Cell SetupOutcome} {ps : List Pursuit}
    {d : Deed Cell} {ds : List (Deed Cell)} : Opening s l (some r) ps → Does r d r₁ → d.On l l₁ →
      Stint r₁ l₁ ds r' l' → Opening s l' (some r') ps
  | quit {l : Ledger Cell} {r : Routine Cell SetupOutcome} {ps : List Pursuit}
    {undo : Cell → Cell} : Opening s l (some r) ps → r.onDrop = some undo →
      Opening s (l.write undo) none ps
  | begin {l l' : Ledger Cell} {rest : Option (Routine Cell SetupOutcome)} {ps : List Pursuit}
    (use : Use) {p' : Routine Cell (Except BridgeError use.Value)} {ds : List (Deed Cell)} :
      Opening s l rest ps → use.Mild → Stint (use.routine s) l ds p' l' →
      Opening s l' rest (ps ++ [⟨use, l.cell, some p', ds⟩])
  | act {l l₁ l' : Ledger Cell} {rest : Option (Routine Cell SetupOutcome)}
    {before after : List Pursuit} {use : Use} {since : Cell}
    {p p₁ p' : Routine Cell (Except BridgeError use.Value)} {diary ds : List (Deed Cell)}
    {d : Deed Cell} : Opening s l rest (before ++ ⟨use, since, some p, diary⟩ :: after) →
      Does p d p₁ → d.On l l₁ → Stint p₁ l₁ ds p' l' →
      Opening s l' rest (before ++ ⟨use, since, some p', diary ++ d :: ds⟩ :: after)
  | drop {l : Ledger Cell} {rest : Option (Routine Cell SetupOutcome)}
    {before after : List Pursuit} {use : Use} {since : Cell}
    {p : Routine Cell (Except BridgeError use.Value)} {diary : List (Deed Cell)}
    {undo : Cell → Cell} : Opening s l rest (before ++ ⟨use, since, some p, diary⟩ :: after) →
      p.onDrop = some undo →
      Opening s (l.write undo) rest (before ++ ⟨use, since, none, diary⟩ :: after)

variable {s : Session} {client : Client} {l l' : Ledger Cell}
  {rest : Option (Routine Cell SetupOutcome)} {ps before after : List Pursuit} {use : Use}
  {since : Cell} {p p' : Routine Cell (Except BridgeError use.Value)}
  {diary ds : List (Deed Cell)} {x : Moment Cell}

/-- All tasks there are: the setup, and the uses. -/
def tasks (s : Session) (rest : Option (Routine Cell SetupOutcome)) (ps : List Pursuit) :
    List (Task Cell) := ⟨s.setup, .fresh, rest⟩ :: ps.map (Pursuit.task s)

theorem tasks_append : s.tasks rest (before ++ after) =
    s.tasks rest before ++ after.map (Pursuit.task s) :=
  congrArg (_ :: ·) List.map_append

/-- Whatever the turns of one setup and of uses lead to, what they have done is known. -/
theorem opening_of_turns (h : Relation.ReflTransGen (Turn .atLocks s.Busy) s.begun x) :
    ∃ rest ps, s.Opening x.ledger rest ps ∧ x.tasks = s.tasks rest ps := by
  induction h with
  | refl => exact ⟨some s.setup, [], .start, rfl⟩
  | tail _ ht ih =>
    obtain ⟨rest, ps, hps, htasks⟩ := ih
    cases ht with
    | arrive hp hs =>
      obtain ⟨ds, hs⟩ := stretch_iff_stint.mp hs
      obtain rfl := htasks
      cases hp with
      | use use hmild =>
        refine ⟨rest, _, .begin use hps hmild hs, ?_⟩
        rw [tasks_append]
        rfl
    | resume hstep hs =>
      obtain ⟨d, hdoes, hon⟩ := step_iff_does.mp hstep
      obtain ⟨ds, hs⟩ := stretch_iff_stint.mp hs
      obtain ⟨rfl, heq⟩ | ⟨before, rfl, heq⟩ := List.append_eq_cons_iff.mp htasks
      · obtain ⟨htask, rfl⟩ := List.cons.inj heq
        cases htask
        exact ⟨_, ps, .setup hps hdoes hon hs, rfl⟩
      · obtain ⟨before, after, use, p, diary, rfl, htask, rfl, rfl⟩ := exists_pursuit heq
        cases htask
        refine ⟨rest, _, .act hps hdoes hon hs, ?_⟩
        rw [tasks_append]
        rfl
    | drop hundo =>
      obtain ⟨rfl, heq⟩ | ⟨before, rfl, heq⟩ := List.append_eq_cons_iff.mp htasks
      · obtain ⟨htask, rfl⟩ := List.cons.inj heq
        cases htask
        exact ⟨none, ps, .quit hps hundo, rfl⟩
      · obtain ⟨before, after, use, p, diary, rfl, htask, rfl, rfl⟩ := exists_pursuit heq
        cases htask
        refine ⟨rest, _, .drop hps hundo, ?_⟩
        rw [tasks_append]
        rfl

theorem turns_of_opening (h : s.Opening l rest ps) :
    Relation.ReflTransGen (Turn .atLocks s.Busy) s.begun ⟨l, s.tasks rest ps⟩ := by
  induction h with
  | start => exact .refl
  | setup _ hdoes hon hs ih =>
    exact ih.tail (@Turn.resume _ _ _ _ _ _ _ _ _ _ _ _ [] _
      (step_iff_does.mpr ⟨_, hdoes, hon⟩) (stretch_iff_stint.mpr ⟨_, hs⟩))
  | quit _ hundo ih => exact ih.tail (@Turn.drop _ _ _ _ _ _ _ _ _ [] _ hundo)
  | begin use _ hmild hs ih =>
    rw [tasks_append]
    exact ih.tail (.arrive (.use use hmild) (stretch_iff_stint.mpr ⟨_, hs⟩))
  | act _ hdoes hon hs ih =>
    rw [tasks_append] at ih ⊢
    exact ih.tail (.resume (step_iff_does.mpr ⟨_, hdoes, hon⟩) (stretch_iff_stint.mpr ⟨_, hs⟩))
  | drop _ hundo ih =>
    rw [tasks_append] at ih ⊢
    exact ih.tail (.drop hundo)

theorem reached_of_turns (h : Relation.ReflTransGen (Turn .atLocks s.Busy) s.begun x) :
    Reached .atLocks s.Usage .fresh x := by
  induction h with
  | refl => exact .turn .start (.arrive .setup (.rest rfl))
  | tail _ ht ih => exact .turn ih (ht.mono fun _ _ => usage_of_busy)

theorem undo_of_opening {undo : Cell → Cell}
    (h : s.Opening l rest (before ++ ⟨use, since, some p, diary⟩ :: after))
    (hundo : p.onDrop = some undo) : ∃ tickets, undo = giveUpAll tickets := by
  obtain ⟨held, haccount⟩ := account_of_reached (reached_of_turns (turns_of_opening h)).anywhere
  rw [tasks_append] at haccount
  exact undo_of_account haccount hundo

/-! ## Uses before the session is ready -/

/-- A use that came before the session was ready. It had its answer at once. -/
structure TurnedAway (pursuit : Pursuit) : Prop where
  since : pursuit.since.ready.isSome = false
  rest : pursuit.rest = some (.done (.error .notReady))
  diary : pursuit.diary = [.event (.moved pursuit.since pursuit.since)]

theorem stint_unready (hready : l.cell.ready = none) (h : Stint (use.routine s) l ds p' l') :
    p' = .done (.error .notReady) ∧ ds = [.event (.moved l.cell l.cell)] ∧
      l' = l.write fun _ => l.cell := by
  have hclient : l.cell.client = .error .notReady := by
    unfold Cell.client
    rw [hready]
  cases use with
  | call work =>
    change Stint (s.callApi work) l ds p' l' at h
    rw [callApi_eq] at h
    obtain ⟨_, h₁, rfl⟩ := stint_own h
    rw [hclient] at h₁
    obtain ⟨rfl, rfl, rfl⟩ := stint_of_pauses rfl h₁
    exact ⟨rfl, rfl, rfl⟩
  | scene groupName sceneName =>
    obtain ⟨_, h₁, rfl⟩ := stint_own h
    simp only [Routine.bind, hclient] at h₁
    obtain ⟨rfl, rfl, rfl⟩ := stint_of_pauses rfl h₁
    exact ⟨rfl, rfl, rfl⟩

/-- Whoever was turned away was not rejected by the bridge. -/
theorem TurnedAway.not_rejected {pursuit : Pursuit} (h : TurnedAway pursuit) :
    ¬ pursuit.Rejected client := by
  obtain ⟨_, _, hdiary⟩ := h
  obtain ⟨use, since, rest, diary⟩ := pursuit
  change diary = [.event (.moved since since)] at hdiary
  subst hdiary
  cases use with
  | call work => exact not_heard_entering (show 1 < 3 by decide)
  | scene groupName sceneName =>
    exact not_hasRefusal (List.forall_mem_singleton.mpr ⟨.stay, rfl⟩)

/-- The uses that found the session ready. -/
def heeded (ps : List Pursuit) : List Pursuit := ps.filter (·.since.ready.isSome)

theorem heeded_of_turnedAway (h : ∀ pursuit ∈ ps, TurnedAway pursuit) : heeded ps = [] :=
  List.filter_eq_nil_iff.mpr fun pursuit hmem => by rw [(h pursuit hmem).since]; decide

end Session
end HueLink
