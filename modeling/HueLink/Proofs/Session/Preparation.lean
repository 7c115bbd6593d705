-- What a setup does between the points at which others may run: it claims its session, waits for
-- the exchange with the bridge, and then either cannot be loaded any more, or makes the session
-- ready and comes to the lock to say so.
import HueLink.Proofs.Exchange
import HueLink.Proofs.Routine.Stints
import HueLink.Proofs.Session.Rejection
import Mathlib.Data.List.Destutter

namespace HueLink

open Routine

/-- Neither an error in the log nor the wish to pair again. -/
def Query.Silent (q : Query) : Prop := q.isGrave = false ∧ q.relinks = false

namespace Session

variable {s : Session} {client : Client} {l l' l₁ : Ledger Cell} {d : Deed Cell}
  {ds : List (Deed Cell)} {r r₁ r' : Routine Cell SetupOutcome}

/-! ## The states one after another -/

/-- The states in which a session has been, the newest first, each as long as it lasted. -/
def path (l : Ledger Cell) : List SessionState := (l.cells.map Cell.state).destutter (· ≠ ·)

theorem path_of_cells (h : l'.cells = l.cells) : path l' = path l :=
  congrArg (fun cells => (cells.map Cell.state).destutter (· ≠ ·)) h

@[simp] theorem path_ask (q : Query) (l : Ledger Cell) : path (l.ask q) = path l := rfl

theorem path_stays {f : Cell → Cell} (h : (f l.cell).state = l.cell.state) :
    path (l.write f) = path l := by
  change ((f l.cell).state :: l.cell.state :: l.past.map Cell.state).destutter (· ≠ ·) = _
  rw [List.destutter_cons_cons, if_neg (not_not_intro h), h]
  rfl

theorem path_moves {f : Cell → Cell} (h : (f l.cell).state ≠ l.cell.state) :
    path (l.write f) = (f l.cell).state :: path l := by
  change ((f l.cell).state :: l.cell.state :: l.past.map Cell.state).destutter (· ≠ ·) = _
  rw [List.destutter_cons_cons, if_pos h]
  rfl

theorem path_head (l : Ledger Cell) : ∃ before, path l = l.cell.state :: before := by
  change ∃ before, (l.past.map Cell.state).destutter' (· ≠ ·) l.cell.state = _
  induction l.past with
  | nil => exact ⟨[], rfl⟩
  | cons c past ih =>
    rw [List.map_cons, List.destutter'_cons]
    split
    · exact ⟨_, rfl⟩
    · exact ih

/-! ## The parts of a setup -/

/-- A setup that waits for the bridge to accept the username. -/
def awaiting (s : Session) (client : Client) (deadline : Nat) : Routine Cell SetupOutcome :=
  .callBy id deadline (.validate client) fun answer =>
    (HueLink.Conduct.conclude client answer).bind s.answered

theorem setup_locked (s : Session) : s.setup = .lock (.own
    (fun c => if c.state = .uninitialized then { c with state := .authenticating } else c)
    fun before => if decide (before.state = .uninitialized) then
      .ask .locationName fun _ => .ask (.connect s.host (some s.registration.username))
        fun client => .clock fun now => s.awaiting client (now + authLimit)
    else .ask (.note (.alreadySetUp s.host)) fun _ => .done .failed) := by
  rw [setup_eq]
  refine congrArg (fun f => Routine.lock (.own _ f)) (funext fun before => ?_)
  refine if_congr Iff.rfl ?_ rfl
  refine congrArg (Routine.ask .locationName) (funext fun home => ?_)
  rw [HueLink.Conduct.acquire_eq]
  refine congrArg (Routine.ask _) (funext fun client => congrArg Routine.clock ?_)
  refine funext fun now => congrArg (Routine.callBy id _ _) (funext fun answer => ?_)
  rcases answer with _ | answer <;> rfl

/-- The rest of a setup that has made its session ready: the state is still to be written. -/
def closing (s : Session) : Routine Cell SetupOutcome :=
  .lock (.own (fun c => { c with state := .authorized }) fun _ =>
    .ask (.note (.connected s.host)) fun _ => .done .loaded)

/-- What a session has once it is set up with a bridge. -/
def equipped (linked : LinkedBridge) : Ready :=
  let limit := concurrencyLimit linked.config.modelId
  ⟨linked.client, linked.config, limit, .ofPermits limit⟩

/-- What a setup does once it has made its session ready. -/
def hookIn (s : Session) : Routine Cell SetupOutcome :=
  .ask (.forwardSetup s.registration .light) fun _ =>
    .ask (.forwardSetup s.registration .binarySensor) fun _ =>
      .ask (.forwardSetup s.registration .sensor) fun _ => .ask (.registerSceneService s.handle)
        fun _ => .own (fun c => { c with authorized := true }) fun _ => s.closing

theorem load_eq (linked : LinkedBridge) : s.load linked =
    .ask (.note (.modelFound s.host linked.config.modelId
      (concurrencyLimit linked.config.modelId))) fun _ =>
      .own (fun c => { c with ready := c.ready.or (some (equipped linked)) }) fun before =>
        if before.ready.isNone then s.hookIn else .done .failed := by
  refine congrArg (Routine.ask _) (funext fun _ => congrArg (Routine.own _) ?_)
  refine funext fun before => ?_
  change (if before.ready.isNone then _ else _ : Routine Cell SetupOutcome) = _
  cases before.ready.isNone <;> rfl

/-! ## From one pause to the next -/

theorem silent_ask {q : Query} (hq : q.Silent) (h : ∀ q ∈ l.asked, q.Silent) :
    ∀ q' ∈ (l.ask q).asked, q'.Silent :=
  List.forall_mem_append.mpr ⟨h, List.forall_mem_singleton.mpr hq⟩

/-- A new session whose setup has claimed it. -/
structure Claimed (l : Ledger Cell) : Prop where
  cell : l.cell = { Cell.fresh with state := .authenticating }
  path : path l = [.authenticating, .uninitialized]
  asked : ∀ q ∈ l.asked, q.Silent

theorem Claimed.ask {q : Query} (h : Claimed l) (hq : q.Silent) : Claimed (l.ask q) where
  cell := h.cell
  path := h.path
  asked := silent_ask hq h.asked

/-- A session that is ready, with its flag raised; its state is still to be written. -/
structure Readied (client : Client) (l : Ledger Cell) : Prop where
  serves : l.cell.Serves client
  flag : l.cell.authorized = true
  path : path l = [.authenticating, .uninitialized]
  asked : ∀ q ∈ l.asked, q.Silent

/-- The setup will not load its session. -/
abbrev Hopeless (r : Routine Cell SetupOutcome) : Prop := r.Yields (· ≠ .loaded)

theorem stint_load {linked : LinkedBridge} (hl : Claimed l)
    (h : Stint (s.load linked) l ds r' l') : r' = s.closing ∧ Readied linked.client l' := by
  rw [load_eq] at h
  obtain ⟨_, _, h₁, rfl⟩ := stint_ask h
  have hl₁ : Claimed (l.ask (.note (.modelFound s.host linked.config.modelId
      (concurrencyLimit linked.config.modelId)))) := hl.ask ⟨rfl, rfl⟩
  obtain ⟨_, h₂, rfl⟩ := stint_own h₁
  have hready : l.cell.ready = none := congrArg Cell.ready hl.cell
  change Stint (if l.cell.ready.isNone then _ else _) _ _ _ _ at h₂
  rw [if_pos (Option.isNone_iff_eq_none.mpr hready)] at h₂
  obtain ⟨_, _, h₃, rfl⟩ := stint_ask h₂
  obtain ⟨_, _, h₄, rfl⟩ := stint_ask h₃
  obtain ⟨_, _, h₅, rfl⟩ := stint_ask h₄
  obtain ⟨_, _, h₆, rfl⟩ := stint_ask h₅
  obtain ⟨_, h₇, rfl⟩ := stint_own h₆
  obtain ⟨rfl, rfl, rfl⟩ := stint_of_pauses rfl h₇
  refine ⟨rfl, ⟨equipped linked, ?_, rfl, rfl⟩, rfl, ?_, ?_⟩
  · change l.cell.ready.or _ = _
    rw [hready]
    rfl
  · rw [path_stays rfl]
    simp only [path_ask]
    rw [path_stays rfl]
    exact hl₁.path
  · -- The four questions that hook the session in are neither errors nor the wish to pair.
    exact silent_ask ⟨rfl, rfl⟩ <| silent_ask ⟨rfl, rfl⟩ <| silent_ask ⟨rfl, rfl⟩ <|
      silent_ask ⟨rfl, rfl⟩ hl₁.asked

theorem hopeless_answered (e : BridgeError) : Hopeless (s.answered (.error e)) := by
  have hretry : SetupOutcome.retryLater ≠ .loaded := fun h => nomatch h
  cases e with
  | authenticationRequired => exact fun _ _ => fun h => nomatch h
  | cannotConnect | unknown _ | notReady | invalidServiceData _ => exact fun _ _ => hretry

theorem stint_conclude {answer : Option (Except Fault BridgeConfig)} (hl : Claimed l)
    (h : Stint ((HueLink.Conduct.conclude client answer).bind s.answered) l ds r' l') :
    Hopeless r' ∨ (r' = s.closing ∧ Readied client l') := by
  have hhopeless : ∀ {p : Routine Cell (Except BridgeError LinkedBridge)},
      (p.Yields fun r => ∃ e, r = .error e) → Hopeless (p.bind s.answered) := by
    refine fun hp => yields_bind hp ?_
    rintro _ ⟨e, rfl⟩
    exact hopeless_answered e
  rcases answer with _ | fault | config
  · exact Or.inl ((hhopeless (p := .done _) ⟨_, rfl⟩).goes h.goes)
  · refine Or.inl (Yields.goes (hhopeless ?_) h.goes)
    exact yields_bind (yields_any _) fun e _ => ⟨e, rfl⟩
  · obtain ⟨held, _, h₁, rfl⟩ := stint_ask h
    rcases held with _ | held
    · exact Or.inl ((hopeless_answered _).goes h₁.goes)
    · have h₂ : Stint (s.load ⟨client, config, held⟩) _ _ r' l' := h₁
      exact Or.inr (stint_load (hl.ask ⟨rfl, rfl⟩) h₂)

/-! ## Before the session is ready -/

/-- A setup that has not made its session ready, and still may. -/
inductive Unready (s : Session) : Routine Cell SetupOutcome → Ledger Cell → Prop where
  | claiming {l : Ledger Cell} : l.cell = .fresh → path l = [.uninitialized] → l.asked = [] →
      Unready s s.setup l
  | awaiting (client : Client) (deadline : Nat) {l : Ledger Cell} : Claimed l →
      Unready s (s.awaiting client deadline) l

theorem Unready.ready (h : Unready s r l) : l.cell.ready = none := by
  cases h with
  | claiming hcell _ _ => exact congrArg Cell.ready hcell
  | awaiting _ _ hl => exact congrArg Cell.ready hl.cell

/-- To look at the session changes nothing. -/
theorem Unready.look (h : Unready s r l) : Unready s r (l.write fun _ => l.cell) := by
  have hpath : path (l.write fun _ => l.cell) = path l := path_stays rfl
  cases h with
  | claiming hcell hnew hasked => exact .claiming hcell (hpath.trans hnew) hasked
  | awaiting _ _ hl => exact .awaiting _ _ ⟨hl.cell, hpath.trans hl.path, hl.asked⟩

/-- A setup goes on until others may run. Either the session is still not ready, or all that is left
of the setup is to write that the session is authorized, or it will not be loaded. -/
theorem Unready.goes (h : Unready s r l) (hd : Does r d r₁) (hon : d.On l l₁)
    (hs : Stint r₁ l₁ ds r' l') :
    Unready s r' l' ∨ Hopeless r' ∨ (r' = s.closing ∧ ∃ client, Readied client l') := by
  cases h with
  | claiming hcell hnew hasked =>
    rw [setup_locked] at hd
    cases hd
    obtain rfl := hon
    obtain ⟨_, h₁, rfl⟩ := stint_own hs
    have hfree : l₁.cell.state = .uninitialized := congrArg Cell.state hcell
    rw [if_pos (decide_eq_true hfree)] at h₁
    obtain ⟨home, _, h₂, rfl⟩ := stint_ask h₁
    obtain ⟨client, _, h₃, rfl⟩ := stint_ask h₂
    obtain ⟨now, _, h₄, rfl⟩ := stint_clock h₃
    obtain ⟨rfl, rfl, rfl⟩ := stint_of_pauses rfl h₄
    refine Or.inl (.awaiting client _ (Claimed.ask (.ask ?_ ⟨rfl, rfl⟩) ⟨rfl, rfl⟩))
    simp only [if_pos hfree]
    refine ⟨congrArg (fun c : Cell => { c with state := .authenticating }) hcell, ?_, ?_⟩
    · have hmoves : SessionState.authenticating ≠ l₁.cell.state := by
        rw [hfree]
        decide
      rw [path_moves hmoves, hnew]
    · rw [show (l₁.write _).asked = l₁.asked from rfl, hasked]
      exact fun _ hq => nomatch hq
  | awaiting client deadline hl =>
    unfold Session.awaiting at hd
    cases hd with
    | callBy _ _ _ _ answer =>
      obtain rfl := hon
      rcases stint_conclude hl hs with hhopeless | ⟨hr, hready⟩
      · exact Or.inr (Or.inl hhopeless)
      · exact Or.inr (Or.inr ⟨hr, client, hready⟩)

end Session
end HueLink
