-- The life of a session, whatever tasks do with it, however the bridge behaves, and in whatever
-- order the tasks take turns. Its state, its flag, what it keeps, and what it asked the host for go
-- together at every moment, since only one task ever holds the claim to set it up.
import HueLink.Proofs.Routine.Upholding
import HueLink.Proofs.Session.Usage
import Mathlib.Algebra.Group.Nat.Defs
import Mathlib.Data.List.Chain

namespace HueLink

open Routine

/-- The ways in which the state of a session may move. -/
inductive SessionState.Move : SessionState → SessionState → Prop where
  | claim : Move uninitialized authenticating
  | load : Move authenticating authorized
  | refuse : Move authenticating authFailed
  | miss : Move authenticating connFailed
  | expel : Move authorized authFailed

/-- What a session that is set up knows for good. -/
def Cell.facts (c : Cell) : Option (Client × BridgeConfig × Nat) :=
  c.ready.map fun r => (r.client, r.config, r.limit)

/-- What a session keeps, without its gate and without whether the bridge can be reached. -/
structure Face where
  state : SessionState
  authorized : Bool
  facts : Option (Client × BridgeConfig × Nat)

def Cell.face (c : Cell) : Face := ⟨c.state, c.authorized, c.facts⟩

namespace Session

/-- What a session asks the host for when it is set up, in this order. -/
def hooks (s : Session) : List Query :=
  Platform.all.map (Query.forwardSetup s.registration) ++ [.registerSceneService s.handle]

/-! ## Phases -/

/-- The phases of a session. A username may be refused at once, or rejected later on. -/
inductive Phase where
  | fresh | claimed | unreachable | refused | loaded | expelled
deriving DecidableEq

namespace Phase

def state : Phase → SessionState
  | fresh => .uninitialized
  | claimed => .authenticating
  | unreachable => .connFailed
  | refused | expelled => .authFailed
  | loaded => .authorized

/-- The session is or was authorized. -/
def hooked : Phase → Bool
  | loaded | expelled => true
  | fresh | claimed | unreachable | refused => false

/-- The bridge has to be paired again. -/
def relinked : Phase → Bool
  | refused | expelled => true
  | fresh | claimed | unreachable | loaded => false

end Phase

/-- What a session keeps and kept, the newest first, and what it asked, as it has to be
in a phase. -/
structure Kept (s : Session) (ph : Phase) (now : Face) (past : List Face) (asked : List Query) :
    Prop where
  state : now.state = ph.state
  flag : now.authorized = decide (ph = .loaded)
  facts : now.facts.isSome = ph.hooked
  moves : ((now :: past).map (·.state)).IsChain fun new old => old = new ∨ old.Move new
  been : .authorized ∈ (now :: past).map (·.state) ↔ ph.hooked = true
  flags : ∃ a b c, (now :: past).map (·.authorized) =
    .replicate a false ++ .replicate b true ++ .replicate c false ∧
      (a = 0 ∨ ph = .expelled) ∧ (b = 0 ∨ ph.hooked = true)
  same : ∀ old ∈ now :: past, old.facts.isSome → old.facts = now.facts
  relinks : asked.filter Query.relinks = if ph.relinked then [.startPairing s.host] else []
  hooks : asked.filter Query.hooksIn = if ph.hooked then s.hooks else []

namespace Kept

variable {s : Session} {ph : Phase} {now : Face} {past : List Face} {asked : List Query}

theorem opened : s.Kept .fresh Cell.fresh.face [] [] where
  state := rfl
  flag := rfl
  facts := rfl
  moves := by simp
  been := by simp [Cell.fresh, Cell.face, Phase.hooked]
  flags := ⟨0, 0, 1, rfl, Or.inl rfl, Or.inl rfl⟩
  same := by simp
  relinks := rfl
  hooks := rfl

theorem stay (h : s.Kept ph now past asked) : s.Kept ph now (now :: past) asked where
  state := h.state
  flag := h.flag
  facts := h.facts
  moves := by
    rw [List.map_cons, List.map_cons, List.isChain_cons_cons]
    exact ⟨Or.inl rfl, h.moves⟩
  been := by
    rw [← h.been]
    simp
  flags := by
    obtain ⟨a, b, c, hflags, ha, hb⟩ := h.flags
    rw [List.map_cons, hflags, h.flag]
    -- The repeated flag belongs to the newest run of equal flags, and the phase tells which run
    -- that is.
    by_cases hl : ph = .loaded
    · have ha : a = 0 := by simpa [hl] using ha
      refine ⟨0, b + 1, c, ?_, Or.inl rfl, Or.inr (by rw [hl]; rfl)⟩
      simp [hl, ha, List.replicate_succ]
    · by_cases he : ph = .expelled
      · exact ⟨a + 1, b, c, by simp [hl, List.replicate_succ], Or.inr he, hb⟩
      · have ha : a = 0 := by simpa [he] using ha
        have hh : ph.hooked = false := by
          cases ph <;> first | rfl | exact absurd rfl hl | exact absurd rfl he
        have hb : b = 0 := by simpa [hh] using hb
        exact ⟨0, 0, c + 1, by simp [hl, ha, hb, List.replicate_succ], Or.inl rfl, Or.inl rfl⟩
  same := List.forall_mem_cons.mpr ⟨fun _ => rfl, h.same⟩
  relinks := h.relinks
  hooks := h.hooks

theorem ask {q : Query} (hhooks : q.hooksIn = false) (hrelinks : q.relinks = false)
    (h : s.Kept ph now past asked) : s.Kept ph now past (asked ++ [q]) :=
  { h with
    relinks := by rw [List.filter_append, h.relinks]; simp [hrelinks]
    hooks := by rw [List.filter_append, h.hooks]; simp [hhooks] }

/-- A move between phases in neither of which the session is hooked into the host. -/
theorem fail {ph' : Phase} {asked' : List Query} (h : s.Kept ph now past asked)
    (hmove : ph.state.Move ph'.state) (hu : ph.hooked = false) (hu' : ph'.hooked = false)
    (hrelinks : asked'.filter Query.relinks = if ph'.relinked then [.startPairing s.host] else [])
    (hhooks : asked'.filter Query.hooksIn = asked.filter Query.hooksIn) :
    s.Kept ph' { now with state := ph'.state } (now :: past) asked' := by
  have hflag : now.authorized = false := by
    rw [h.flag, decide_eq_false_iff_not]
    rintro rfl
    exact nomatch hu
  have hl : ph' ≠ .loaded := by
    rintro rfl
    exact nomatch hu'
  have hl' : ph'.state ≠ .authorized := by
    cases ph' <;> first | exact absurd rfl hl | exact fun h => nomatch h
  refine ⟨rfl, by rw [hflag]; simp [hl], by rw [h.facts, hu, hu'], ?_, ?_, ?_, ?_, hrelinks, ?_⟩
  · rw [List.map_cons, List.map_cons, List.isChain_cons_cons, h.state]
    exact ⟨Or.inr hmove, by simpa only [List.map_cons, h.state] using h.moves⟩
  · have hbeen : .authorized ∉ (now :: past).map (·.state) := fun hb => by
      simpa [hu] using h.been.mp hb
    rw [List.map_cons, List.mem_cons, hu']
    exact iff_of_false (fun h => h.elim (fun he => hl' he.symm) hbeen) (by decide)
  · obtain ⟨a, b, c, hflags, ha, hb⟩ := h.flags
    have ha : a = 0 := ha.elim id fun he => by rw [he] at hu; exact nomatch hu
    have hb : b = 0 := hb.elim id fun hb => by rw [hu] at hb; exact nomatch hb
    refine ⟨0, 0, c + 1, ?_, Or.inl rfl, Or.inl rfl⟩
    rw [List.map_cons, hflags]
    simp [hflag, ha, hb, List.replicate_succ]
  · exact List.forall_mem_cons.mpr ⟨fun _ => rfl, h.same⟩
  · rw [hhooks, h.hooks, hu, hu']

theorem claim (h : s.Kept .fresh now past asked) :
    s.Kept .claimed { now with state := .authenticating } (now :: past) asked :=
  h.fail .claim rfl rfl h.relinks rfl

theorem refuse (h : s.Kept .claimed now past asked) :
    s.Kept .refused { now with state := .authFailed } (now :: past)
      (asked ++ [.startPairing s.host]) := by
  refine h.fail .refuse rfl rfl ?_ ?_
  · rw [List.filter_append, h.relinks]
    rfl
  · rw [List.filter_append]
    exact List.append_nil _

theorem miss (h : s.Kept .claimed now past asked) :
    s.Kept .unreachable { now with state := .connFailed } (now :: past) asked :=
  h.fail .miss rfl rfl h.relinks rfl

/-- The session is hooked into the host: it first gets to know what it will know for good. -/
theorem load (facts : Client × BridgeConfig × Nat) (h : s.Kept .claimed now past asked) :
    s.Kept .loaded ⟨.authorized, true, some facts⟩
      (⟨.authenticating, true, some facts⟩ :: ⟨.authenticating, false, some facts⟩ :: now :: past)
      (asked ++ s.hooks) := by
  have hnone : ∀ old ∈ now :: past, old.facts = none := by
    intro old hold
    have hnow : now.facts = none := by simpa [Phase.hooked] using h.facts
    by_contra hsome
    exact hsome (hnow ▸ h.same old hold (Option.isSome_iff_ne_none.mpr hsome))
  refine ⟨rfl, rfl, rfl, ?_, ?_, ?_, ?_, ?_, ?_⟩
  · have hmoves := h.moves
    have hstate : now.state = .authenticating := h.state
    simp only [List.map_cons, List.isChain_cons_cons, hstate] at hmoves ⊢
    exact ⟨Or.inr .load, Or.inl trivial, Or.inl trivial, hmoves⟩
  · simp [Phase.hooked]
  · obtain ⟨a, b, c, hflags, ha, hb⟩ := h.flags
    have ha : a = 0 := by simpa using ha
    have hb : b = 0 := by simpa [Phase.hooked] using hb
    refine ⟨0, 2, c + 1, ?_, Or.inl rfl, Or.inr rfl⟩
    rw [List.map_cons, List.map_cons, List.map_cons, hflags]
    simp [ha, hb, List.replicate_succ]
  · rw [List.forall_mem_cons, List.forall_mem_cons]
    refine ⟨fun _ => rfl, fun _ => rfl,
      List.forall_mem_cons.mpr ⟨fun _ => rfl, fun old hold hsome => ?_⟩⟩
    rw [hnone old hold] at hsome
    exact nomatch hsome
  · rw [List.filter_append, h.relinks]
    rfl
  · rw [List.filter_append, h.hooks]
    rfl

/-- The bridge rejects the username: first the flag goes, then the state. -/
theorem expel (h : s.Kept .loaded now past asked) :
    s.Kept .expelled { now with state := .authFailed, authorized := false }
      ({ now with authorized := false } :: now :: past) (asked ++ [.startPairing s.host]) := by
  refine ⟨rfl, rfl, h.facts, ?_, ?_, ?_, ?_, ?_, ?_⟩
  · have hmoves := h.moves
    have hstate : now.state = .authorized := h.state
    simp only [List.map_cons, List.isChain_cons_cons, hstate] at hmoves ⊢
    exact ⟨Or.inr .expel, Or.inl trivial, hmoves⟩
  · have hstate : now.state = .authorized := h.state
    simp [hstate, Phase.hooked]
  · obtain ⟨a, b, c, hflags, ha, hb⟩ := h.flags
    have ha : a = 0 := by simpa using ha
    refine ⟨2, b, c, ?_, Or.inr rfl, Or.inr rfl⟩
    rw [List.map_cons, List.map_cons, hflags]
    simp [ha, List.replicate_succ]
  · exact List.forall_mem_cons.mpr ⟨fun _ => rfl, List.forall_mem_cons.mpr ⟨fun _ => rfl, h.same⟩⟩
  · rw [List.filter_append, h.relinks]
    rfl
  · rw [List.filter_append, h.hooks]
    rfl

end Kept

/-! ## What every use of a session upholds -/

/-- A session is in some phase, and only while it is being set up is there a claim to it. -/
def Course (s : Session) (claims : Nat) (l : Ledger Cell) : Prop :=
  ∃ ph, s.Kept ph l.cell.face (l.past.map Cell.face) l.asked ∧
    (claims = 0 ∨ claims = 1 ∧ ph = .claimed)

variable {s : Session} {claims : Nat} {l : Ledger Cell}

theorem course_opened : s.Course 0 (.opened Cell.fresh) := ⟨.fresh, Kept.opened, Or.inl rfl⟩

theorem course_of_claim (h : s.Course (1 + claims) l) : s.Course claims l := by
  obtain ⟨ph, hkept, hclaims⟩ := h
  exact ⟨ph, hkept, Or.inl (by omega)⟩

theorem claimed_of_course (h : s.Course (1 + claims) l) :
    s.Kept .claimed l.cell.face (l.past.map Cell.face) l.asked ∧ claims = 0 := by
  obtain ⟨ph, hkept, hclaims | ⟨hclaims, rfl⟩⟩ := h
  · omega
  · exact ⟨hkept, by omega⟩

theorem course_ask {q : Query} (hhooks : q.hooksIn = false) (hrelinks : q.relinks = false)
    (h : s.Course claims l) : s.Course claims (l.ask q) := by
  obtain ⟨ph, hkept, hclaims⟩ := h
  exact ⟨ph, hkept.ask hhooks hrelinks, hclaims⟩

theorem course_write {f : Cell → Cell} (hf : (f l.cell).face = l.cell.face)
    (h : s.Course claims l) : s.Course claims (l.write f) := by
  obtain ⟨ph, hkept, hclaims⟩ := h
  refine ⟨ph, ?_, hclaims⟩
  rw [Ledger.cell_write, hf]
  exact hkept.stay

theorem course_amend {f : Cell → Cell} (hf : (f l.cell).face = l.cell.face)
    (h : s.Course claims l) : s.Course claims (l.amend f) := by
  obtain ⟨ph, hkept, hclaims⟩ := h
  exact ⟨ph, by simpa only [Ledger.amend, hf] using hkept, hclaims⟩

theorem face_mapGate (f : Semaphore → Semaphore) (c : Cell) : (c.mapGate f).face = c.face := by
  unfold Cell.mapGate Cell.face Cell.facts
  rcases c.ready with _ | r <;> rfl

/-- A routine that keeps a session on its course beside any others. -/
def KeepsCourse {α : Type} (s : Session) (p : Routine Cell α) : Prop :=
  p.Preserves .atWaits s.Course

theorem keepsCourse_outward {α : Type} {p : Routine Cell α} (hp : p.Outward) : s.KeepsCourse p := by
  have hkeep : ∀ f ∈ some (id : Cell → Cell), ∀ claims l, s.Course claims l →
      s.Course claims (l.write f) := by
    intro f hf claims l h
    obtain rfl := Option.mem_some_iff.mp hf
    exact course_write rfl h
  induction hp with
  | done a => exact fun claims l h => h
  | clock _ ih => exact fun claims l h t => ih t claims l h
  | ask hhooks hrelinks _ ih =>
    exact fun claims l h a => ih a claims _ (course_ask hhooks hrelinks h)
  | call _ ih => exact fun claims l h => Pause.empty h hkeep fun claims l h a => ih a claims l h
  | callBy _ ih => exact fun claims l h => Pause.empty h hkeep fun claims l h a => ih a claims l h

/-- A gated call upholds whatever its work upholds, if that does not speak of the gate. -/
theorem preserves_gated {ρ α : Type} [AddCommMonoid ρ] {inv : ρ → Ledger Cell → Prop}
    (hwrite : ∀ f others l, inv others l → inv others (l.write (Cell.mapGate f)))
    (hamend : ∀ f others l, inv others l → inv others (l.amend (Cell.mapGate f)))
    {work : Routine Cell α} (hwork : work.Preserves .atWaits inv) :
    (gated .whole work).Preserves .atWaits inv := by
  intro others l h
  have harrive := hwrite Semaphore.arrive others l h
  rw [gated_eq]
  change (entered work l.cell).Upholds .atWaits inv (fun _ => inv) others _
  unfold entered
  rcases l.cell.gate? with _ | gate
  · exact harrive
  refine Pause.empty harrive (fun f hf others l h => ?_) fun others l h hok => ?_
  · obtain rfl := Option.mem_some_iff.mp hf
    exact hwrite _ _ _ h
  dsimp only
  split
  · apply Upholds.guarded_of_blind fun others l h => hamend _ _ _ h
    rw [upholds_bind]
    exact (hwork others l h).mono fun a others l h => hwrite _ _ _ h
  · exact h

theorem keepsCourse_gated {α : Type} {work : Routine Cell α} (hwork : s.KeepsCourse work) :
    s.KeepsCourse (gated .whole work) :=
  preserves_gated (fun _ _ _ h => course_write (face_mapGate _ _) h)
    (fun _ _ _ h => course_amend (face_mapGate _ _) h) hwork

theorem keepsCourse_markUnauthorized : s.KeepsCourse s.markUnauthorized := by
  intro claims l h
  unfold markUnauthorized
  change Routine.Upholds .atWaits s.Course (fun _ => s.Course)
    (if l.cell.authorized then _ else _) claims (l.write _)
  obtain ⟨ph, hkept, hclaims⟩ := h
  split
  · rename_i hflag
    have hloaded : ph = .loaded := of_decide_eq_true (hkept.flag.symm.trans hflag)
    subst hloaded
    have hclaims : claims = 0 := by simpa using hclaims
    have hnoted := hkept.ask (q := .note (.usernameRejected s.host)) rfl rfl
    exact fun _ _ => ⟨.expelled, hnoted.expel, Or.inl hclaims⟩
  · rename_i hflag
    have hface : ({ l.cell with authorized := false } : Cell).face = l.cell.face := by
      unfold Cell.face
      rw [Bool.eq_false_iff.mpr hflag]
      rfl
    exact course_write hface ⟨ph, hkept, hclaims⟩

/-! ## Setting it up -/

/-- Only the first setup gets the claim, and there was none before. -/
theorem upholds_claim (h : s.Course claims l) :
    claim.Upholds .atWaits s.Course
      (fun claimed claims => s.Course (if claimed then 1 + claims else claims)) claims l := by
  obtain ⟨ph, hkept, hclaims⟩ := h
  change s.Course (if decide (l.cell.state = .uninitialized) then 1 + claims else claims)
    (l.write _)
  by_cases hstate : l.cell.state = .uninitialized
  · have hfresh : ph = .fresh := by
      have hph : SessionState.uninitialized = ph.state := hstate.symm.trans hkept.state
      cases ph <;> first | rfl | exact nomatch hph
    subst hfresh
    have hclaims : claims = 0 := by simpa using hclaims
    subst hclaims
    rw [if_pos (decide_eq_true hstate)]
    refine ⟨.claimed, ?_, Or.inr ⟨rfl, rfl⟩⟩
    change s.Kept .claimed (ite _ _ _ : Cell).face (l.cell.face :: _) l.asked
    rw [if_pos hstate]
    exact hkept.claim
  · rw [if_neg (by simpa using hstate)]
    refine course_write ?_ ⟨ph, hkept, hclaims⟩
    rw [if_neg hstate]

theorem upholds_load (linked : LinkedBridge) (h : s.Course (1 + claims) l) :
    (s.load linked).Upholds .atWaits s.Course (fun _ => s.Course) claims l := by
  obtain ⟨hkept, rfl⟩ := claimed_of_course h
  have hready : l.cell.ready = none := by
    simpa [Cell.face, Cell.facts, Phase.hooked] using hkept.facts
  have hstate : l.cell.state = .authenticating := hkept.state
  have hflag : l.cell.authorized = false := hkept.flag
  let limit := concurrencyLimit linked.config.modelId
  have hfound := hkept.ask (q := .note (.modelFound s.host linked.config.modelId limit)) rfl rfl
  have hloaded := hfound.load (linked.client, linked.config, limit)
  have hdone := hloaded.ask (q := .note (.connected s.host)) rfl rfl
  unfold load
  intro _
  change Routine.Upholds .atWaits s.Course (fun _ => s.Course)
    (if l.cell.ready.isNone then _ else _) 0 _
  rw [if_pos (by rw [hready]; rfl)]
  intro _ _ _ _ _
  refine ⟨.loaded, ?_, Or.inl rfl⟩
  simpa [Ledger.write, Ledger.ask, Cell.face, Cell.facts, hready, hstate, hflag, Session.hooks,
    Platform.all, limit] using hdone

theorem keepsCourse_setup : s.KeepsCourse s.setup := by
  intro claims l h
  rw [setup_eq, upholds_bind]
  refine (upholds_claim h).mono fun claimed claims l h => ?_
  cases claimed with
  | false => exact fun _ => course_ask rfl rfl h
  | true =>
    intro home
    have hasked : s.Course (1 + claims) (l.ask .locationName) := course_ask rfl rfl h
    have hacquire :=
      keepsCourse_outward (outward_acquire s.host (some s.registration.username) home) _ _ hasked
    change ((Exchange.acquire _ _ _).bind s.answered).Upholds .atWaits s.Course _ claims _
    rw [upholds_bind]
    -- The claim is held on to during the exchange, so the phase is still the same at its end.
    refine (hacquire.holding fun _ _ => course_of_claim).mono fun answer claims l h => ?_
    rcases answer with e | linked
    · obtain ⟨hkept, rfl⟩ := claimed_of_course h
      cases e with
      | authenticationRequired => exact fun _ => ⟨.refused, hkept.refuse, Or.inl rfl⟩
      | cannotConnect | unknown _ | notReady | invalidServiceData _ =>
        have hnoted := hkept.ask (q := .note (.cannotReach s.host)) rfl rfl
        exact fun _ => ⟨.unreachable, hnoted.miss, Or.inl rfl⟩
    · exact upholds_load linked h

/-- However a session is used, it stays on its course. -/
theorem keepsCourse_usage {α : Type} {p : Routine Cell α} (h : s.Usage α p) : s.KeepsCourse p := by
  induction h with
  | outward hp => exact keepsCourse_outward hp
  | bind _ _ ihp ihf => exact Preserves.bind ihp ihf
  | read => exact fun claims l h => course_write rfl h
  | lock _ ih => exact ih
  | setup => exact keepsCourse_setup
  | markUnauthorized => exact keepsCourse_markUnauthorized
  | setAvailable available => exact fun claims l h => course_write rfl h
  | request _ ih => exact keepsCourse_gated ih

/-! ## Every moment -/

/-- The session is authorized, or once was. -/
def wasAuthorized (x : Moment Cell) : Bool := x.story.any (·.state == .authorized)

theorem course_at {x : Moment Cell} (h : Reached .atWaits s.Usage Cell.fresh x) :
    ∃ ph, s.Kept ph x.cell.face (x.ledger.past.map Cell.face) x.ledger.asked := by
  obtain ⟨held, _, ⟨ph, hkept, _⟩, _⟩ := shared_of_reached course_opened
    (fun _ _ hp => keepsCourse_usage hp) h
  exact ⟨ph, hkept⟩

theorem mem_story {x : Moment Cell} {c : Cell} :
    c ∈ x.story ↔ c ∈ x.ledger.cells := List.mem_reverse

theorem story_map {x : Moment Cell} {β : Type} (f : Face → β) :
    x.story.map (fun c => f c.face) =
      ((x.cell.face :: x.ledger.past.map Cell.face).map f).reverse := by
  simp [Moment.story, Moment.cell, Ledger.cells, Function.comp_def]

variable {ph : Phase} {x : Moment Cell}

theorem wasAuthorized_eq (h : s.Kept ph x.cell.face (x.ledger.past.map Cell.face) x.ledger.asked) :
    wasAuthorized x = ph.hooked := by
  rw [Bool.eq_iff_iff, ← h.been, ← List.mem_reverse, ← story_map]
  simp [wasAuthorized, Cell.face]

theorem isSome_facts_eq (h : s.Kept ph x.cell.face (x.ledger.past.map Cell.face) x.ledger.asked) :
    x.cell.facts.isSome = wasAuthorized x := h.facts.trans (wasAuthorized_eq h).symm

theorem moves_of_kept (h : s.Kept ph x.cell.face (x.ledger.past.map Cell.face) x.ledger.asked) :
    x.story.IsChain fun old new => old.state = new.state ∨ old.state.Move new.state := by
  have hmoves := h.moves
  rw [← List.isChain_reverse, ← story_map, List.isChain_map] at hmoves
  exact hmoves

theorem same_of_kept (h : s.Kept ph x.cell.face (x.ledger.past.map Cell.face) x.ledger.asked)
    {old : Cell} (hold : old ∈ x.story) (hsome : old.facts.isSome) : old.facts = x.cell.facts := by
  refine h.same old.face ?_ hsome
  exact List.mem_map_of_mem (f := Cell.face) (mem_story.mp hold)

end Session

namespace Cell

theorem config?_eq (c : Cell) : c.config? = c.facts.map (·.2.1) := by
  unfold config? facts
  rw [Option.map_map]
  rfl

theorem limit?_eq (c : Cell) : c.limit? = c.facts.map (·.2.2) := by
  unfold limit? facts
  rw [Option.map_map]
  rfl

theorem client_eq (c : Cell) :
    c.client = c.facts.elim (.error .notReady) fun facts => .ok facts.1 := by
  unfold client facts
  rcases c.ready with _ | r <;> rfl

theorem client_ok_iff (c : Cell) : (∃ client, c.client = .ok client) ↔ c.facts.isSome = true := by
  rw [client_eq]
  rcases c.facts with _ | facts <;> simp

end Cell

/-- However tasks use a session and take turns, its state only moves forward, its flag says if it is
authorized and never comes back, what it knows is there from the moment it is authorized and stays,
it asked for pairing exactly if authentication failed, and it hooked itself into the host once if it
ever was authorized, and otherwise not at all. -/
theorem a_session_keeps_its_course (s : Session) {x : Moment Cell}
    (h : Reached .atWaits s.Usage Cell.fresh x) :
    (x.story.head? = some Cell.fresh ∧
      x.story.IsChain fun old new => old.state = new.state ∨ old.state.Move new.state) ∧
    ((x.cell.authorized = true ↔ x.cell.state = .authorized) ∧
      ∃ a b c, x.story.map (·.authorized) =
        .replicate a false ++ .replicate b true ++ .replicate c false) ∧
    (((∃ client, x.cell.client = .ok client) ↔ Session.wasAuthorized x = true) ∧
      x.cell.config?.isSome = Session.wasAuthorized x ∧
      x.cell.limit?.isSome = Session.wasAuthorized x ∧
      ∀ old ∈ x.story, old.ready.isSome → old.client = x.cell.client ∧
        old.config? = x.cell.config? ∧ old.limit? = x.cell.limit?) ∧
    x.ledger.asked.filter Query.relinks =
      (if x.cell.state = .authFailed then [.startPairing s.host] else []) ∧
    x.ledger.asked.filter Query.hooksIn = if Session.wasAuthorized x then s.hooks else [] := by
  obtain ⟨ph, hkept⟩ := Session.course_at h
  have hwas := Session.wasAuthorized_eq hkept
  have hfacts := Session.isSome_facts_eq hkept
  have hstate : x.cell.state = ph.state := hkept.state
  refine ⟨⟨?_, Session.moves_of_kept hkept⟩, ⟨?_, ?_⟩, ⟨?_, ?_, ?_, ?_⟩, ?_, ?_⟩
  · obtain ⟨later, hlater⟩ := h.story_prefix
    rw [← hlater]
    rfl
  · rw [show x.cell.authorized = _ from hkept.flag, hstate, decide_eq_true_iff]
    cases ph <;> simp [Session.Phase.state]
  · obtain ⟨a, b, c, hflags, _⟩ := hkept.flags
    refine ⟨c, b, a, ?_⟩
    refine (Session.story_map (·.authorized)).trans ?_
    rw [hflags]
    simp
  · rw [Cell.client_ok_iff, hfacts]
  · rw [Cell.config?_eq, Option.isSome_map, hfacts]
  · rw [Cell.limit?_eq, Option.isSome_map, hfacts]
  · intro old hold hready
    have hsame := Session.same_of_kept hkept hold (by rwa [Cell.facts, Option.isSome_map])
    rw [Cell.client_eq, Cell.client_eq, Cell.config?_eq, Cell.config?_eq, Cell.limit?_eq,
      Cell.limit?_eq, hsame]
    exact ⟨rfl, rfl, rfl⟩
  · rw [hkept.relinks, hstate]
    cases ph <;> rfl
  · rw [hkept.hooks, hwas]

/-! ## A life in full -/

/-- A session whose bridge accepts its username at first. -/
def guestSession : Session := ⟨⟨0⟩, ⟨"192.168.1.2", "00178823af15", "guest"⟩, Options.default⟩

/-- What its bridge tells of itself. -/
def guestConfig : BridgeConfig := ⟨"Philips hue", "BSB002", "001788fffe23af15", none⟩

def guestReady : Ready := ⟨⟨0⟩, guestConfig, 10, .ofPermits 10⟩

/-- The session once it is set up, and nobody else has used it. -/
def guestLoaded (past : List Cell) (asked : List Query) : Moment Cell :=
  ⟨⟨⟨.authorized, some guestReady, true, true⟩, past, asked⟩,
    [⟨guestSession.setup, Cell.fresh, some (.done .loaded)⟩]⟩

open Stretch in
/-- It is reached wherever tasks may set the session up. -/
theorem reached_guestLoaded {may : (α : Type) → Routine Cell α → Prop}
    (hsetup : may _ guestSession.setup) :
    ∃ past asked, Reached .atWaits may Cell.fresh (guestLoaded past asked) := by
  have hbegun : Reached .atWaits may Cell.fresh _ :=
    .turn .start <| .arrive hsetup <| step rfl (.lock _ _) <| step rfl (.own _ _ _) <|
      step rfl (.ask _ _ _ (HomeName.plain "Home")) <| step rfl (.ask (.connect _ _) _ _ ⟨0⟩) <|
      step rfl (.clock _ _ 0) <| rest rfl
  have hloaded : Reached .atWaits may Cell.fresh _ :=
    .turn hbegun <| @Turn.resume _ _ _ _ _ _ _ _ _ _ _ _ [] []
      (.callBy _ _ (.validate _) _ _
        (some (.ok guestConfig) : Option (Except Fault BridgeConfig))) <|
      step rfl (.ask (.clientUsername _) _ _ (some "guest")) <| step rfl (.ask _ _ _ ()) <|
      step rfl (.own _ _ _) <| step rfl (.ask _ _ _ ()) <| step rfl (.ask _ _ _ ()) <|
      step rfl (.ask _ _ _ ()) <| step rfl (.ask _ _ _ ()) <| step rfl (.own _ _ _) <|
      step rfl (.lock _ _) <| step rfl (.own _ _ _) <| step rfl (.ask _ _ _ ()) <| rest rfl
  exact ⟨_, _, hloaded⟩

theorem reached_loaded : ∃ past asked,
    Reached .atWaits guestSession.Usage Cell.fresh (guestLoaded past asked) :=
  reached_guestLoaded .setup

open Stretch in
/-- The bridge rejects the username later on. -/
theorem reached_guestRejected {may : (α : Type) → Routine Cell α → Prop}
    (hsetup : may _ guestSession.setup) (hmark : may _ guestSession.markUnauthorized) :
    ∃ x, Reached .atWaits may Cell.fresh x ∧
      x.cell.state = .authFailed ∧ Session.wasAuthorized x = true := by
  obtain ⟨past, asked, hloaded⟩ := reached_guestLoaded hsetup
  have hrejected : Reached .atWaits may Cell.fresh _ :=
    .turn hloaded <| .arrive hmark <| step rfl (.own _ _ _) <|
      step rfl (.ask _ _ _ ()) <| step rfl (.lock _ _) <| step rfl (.own _ _ _) <|
      step rfl (.ask _ _ _ ()) <| rest rfl
  refine ⟨_, hrejected, rfl, ?_⟩
  simp [Session.wasAuthorized, Moment.story, Ledger.cells, Ledger.write, Ledger.ask]

theorem reached_rejected : ∃ x, Reached .atWaits guestSession.Usage Cell.fresh x ∧
    x.cell.state = .authFailed ∧ Session.wasAuthorized x = true :=
  reached_guestRejected .setup .markUnauthorized

theorem a_rejected_session_keeps_its_course :
    ∃ x, Reached .atWaits guestSession.Usage Cell.fresh x ∧
    x.cell.state = .authFailed ∧ x.cell.authorized ≠ true ∧
    x.ledger.asked.filter Query.relinks = [.startPairing "192.168.1.2"] ∧
    x.ledger.asked.filter Query.hooksIn = guestSession.hooks := by
  obtain ⟨x, hx, hstate, hwas⟩ := reached_rejected
  obtain ⟨_, ⟨hflag, _⟩, _, hrelinks, hhooks⟩ := a_session_keeps_its_course guestSession hx
  rw [hstate] at hflag hrelinks
  rw [hwas] at hhooks
  exact ⟨x, hx, hstate, fun h => (nomatch hflag.mp h), hrelinks, hhooks⟩

end HueLink
