-- The scene service that all sessions share. Every session that is loaded registers its own
-- handler, and every loaded session that is taken down removes whichever handler there is. So it is
-- the order of these that decides who answers a call.
import HueLink.Proofs.Routine.SideBySide
import HueLink.Proofs.Session.Lifecycle
import HueLink.Proofs.Session.Registry

namespace HueLink

open Routine

/-! ## What a session does to the registry -/

namespace Session

variable {s : Session} {x y : Moment Cell}

theorem hooks_onService (s : Session) :
    s.hooks.filter Query.onService = [.registerSceneService s.handle] := rfl

/-- Until now a session hooked its service in exactly if it is loaded. -/
theorem hooked_at (h : Reached .atWaits s.Usage Cell.fresh x) :
    (x.ledger.asked.filter Query.hooksIn).filter Query.onService =
      if x.cell.ready.isSome then [.registerSceneService s.handle] else [] := by
  obtain ⟨ph, hkept⟩ := course_at h
  have hready : x.cell.ready.isSome = ph.hooked := by
    rw [← hkept.facts]
    exact Option.isSome_map.symm
  rw [hkept.hooks, hready]
  cases ph.hooked
  · rfl
  · exact hooks_onService s

/-- A turn in which the service is not withdrawn registers it exactly if it loads the session, and
what is loaded stays so. -/
theorem service_of_turn {asked : List Query} (hx : Reached .atWaits s.Usage Cell.fresh x)
    (h : Turn .atWaits s.Usage x y) (hasked : y.ledger.asked = x.ledger.asked ++ asked)
    (hkeeps : ∀ q ∈ asked, q.withdraws = false) :
    (x.cell.ready.isSome = true → y.cell.ready.isSome = true) ∧
      asked.filter Query.onService =
        if x.cell.ready = none ∧ y.cell.ready.isSome then [.registerSceneService s.handle]
        else [] := by
  have hbefore := hooked_at hx
  have hafter := hooked_at (.turn hx h)
  have hnew : asked.filter Query.onService =
      (asked.filter Query.hooksIn).filter Query.onService := by
    rw [List.filter_filter]
    exact List.filter_congr fun q hq => Query.onService_eq (hkeeps q hq)
  rw [hasked, List.filter_append, List.filter_append, hbefore, ← hnew] at hafter
  rcases hready : x.cell.ready with _ | ready
  · refine ⟨fun h => (nomatch h), ?_⟩
    simpa [hready] using hafter
  · rw [hready] at hafter
    rcases hready' : y.cell.ready with _ | ready'
    · rw [hready'] at hafter
      exact nomatch hafter
    · rw [hready'] at hafter
      exact ⟨fun _ => rfl, by simpa using hafter⟩

end Session

/-! ## Taking a session down -/

namespace Session

/-- What is asked when a loaded session is taken down. -/
def withdrawals (s : Session) : List Query :=
  .removeSceneService :: Platform.all.map fun platform => .forwardUnload s.registration platform

theorem withdrawals_onService (s : Session) :
    s.withdrawals.filter Query.onService = [.removeSceneService] := rfl

/-- Taking down a session that is loaded withdraws the scene service, whoever offers it, and has the
platforms unloaded. Otherwise nothing happens. -/
theorem stretch_teardown {ι : Type} [DecidableEq ι] {i : ι} {s : Session} {l l' : Ledger (ι → Cell)}
    {p' : Routine (ι → Cell) Bool}
    (h : Stretch .atWaits (s.teardown.zoom (.among i)) l p' l') :
    l'.cell = l.cell ∧ p'.KeepsService ∧
      l'.asked = l.asked ++ if (l.cell i).ready.isSome then s.withdrawals else [] := by
  have hcell : (Place.among i).update id l.cell = l.cell := Function.update_eq_self i l.cell
  change Stretch .atWaits (.own _ _) l p' l' at h
  rw [stretch_own] at h
  change Stretch .atWaits ((if (l.cell i).ready.isSome then _ else _ : Routine Cell Bool).zoom
    (.among i)) _ p' l' at h
  split at h
  · rename_i hready
    obtain ⟨_, h⟩ := stretch_ask.mp h
    obtain ⟨_, h⟩ := stretch_ask.mp h
    obtain ⟨_, h⟩ := stretch_ask.mp h
    obtain ⟨_, h⟩ := stretch_ask.mp h
    obtain ⟨rfl, rfl⟩ := (stretch_of_pauses rfl).mp h
    refine ⟨hcell, fun _ _ _ => trivial, ?_⟩
    rw [if_pos hready]
    simp [Ledger.ask, Ledger.write, withdrawals, Platform.all]
  · rename_i hready
    obtain ⟨rfl, rfl⟩ := (stretch_of_pauses rfl).mp h
    exact ⟨hcell, trivial, by rw [if_neg hready]; exact (List.append_nil _).symm⟩

end Session

/-! ## Sessions that share a host -/

/-- Sessions that share one host and its registry, each under its handle. -/
structure Sessions where
  session : SessionId → Session
  handle_session : ∀ i, (session i).handle = i

namespace Sessions

variable (S : Sessions)

/-- How a task may use one of the sessions, other than taking it down. -/
def Use (i : SessionId) (α : Type) (p : Routine Cell α) : Prop :=
  (S.session i).Usage α p ∧ p.KeepsService

/-- Setting a session up is a use of it. -/
theorem use_setup (i : SessionId) : S.Use i _ (S.session i).setup :=
  ⟨.setup, (Session.takesNothingDown_setup _).keepsService⟩

/-- So is what a call of its scene service does. -/
theorem use_serveScene (i : SessionId) (data : Json) :
    S.Use i _ (Session.serveScene (some (S.session i)) data) :=
  ⟨Session.usage_serveScene data, (Session.takesNothingDown_serveScene data).keepsService⟩

/-- Taking a session down. -/
def teardown (i : SessionId) : Routine (SessionId → Cell) Bool :=
  (S.session i).teardown.zoom (.among i)

/-- A call of the scene service, given whose handler is registered. -/
def callScene (service : Option SessionId) (data : Json) :
    Routine (SessionId → Cell) (Except BridgeError Unit) :=
  match service with
  | some i => (Session.serveScene (some (S.session i)) data).zoom (.among i)
  | none => .done (.error serviceMissing)

/-- What happens to sessions and matters to the scene service. -/
inductive Happening where
  | loaded (i : SessionId)
  /-- A loaded session is taken down. -/
  | takenDown (i : SessionId)
deriving DecidableEq, Repr

/-- What is asked of the registry then. -/
def Happening.query : Happening → Query
  | loaded i => .registerSceneService i
  | takenDown _ => .removeSceneService

/-- What happened, the oldest first, and the moment to which it led. Any session may be used or
taken down at any time, and any task may go on or be given up. -/
inductive Run : List Happening → Moment (SessionId → Cell) → Prop where
  | start : Run [] ⟨.opened fun _ => .fresh, []⟩
  /-- Sessions are used, and none is loaded by that. -/
  | use {happened : List Happening} {x y : Moment (SessionId → Cell)} : Run happened x →
    Turn .atWaits (Each S.Use) x y → (∀ i, (y.cell i).ready.isSome → (x.cell i).ready.isSome) →
    Run happened y
  /-- A use of sessions completes the setup of one. -/
  | load {happened : List Happening} {x y : Moment (SessionId → Cell)} (i : SessionId) :
    Run happened x → Turn .atWaits (Each S.Use) x y → (x.cell i).ready = none →
    (y.cell i).ready.isSome → Run (happened ++ [.loaded i]) y
  | takeDown {happened : List Happening} {l l' : Ledger (SessionId → Cell)}
    {tasks : List (Task (SessionId → Cell))} {p' : Routine (SessionId → Cell) Bool}
    (i : SessionId) : Run happened ⟨l, tasks⟩ → Stretch .atWaits (S.teardown i) l p' l' →
    Run (happened ++ if (l.cell i).ready.isSome then [.takenDown i] else [])
      ⟨l', tasks ++ [⟨S.teardown i, l.cell, some p'⟩]⟩

variable {S} {happened : List Happening} {x y : Moment (SessionId → Cell)}

/-- However sessions are used next, the run goes on. -/
theorem Run.goes_on (h : S.Run happened x) (ht : Turn .atWaits (Each S.Use) x y) :
    ∃ happened', S.Run happened' y := by
  by_cases hload : ∃ i, (x.cell i).ready = none ∧ (y.cell i).ready.isSome
  · obtain ⟨i, hbefore, hafter⟩ := hload
    exact ⟨_, .load i h ht hbefore hafter⟩
  · refine ⟨_, .use h ht fun i hafter => ?_⟩
    rw [← Option.not_isNone, Bool.not_eq_true', Option.isNone_eq_false_iff]
    by_contra hbefore
    exact hload ⟨i, by simpa using hbefore, hafter⟩

/-! ## What a run comes to -/

/-- How sessions stand after what happened: each of them for itself is on its course, nobody but who
takes a loaded session down withdraws the service, the registry was asked as the happenings say, and
they say which sessions are loaded. -/
structure Standing (S : Sessions) (happened : List Happening) (x : Moment (SessionId → Cell)) :
    Prop where
  apart : ∃ alone, SideBySide .atWaits (fun i => (S.session i).Usage) (fun _ => .fresh) x alone
  keeps : x.Asks fun q => q.withdraws = false
  service : x.ledger.asked.filter Query.onService = happened.map Happening.query
  loaded : ∀ i, (x.cell i).ready.isSome = true ↔ .loaded i ∈ happened

theorem standing_start : S.Standing [] ⟨.opened fun _ => .fresh, []⟩ where
  apart := ⟨_, sideBySide_start⟩
  keeps _ h := nomatch h
  service := rfl
  loaded i := by simp [Moment.cell, Ledger.opened, Cell.fresh]

/-- What one use of sessions does: only one session changes. It stays loaded if it was, and if it
gets loaded, it registers its service. -/
theorem Standing.turn (h : S.Standing happened x) (ht : Turn .atWaits (Each S.Use) x y) :
    (∃ alone, SideBySide .atWaits (fun i => (S.session i).Usage) (fun _ => .fresh) y alone) ∧
    (y.Asks fun q => q.withdraws = false) ∧
    ∃ i, (∀ j, j ≠ i → y.cell j = x.cell j) ∧
      ((x.cell i).ready.isSome = true → (y.cell i).ready.isSome = true) ∧
      y.ledger.asked.filter Query.onService = happened.map Happening.query ++
        if (x.cell i).ready = none ∧ (y.cell i).ready.isSome then [.registerSceneService i]
        else [] := by
  obtain ⟨alone, halone⟩ := h.apart
  obtain ⟨hkeeps, asked, hasked, hnone⟩ := h.keeps.turn (fun α p ⟨_, hp⟩ => asks_zoom _ hp.2) ht
  have hturn := ht.mono fun α p hp => hp.mono fun i α p hp => hp.1
  obtain ⟨i, n, asked', hn, halong, hsides⟩ := halone.turn hturn
  obtain rfl : asked' = asked := List.append_cancel_left (halong.askedByAll.symm.trans hasked)
  obtain ⟨hstays, hservice⟩ :=
    Session.service_of_turn (halone.reached i) hn halong.askedAlone hnone
  have hx : (alone i).cell = x.cell i := halone.cell i
  have hy : n.cell = y.cell i := halong.own
  rw [hx, hy] at hstays hservice
  rw [S.handle_session] at hservice
  refine ⟨⟨_, hsides⟩, hkeeps, i, halong.others, hstays, ?_⟩
  rw [hasked, List.filter_append, h.service, hservice]

theorem Standing.use (h : S.Standing happened x) (ht : Turn .atWaits (Each S.Use) x y)
    (hquiet : ∀ i, (y.cell i).ready.isSome → (x.cell i).ready.isSome) : S.Standing happened y := by
  obtain ⟨hapart, hkeeps, i, hothers, hstays, hservice⟩ := h.turn ht
  refine ⟨hapart, hkeeps, ?_, fun j => ?_⟩
  · rw [hservice, if_neg, List.append_nil]
    rintro ⟨hnone, hsome⟩
    have := hquiet i hsome
    rw [hnone] at this
    exact nomatch this
  · rw [← h.loaded j]
    refine ⟨hquiet j, fun hj => ?_⟩
    by_cases hji : j = i
    · subst hji
      exact hstays hj
    · rwa [hothers j hji]

theorem Standing.load {i : SessionId} (h : S.Standing happened x)
    (ht : Turn .atWaits (Each S.Use) x y) (hbefore : (x.cell i).ready = none)
    (hafter : (y.cell i).ready.isSome) : S.Standing (happened ++ [.loaded i]) y := by
  obtain ⟨hapart, hkeeps, k, hothers, hstays, hservice⟩ := h.turn ht
  obtain rfl : i = k := by
    by_contra hik
    rw [hothers i hik, hbefore] at hafter
    exact nomatch hafter
  refine ⟨hapart, hkeeps, ?_, fun j => ?_⟩
  · rw [hservice, if_pos ⟨hbefore, hafter⟩, List.map_append]
    rfl
  · rw [List.mem_append, List.mem_singleton, ← h.loaded j]
    by_cases hji : j = i
    · subst hji
      exact iff_of_true hafter (Or.inr rfl)
    · rw [hothers j hji]
      exact ⟨Or.inl, fun hj => hj.elim id fun heq => absurd (Happening.loaded.inj heq) hji⟩

theorem Standing.takeDown {i : SessionId} {l l' : Ledger (SessionId → Cell)}
    {tasks : List (Task (SessionId → Cell))} {p' : Routine (SessionId → Cell) Bool}
    (h : S.Standing happened ⟨l, tasks⟩) (hs : Stretch .atWaits (S.teardown i) l p' l') :
    S.Standing (happened ++ if (l.cell i).ready.isSome then [.takenDown i] else [])
      ⟨l', tasks ++ [⟨S.teardown i, l.cell, some p'⟩]⟩ := by
  obtain ⟨alone, halone⟩ := h.apart
  have hturn : Turn .atWaits (Each fun i => (S.session i).Usage) ⟨l, tasks⟩ _ :=
    .arrive (.one i Session.usage_teardown) hs
  obtain ⟨_, _, _, _, _, hsides⟩ := halone.turn hturn
  obtain ⟨hcell, hp', hasked⟩ := Session.stretch_teardown hs
  refine ⟨⟨_, hsides⟩, h.keeps.arrive hp' _, ?_, fun j => ?_⟩
  · change l'.asked.filter _ = _
    rw [hasked, List.filter_append, List.map_append, ← h.service]
    split
    · rw [Session.withdrawals_onService]
      rfl
    · rfl
  · change (l'.cell j).ready.isSome = true ↔ _
    rw [hcell, List.mem_append, ← h.loaded j]
    refine ⟨Or.inl, fun hj => hj.elim id fun hj => ?_⟩
    split at hj
    · exact nomatch List.mem_singleton.mp hj
    · exact nomatch hj

theorem standing_of_run (h : S.Run happened x) : S.Standing happened x := by
  induction h with
  | start => exact standing_start
  | use _ ht hquiet ih => exact ih.use ht hquiet
  | load i _ ht hbefore hafter ih => exact ih.load ht hbefore hafter
  | takeDown i _ hs ih => exact ih.takeDown hs

theorem registered_of_run (h : S.Run happened x) :
    registered x.ledger.asked = registered (happened.map Happening.query) := by
  rw [← registered_filter, (standing_of_run h).service]

/-! ## Who answers -/

theorem registered_loaded (happened : List Happening) (i : SessionId) :
    registered ((happened ++ [Happening.loaded i]).map Happening.query) = some i := by
  rw [List.map_append]
  exact registered_concat _ _

theorem registered_takenDown (happened : List Happening) (i : SessionId) :
    registered ((happened ++ [Happening.takenDown i]).map Happening.query) = none := by
  rw [List.map_append]
  exact registered_concat _ _

/-- Only a session that was loaded is ever registered. -/
theorem loaded_of_registered {i : SessionId}
    (h : registered (happened.map Happening.query) = some i) : .loaded i ∈ happened := by
  rcases List.eq_nil_or_concat' happened with rfl | ⟨past, last | last, rfl⟩
  · exact nomatch h
  · rw [registered_loaded] at h
    obtain rfl := Option.some.inj h
    exact List.mem_append_right _ List.mem_cons_self
  · rw [registered_takenDown] at h
    exact nomatch h

theorem registered_loads {i : SessionId} (past : List Happening) {later : List Happening}
    (hlater : ∀ j, .takenDown j ∉ later) :
    ∃ k, (Happening.loaded i :: later).getLast? = some (.loaded k) ∧
      registered ((past ++ .loaded i :: later).map Happening.query) = some k := by
  rcases List.eq_nil_or_concat' later with rfl | ⟨before, last | last, rfl⟩
  · exact ⟨i, rfl, registered_loaded past i⟩
  · rw [← List.cons_append, ← List.append_assoc]
    exact ⟨last, List.getLast?_concat, registered_loaded _ last⟩
  · exact absurd (List.mem_append_right _ List.mem_cons_self) (hlater last)

end Sessions

/-- However sessions that share a host are used, and however their tasks take turns: as long as no
loaded session was taken down since one was loaded, the one loaded last answers calls of the scene
service. Once that one is taken down itself, nobody answers until another is loaded. Nobody ever
answers who is not loaded, and taking down a session that is not loaded changes nothing. -/
theorem the_session_loaded_last_answers (S : Sessions) {happened : List Sessions.Happening}
    {x : Moment (SessionId → Cell)} (h : S.Run happened x) :
    (∀ past i later, happened = past ++ .loaded i :: later → (∀ j, .takenDown j ∉ later) →
      ∃ k, (Sessions.Happening.loaded i :: later).getLast? = some (.loaded k) ∧
        (x.cell k).ready.isSome = true ∧ ∀ data call, SceneCall.record.decode data = .ok call →
          S.callScene (registered x.ledger.asked) data =
            ((S.session k).activateNamedScene call.group call.scene).zoom (.among k)) ∧
    (∀ past i later, happened = past ++ .loaded i :: later → (∀ j, .loaded j ∉ later) →
      .takenDown i ∈ later → ∀ data,
        S.callScene (registered x.ledger.asked) data = .done (.error serviceMissing)) ∧
    (∀ i, registered x.ledger.asked = some i → (x.cell i).ready.isSome = true) ∧
    ∀ i p' l', .loaded i ∉ happened → Stretch .atWaits (S.teardown i) x.ledger p' l' →
      l'.cell = x.ledger.cell ∧ registered l'.asked = registered x.ledger.asked := by
  have hstanding := Sessions.standing_of_run h
  have hregistered := Sessions.registered_of_run h
  refine ⟨?_, ?_, ?_, ?_⟩
  · rintro past i later rfl hlater
    obtain ⟨k, hlast, hk⟩ := Sessions.registered_loads past hlater
    refine ⟨k, hlast, ?_, fun data call hdata => ?_⟩
    · exact (hstanding.loaded k).mpr (Sessions.loaded_of_registered hk)
    · rw [hregistered, hk]
      simp only [Sessions.callScene, Session.serveScene, hdata]
  · rintro past i later rfl hloads hdown data
    obtain ⟨before, last, rfl⟩ := (List.eq_nil_or_concat' later).resolve_left fun hnil => by
      rw [hnil] at hdown
      exact nomatch hdown
    cases last with
    | loaded j => exact absurd (List.mem_append_right _ List.mem_cons_self) (hloads j)
    | takenDown j =>
      have hgone := Sessions.registered_takenDown (past ++ .loaded i :: before) j
      rw [List.append_assoc, List.cons_append] at hgone
      rw [hregistered, hgone]
      rfl
  · intro i hi
    rw [hregistered] at hi
    exact (hstanding.loaded i).mpr (Sessions.loaded_of_registered hi)
  · intro i p' l' hi hs
    obtain ⟨hcell, _, hasked⟩ := Session.stretch_teardown hs
    refine ⟨hcell, ?_⟩
    have hready : ¬ (x.ledger.cell i).ready.isSome = true := fun h => hi ((hstanding.loaded i).mp h)
    rw [hasked, if_neg hready, List.append_nil]

/-! ## Two sessions -/

open Stretch in
/-- A session can be set up, in two turns: it waits once for its bridge. -/
theorem Session.exists_setup (s : Session) : ∃ q q₁ q₂ m m₁ m₂,
    Stretch .atWaits s.setup (.opened .fresh) q m ∧ m.cell.ready = none ∧
    Step q m q₁ m₁ ∧ Stretch .atWaits q₁ m₁ q₂ m₂ ∧ m₂.cell.ready.isSome = true := by
  have hbegun : Stretch .atWaits s.setup (.opened .fresh) _ _ :=
    step rfl (.lock _ _) <| step rfl (.own _ _ _) <|
    step rfl (.ask _ _ _ (HomeName.plain "Home")) <|
      step rfl (.ask (.connect _ _) _ _ ⟨0⟩) <| step rfl (.clock _ _ 0) <| rest rfl
  exact ⟨_, _, _, _, _, _, hbegun, rfl, .callBy _ _ (.validate _) _ _
    (some (.ok guestConfig) : Option (Except Fault BridgeConfig)),
    step rfl (.ask (.clientUsername _) _ _ (some "guest")) <| step rfl (.ask _ _ _ ()) <|
    step rfl (.own _ _ _) <| step rfl (.ask _ _ _ ()) <| step rfl (.ask _ _ _ ()) <|
    step rfl (.ask _ _ _ ()) <| step rfl (.ask _ _ _ ()) <| step rfl (.own _ _ _) <|
    step rfl (.lock _ _) <| step rfl (.own _ _ _) <| step rfl (.ask _ _ _ ()) <| rest rfl, rfl⟩

namespace Sessions

variable {S : Sessions} {happened : List Happening} {x : Moment (SessionId → Cell)}

/-- Whatever happened, a session that was not set up yet can be loaded. -/
theorem Run.exists_load {i : SessionId} (h : S.Run happened x) (hfresh : x.cell i = .fresh) :
    ∃ y, S.Run (happened ++ [.loaded i]) y ∧ ∀ j, j ≠ i → y.cell j = x.cell j := by
  obtain ⟨q, q₁, q₂, m, m₁, m₂, hbegin, hnone, hanswer, hend, hsome⟩ := (S.session i).exists_setup
  obtain ⟨l, _, hbegin, halong⟩ := stretch_among hfresh.symm hbegin
  obtain ⟨l₁, _, hanswer, halong₁⟩ := step_among halong.own hanswer
  obtain ⟨l₂, _, hend, halong₂⟩ := stretch_among halong₁.own hend
  have hnone' : (l.cell i).ready = none := by rw [← halong.own, hnone]
  have hsome' : (l₂.cell i).ready.isSome = true := by rw [← halong₂.own, hsome]
  have hwaits := Run.use h (.arrive (.one i (S.use_setup i)) hbegin)
    fun j hj => ?_
  · refine ⟨_, .load i hwaits (.resume hanswer hend) hnone' hsome', fun j hj => ?_⟩
    exact (halong₂.others j hj).trans ((halong₁.others j hj).trans (halong.others j hj))
  · change (l.cell j).ready.isSome = true at hj
    by_cases hji : j = i
    · rw [hji, hnone'] at hj
      exact nomatch hj
    · rwa [halong.others j hji] at hj

open Stretch in
/-- A loaded session can be taken down. -/
theorem Run.exists_takeDown {i : SessionId} (h : S.Run happened x)
    (hready : (x.cell i).ready.isSome = true) :
    ∃ y, S.Run (happened ++ [.takenDown i]) y ∧ y.cell = x.cell := by
  have hready : (x.ledger.cell i).ready.isSome = true := hready
  have hread : Step (S.teardown i) x.ledger
      ((if (x.ledger.cell i).ready.isSome then _ else _ : Routine Cell Bool).zoom (.among i)) _ :=
    .own _ _ x.ledger
  rw [if_pos hready] at hread
  have hrun := Run.takeDown i h (step rfl hread <| step rfl (.ask _ _ _ true) <|
    step rfl (.ask _ _ _ ()) <| step rfl (.ask _ _ _ ()) <| step rfl (.ask _ _ _ ()) <| rest rfl)
  rw [if_pos hready] at hrun
  exact ⟨_, hrun, Function.update_eq_self i x.cell⟩

/-- Two sessions are loaded, one after the other. -/
theorem exists_run_twoLoaded (S : Sessions) : ∃ x, S.Run [.loaded ⟨0⟩, .loaded ⟨1⟩] x := by
  obtain ⟨x, hx, hothers⟩ := Run.exists_load (i := ⟨0⟩) (Run.start (S := S)) rfl
  obtain ⟨y, hy, _⟩ := hx.exists_load (i := ⟨1⟩) (hothers ⟨1⟩ (by decide))
  exact ⟨y, hy⟩

end Sessions

/-- A session of one bridge, and sessions of another one. -/
def twoBridges : Sessions where
  session i :=
    ⟨i, if i = ⟨0⟩ then guestSession.registration else ⟨"192.168.1.3", "001788aabbcc", "guest"⟩,
      Options.default⟩
  handle_session _ := rfl

/-- A call with valid data. -/
def kitchenCall : Json := .obj [("group_name", .str "Kitchen"), ("scene_name", .str "Relax")]

theorem decode_kitchenCall : SceneCall.record.decode kitchenCall = .ok ⟨"Kitchen", "Relax"⟩ := by
  rfl

theorem the_session_loaded_last_answers_beside_another : ∃ x,
    twoBridges.Run [.loaded ⟨0⟩, .loaded ⟨1⟩] x ∧
    twoBridges.callScene (registered x.ledger.asked) kitchenCall =
      ((twoBridges.session ⟨1⟩).activateNamedScene "Kitchen" "Relax").zoom (.among ⟨1⟩) := by
  obtain ⟨x, hx⟩ := twoBridges.exists_run_twoLoaded
  obtain ⟨k, hlast, _, hcall⟩ := (the_session_loaded_last_answers twoBridges hx).1 [] ⟨0⟩
    [.loaded ⟨1⟩] rfl (by simp)
  obtain rfl : ⟨1⟩ = k := Sessions.Happening.loaded.inj (Option.some.inj hlast)
  exact ⟨x, hx, hcall kitchenCall ⟨"Kitchen", "Relax"⟩ decode_kitchenCall⟩

theorem one_session_takes_the_service_from_another : ∃ x,
    twoBridges.Run [.loaded ⟨0⟩, .loaded ⟨1⟩, .takenDown ⟨1⟩] x ∧
    (x.cell ⟨0⟩).ready.isSome = true ∧
    SceneCall.record.decode kitchenCall = .ok ⟨"Kitchen", "Relax"⟩ ∧
    twoBridges.callScene (registered x.ledger.asked) kitchenCall =
      .done (.error serviceMissing) := by
  obtain ⟨x, hx⟩ := twoBridges.exists_run_twoLoaded
  have hready := (Sessions.standing_of_run hx).loaded
  obtain ⟨y, hy, hcell⟩ := hx.exists_takeDown (i := ⟨1⟩) ((hready ⟨1⟩).mpr (by decide))
  refine ⟨y, hy, ?_, decode_kitchenCall, ?_⟩
  · rw [hcell]
    exact (hready ⟨0⟩).mpr (by decide)
  · rw [Sessions.registered_of_run hy]
    rfl

end HueLink
