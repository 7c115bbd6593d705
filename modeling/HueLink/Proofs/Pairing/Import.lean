-- The import of a host. A username that a legacy file holds is tried once, and what the bridge says
-- to it decides how the flow goes on: with an entry, with an abort if nobody answers, or with a
-- second exchange, as the link step would have it. No username comes into an entry unseen by the
-- bridge.
import HueLink.Proofs.Pairing.Limits
import HueLink.Proofs.Session.FirstSetup

namespace HueLink.Pairing

open Routine

/-- A flow that is about to import a host. -/
def Flow.importing (info : ImportInfo) (f : Flow) : Flow := (f.enter .importing).about info.host

variable {f f' : Flow} {es : List (Event Flow)} {r : FlowResult} {info : ImportInfo}

theorem Completion.host_eq {linked : LinkedBridge} (h : Completion linked f es r f') :
    f'.context.host = f.context.host := by
  cases h
  rfl

theorem LinkWay.host_eq {submitted : Bool} (h : LinkWay submitted f es r f') :
    f'.context.host = f.context.host := by
  cases h with
  | hostless | refused => rfl
  | linked _ _ hentry => exact hentry.host_eq

/-- Whatever comes of an import, the flow is about the host. -/
theorem ImportWay.host_eq (h : ImportWay info f es r f') : f'.context.host = some info.host := by
  cases h with
  | unreached => rfl
  | imported _ _ hentry => exact hentry.host_eq
  | unauthorized _ _ hlink => exact hlink.host_eq

theorem LinkWay.lookups_eq {submitted : Bool} (h : LinkWay submitted f es r f') :
    es.countP Event.looksUp = 0 := by
  rcases h.footprint with ⟨_, hes⟩ | ⟨_, _, _, hes⟩ <;> exact hes.lookups

/-- A username is looked up once if there is a file to look into, and otherwise not at all. -/
theorem ImportWay.lookups_eq (h : ImportWay info f es r f') :
    es.countP Event.looksUp = if info.path.isSome then 1 else 0 := by
  -- The exchange and what comes after it look nothing up.
  have hfirst : ∀ {before : List (Event Flow)} {username : Option String} (home : HomeName)
      {after : List (Event Flow)}, LegacyWay f.context.id info.path before username →
      after.countP Event.looksUp = 0 →
      (before ++ .asked .locationName home :: after).countP Event.looksUp =
        if info.path.isSome then 1 else 0 := by
    intro before username home after hfile hafter
    rw [List.countP_append, List.countP_cons_of_neg Bool.false_ne_true, hafter]
    exact hfile.footprint.lookups
  cases h with
  | @unreached home _ _ _ hfile hway =>
    obtain ⟨c, hc⟩ := hway.footprint
    exact hfirst home hfile hc.lookups
  | @imported home _ _ _ _ _ _ _ hfile hway hentry =>
    obtain ⟨c, hc⟩ := hway.footprint
    exact hfirst home hfile (hc.append hentry.footprint).lookups
  | @unauthorized home _ _ _ _ _ _ hfile hway hlink =>
    obtain ⟨c, hc⟩ := hway.footprint
    refine hfirst home hfile ?_
    rw [List.countP_append, hc.lookups, hlink.lookups_eq]

/-- Nothing but an unreachable bridge ends an import for good. -/
theorem ImportWay.abort_eq {reason : AbortReason} (h : ImportWay info f es (.abort reason) f') :
    reason = .cannotConnect := by
  cases h with
  | unreached => rfl
  | imported _ _ hentry => exact nomatch hentry
  | unauthorized _ _ hlink => exact absurd rfl (link_of_candidate rfl hlink reason)

/-- The client that an entry comes from was connected to the host. -/
theorem ImportWay.source_host_eq {s : Source} {flow : Uuid} {file : Option String} {e : Entry}
    (h : ImportWay info f es r f') (hbacks : s.Backs flow file es e) : s.host = info.host := by
  have hcontact : Contact ⟨20000, 2, 0, 1⟩ (· = info.host) es := by
    apply h.contact (Nat.le_refl _)
    dsimp only
    split <;> decide
  obtain ⟨before, home, hsaid⟩ := hbacks.said
  have hconnected : ⟨s.host, s.username, s.client⟩ ∈ connections es := by
    rw [hsaid]
    simp [connections, Event.connection, Source.says]
  exact hcontact.aimed _ hconnected

/-- An import asks for a username once if there is a file that may hold one, and goes through an
exchange with it, or without any. If the bridge accepts, there is an entry. If it cannot be reached,
the flow ends. If it is to be paired, the flow goes on as the link step does for this host: a second
exchange, without a username, brings an entry, or else the link form with no error on it, whatever
went wrong. Nothing else ends the flow, and whichever way an entry comes, the bridge at the host
accepted its username. -/
theorem an_import_asks_the_bridge (info : ImportInfo) :
    (stepImport info).EndsWithin 20000 ∧
    ∀ f es r f', Passage Eq (stepImport info) f es r f' →
      f'.context.host = some info.host ∧
      (talk es).countP Event.looksUp = (if info.path.isSome then 1 else 0) ∧
      (∃ lookup username home es₁ answer es₂, LegacyWay f.context.id info.path lookup username ∧
        Passage Eq (Exchange.acquire info.host username home) (f.importing info) es₁ answer
          (f.importing info) ∧
        talk es = lookup ++ .asked .locationName home :: (talk es₁ ++ talk es₂) ∧
        match answer with
        | .ok linked => Completion linked (f.importing info) (talk es₂) r f'
        | .error .cannotConnect =>
          talk es₂ = [] ∧ r = .abort .cannotConnect ∧ f'.candidate = f.candidate
        | .error .authenticationRequired =>
          let again := (f.importing info).trying info.host
          Passage Eq (stepLink false) again es₂ r f' ∧ f'.candidate = some info.host ∧
          ∃ home' es₃ answer' after,
            Passage Eq (Exchange.acquire info.host none home') (again.enter .link) es₃ answer'
              (again.enter .link) ∧
            talk es₂ = .asked .locationName home' :: (talk es₃ ++ after) ∧
            match answer' with
            | .ok linked => Completion linked (again.enter .link) after r f'
            | .error _ => after = [] ∧ r = .form .link [] none
        | .error _ => False) ∧
      (∀ reason, r = .abort reason → reason = .cannotConnect) ∧
      ∀ e, r = .entry e → ∃ s : Source, s.host = info.host ∧
        s.Backs f.context.id info.path (talk es) e ∧
        ∀ holds, Ledger holds (talk es) →
          Accepted holds (talk es) info.host e.registration.username := by
  refine ⟨endsWithin_stepImport info, ?_⟩
  intro f es r f' h
  have hway := passage_stepImport h
  refine ⟨hway.host_eq, hway.lookups_eq, ?_, ?_, ?_⟩
  · obtain ⟨lookup, username, home, es₁, answer, es₂, hfile, hexchange, htalk, hend⟩ :=
      exchange_of_stepImport h
    refine ⟨lookup, username, home, es₁, answer, es₂, hfile, hexchange, htalk, ?_⟩
    obtain ⟨linked, rfl⟩ | rfl | rfl := (Exchange.passage_acquire hexchange).1.ends
    · exact hend
    · obtain ⟨home', es₃, answer', after, hagain, hsaid, hlast⟩ := exchange_of_stepLink rfl hend
      refine ⟨hend, (passage_stepLink hend).candidate_eq, home', es₃, answer', after, hagain, hsaid,
        ?_⟩
      rcases answer' with _ | linked
      · obtain ⟨hsilent, hform, _⟩ := hlast
        exact ⟨hsilent, hform⟩
      · exact hlast
    · obtain ⟨hsilent, habort, rfl⟩ := hend
      exact ⟨hsilent, habort, rfl⟩
  · rintro reason rfl
    exact hway.abort_eq
  · rintro e rfl
    obtain ⟨s, hbacks⟩ := (backed_import hway).source
    have hhost := hway.source_host_eq hbacks
    refine ⟨s, hhost, hbacks, ?_⟩
    intro holds hholds
    rw [← hhost]
    exact hbacks.validated hholds

/-! ## A host that is known already -/

/-- The host of the bridge that moved is imported twice: once with its username in the file, and
once with none there while nobody pressed the button. -/
theorem an_import_asks_the_bridge_at_a_known_host :
    (Passage Eq (stepImport ⟨"192.168.1.2", some "phue.conf"⟩) (Flow.begin default .known)
        rejoinEvents (.entry movedEntry) rejoined ∧
      Ledger lastConnected (talk rejoinEvents) ∧ (talk rejoinEvents).countP Event.looksUp = 1 ∧
      Accepted lastConnected (talk rejoinEvents) "192.168.1.2" "new") ∧
    Passage Eq (stepImport ⟨"192.168.1.2", some "phue.conf"⟩) (Flow.begin default .known)
        fallbackEvents (.form .link [] none) fallenBack ∧
      (talk fallbackEvents).countP Event.looksUp = 1 ∧
      fallenBack.context.host = some "192.168.1.2" := by
  have hrejoined : Passage Eq rejoining.step (Flow.begin default .known) rejoinEvents
      (.entry movedEntry) rejoined := passage_recorded (t := 30) (by cbv)
  have hfallen : Passage Eq rejoining.step (Flow.begin default .known) fallbackEvents
      (.form .link [] none) fallenBack := passage_recorded (t := 40) (by cbv)
  obtain ⟨_, hall⟩ := an_import_asks_the_bridge ⟨"192.168.1.2", some "phue.conf"⟩
  obtain ⟨_, hlooks, _, _, hentry⟩ := hall _ _ _ _ hrejoined
  obtain ⟨hhost, hlooks', _⟩ := hall _ _ _ _ hfallen
  obtain ⟨s, _, _, haccepted⟩ := hentry _ rfl
  exact ⟨⟨hrejoined, ledger_rejoinEvents, hlooks, haccepted _ ledger_rejoinEvents⟩, hfallen,
    hlooks', hhost⟩

end HueLink.Pairing
