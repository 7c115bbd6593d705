-- The limits of the steps of a flow and of the setup of a session. However bridges and discovery
-- behave, they are over in time, turn to no bridge but the one they are about, and turn to it no
-- more often than they have to.
import HueLink.Proofs.Exchange.Contact
import HueLink.Proofs.Pairing.Credential
import HueLink.Proofs.Routine.Duration
import HueLink.Proofs.Session.Lifecycle
import HueLink.Proofs.Session.Ways

namespace HueLink

open Routine

/-! ## Time -/

namespace Exchange

variable {κ : Type}

theorem endsWithin_refuse (fault : Fault) :
    (refuse fault : Routine κ BridgeError).EndsWithin 0 := by
  cases fault with
  | linkButtonNotPressed | unauthorized | request _ => exact endsWithin_pure _
  | protocol message => exact endsWithin_query_bind fun _ => endsWithin_pure _

theorem endsWithin_conclude (c : Client) (answer : Option (Except Fault BridgeConfig)) :
    (Conduct.conclude c answer : Routine κ (Except BridgeError LinkedBridge)).EndsWithin 0 := by
  rcases answer with _ | fault | config
  · exact endsWithin_pure _
  · exact endsWithin_instant_bind (endsWithin_refuse fault) fun _ => endsWithin_pure _
  · refine endsWithin_query_bind fun held => ?_
    cases held with
    | none => exact endsWithin_pure _
    | some name => exact endsWithin_pure _

theorem endsWithin_acquire (host : String) (username : Option String) (home : HomeName) :
    (acquire host username home : Routine κ (Except BridgeError LinkedBridge)).EndsWithin
      authLimit := by
  rw [Conduct.acquire_eq]
  exact endsWithin_query_bind fun c =>
    (endsWithin_within authLimit _).bind_instant fun answer => endsWithin_conclude c answer

end Exchange

namespace Pairing

theorem endsWithin_abort (reason : AbortReason) : (abort reason).EndsWithin 0 :=
  endsWithin_read_bind fun _ => endsWithin_query_bind fun _ => endsWithin_modify_bind <|
    endsWithin_pure _

theorem endsWithin_normalizeId (id : String) : (normalizeId id).EndsWithin 0 :=
  endsWithin_instant_bind (endsWithin_forM_note _ _) fun _ => endsWithin_pure _

theorem endsWithin_entryFor (linked : LinkedBridge) : (entryFor linked).EndsWithin 0 := by
  refine endsWithin_instant_bind (endsWithin_normalizeId _) fun bridgeId => ?_
  refine endsWithin_modify_bind (endsWithin_query_bind fun host =>
    endsWithin_query_bind fun store => ?_)
  exact endsWithin_instant_bind (endsWithin_forM_note _ _) fun _ =>
    endsWithin_modify_bind (endsWithin_pure _)

theorem endsWithin_stepLink (submitted : Bool) : (stepLink submitted).EndsWithin authLimit := by
  refine endsWithin_modify_bind (endsWithin_read_bind fun flow => ?_)
  split
  · exact endsWithin_query_bind fun _ => (endsWithin_abort _).mono (Nat.zero_le _)
  · refine endsWithin_query_bind fun home =>
      (Exchange.endsWithin_acquire _ none home).bind_instant fun answer => ?_
    rcases answer with error | linked
    · cases error with
      | authenticationRequired => exact endsWithin_pure _
      | cannotConnect | unknown _ | notReady | invalidServiceData _ =>
        exact endsWithin_query_bind fun _ => endsWithin_pure _
    · exact endsWithin_entryFor linked

theorem endsWithin_linkHost (host : String) : (linkHost host).EndsWithin authLimit :=
  endsWithin_instant_bind (endsWithin_modify_bind (endsWithin_modify_bind (endsWithin_pure _)))
    fun _ => endsWithin_stepLink false

theorem endsWithin_offer (bridges : List DiscoveredBridge) :
    (offer bridges).EndsWithin authLimit := by
  refine endsWithin_modify_bind ?_
  split
  · exact (endsWithin_abort _).mono (Nat.zero_le _)
  · refine endsWithin_query_bind fun store => ?_
    split
    · exact (endsWithin_abort _).mono (Nat.zero_le _)
    · exact endsWithin_linkHost _
    · exact endsWithin_pure _

theorem endsWithin_discovery : (stepInit none).EndsWithin (discoveryLimit + authLimit) := by
  refine endsWithin_modify_bind ((endsWithin_within discoveryLimit _).bind fun found => ?_)
  rcases found with _ | fault | bridges
  · exact (endsWithin_abort _).mono (Nat.zero_le _)
  · exact endsWithin_query_bind fun _ => (endsWithin_abort _).mono (Nat.zero_le _)
  · exact endsWithin_offer bridges

theorem endsWithin_chosen (chosen : HostSelection) :
    (stepInit (some chosen)).EndsWithin authLimit :=
  endsWithin_modify_bind (endsWithin_linkHost chosen.host)

theorem endsWithin_legacyUsername (path : Option String) : (legacyUsername path).EndsWithin 0 := by
  cases path with
  | none => exact endsWithin_pure _
  | some relative =>
    exact endsWithin_query_bind fun _ => endsWithin_read_bind fun _ => endsWithin_query_bind
      fun _ => endsWithin_pure _

/-- An import may take two exchanges, one after another. -/
theorem endsWithin_stepImport (info : ImportInfo) :
    (stepImport info).EndsWithin (authLimit + authLimit) := by
  refine endsWithin_modify_bind (endsWithin_modify_bind
    (endsWithin_instant_bind (endsWithin_legacyUsername _) fun found =>
      endsWithin_query_bind fun home => ?_))
  refine (Exchange.endsWithin_acquire _ _ home).bind fun answer => ?_
  rcases answer with error | linked
  · cases error with
    | authenticationRequired =>
      exact endsWithin_query_bind fun _ => endsWithin_modify_bind (endsWithin_stepLink false)
    | cannotConnect | unknown _ | notReady | invalidServiceData _ =>
      exact endsWithin_query_bind fun _ => (endsWithin_abort _).mono (Nat.zero_le _)
  · exact endsWithin_query_bind fun _ => (endsWithin_entryFor linked).mono (Nat.zero_le _)

theorem endsWithin_otherFlows : otherFlows.EndsWithin 0 :=
  endsWithin_read_bind fun _ => endsWithin_query_bind fun _ => endsWithin_pure _

theorem endsWithin_claimed (host : String) : (claimed? host).EndsWithin 0 := by
  refine endsWithin_instant_bind endsWithin_otherFlows fun others => ?_
  split
  · exact endsWithin_pure _
  · exact endsWithin_query_bind fun _ => endsWithin_pure _

theorem endsWithin_setUniqueId (id : String) : (setUniqueId id true).EndsWithin 0 := by
  refine endsWithin_instant_bind endsWithin_otherFlows fun others => ?_
  rw [pure_bind]
  dsimp only
  split
  · exact endsWithin_pure _
  · exact endsWithin_modify_bind (endsWithin_pure _)

theorem endsWithin_claimAndImport (host announcedId : String) (path : Option String) :
    (claimAndImport host announcedId path).EndsWithin (authLimit + authLimit) := by
  refine endsWithin_modify_bind (endsWithin_instant_bind (endsWithin_claimed host)
    fun reason => ?_)
  cases reason with
  | some reason => exact (endsWithin_abort reason).mono (Nat.zero_le _)
  | none =>
    refine endsWithin_instant_bind (endsWithin_normalizeId _) fun id =>
      endsWithin_instant_bind (endsWithin_setUniqueId id) fun taken => ?_
    cases taken with
    | some reason => exact (endsWithin_abort reason).mono (Nat.zero_le _)
    | none => exact endsWithin_stepImport _

/-- What a step may take. Looking for bridges costs a round of discovery before the exchange, and
after a failed exchange an import may take a second one. -/
def Entrance.limits : Entrance → Limits
  | user (some _) | init (some _) | link _ => ⟨10000, 1, 0, 0⟩
  | user none | init none => ⟨15000, 1, 1, 0⟩
  | homekit _ => ⟨20000, 2, 0, 0⟩
  | ssdp _ => ⟨20000, 2, 0, 1⟩
  | known info => ⟨20000, 2, 0, if info.path.isSome then 1 else 0⟩

theorem endsWithin_step (entrance : Entrance) :
    entrance.step.EndsWithin entrance.limits.time := by
  cases entrance with
  | user selection | init selection =>
    cases selection with
    | none => exact endsWithin_discovery
    | some chosen => exact endsWithin_chosen chosen
  | link submitted => exact endsWithin_stepLink submitted
  | ssdp info =>
    refine endsWithin_modify_bind ?_
    split
    · exact endsWithin_claimAndImport _ _ _
    · exact (endsWithin_abort _).mono (Nat.zero_le _)
  | homekit info => exact endsWithin_modify_bind (endsWithin_claimAndImport _ _ _)
  | known info => exact endsWithin_stepImport info

/-! ## Contact -/

variable {f f' : Flow} {es : List (Event Flow)} {r : FlowResult}

theorem Completion.footprint {linked : LinkedBridge} (h : Completion linked f es r f') :
    Footprint es [] 0 0 := by
  cases h with
  | entry => exact (footprint_nil.quiet rfl).quiet rfl

/-- The link step turns to nobody but the host that it is to try, and asks it for a username. -/
theorem LinkWay.footprint {submitted : Bool} (h : LinkWay submitted f es r f') :
    (f.candidate = none ∧ Footprint es [] 0 0) ∨
      ∃ host c, f.candidate = some host ∧ Footprint es [⟨host, none, c⟩] 0 0 := by
  cases h with
  | hostless hnone => exact Or.inl ⟨hnone, footprint_nil⟩
  | refused hhost hway =>
    obtain ⟨c, hc⟩ := hway.footprint
    exact Or.inr ⟨_, c, hhost, hc.quiet rfl⟩
  | linked hhost hway hentry =>
    obtain ⟨c, hc⟩ := hway.footprint
    exact Or.inr ⟨_, c, hhost, (hc.append hentry.footprint).quiet rfl⟩

theorem LinkWay.candidate_eq {submitted : Bool} (h : LinkWay submitted f es r f') :
    f'.candidate = f.candidate := by
  cases h with
  | hostless | refused => rfl
  | linked _ _ hentry =>
    cases hentry
    rfl

theorem LinkWay.contact {submitted : Bool} {limits : Limits} (h : LinkWay submitted f es r f')
    (hone : 1 ≤ limits.connections) : Contact limits (f.candidate = some ·) es := by
  rcases h.footprint with ⟨_, hes⟩ | ⟨host, c, hhost, hes⟩
  · exact hes.contact_none (Nat.zero_le _) (Nat.zero_le _)
  · exact hes.contact_one hhost hone (Nat.zero_le _) (Nat.zero_le _)

/-- The host that the flow remembers was the only one found that has no registration. -/
def Flow.HasFound (f : Flow) (es : List (Event Flow)) (host : String) : Prop :=
  f.candidate = some host ∧ ∃ bridges store, .calledBy .discover (some (.ok bridges)) ∈ es ∧
    .asked .registrations store ∈ es ∧
    (bridges.map (·.host)).filter (fun host => !isConfigured store host) = [host]

theorem InitWay.contact_chosen {chosen : HostSelection} {limits : Limits}
    (h : InitWay f (some chosen) es r f') (hone : 1 ≤ limits.connections) :
    Contact limits (· = chosen.host) es := by
  cases h with
  | chosen hlink =>
    refine (hlink.contact hone).after footprint_nil (Nat.le_refl _) ?_ ?_ ?_
    · exact (Nat.zero_add _).le
    · exact (Nat.zero_add _).le
    · intro host hhost
      exact (Option.some.inj hhost).symm

theorem InitWay.contact_found (h : InitWay f none es r f') :
    Contact ⟨15000, 1, 1, 0⟩ (f'.HasFound es) es := by
  -- One round of discovery, whatever comes of it.
  have hround : ∀ {rest : List (Event Flow)} {made : List Connection}
      (found : Option (Except Fault (List DiscoveredBridge))), Footprint rest made 0 0 →
      Footprint (.calledBy .discover found :: rest) made 1 0 := by
    intro rest made found hrest
    refine ⟨hrest.connections, .other rfl hrest.created, ?_, hrest.lookups⟩
    rw [List.countP_cons_of_pos rfl, hrest.rounds]
  cases h with
  | late | failed | nothing =>
    exact (hround _ footprint_nil).contact_none (Nat.le_refl _) (Nat.le_refl _)
  | configured | several =>
    exact (hround _ (footprint_nil.quiet rfl)).contact_none (Nat.le_refl _)
      (Nat.le_refl _)
  | @single bridges store host es _ _ hsingle hlink =>
    have hcontact : Contact ⟨0, 1, 0, 0⟩ _ es := hlink.contact (Nat.le_refl _)
    refine hcontact.after (hround (some (.ok bridges)) (footprint_nil.quiet rfl))
      (Nat.le_refl _) (Nat.le_refl _) (Nat.le_refl _) ?_
    intro other hother
    obtain rfl : host = other := Option.some.inj hother
    exact ⟨hlink.candidate_eq, bridges, store, by simp, by simp, hsingle⟩

theorem LegacyWay.footprint {flow : Uuid} {path username : Option String}
    (h : LegacyWay flow path es username) :
    Footprint es [] 0 (if path.isSome then 1 else 0) := by
  cases h with
  | nowhere => exact footprint_nil
  | inFile => exact ⟨rfl, .other rfl (.other rfl .nil), rfl, rfl⟩

/-- An import turns to its host once, and once more to get a new username if it is refused. -/
theorem ImportWay.contact {info : ImportInfo} {limits : Limits} (h : ImportWay info f es r f')
    (htwo : 2 ≤ limits.connections)
    (hlookup : (if info.path.isSome then 1 else 0) ≤ limits.lookups) :
    Contact limits (· = info.host) es := by
  have hone : 1 ≤ limits.connections := Nat.le_of_succ_le htwo
  cases h with
  | @unreached home _ _ _ hfile hway =>
    obtain ⟨c, hc⟩ := hway.footprint
    have hall := hfile.footprint.append (hc.quiet (e := .asked .locationName home) rfl)
    exact hall.contact_one rfl hone (Nat.zero_le _) hlookup
  | @imported home _ _ _ _ _ _ _ hfile hway hentry =>
    obtain ⟨c, hc⟩ := hway.footprint
    have hall := hfile.footprint.append
      ((hc.append hentry.footprint).quiet (e := .asked .locationName home) rfl)
    exact hall.contact_one rfl hone (Nat.zero_le _) hlookup
  | @unauthorized home username es₁ es₂ es₃ _ _ hfile hway hlink =>
    obtain ⟨c, hc⟩ := hway.footprint
    rcases hlink.footprint with ⟨hnone, _⟩ | ⟨host, c', hhost, hc'⟩
    · exact nomatch hnone
    obtain rfl : info.host = host := Option.some.inj hhost
    have hall := hfile.footprint.append
      ((hc.append hc').quiet (e := .asked .locationName home) rfl)
    refine ⟨?_, ?_, ?_, hall.created, ?_, ?_⟩
    · rw [hall.connections]
      exact htwo
    · rw [hall.connections]
      intro x hx
      rcases List.mem_cons.mp hx with rfl | hx
      · rfl
      · rw [List.mem_singleton.mp hx]
    · intro first second hboth
      rw [hall.connections] at hboth
      obtain ⟨rfl, hrest⟩ := List.cons.inj hboth
      obtain ⟨rfl, _⟩ := List.cons.inj hrest
      refine ⟨rfl, es₁ ++ [.asked .locationName home], es₂, es₃, home, ?_, ?_, hway⟩
      · rw [List.append_assoc]
        rfl
      · rw [connections_append, hfile.footprint.connections]
        rfl
    · rw [hall.rounds]
      exact Nat.zero_le _
    · rw [hall.lookups]
      exact hlookup

theorem ClaimWay.contact {host announcedId : String} {path : Option String} {limits : Limits}
    (h : ClaimWay host announcedId path f es r f') (htwo : 2 ≤ limits.connections)
    (hlookup : (if path.isSome then 1 else 0) ≤ limits.lookups) :
    Contact limits (· = host) es := by
  cases h with
  | hostTaken =>
    exact (footprint_nil.quiet rfl).contact_none (Nat.zero_le _) (Nat.zero_le _)
  | configured =>
    exact ((footprint_nil.quiet rfl).quiet rfl).contact_none (Nat.zero_le _) (Nat.zero_le _)
  | idTaken =>
    exact (((footprint_nil.quiet rfl).quiet rfl).quiet rfl).contact_none (Nat.zero_le _)
      (Nat.zero_le _)
  | @claimed flows flows' store es _ _ _ _ _ himport =>
    have hbefore : Footprint [.asked .flowsInProgress flows, .asked .registrations store,
        (.asked .flowsInProgress flows' : Event Flow)] [] 0 0 :=
      ((footprint_nil.quiet rfl).quiet rfl).quiet rfl
    exact (himport.contact htwo hlookup).after hbefore (Nat.le_refl _) (Nat.zero_add _).le
      (Nat.zero_add _).le fun _ => id

/-- The one host that a step turns to: the one chosen, remembered or announced. -/
def Entrance.Aims (f : Flow) (es : List (Event Flow)) (f' : Flow) : Entrance → String → Prop
  | user (some chosen), host | init (some chosen), host => host = chosen.host
  | user none, host | init none, host => f'.HasFound es host
  | link _, host => f.candidate = some host
  | ssdp info, host => host = info.host
  | homekit info, host => host = info.host
  | known info, host => host = info.host

theorem Way.contact {entrance : Entrance} (h : Way entrance f es r f') :
    Contact entrance.limits (entrance.Aims f es f') es := by
  cases h with
  | @user selection _ _ _ _ h | @init selection _ _ _ _ h =>
    cases selection with
    | none => exact h.contact_found
    | some chosen => exact h.contact_chosen (Nat.le_refl _)
  | link h => exact h.contact (Nat.le_refl _)
  | spurious _ => exact footprint_nil.contact_none (Nat.zero_le _) (Nat.zero_le _)
  | ssdp _ h => exact h.contact (Nat.le_refl _) (Nat.le_refl _)
  | homekit h => exact h.contact (Nat.le_refl _) (Nat.le_refl _)
  | known h => exact h.contact (Nat.le_refl _) (Nat.le_refl _)

end Pairing

/-! ## Setups -/

namespace Session

variable {s : Session} {es : List (Event Cell)} {r : SetupOutcome}

theorem endsWithin_claim : claim.EndsWithin 0 :=
  endsWithin_lock (endsWithin_own fun _ => endsWithin_pure _)

theorem endsWithin_setState (state : SessionState) : (setState state).EndsWithin 0 :=
  endsWithin_lock (endsWithin_own fun _ => endsWithin_pure _)

theorem endsWithin_load (linked : LinkedBridge) : (s.load linked).EndsWithin 0 := by
  have hkeep : ∀ ready, (keep ready).EndsWithin 0 := fun _ =>
    endsWithin_own fun _ => endsWithin_pure _
  have hplatforms : (Platform.all.forM fun platform =>
      (Routine.query (.forwardSetup s.registration platform) : Routine Cell Unit)).EndsWithin 0 :=
    endsWithin_query_bind fun _ => endsWithin_query_bind fun _ => endsWithin_query_bind fun _ =>
      endsWithin_pure ()
  refine endsWithin_query_bind fun _ => endsWithin_instant_bind (hkeep _) fun kept => ?_
  split
  · refine endsWithin_instant_bind hplatforms fun _ => endsWithin_query_bind fun _ =>
      endsWithin_modify_bind (endsWithin_instant_bind (endsWithin_setState _) fun _ => ?_)
    exact endsWithin_query_bind fun _ => endsWithin_pure _
  · exact endsWithin_pure _

theorem endsWithin_setup : s.setup.EndsWithin authLimit := by
  refine endsWithin_instant_bind endsWithin_claim fun claimed => ?_
  cases claimed with
  | false => exact endsWithin_query_bind fun _ => endsWithin_pure _
  | true =>
    refine endsWithin_query_bind fun home =>
      (Exchange.endsWithin_acquire _ _ home).bind_instant fun answer => ?_
    rcases answer with error | linked
    · cases error with
      | authenticationRequired =>
        exact endsWithin_instant_bind (endsWithin_setState _) fun _ =>
          endsWithin_query_bind fun _ => endsWithin_pure _
      | cannotConnect | unknown _ | notReady | invalidServiceData _ =>
        exact endsWithin_query_bind fun _ =>
          endsWithin_instant_bind (endsWithin_setState _) fun _ => endsWithin_pure _
    · exact endsWithin_load linked

theorem footprint_hookedIn : Footprint s.hookedIn [] 0 0 :=
  (((footprint_nil.quiet rfl).quiet rfl).quiet rfl).quiet rfl

/-- A setup turns to its own bridge only, with the username it has. -/
theorem SetupWay.footprint (h : s.SetupWay es r) : Footprint es [] 0 0 ∨
    ∃ c, Footprint es [⟨s.host, some s.registration.username, c⟩] 0 0 := by
  cases h with
  | repeated => exact Or.inl footprint_nil
  | refused hway =>
    obtain ⟨c, hc⟩ := hway.footprint
    exact Or.inr ⟨c, (hc.append (footprint_nil.quiet rfl)).quiet rfl⟩
  | missed hway | overtaken hway =>
    obtain ⟨c, hc⟩ := hway.footprint
    exact Or.inr ⟨c, hc.quiet rfl⟩
  | loaded hway =>
    obtain ⟨c, hc⟩ := hway.footprint
    exact Or.inr ⟨c, (hc.append footprint_hookedIn).quiet rfl⟩

/-- What a setup may take. -/
def limits : Limits := ⟨10000, 1, 0, 0⟩

theorem SetupWay.contact (h : s.SetupWay es r) : Contact limits (· = s.host) es ∧
    ∀ x ∈ connections es, x.username = some s.registration.username := by
  rcases h.footprint with hes | ⟨c, hes⟩
  · refine ⟨hes.contact_none (Nat.le_refl _) (Nat.le_refl _), ?_⟩
    rw [hes.connections]
    exact fun x hx => absurd hx List.not_mem_nil
  · refine ⟨hes.contact_one rfl (Nat.le_refl _) (Nat.le_refl _) (Nat.le_refl _), ?_⟩
    rw [hes.connections]
    intro x hx
    rw [List.mem_singleton.mp hx]

end Session

/-- Where no connection begins without a username, none is asked for. -/
theorem Contact.creates_nothing {κ : Type} {limits : Limits} {aim : String → Prop}
    {es : List (Event κ)} (h : Contact limits aim es)
    (hknown : ∀ x ∈ HueLink.connections es, x.username.isSome) : creations es = [] := by
  have hnone : strangers es = [] := by
    unfold strangers
    rw [List.map_eq_nil_iff, List.filter_eq_nil_iff]
    intro x hx
    rw [Option.isNone_iff_eq_none, ← Option.not_isSome_iff_eq_none, not_not]
    exact hknown x hx
  have hsublist := h.created.sublist
  rw [hnone] at hsublist
  exact List.sublist_nil.mp hsublist

/-- Whatever bridges and discovery do, a step and a setup are over in time. On the way they keep to
their limits: each connection is to the one host they are about, a second one is made only after
the first was refused and without a username, and a username is asked for only on a client that was
connected just before without one, so at most once on each. A setup asks for none, and connects
with the one it has. -/
theorem steps_and_setups_keep_their_limits (entrance : Pairing.Entrance) (s : Session) :
    entrance.step.EndsWithin entrance.limits.time ∧
    (∀ f es r f', Passage Eq entrance.step f es r f' →
      Contact entrance.limits (entrance.Aims f (talk es) f') (talk es) ∧
      (∀ before e after c, talk es = before ++ e :: after → e.createsOn = some c →
        ∃ earlier host, before = earlier ++ [.asked (.connect host none) c]) ∧
      (creations (talk es)).Sublist (strangers (talk es))) ∧
    s.setup.EndsWithin Session.limits.time ∧
    (∀ meanwhile c es r c', Passage meanwhile s.setup c es r c' →
      Contact Session.limits (· = s.host) (talk es) ∧
      (∀ x ∈ connections (talk es), x.username = some s.registration.username) ∧
      creations (talk es) = []) := by
  refine ⟨Pairing.endsWithin_step entrance, ?_, Session.endsWithin_setup, ?_⟩
  · intro f es r f' h
    have hcontact := (Pairing.way_of_passage h).contact
    refine ⟨hcontact, ?_, hcontact.created.sublist⟩
    intro before e after c hes he
    exact hcontact.created.connected hes he
  · intro meanwhile c es r c' h
    obtain ⟨hcontact, hknown⟩ := (Session.passage_setup h).contact
    refine ⟨hcontact, hknown, hcontact.creates_nothing ?_⟩
    intro x hx
    rw [hknown x hx]
    rfl

/-! ## An import that falls back to the link step -/

namespace Pairing

/-- What happens when a host is imported for which no file holds a username, and nobody pressed the
button. -/
def fallbackEvents : List (Event Flow) :=
  rejoining.recorded (unpressed []) (Flow.begin default .known) []

def fallenBack : Flow :=
  ⟨⟨default, .known, some "192.168.1.2", none⟩, some "192.168.1.2", .link⟩

end Pairing

/-- The setup of a session whose bridge never answers. -/
theorem passage_unanswered : ∃ es c, Passage Eq guestSession.setup Cell.fresh es .retryLater c ∧
    connections (talk es) = [⟨"192.168.1.2", some "guest", ⟨0⟩⟩] :=
  ⟨_, _, .lock (.own rfl (.ask (HomeName.plain "Home") (.ask (⟨0⟩ : Client)
    (.clock 0 (.callBy none (.ask ()
    (.lock (.own rfl (.done _ _))))))))), rfl⟩

open Pairing in
theorem steps_and_setups_keep_their_limits_at_a_fallback :
    Passage Eq rejoining.step (Flow.begin default .known) fallbackEvents (.form .link [] none)
      fallenBack ∧
    connections (talk fallbackEvents) =
      [⟨"192.168.1.2", none, ⟨0⟩⟩, ⟨"192.168.1.2", none, ⟨0⟩⟩] ∧
    Refused ⟨"192.168.1.2", none, ⟨0⟩⟩ (talk fallbackEvents) ∧
    (creations (talk fallbackEvents)).Sublist [⟨0⟩, ⟨0⟩] ∧
    (∃ es c, Passage Eq guestSession.setup Cell.fresh es .retryLater c ∧
      connections (talk es) = [⟨"192.168.1.2", some "guest", ⟨0⟩⟩] ∧ creations (talk es) = []) := by
  have hstep : Passage Eq rejoining.step (Flow.begin default .known) fallbackEvents
      (.form .link [] none) fallenBack := passage_recorded (t := 40) (by cbv)
  have hmade : connections (talk fallbackEvents) =
      [⟨"192.168.1.2", none, ⟨0⟩⟩, ⟨"192.168.1.2", none, ⟨0⟩⟩] := by cbv
  obtain ⟨_, hsteps, _, hsetups⟩ := steps_and_setups_keep_their_limits rejoining guestSession
  obtain ⟨hcontact, _, hcreations⟩ := hsteps _ _ _ _ hstep
  obtain ⟨_, hrefused⟩ := hcontact.again _ _ hmade
  obtain ⟨es, c, hsetup, hconnected⟩ := passage_unanswered
  obtain ⟨_, _, hnone⟩ := hsetups _ _ _ _ _ hsetup
  refine ⟨hstep, hmade, hrefused, ?_, es, c, hsetup, hconnected, hnone⟩
  unfold strangers at hcreations
  rw [hmade] at hcreations
  exact hcreations

end HueLink
