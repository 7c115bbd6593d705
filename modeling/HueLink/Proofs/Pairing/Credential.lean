-- What stands behind an entry. Whichever way a step came to its end, the bridge accepted the
-- username of the entry within that step, and the record holds what the client of that bridge said
-- last.
import HueLink.Proofs.Pairing.Lobby

namespace HueLink

open Routine

/-! ## The host is left alone -/

/-- Nothing is changed at the host: it may be asked, and bridges may be talked to. -/
def Routine.Event.sparesHost {κ : Type} : Event κ → Bool
  | asked (.startPairing _) _ | asked (.forwardSetup _ _) _ | asked (.forwardUnload _ _) _
  | asked (.registerSceneService _) _ | asked .removeSceneService _ | called (.unloaded _ _) _
  | calledBy (.unloaded _ _) _ => false
  | moved _ _ | passed _ | asked _ _ | called _ _ | calledBy _ _ => true

def SparesHost {κ : Type} (es : List (Event κ)) : Prop := ∀ e ∈ es, e.sparesHost = true

variable {κ : Type} {es es' : List (Event κ)}

@[simp] theorem sparesHost_nil : SparesHost ([] : List (Event κ)) := by
  simp [SparesHost]

@[simp] theorem sparesHost_cons {e : Event κ} :
    SparesHost (e :: es) ↔ e.sparesHost = true ∧ SparesHost es := by
  simp [SparesHost]

@[simp] theorem sparesHost_append : SparesHost (es ++ es') ↔ SparesHost es ∧ SparesHost es' := by
  simp [SparesHost, or_imp, forall_and]

theorem SparesHost.cons {e : Event κ} (he : e.sparesHost = true) (hes : SparesHost es) :
    SparesHost (e :: es) := sparesHost_cons.mpr ⟨he, hes⟩

theorem SparesHost.append (hes : SparesHost es) (hes' : SparesHost es') :
    SparesHost (es ++ es') := sparesHost_append.mpr ⟨hes, hes'⟩

/-- What is no talk changes nothing. -/
theorem sparesHost_of_talk (h : SparesHost (talk es)) : SparesHost es := by
  intro e he
  cases htalk : e.isTalk with
  | true => exact h e (List.mem_filter.mpr ⟨he, htalk⟩)
  | false =>
    rcases e with _ | _ | ⟨q, a⟩ | _ | _
    · rfl
    · rfl
    · cases q <;> simp_all [Event.isTalk, Event.sparesHost]
    · simp [Event.isTalk] at htalk
    · simp [Event.isTalk] at htalk

namespace Exchange

variable {c : Client} {host : String} {home : HomeName} {username : Option String}
  {r : Except BridgeError LinkedBridge}

theorem Validation.sparesHost (h : Validation c es r) : SparesHost es := by
  cases h with
  | late | rejected => exact .cons rfl sparesHost_nil
  | nameless | accepted => exact .cons rfl (.cons rfl sparesHost_nil)

theorem Way.sparesHost (h : Way host home username es r) : SparesHost es := by
  cases h with
  | known h => exact .cons rfl h.sparesHost
  | late | refused => exact .cons rfl (.cons rfl sparesHost_nil)
  | created h => exact .cons rfl (.cons rfl h.sparesHost)

end Exchange

namespace Pairing

variable {f f' : Flow} {es es' : List (Event Flow)} {r : FlowResult}

theorem Completion.sparesHost {linked : LinkedBridge} (h : Completion linked f es r f') :
    SparesHost es := by
  cases h
  exact .cons rfl (.cons rfl sparesHost_nil)

theorem LinkWay.sparesHost {submitted : Bool} (h : LinkWay submitted f es r f') :
    SparesHost es := by
  cases h with
  | hostless => exact sparesHost_nil
  | refused _ hway => exact .cons rfl hway.sparesHost
  | linked _ hway hentry => exact .cons rfl (hway.sparesHost.append hentry.sparesHost)

theorem InitWay.sparesHost {selection : Option HostSelection} (h : InitWay f selection es r f') :
    SparesHost es := by
  cases h with
  | chosen hlink => exact hlink.sparesHost
  | late | failed | nothing => exact .cons rfl sparesHost_nil
  | configured | several => exact .cons rfl (.cons rfl sparesHost_nil)
  | single _ hlink => exact .cons rfl (.cons rfl hlink.sparesHost)

theorem LegacyWay.sparesHost {flow : Uuid} {path username : Option String}
    (h : LegacyWay flow path es username) : SparesHost es := by
  cases h with
  | nowhere => exact sparesHost_nil
  | inFile => exact .cons rfl (.cons rfl sparesHost_nil)

theorem ImportWay.sparesHost {info : ImportInfo} (h : ImportWay info f es r f') :
    SparesHost es := by
  cases h with
  | unreached hfile hway => exact hfile.sparesHost.append (.cons rfl hway.sparesHost)
  | imported hfile hway hentry =>
    exact hfile.sparesHost.append (.cons rfl (hway.sparesHost.append hentry.sparesHost))
  | unauthorized hfile hway hlink =>
    exact hfile.sparesHost.append (.cons rfl (hway.sparesHost.append hlink.sparesHost))

theorem ClaimWay.sparesHost {host announcedId : String} {path : Option String}
    (h : ClaimWay host announcedId path f es r f') : SparesHost es := by
  cases h with
  | hostTaken => exact .cons rfl sparesHost_nil
  | configured => exact .cons rfl (.cons rfl sparesHost_nil)
  | idTaken => exact .cons rfl (.cons rfl (.cons rfl sparesHost_nil))
  | claimed _ _ _ himport => exact .cons rfl (.cons rfl (.cons rfl himport.sparesHost))

theorem Way.sparesHost {entrance : Entrance} (h : Way entrance f es r f') : SparesHost es := by
  cases h with
  | user h | init h => exact h.sparesHost
  | link h => exact h.sparesHost
  | spurious _ => exact sparesHost_nil
  | ssdp _ h | homekit h => exact h.sparesHost
  | known h => exact h.sparesHost

/-! ## The client behind an entry -/

/-- The client that an entry comes from, with what it was connected with and what was learnt. -/
structure Source where
  host : String
  username : Option String
  client : Client
  config : BridgeConfig
  store : List Registration

/-- What is said about a username before it is validated. A client without one has one created. -/
def Source.prepares (s : Source) (home : HomeName) : List (Event Flow) :=
  match s.username with
  | some _ => []
  | none => [.calledBy (.createUser s.client (Label.forHome home)) (some (.ok ()))]

/-- All that is said from the client being connected to the end of the step. -/
def Source.says (s : Source) (home : HomeName) (r : Registration) : List (Event Flow) :=
  .asked (.connect s.host s.username) s.client :: (s.prepares home ++
    [.calledBy (.validate s.client) (some (.ok s.config)),
      .asked (.clientUsername s.client) (some r.username), .asked (.clientHost s.client) r.host,
      .asked .registrations s.store])

/-- The entry comes from this source, which is the last a step turned to. A username it was
connected with was found in the file of the flow. -/
structure Source.Backs (s : Source) (flow : Uuid) (file : Option String) (es : List (Event Flow))
    (e : Entry) : Prop where
  said : ∃ before home, es = before ++ s.says home e.registration
  title : e.title = s.config.name
  bridgeId : e.registration.bridgeId = BridgeId.normalize s.config.bridgeId
  replaces : e.replaces = s.store.filter fun old => e.registration.Conflicts old
  found : ∀ name, s.username = some name → ∃ relative resolved, file = some relative ∧
    .asked (.configPath relative) resolved ∈ es ∧
    .asked (.legacyUsername flow resolved) (some name) ∈ es

variable {flow : Uuid} {file : Option String} {e : Entry} {s : Source}

theorem Source.Backs.after (h : s.Backs flow file es' e) (es : List (Event Flow)) :
    s.Backs flow file (es ++ es') e := by
  refine ⟨?_, h.title, h.bridgeId, h.replaces, ?_⟩
  · obtain ⟨before, home, rfl⟩ := h.said
    exact ⟨es ++ before, home, (List.append_assoc ..).symm⟩
  · intro name hname
    obtain ⟨relative, resolved, hfile, hpath, hlookup⟩ := h.found name hname
    exact ⟨relative, resolved, hfile, List.mem_append_right _ hpath,
      List.mem_append_right _ hlookup⟩

theorem displaced_eq (r : Registration) (store : List Registration) :
    r.displaced store = store.filter fun old => r.Conflicts old := by
  unfold Registration.displaced
  refine List.filter_congr fun old _ => ?_
  rw [Bool.eq_iff_iff, Registration.supersedes_iff, decide_eq_true_iff]

theorem said_of_exchange {host : String} {home : HomeName} {username : Option String}
    {linked : LinkedBridge}
    (hway : Exchange.Way host home username es (.ok linked))
    (hentry : Completion linked f es' (.entry e) f') :
    ∃ s : Source, s.username = username ∧ es ++ es' = s.says home e.registration ∧
      e.title = s.config.name ∧ e.registration.bridgeId = BridgeId.normalize s.config.bridgeId ∧
      e.replaces = s.store.filter fun old => e.registration.Conflicts old := by
  cases hentry with
  | @entry bridgeId host' store r hid hr =>
    subst hid hr
    cases hway with
    | known hvalid | created hvalid =>
      cases hvalid with
      | accepted config name =>
        exact ⟨⟨host, _, _, config, store⟩, rfl, rfl, rfl, rfl, displaced_eq _ store⟩

/-- An entry with a source behind it, and the bond of its flow. -/
structure Backed (flow : Uuid) (file : Option String) (f : Flow) (es : List (Event Flow))
    (e : Entry) (f' : Flow) : Prop where
  source : ∃ s : Source, s.Backs flow file es e
  bond : f'.context.uniqueId = some (f.context.uniqueId.getD e.registration.bridgeId)

theorem bond_of_completion {linked : LinkedBridge} (h : Completion linked f es (.entry e) f') :
    f'.context.uniqueId = some (f.context.uniqueId.getD e.registration.bridgeId) := by
  cases h with
  | entry hid hr =>
    subst hr
    rfl

theorem Backed.after (h : Backed flow file f es' e f') (es : List (Event Flow)) :
    Backed flow file f (es ++ es') e f' := by
  obtain ⟨s, hs⟩ := h.source
  exact ⟨⟨s, hs.after es⟩, h.bond⟩

theorem backed_link (flow : Uuid) (file : Option String) {submitted : Bool}
    (h : LinkWay submitted f es (.entry e) f') : Backed flow file f es e f' := by
  cases h with
  | @linked _ home _ _ linked _ _ _ hway hentry =>
    obtain ⟨s, hnone, hsaid, htitle, hid, hreplaces⟩ := said_of_exchange hway hentry
    have hbond := bond_of_completion hentry
    refine ⟨⟨s, ⟨[.asked .locationName home], home, ?_⟩, htitle, hid, hreplaces, ?_⟩, hbond⟩
    · rw [hsaid]
      rfl
    · intro name hname
      simp [hnone] at hname

theorem backed_init (flow : Uuid) (file : Option String) {selection : Option HostSelection}
    (h : InitWay f selection es (.entry e) f') : Backed flow file f es e f' := by
  cases h with
  | chosen hlink =>
    have hbacked := backed_link flow file hlink
    exact ⟨hbacked.source, hbacked.bond⟩
  | @single bridges store _ es _ _ _ hlink =>
    have hbacked := backed_link flow file hlink
    have hafter := hbacked.after
      [.calledBy .discover (some (.ok bridges)), .asked .registrations store]
    exact ⟨hafter.source, hbacked.bond⟩

theorem backed_import {info : ImportInfo} (h : ImportWay info f es (.entry e) f') :
    Backed f.context.id info.path f es e f' := by
  cases h with
  | @imported home username es es' es'' linked _ _ hfile hway hentry =>
    obtain ⟨s, rfl, hsaid, htitle, hid, hreplaces⟩ := said_of_exchange hway hentry
    have hbond := bond_of_completion hentry
    refine ⟨⟨s, ⟨es ++ [.asked .locationName home], home, ?_⟩, htitle, hid, hreplaces, ?_⟩, hbond⟩
    · rw [hsaid, List.append_assoc]
      rfl
    · intro name hname
      rw [hname] at hfile
      generalize info.path = path at hfile
      cases hfile with
      | inFile relative resolved =>
        exact ⟨relative, resolved, rfl, by simp, by simp⟩
  | @unauthorized home _ es es' es'' _ _ _ _ hlink =>
    have hbacked := backed_link f.context.id info.path hlink
    have hafter := hbacked.after (es ++ .asked .locationName home :: es')
    rw [List.append_assoc, List.cons_append] at hafter
    exact ⟨hafter.source, hbacked.bond⟩

theorem backed_claim {host announcedId : String} {path : Option String}
    (h : ClaimWay host announcedId path f es (.entry e) f') :
    Backed f.context.id path (f.bound (BridgeId.normalize announcedId)) es e f' := by
  cases h with
  | @claimed flows flows' store _ _ _ _ _ _ himport =>
    have hbacked := backed_import himport
    have hafter := hbacked.after [.asked .flowsInProgress flows, .asked .registrations store,
      .asked .flowsInProgress flows']
    exact ⟨hafter.source, hbacked.bond⟩

/-- The legacy file that may hold a username for a flow entered this way. -/
def Entrance.legacyFile : Entrance → Option String
  | ssdp info => some ("phue-" ++ info.serial ++ ".conf")
  | known info => info.path
  | user _ | init _ | link _ | homekit _ => none

theorem backed_way {entrance : Entrance} (h : Way entrance f es (.entry e) f') :
    (∃ s : Source, s.Backs f.context.id entrance.legacyFile es e) ∧
      f'.context.uniqueId = some (((entrance.announced.map Prod.snd).or f.context.uniqueId).getD
        e.registration.bridgeId) := by
  cases h with
  | user h | init h =>
    have hbacked := backed_init f.context.id none h
    exact ⟨hbacked.source, hbacked.bond⟩
  | link h =>
    have hbacked := backed_link f.context.id none h
    exact ⟨hbacked.source, hbacked.bond⟩
  | ssdp _ h | homekit h =>
    have hbacked := backed_claim h
    exact ⟨hbacked.source, hbacked.bond⟩
  | known h =>
    have hbacked := backed_import h
    exact ⟨hbacked.source, hbacked.bond⟩

/-! ## What clients hold -/

/-- A client may hold another username after this: it is new, or it had one created. -/
def changesUsername (c : Client) : Event Flow → Bool
  | .asked (.connect _ _) c' => c' = c
  | .called (.createUser c' _) (.ok _) | .calledBy (.createUser c' _) (some (.ok _)) => c' = c
  | _ => false

/-- What clients hold after all that was said so far, when they change their username only as one is
created. -/
structure Ledger (holds : List (Event Flow) → Client → Option String) (es : List (Event Flow)) :
    Prop where
  connected : ∀ before host username c after,
    es = before ++ .asked (.connect host username) c :: after →
    holds (before ++ [.asked (.connect host username) c]) c = username
  kept : ∀ before event after c, es = before ++ event :: after → changesUsername c event = false →
    holds (before ++ [event]) c = holds before c
  told : ∀ before c held after, es = before ++ .asked (.clientUsername c) held :: after →
    held = holds before c

variable {holds : List (Event Flow) → Client → Option String}

/-- The username of an entry is the one its client was connected with, or the one that was created
for this client. -/
theorem Source.Backs.username_eq (h : s.Backs flow file es e) (hledger : Ledger holds es) :
    (s.username = some e.registration.username) ∨ ∃ before label after,
      es = before ++ .calledBy (.createUser s.client label) (some (.ok ())) :: after ∧
        holds before s.client = none ∧
        holds (before ++ [.calledBy (.createUser s.client label) (some (.ok ()))]) s.client =
          some e.registration.username := by
  obtain ⟨before, home, hsaid⟩ := h.said
  unfold Source.says Source.prepares at hsaid
  have hconnected := hledger.connected _ _ _ _ _ hsaid
  cases hname : s.username with
  | some name =>
    simp only [hname, List.nil_append] at hsaid hconnected
    have hkept := hledger.kept (before ++ [_]) _ _ s.client
      (by rw [hsaid, List.append_assoc]; rfl) rfl
    have htold := hledger.told (before ++ [_] ++ [_]) _ _ _
      (by rw [hsaid, List.append_assoc, List.append_assoc]; rfl)
    rw [hkept, hconnected] at htold
    exact Or.inl htold.symm
  | none =>
    simp only [hname, List.cons_append, List.nil_append] at hsaid hconnected
    -- The client held nothing when it was connected, and what it holds last was created in between.
    have hkept := hledger.kept (before ++ [_] ++ [_]) _ _ s.client
      (by rw [hsaid, List.append_assoc, List.append_assoc]; rfl) rfl
    have htold := hledger.told (before ++ [_] ++ [_] ++ [_]) _ _ _
      (by rw [hsaid, List.append_assoc, List.append_assoc, List.append_assoc]; rfl)
    rw [hkept] at htold
    exact Or.inr ⟨before ++ [_], _, _, by rw [hsaid, List.append_assoc]; rfl, hconnected,
      htold.symm⟩

/-- Whatever a step meets, the host is left alone. And an entry it answers comes from the client
that it connected last: that one had its username accepted, and the record is what it said after
that. A client that changes its username only as one is created holds the one found in the legacy
file, or the one created. The flow is bound to the bridge announced in the step, or else to the one
it was bound to, or else to that of the record. -/
theorem every_entry_is_backed {entrance : Entrance} (h : Passage Eq entrance.step f es r f') :
    SparesHost es ∧ ∀ e, r = .entry e →
      (∃ s : Source, s.Backs f.context.id entrance.legacyFile (talk es) e ∧
        ∀ holds, Ledger holds (talk es) →
          (∃ relative resolved, entrance.legacyFile = some relative ∧
            .asked (.configPath relative) resolved ∈ talk es ∧
            .asked (.legacyUsername f.context.id resolved)
              (some e.registration.username) ∈ talk es) ∨
          ∃ before label after,
            talk es = before ++ .calledBy (.createUser s.client label) (some (.ok ())) :: after ∧
            holds before s.client = none ∧
            holds (before ++ [.calledBy (.createUser s.client label) (some (.ok ()))]) s.client =
              some e.registration.username) ∧
      f'.context.uniqueId = some (((entrance.announced.map Prod.snd).or f.context.uniqueId).getD
        e.registration.bridgeId) := by
  have hway := way_of_passage h
  refine ⟨sparesHost_of_talk hway.sparesHost, ?_⟩
  rintro e rfl
  obtain ⟨⟨s, hbacks⟩, hbond⟩ := backed_way hway
  refine ⟨⟨s, hbacks, ?_⟩, hbond⟩
  intro holds hledger
  rcases hbacks.username_eq hledger with hfound | hcreated
  · exact Or.inl (hbacks.found _ hfound)
  · exact Or.inr hcreated

/-! ## A flow that is told of another bridge -/

/-- Another bridge is announced at the same address, and its button was pressed. -/
def newcomer : Entrance := .homekit ⟨"192.168.1.2", "00:17:88:aa:bb:cc"⟩

/-- A flow that is told of another bridge and completes with it does not stay bound to its own. -/
theorem an_announcement_rebinds_a_flow : ∃ es f',
    Passage Eq newcomer.step announcedFlow es (.entry ⟨"Philips hue", movedBridge, []⟩) f' ∧
      announcedFlow.context.uniqueId = some "001788fffe23" ∧
      f'.context.uniqueId ≠ some "001788fffe23" := by
  have hstep : Passage Eq newcomer.step announcedFlow
      (newcomer.recorded ⟨[announcedFlow], true, none⟩ announcedFlow [])
      (.entry ⟨"Philips hue", movedBridge, []⟩)
      ((announcedFlow.bound "001788aabbcc").enter .complete) := passage_recorded (t := 50) (by cbv)
  refine ⟨_, _, hstep, rfl, ?_⟩
  decide

/-! ## A bridge that is known already -/

/-- The bridge that moved is registered without asking anyone. -/
def rejoining : Entrance := .known ⟨"192.168.1.2", some "phue.conf"⟩

def rejoinEvents : List (Event Flow) :=
  rejoining.recorded ⟨[], false, some "new"⟩ (Flow.begin default .known) storeBeforeMove

def rejoined : Flow :=
  ⟨⟨default, .known, some "192.168.1.2", some "00178823af15"⟩, none, .complete⟩

theorem talk_rejoinEvents : talk rejoinEvents = [.asked (.configPath "phue.conf") "phue.conf",
    .asked (.legacyUsername default "phue.conf") (some "new"),
    .asked .locationName (HomeName.plain "Home"), .asked (.connect "192.168.1.2" (some "new")) ⟨0⟩,
    .calledBy (.validate ⟨0⟩) (some (.ok ⟨"Philips hue", "BSB002", "00178823af15", none⟩)),
    .asked (.clientUsername ⟨0⟩) (some "new"), .asked (.clientHost ⟨0⟩) "192.168.1.2",
    .asked .registrations storeBeforeMove] := by cbv

/-- What clients hold for which no username is ever created. -/
def lastConnected (es : List (Event Flow)) (c : Client) : Option String :=
  (es.filterMap fun
    | .asked (.connect _ username) c' => if c' = c then some username else none
    | _ => none).getLast?.join

theorem ledger_rejoinEvents : Ledger lastConnected (talk rejoinEvents) := by
  constructor
  · intro before host username c after _
    simp [lastConnected]
  · intro before event after c _ hkept
    unfold lastConnected
    rw [List.filterMap_append]
    rcases event with _ | _ | ⟨q, a⟩ | _ | _ <;> try simp
    cases q <;> simp_all [changesUsername]
  · intro before c held after h
    rw [talk_rejoinEvents] at h
    simp [List.cons_eq_append_iff] at h
    obtain ⟨rfl, ⟨rfl, rfl⟩, _⟩ := h
    rfl

theorem every_entry_is_backed_at_a_known_bridge :
    Passage Eq rejoining.step (Flow.begin default .known) rejoinEvents (.entry movedEntry)
      rejoined ∧
    Ledger lastConnected (talk rejoinEvents) ∧
    SparesHost rejoinEvents ∧
    (∃ s : Source, s.Backs default (some "phue.conf") (talk rejoinEvents) movedEntry) ∧
    (∃ resolved, .asked (.configPath "phue.conf") resolved ∈ talk rejoinEvents ∧
      .asked (.legacyUsername default resolved) (some "new") ∈ talk rejoinEvents) ∧
    rejoined.context.uniqueId = some movedBridge.bridgeId := by
  have hstep : Passage Eq rejoining.step (Flow.begin default .known) rejoinEvents
      (.entry movedEntry) rejoined := passage_recorded (t := 30) (by cbv)
  obtain ⟨hspares, hentry⟩ := every_entry_is_backed hstep
  obtain ⟨⟨s, hbacks, hheld⟩, hbond⟩ := hentry _ rfl
  refine ⟨hstep, ledger_rejoinEvents, hspares, ⟨s, hbacks⟩, ?_, hbond⟩
  rcases hheld _ ledger_rejoinEvents with ⟨relative, resolved, hfile, hpath, hlookup⟩ |
    ⟨before, label, after, hsaid, _⟩
  · obtain rfl : "phue.conf" = relative := Option.some.inj hfile
    exact ⟨resolved, hpath, hlookup⟩
  · have hcreated : .calledBy (.createUser s.client label) (some (.ok ())) ∈ talk rejoinEvents := by
      simp [hsaid]
    rw [talk_rejoinEvents] at hcreated
    simp at hcreated

end Pairing
end HueLink
