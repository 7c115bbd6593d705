-- The ways in which the steps of a flow can go: what a step says to its surroundings and is told,
-- what it answers, and how it leaves the flow. Lines of the log are left out.
import HueLink.Proofs.Exchange.Ways
import HueLink.Proofs.Pairing.Entry

namespace HueLink

open Routine

/-- How an error shows on the link form. -/
def BridgeError.shown : BridgeError → Pairing.FormError
  | authenticationRequired => .registerFailed
  | cannotConnect | unknown _ | notReady | invalidServiceData _ => .linking

/-- Some record of the store is for this host. -/
def isConfigured (store : List Registration) (host : String) : Bool :=
  store.any (·.host == host)

theorem isConfigured_iff {store : List Registration} {host : String} :
    isConfigured store host = true ↔ ∃ old ∈ store, old.host = host := by
  simp [isConfigured]

theorem contains_configuredHosts (store : List Registration) (host : String) :
    (configuredHosts store).contains host = isConfigured store host := by
  rw [Bool.eq_iff_iff, isConfigured_iff, List.contains_iff_mem]
  simp [configuredHosts]

namespace Pairing

/-! ## Moves of a flow -/

namespace Flow

def enter (state : FlowState) (f : Flow) : Flow := { f with state }

/-- The flow is about this host. -/
def about (host : String) (f : Flow) : Flow :=
  { f with context := { f.context with host := some host } }

/-- The flow tries this host next. -/
def trying (host : String) (f : Flow) : Flow := { f with candidate := some host }

def bound (id : String) (f : Flow) : Flow :=
  { f with context := { f.context with uniqueId := some id } }

/-- Among the contexts of all flows there is another one like this. -/
def Meets (f : Flow) (flows : List FlowContext) (like : FlowContext → Prop) : Prop :=
  ∃ other ∈ flows, other.id ≠ f.context.id ∧ like other

end Flow

/-! ## The ways -/

/-- How a flow can complete. -/
inductive Completion (linked : LinkedBridge) (f : Flow) :
    List (Event Flow) → FlowResult → Flow → Prop where
  | entry {bridgeId host : String} {store : List Registration} {r : Registration} :
    bridgeId = BridgeId.normalize linked.config.bridgeId → r = ⟨host, bridgeId, linked.username⟩ →
      Completion linked f
        [.asked (.clientHost linked.client) host, .asked .registrations store]
        (.entry ⟨linked.config.name, r, r.displaced store⟩)
        ((f.bound (f.context.uniqueId.getD bridgeId)).enter .complete)

/-- How the link step can go. -/
inductive LinkWay (submitted : Bool) (f : Flow) :
    List (Event Flow) → FlowResult → Flow → Prop where
  | hostless : f.candidate = none → LinkWay submitted f [] (.abort .unknown) (f.enter .aborted)
  | refused {host : String} {home : HomeName} {es : List (Event Flow)} {e : BridgeError} :
    f.candidate = some host → Exchange.Way host home none es (.error e) →
      LinkWay submitted f (.asked .locationName home :: es)
        (.form .link [] (if submitted then some e.shown else none)) (f.enter .link)
  | linked {host : String} {home : HomeName} {es es' : List (Event Flow)} {linked : LinkedBridge}
    {r : FlowResult} {f' : Flow} :
    f.candidate = some host → Exchange.Way host home none es (.ok linked) →
      Completion linked (f.enter .link) es' r f' →
      LinkWay submitted f (.asked .locationName home :: (es ++ es')) r f'

/-- How a host can be looked for, or taken as chosen. -/
inductive InitWay (f : Flow) :
    Option HostSelection → List (Event Flow) → FlowResult → Flow → Prop where
  | chosen {chosen : HostSelection} {es : List (Event Flow)} {r : FlowResult} {f' : Flow} :
    LinkWay false (((f.enter .init).trying chosen.host).about chosen.host) es r f' →
      InitWay f (some chosen) es r f'
  | late : InitWay f none [.calledBy .discover none] (.abort .discoverTimeout) (f.enter .aborted)
  | failed (fault : Fault) : InitWay f none [.calledBy .discover (some (.error fault))]
      (.abort .cannotConnect) (f.enter .aborted)
  | nothing : InitWay f none [.calledBy .discover (some (.ok []))] (.abort .noBridges)
      (f.enter .aborted)
  | configured {bridges : List DiscoveredBridge} {store : List Registration} :
    (∀ b ∈ bridges, isConfigured store b.host = true) → InitWay f none
      [.calledBy .discover (some (.ok bridges)), .asked .registrations store]
      (.abort .allConfigured) (f.enter .aborted)
  | single {bridges : List DiscoveredBridge} {store : List Registration} {host : String}
    {es : List (Event Flow)} {r : FlowResult} {f' : Flow} :
    (bridges.map (·.host)).filter (fun host => !isConfigured store host) = [host] →
      LinkWay false (((f.enter .discoveryResult).trying host).about host) es r f' →
      InitWay f none (.calledBy .discover (some (.ok bridges)) :: .asked .registrations store :: es)
        r f'
  | several {bridges : List DiscoveredBridge} {store : List Registration} {hosts : List String} :
    (bridges.map (·.host)).filter (fun host => !isConfigured store host) = hosts →
      2 ≤ hosts.length → InitWay f none
      [.calledBy .discover (some (.ok bridges)), .asked .registrations store]
      (.form .init hosts none) (f.enter .discoveryResult)

/-- How a username can be looked for in a legacy file. -/
inductive LegacyWay (flow : Uuid) : Option String → List (Event Flow) → Option String → Prop where
  | nowhere : LegacyWay flow none [] none
  | inFile (path resolved : String) (username : Option String) : LegacyWay flow (some path)
      [.asked (.configPath path) resolved, .asked (.legacyUsername flow resolved) username] username

/-- How the import of a host can go. -/
inductive ImportWay (info : ImportInfo) (f : Flow) :
    List (Event Flow) → FlowResult → Flow → Prop where
  | unreached {home : HomeName} {username : Option String} {es es' : List (Event Flow)} :
    LegacyWay f.context.id info.path es username →
      Exchange.Way info.host home username es' (.error .cannotConnect) →
      ImportWay info f (es ++ .asked .locationName home :: es') (.abort .cannotConnect)
        ((f.about info.host).enter .aborted)
  | imported {home : HomeName} {username : Option String} {es es' es'' : List (Event Flow)}
    {linked : LinkedBridge} {r : FlowResult} {f' : Flow} :
    LegacyWay f.context.id info.path es username →
      Exchange.Way info.host home username es' (.ok linked) →
      Completion linked ((f.enter .importing).about info.host) es'' r f' →
      ImportWay info f (es ++ .asked .locationName home :: (es' ++ es'')) r f'
  | unauthorized {home : HomeName} {username : Option String} {es es' es'' : List (Event Flow)}
    {r : FlowResult} {f' : Flow} :
    LegacyWay f.context.id info.path es username →
      Exchange.Way info.host home username es' (.error .authenticationRequired) →
      LinkWay false (((f.enter .importing).about info.host).trying info.host) es'' r f' →
      ImportWay info f (es ++ .asked .locationName home :: (es' ++ es'')) r f'

/-- How the claim to an announced host can go. -/
inductive ClaimWay (host announcedId : String) (path : Option String) (f : Flow) :
    List (Event Flow) → FlowResult → Flow → Prop where
  | hostTaken {flows : List FlowContext} : f.Meets flows (·.host = some host) →
      ClaimWay host announcedId path f [.asked .flowsInProgress flows] (.abort .alreadyInProgress)
        ((f.about host).enter .aborted)
  | configured {flows : List FlowContext} {store : List Registration} :
    ¬ f.Meets flows (·.host = some host) → isConfigured store host = true →
      ClaimWay host announcedId path f
        [.asked .flowsInProgress flows, .asked .registrations store] (.abort .alreadyConfigured)
        ((f.about host).enter .aborted)
  | idTaken {flows flows' : List FlowContext} {store : List Registration} :
    ¬ f.Meets flows (·.host = some host) → isConfigured store host = false →
      f.Meets flows' (·.uniqueId = some (BridgeId.normalize announcedId)) →
      ClaimWay host announcedId path f
        [.asked .flowsInProgress flows, .asked .registrations store,
          .asked .flowsInProgress flows'] (.abort .alreadyInProgress)
        ((f.about host).enter .aborted)
  | claimed {flows flows' : List FlowContext} {store : List Registration} {es : List (Event Flow)}
    {r : FlowResult} {f' : Flow} :
    ¬ f.Meets flows (·.host = some host) → isConfigured store host = false →
      ¬ f.Meets flows' (·.uniqueId = some (BridgeId.normalize announcedId)) →
      ImportWay ⟨host, path⟩ ((f.about host).bound (BridgeId.normalize announcedId)) es r f' →
      ClaimWay host announcedId path f
        (.asked .flowsInProgress flows :: .asked .registrations store ::
          .asked .flowsInProgress flows' :: es) r f'

/-- The host and the normalized id of the bridge that is announced. -/
def Entrance.announced : Entrance → Option (String × String)
  | ssdp info => some (info.host, BridgeId.normalize info.serial)
  | homekit info => some (info.host, BridgeId.normalize info.bareId)
  | user _ | init _ | link _ | known _ => none

/-- How a step can go, whatever way the flow is entered. -/
inductive Way : Entrance → Flow → List (Event Flow) → FlowResult → Flow → Prop where
  | user {selection : Option HostSelection} {f f' : Flow} {es : List (Event Flow)}
    {r : FlowResult} : InitWay f selection es r f' → Way (.user selection) f es r f'
  | init {selection : Option HostSelection} {f f' : Flow} {es : List (Event Flow)}
    {r : FlowResult} : InitWay f selection es r f' → Way (.init selection) f es r f'
  | link {submitted : Bool} {f f' : Flow} {es : List (Event Flow)} {r : FlowResult} :
    LinkWay submitted f es r f' → Way (.link submitted) f es r f'
  | spurious {info : SsdpInfo} {f : Flow} : info.isGenuine = false →
      Way (.ssdp info) f [] (.abort .notHueBridge) (f.enter .aborted)
  | ssdp {info : SsdpInfo} {f f' : Flow} {es : List (Event Flow)} {r : FlowResult} :
    info.isGenuine = true →
      ClaimWay info.host info.serial (some ("phue-" ++ info.serial ++ ".conf"))
        (f.enter .discovered) es r f' → Way (.ssdp info) f es r f'
  | homekit {info : HomekitInfo} {f f' : Flow} {es : List (Event Flow)} {r : FlowResult} :
    ClaimWay info.host info.bareId none (f.enter .discovered) es r f' →
      Way (.homekit info) f es r f'
  | known {info : ImportInfo} {f f' : Flow} {es : List (Event Flow)} {r : FlowResult} :
    ImportWay info f es r f' → Way (.known info) f es r f'

/-! ## Every run goes one of these ways -/

variable {f f' : Flow} {es : List (Event Flow)} {r : FlowResult}

theorem passage_forM_note {α : Type} {lines : List α} {line : α → Notice} {u : Unit}
    (h : Passage Eq (lines.forM fun a => (Routine.note (line a) : Step Unit)) f es u f') :
    talk es = [] ∧ f' = f := by
  induction lines generalizing f es with
  | nil =>
    obtain ⟨rfl, _, rfl⟩ := passage_pure.mp h
    exact ⟨rfl, rfl⟩
  | cons a lines ih =>
    obtain ⟨_, es', rfl, hrest⟩ := passage_query_bind.mp h
    have hquiet := ih hrest
    exact hquiet

theorem passage_normalizeId {id short : String}
    (h : Passage Eq (normalizeId id) f es short f') :
    talk es = [] ∧ short = BridgeId.normalize id ∧ f' = f := by
  obtain ⟨es₁, _, f₁, es₂, hnotes, hend, rfl⟩ := passage_bind.mp h
  obtain ⟨htalk, rfl⟩ := passage_forM_note hnotes
  obtain ⟨rfl, rfl, rfl⟩ := passage_pure.mp hend
  rw [talk_append, htalk]
  exact ⟨rfl, rfl, rfl⟩

theorem passage_abort {reason : AbortReason} (h : Passage Eq (abort reason) f es r f') :
    talk es = [] ∧ r = .abort reason ∧ f' = f.enter .aborted := by
  obtain ⟨es₁, rfl, h₁⟩ := passage_read_bind.mp h
  obtain ⟨_, es₂, rfl, h₂⟩ := passage_query_bind.mp h₁
  obtain ⟨es₃, rfl, h₃⟩ := passage_modify_bind.mp h₂
  obtain ⟨rfl, rfl, rfl⟩ := passage_pure.mp h₃
  exact ⟨rfl, rfl, rfl⟩

theorem passage_entryFor {linked : LinkedBridge} (h : Passage Eq (entryFor linked) f es r f') :
    Completion linked f (talk es) r f' := by
  obtain ⟨es₁, bridgeId, f₁, es₂, hid, h₁, rfl⟩ := passage_bind.mp h
  obtain ⟨hsilent, rfl, rfl⟩ := passage_normalizeId hid
  obtain ⟨es₃, rfl, h₂⟩ := passage_modify_bind.mp h₁
  obtain ⟨host, es₄, rfl, h₃⟩ := passage_query_bind.mp h₂
  obtain ⟨store, es₅, rfl, h₄⟩ := passage_query_bind.mp h₃
  obtain ⟨es₆, _, f₂, es₇, hnotes, h₅, rfl⟩ := passage_bind.mp h₄
  obtain ⟨hsilent', rfl⟩ := passage_forM_note hnotes
  obtain ⟨es₈, rfl, h₆⟩ := passage_modify_bind.mp h₅
  obtain ⟨rfl, rfl, rfl⟩ := passage_pure.mp h₆
  simp only [talk_append, talk_cons, talk_nil, Event.isTalk, hsilent, hsilent', List.nil_append,
    if_true, if_false, Bool.false_eq_true]
  exact .entry rfl rfl

/-- A link step with a host to try has one exchange with it, without a username, and the answer
decides. -/
theorem exchange_of_stepLink {submitted : Bool} {host : String} (hhost : f.candidate = some host)
    (h : Passage Eq (stepLink submitted) f es r f') : ∃ home es₁ answer es₂,
      Passage Eq (Exchange.acquire host none home) (f.enter .link) es₁ answer (f.enter .link) ∧
      talk es = .asked .locationName home :: (talk es₁ ++ es₂) ∧
      match answer with
      | .ok linked => Completion linked (f.enter .link) es₂ r f'
      | .error e => es₂ = [] ∧ r = .form .link [] (if submitted then some e.shown else none) ∧
          f' = f.enter .link := by
  obtain ⟨context, candidate, state⟩ := f
  obtain rfl : candidate = some host := hhost
  obtain ⟨es₁, rfl, h₁⟩ := passage_modify_bind.mp h
  obtain ⟨es₂, rfl, h₂⟩ := passage_read_bind.mp h₁
  obtain ⟨home, es₃, rfl, h₃⟩ := passage_query_bind.mp h₂
  obtain ⟨es₄, answer, f₁, es₅, hexchange, h₄, rfl⟩ := passage_bind.mp h₃
  obtain ⟨hway, rfl⟩ := Exchange.passage_acquire hexchange
  refine ⟨home, es₄, answer, talk es₅, hexchange, ?_, ?_⟩
  · rw [← talk_append]
    rfl
  · obtain ⟨linked, rfl⟩ | rfl | rfl := hway.ends
    · exact passage_entryFor h₄
    · obtain ⟨rfl, rfl, rfl⟩ := passage_pure.mp h₄
      exact ⟨rfl, rfl, rfl⟩
    · obtain ⟨_, es₆, rfl, h₅⟩ := passage_query_bind.mp h₄
      obtain ⟨rfl, rfl, rfl⟩ := passage_pure.mp h₅
      exact ⟨rfl, rfl, rfl⟩

theorem passage_stepLink {submitted : Bool} (h : Passage Eq (stepLink submitted) f es r f') :
    LinkWay submitted f (talk es) r f' := by
  cases hhost : f.candidate with
  | none =>
    obtain ⟨context, candidate, state⟩ := f
    obtain rfl : candidate = none := hhost
    obtain ⟨es₁, rfl, h₁⟩ := passage_modify_bind.mp h
    obtain ⟨es₂, rfl, h₂⟩ := passage_read_bind.mp h₁
    obtain ⟨_, es₃, rfl, h₃⟩ := passage_query_bind.mp h₂
    obtain ⟨hsilent, rfl, rfl⟩ := passage_abort h₃
    change LinkWay submitted _ (talk es₃) _ _
    rw [hsilent]
    exact .hostless rfl
  | some host =>
    obtain ⟨home, es₁, answer, es₂, hexchange, htalk, hend⟩ := exchange_of_stepLink hhost h
    obtain ⟨hway, _⟩ := Exchange.passage_acquire hexchange
    rw [htalk]
    rcases answer with e | linked
    · obtain ⟨rfl, rfl, rfl⟩ := hend
      rw [List.append_nil]
      exact .refused hhost hway
    · exact .linked hhost hway hend

theorem passage_linkHost {host : String} (h : Passage Eq (linkHost host) f es r f') :
    LinkWay false ((f.trying host).about host) (talk es) r f' := by
  obtain ⟨es₁, _, f₁, es₂, hselect, h₁, rfl⟩ := passage_bind.mp h
  obtain ⟨es₃, rfl, h₂⟩ := passage_modify_bind.mp hselect
  obtain ⟨rfl, rfl⟩ := passage_modify.mp h₂
  have hlink := passage_stepLink h₁
  exact hlink

theorem passage_offer {bridges : List DiscoveredBridge}
    (h : Passage Eq (offer bridges) (f.enter .init) es r f') :
    InitWay f none (.calledBy .discover (some (.ok bridges)) :: talk es) r f' := by
  obtain ⟨es₁, rfl, h₁⟩ := passage_modify_bind.mp h
  change InitWay f none (_ :: talk es₁) r f'
  split at h₁
  · rename_i hempty
    obtain rfl := List.isEmpty_iff.mp hempty
    obtain ⟨hsilent, rfl, rfl⟩ := passage_abort h₁
    rw [hsilent]
    exact .nothing
  · obtain ⟨store, es₂, rfl, h₂⟩ := passage_query_bind.mp h₁
    change InitWay f none (_ :: _ :: talk es₂) r f'
    simp only [contains_configuredHosts] at h₂
    split at h₂
    · rename_i hnone
      obtain ⟨hsilent, rfl, rfl⟩ := passage_abort h₂
      rw [hsilent]
      refine .configured fun b hb => ?_
      have hmem := List.filter_eq_nil_iff.mp hnone b.host (List.mem_map_of_mem hb)
      simpa using hmem
    · rename_i host hsingle
      exact .single hsingle (passage_linkHost h₂)
    · rename_i hsome hmany
      obtain ⟨rfl, rfl, rfl⟩ := passage_pure.mp h₂
      refine .several rfl ?_
      rcases hfound : (bridges.map (·.host)).filter (fun host => !isConfigured store host) with
        _ | ⟨first, _ | ⟨second, others⟩⟩
      · exact absurd hfound hsome
      · exact absurd hfound (hmany first)
      · rw [hfound]
        exact Nat.le_add_left 2 others.length

theorem passage_stepInit {selection : Option HostSelection}
    (h : Passage Eq (stepInit selection) f es r f') : InitWay f selection (talk es) r f' := by
  obtain ⟨es₁, rfl, h₁⟩ := passage_modify_bind.mp h
  rcases selection with _ | chosen
  · obtain ⟨es₂, found, f₁, es₃, hdiscover, h₂, rfl⟩ := passage_bind.mp h₁
    cases hdiscover with
    | clock t hcall =>
      rcases passage_boundedBy hcall with ⟨rfl, rfl, rfl⟩ | ⟨found, es₄, rfl, hdone⟩
      · obtain ⟨hsilent, rfl, rfl⟩ := passage_abort h₂
        change InitWay f none (_ :: talk es₃) _ _
        rw [hsilent]
        exact .late
      · obtain ⟨rfl, rfl, rfl⟩ := passage_pure.mp hdone
        rcases found with fault | bridges
        · obtain ⟨_, es₅, rfl, h₃⟩ := passage_query_bind.mp h₂
          obtain ⟨hsilent, rfl, rfl⟩ := passage_abort h₃
          change InitWay f none (_ :: talk es₅) _ _
          rw [hsilent]
          exact .failed fault
        · exact passage_offer h₂
  · have hlink := passage_linkHost h₁
    exact .chosen hlink

theorem passage_legacyUsername {path : Option String} {found : Option String × Option String}
    (h : Passage Eq (legacyUsername path) f es found f') :
    LegacyWay f.context.id path (talk es) found.2 ∧ f' = f := by
  rcases path with _ | path
  · obtain ⟨rfl, rfl, rfl⟩ := passage_pure.mp h
    exact ⟨.nowhere, rfl⟩
  · obtain ⟨resolved, es₁, rfl, h₁⟩ := passage_query_bind.mp h
    obtain ⟨es₂, rfl, h₂⟩ := passage_read_bind.mp h₁
    obtain ⟨username, es₃, rfl, h₃⟩ := passage_query_bind.mp h₂
    obtain ⟨rfl, rfl, rfl⟩ := passage_pure.mp h₃
    exact ⟨.inFile path resolved username, rfl⟩

/-- An import has one exchange with its host, with the username found for it, and the answer
decides. Only if the bridge is to be paired, the link step follows. -/
theorem exchange_of_stepImport {info : ImportInfo} (h : Passage Eq (stepImport info) f es r f') :
    ∃ lookup username home es₁ answer es₂, LegacyWay f.context.id info.path lookup username ∧
      Passage Eq (Exchange.acquire info.host username home) ((f.enter .importing).about info.host)
        es₁ answer ((f.enter .importing).about info.host) ∧
      talk es = lookup ++ .asked .locationName home :: (talk es₁ ++ talk es₂) ∧
      match answer with
      | .ok linked => Completion linked ((f.enter .importing).about info.host) (talk es₂) r f'
      | .error .authenticationRequired => Passage Eq (stepLink false)
          (((f.enter .importing).about info.host).trying info.host) es₂ r f'
      | .error .cannotConnect => talk es₂ = [] ∧ r = .abort .cannotConnect ∧
          f' = (f.about info.host).enter .aborted
      | .error _ => False := by
  obtain ⟨es₁, rfl, h₁⟩ := passage_modify_bind.mp h
  obtain ⟨es₂, rfl, h₂⟩ := passage_modify_bind.mp h₁
  obtain ⟨es₃, ⟨path, username⟩, f₁, es₄, hlegacy, h₃, rfl⟩ := passage_bind.mp h₂
  obtain ⟨hfound, rfl⟩ := passage_legacyUsername hlegacy
  obtain ⟨home, es₅, rfl, h₄⟩ := passage_query_bind.mp h₃
  obtain ⟨es₆, answer, f₂, es₇, hexchange, h₅, rfl⟩ := passage_bind.mp h₄
  obtain ⟨hway, rfl⟩ := Exchange.passage_acquire hexchange
  have htalk : talk (es₃ ++ .asked .locationName home :: (es₆ ++ es₇)) =
      talk es₃ ++ .asked .locationName home :: (talk es₆ ++ talk es₇) := by
    rw [talk_append, ← talk_append es₆]
    rfl
  obtain ⟨linked, rfl⟩ | rfl | rfl := hway.ends
  · obtain ⟨_, es₈, rfl, h₆⟩ := passage_query_bind.mp h₅
    exact ⟨_, _, home, es₆, _, es₈, hfound, hexchange, htalk, passage_entryFor h₆⟩
  · obtain ⟨_, es₈, rfl, h₆⟩ := passage_query_bind.mp h₅
    obtain ⟨es₉, rfl, h₇⟩ := passage_modify_bind.mp h₆
    exact ⟨_, _, home, es₆, _, es₉, hfound, hexchange, htalk, h₇⟩
  · obtain ⟨_, es₈, rfl, h₆⟩ := passage_query_bind.mp h₅
    obtain ⟨hsilent, rfl, rfl⟩ := passage_abort h₆
    exact ⟨_, _, home, es₆, _, es₈, hfound, hexchange, htalk, hsilent, rfl, rfl⟩

theorem passage_stepImport {info : ImportInfo} (h : Passage Eq (stepImport info) f es r f') :
    ImportWay info f (talk es) r f' := by
  obtain ⟨lookup, username, home, es₁, answer, es₂, hfound, hexchange, htalk, hend⟩ :=
    exchange_of_stepImport h
  obtain ⟨hway, _⟩ := Exchange.passage_acquire hexchange
  rw [htalk]
  obtain ⟨linked, rfl⟩ | rfl | rfl := hway.ends
  · exact .imported hfound hway hend
  · exact .unauthorized hfound hway (passage_stepLink hend)
  · obtain ⟨hsilent, rfl, rfl⟩ := hend
    rw [hsilent, List.append_nil]
    exact .unreached hfound hway

theorem passage_otherFlows {others : List FlowContext} (h : Passage Eq otherFlows f es others f') :
    ∃ flows, talk es = [.asked .flowsInProgress flows] ∧
      others = flows.filter (·.id != f.context.id) ∧ f' = f := by
  obtain ⟨es₁, rfl, h₁⟩ := passage_read_bind.mp h
  obtain ⟨flows, es₂, rfl, h₂⟩ := passage_query_bind.mp h₁
  obtain ⟨rfl, rfl, rfl⟩ := passage_pure.mp h₂
  exact ⟨flows, rfl, rfl, rfl⟩

theorem any_others {flows : List FlowContext} {like : FlowContext → Bool} :
    (flows.filter (·.id != f.context.id)).any like = true ↔ f.Meets flows (like · = true) := by
  unfold Flow.Meets
  simp only [List.any_filter, List.any_eq_true, Bool.and_eq_true, bne_iff_ne]

theorem passage_claimed {host : String} {reason : Option AbortReason}
    (h : Passage Eq (claimed? host) f es reason f') : f' = f ∧ ∃ flows,
      (f.Meets flows (·.host = some host) ∧ talk es = [.asked .flowsInProgress flows] ∧
        reason = some .alreadyInProgress) ∨
      ¬ f.Meets flows (·.host = some host) ∧ ∃ store,
        talk es = [.asked .flowsInProgress flows, .asked .registrations store] ∧
        reason = if isConfigured store host then some .alreadyConfigured else none := by
  obtain ⟨es₁, others, f₁, es₂, hothers, h₁, rfl⟩ := passage_bind.mp h
  obtain ⟨flows, htalk, rfl, rfl⟩ := passage_otherFlows hothers
  have hmeets := @any_others f₁ flows (·.host == some host)
  simp only [beq_iff_eq] at hmeets
  rw [talk_append, htalk]
  split at h₁
  · rename_i htaken
    obtain ⟨rfl, rfl, rfl⟩ := passage_pure.mp h₁
    exact ⟨rfl, flows, Or.inl ⟨hmeets.mp htaken, rfl, rfl⟩⟩
  · rename_i hfree
    obtain ⟨store, es₃, rfl, h₂⟩ := passage_query_bind.mp h₁
    obtain ⟨rfl, rfl, rfl⟩ := passage_pure.mp h₂
    refine ⟨rfl, flows, Or.inr ⟨fun hm => hfree (hmeets.mpr hm), store, rfl, ?_⟩⟩
    rw [contains_configuredHosts]

theorem passage_setUniqueId {id : String} {reason : Option AbortReason}
    (h : Passage Eq (setUniqueId id true) f es reason f') : ∃ flows,
      talk es = [.asked .flowsInProgress flows] ∧
      ((f.Meets flows (·.uniqueId = some id) ∧ reason = some .alreadyInProgress ∧ f' = f) ∨
        ¬ f.Meets flows (·.uniqueId = some id) ∧ reason = none ∧ f' = f.bound id) := by
  obtain ⟨es₁, others, f₁, es₂, hothers, h₁, rfl⟩ := passage_bind.mp h
  obtain ⟨flows, htalk, rfl, rfl⟩ := passage_otherFlows hothers
  have hmeets := @any_others f₁ flows (·.uniqueId == some id)
  simp only [beq_iff_eq] at hmeets
  rw [talk_append, htalk]
  simp only [pure_bind] at h₁
  split at h₁
  · rename_i htaken
    obtain ⟨rfl, rfl, rfl⟩ := passage_pure.mp h₁
    exact ⟨flows, rfl, Or.inl ⟨hmeets.mp htaken, rfl, rfl⟩⟩
  · rename_i hfree
    obtain ⟨es₅, rfl, h₃⟩ := passage_modify_bind.mp h₁
    obtain ⟨rfl, rfl, rfl⟩ := passage_pure.mp h₃
    exact ⟨flows, rfl, Or.inr ⟨fun hm => hfree (hmeets.mpr hm), rfl, rfl⟩⟩

/-- The flow is turned away from a host: it ends, and nothing else about it has changed but the host
it is about. -/
structure TurnedAway (f : Flow) (host : String) (reason : AbortReason) (r : FlowResult)
    (f' : Flow) :
    Prop where
  result : r = .abort reason
  left : f' = (f.about host).enter .aborted

/-- How the claim to an announced host is settled: first by the other flows about the host, then by
its registrations, then by the other flows bound to the announced id. Only a host that none of them
claims is imported. Whoever is turned away says no more. -/
def ClaimSettled (host announcedId : String) (path : Option String) (f : Flow)
    (es : List (Event Flow)) (r : FlowResult) (f' : Flow) : Prop :=
  let id := BridgeId.normalize announcedId
  ∃ flows after, es = .asked .flowsInProgress flows :: after ∧
    ((f.Meets flows (·.host = some host) ∧
        after = [] ∧ TurnedAway f host .alreadyInProgress r f') ∨
      (¬ f.Meets flows (·.host = some host) ∧
        ∃ store after', after = .asked .registrations store :: after' ∧
          (((∃ old ∈ store, old.host = host) ∧
              after' = [] ∧ TurnedAway f host .alreadyConfigured r f') ∨
            ((¬ ∃ old ∈ store, old.host = host) ∧
              ∃ flows' after'', after' = .asked .flowsInProgress flows' :: after'' ∧
                ((f.Meets flows' (·.uniqueId = some id) ∧
                    after'' = [] ∧ TurnedAway f host .alreadyInProgress r f') ∨
                  (¬ f.Meets flows' (·.uniqueId = some id) ∧
                    ∃ es', talk es' = after'' ∧
                      Passage Eq (stepImport ⟨host, path⟩) ((f.about host).bound id) es' r f'))))))

theorem claimSettled_of_passage {host announcedId : String} {path : Option String}
    (h : Passage Eq (claimAndImport host announcedId path) f es r f') :
    ClaimSettled host announcedId path f (talk es) r f' := by
  obtain ⟨es₁, rfl, h₁⟩ := passage_modify_bind.mp h
  obtain ⟨es₂, reason, f₁, es₃, hclaimed, h₂, rfl⟩ := passage_bind.mp h₁
  obtain ⟨rfl, flows, hcase⟩ := passage_claimed hclaimed
  have htalk : talk (.moved f (f.about host) :: (es₂ ++ es₃)) = talk es₂ ++ talk es₃ := by
    rw [← talk_append]
    rfl
  refine ⟨flows, ?_⟩
  rcases hcase with ⟨hmeets, hsaid, rfl⟩ | ⟨hfree, store, hsaid, rfl⟩
  · obtain ⟨hsilent, rfl, rfl⟩ := passage_abort h₂
    rw [hsaid, hsilent] at htalk
    exact ⟨[], htalk, Or.inl ⟨hmeets, rfl, rfl, rfl⟩⟩
  · rw [hsaid] at htalk
    refine ⟨.asked .registrations store :: talk es₃, htalk,
      Or.inr ⟨hfree, store, talk es₃, rfl, ?_⟩⟩
    rw [← isConfigured_iff]
    cases hstore : isConfigured store host with
    | true =>
      rw [hstore] at h₂
      obtain ⟨hsilent, rfl, rfl⟩ := passage_abort h₂
      exact Or.inl ⟨rfl, hsilent, rfl, rfl⟩
    | false =>
      rw [hstore] at h₂
      obtain ⟨es₄, id, f₂, es₅, hid, h₃, rfl⟩ := passage_bind.mp h₂
      obtain ⟨hquiet, rfl, rfl⟩ := passage_normalizeId hid
      obtain ⟨es₆, taken, f₃, es₇, hbind, h₄, rfl⟩ := passage_bind.mp h₃
      obtain ⟨flows', hsaid', hcase'⟩ := passage_setUniqueId hbind
      refine Or.inr ⟨Bool.false_ne_true, flows', talk es₇, ?_, ?_⟩
      · rw [talk_append, hquiet, talk_append, hsaid']
        rfl
      · rcases hcase' with ⟨hmeets, rfl, rfl⟩ | ⟨hfree', rfl, rfl⟩
        · obtain ⟨hsilent, rfl, rfl⟩ := passage_abort h₄
          exact Or.inl ⟨hmeets, hsilent, rfl, rfl⟩
        · exact Or.inr ⟨hfree', es₇, rfl, h₄⟩

theorem passage_claimAndImport {host announcedId : String} {path : Option String}
    (h : Passage Eq (claimAndImport host announcedId path) f es r f') :
    ClaimWay host announcedId path f (talk es) r f' := by
  obtain ⟨flows, after, htalk, hcase⟩ := claimSettled_of_passage h
  rw [htalk]
  rcases hcase with ⟨hmeets, rfl, rfl, rfl⟩ | ⟨hfree, store, after', rfl, hcase⟩
  · exact .hostTaken hmeets
  rw [← isConfigured_iff] at hcase
  rcases hcase with ⟨hstore, rfl, rfl, rfl⟩ | ⟨hstore, flows', after'', rfl, hcase⟩
  · exact .configured hfree hstore
  rw [Bool.not_eq_true] at hstore
  rcases hcase with ⟨hmeets, rfl, rfl, rfl⟩ | ⟨hfree', es', rfl, himport⟩
  · exact .idTaken hfree hstore hmeets
  · exact .claimed hfree hstore hfree' (passage_stepImport himport)

/-- Whatever a step is told, it goes one of its ways. -/
theorem way_of_passage {entrance : Entrance} (h : Passage Eq entrance.step f es r f') :
    Way entrance f (talk es) r f' := by
  cases entrance with
  | user selection => exact .user (passage_stepInit h)
  | init selection => exact .init (passage_stepInit h)
  | link submitted => exact .link (passage_stepLink h)
  | ssdp info =>
    obtain ⟨es₁, rfl, h₁⟩ := passage_modify_bind.mp h
    split at h₁
    · rename_i hgenuine
      have hclaim := passage_claimAndImport h₁
      exact .ssdp hgenuine hclaim
    · rename_i hspurious
      obtain ⟨hsilent, rfl, rfl⟩ := passage_abort h₁
      change Way _ f (talk es₁) _ _
      rw [hsilent]
      exact .spurious (Bool.eq_false_iff.mpr hspurious)
  | homekit info =>
    obtain ⟨es₁, rfl, h₁⟩ := passage_modify_bind.mp h
    have hclaim := passage_claimAndImport h₁
    exact .homekit hclaim
  | known info => exact .known (passage_stepImport h)

end Pairing
end HueLink
