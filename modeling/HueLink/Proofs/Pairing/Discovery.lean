-- Discovery. A flow that is not given a host looks for bridges, and what the round brings decides
-- how it goes on. Nobody is asked about a single bridge without a registration: the flow takes it
-- as if it had been chosen by hand.
import HueLink.Proofs.Routine.Onward
import HueLink.Proofs.Session.FirstSetup

namespace HueLink

open Routine

variable {σ ω : Type}

theorem Routine.Proceeds.comesTo {κ α : Type} {o : Outside ω} {p : Place κ ω} {r : Routine κ α}
    {s s' : κ} {said : List (Event κ)} {a : α} (h : Proceeds o p r s said a s') {w : ω}
    (hw : p.get w = s) (t : Nat) : ComesTo o p r t w a t s' said := by
  obtain ⟨hresult, htime, hleft, hsaid⟩ := h t w hw
  exact ⟨hresult, htime, hleft, hsaid⟩

namespace Pairing

/-! ## Ends of a flow -/

theorem proceeds_abort {o : Outside ω} {p : Place Flow ω} (ho : Apart o p) (reason : AbortReason)
    (f : Flow) : Proceeds o p (abort reason) f [] (.abort reason) (f.enter .aborted) := by
  unfold abort
  refine proceeds_own ho ?_
  exact (proceeds_note ho _).bind (proceeds_own ho proceeds_pure)

variable {o : Outside (Flow × σ)}

/-! ## A host that is taken -/

/-- The link step does not care where the flow stood before. -/
theorem runsOn_stepLink (submitted : Bool) (state : FlowState) (f : Flow) (t : Nat) (w : σ) :
    RunsOn o Place.beside (stepLink submitted) t (f.enter state, w) [] (stepLink submitted) t
      (f, w) := ⟨rfl, rfl⟩

/-- Nor does it matter for a host that is taken. -/
theorem runsOn_linkHost (host : String) (state : FlowState) (f : Flow) (t : Nat) (w : σ) :
    RunsOn o Place.beside (linkHost host) t (f.enter state, w) [] (stepLink false) t
      ((f.trying host).about host, w) := by
  have htaken : RunsOn o Place.beside (linkHost host) t (f.enter state, w) [] (stepLink false) t
      (((f.trying host).about host).enter state, w) := ⟨rfl, rfl⟩
  exact htaken.trans (runsOn_stepLink false state _ t w)

/-- Whether a host was found alone or chosen makes no difference. -/
theorem runsOn_chosen (host : String) (f : Flow) (t : Nat) (w : σ) :
    RunsOn o Place.beside (linkHost host) t (f.enter .discoveryResult, w) []
      (stepInit (some ⟨host⟩)) t (f, w) := by
  have hchosen : RunsOn o Place.beside (stepInit (some ⟨host⟩)) t (f, w) [] (linkHost host) t
      (f.enter .init, w) := ⟨rfl, rfl⟩
  exact (runsOn_linkHost host .discoveryResult f t w).of_silent
    (hchosen.trans (runsOn_linkHost host .init f t w))

/-! ## What a round brings -/

/-- The hosts that were found and have no registration, as often as they were found. -/
def unregistered (bridges : List DiscoveredBridge) (store : List Registration) : List String :=
  (bridges.map (·.host)).filter fun host => !isConfigured store host

/-- How a flow goes on with the hosts that it may take. -/
def takeOf : List String → Step FlowResult
  | [] => abort .allConfigured
  | [host] => linkHost host
  | hosts => pure (.form .init hosts none)

theorem takeOf_many {hosts : List String} (h : 2 ≤ hosts.length) :
    takeOf hosts = pure (.form .init hosts none) := by
  rcases hosts with _ | ⟨first, _ | ⟨second, others⟩⟩
  · simp at h
  · simp at h
  · rfl

theorem proceeds_offer_nil (ho : Apart o Place.beside) (f : Flow) :
    Proceeds o Place.beside (offer []) f [] (.abort .noBridges) (f.enter .aborted) :=
  proceeds_own ho (proceeds_abort ho _ _)

/-- With bridges found, the flow asks which registrations there are. -/
theorem runsOn_offer (ho : Apart o Place.beside) {bridges : List DiscoveredBridge}
    (hsome : bridges ≠ []) {state : FlowState} {f : Flow} {w : σ} {store : List Registration}
    {w' : Flow × σ} (hstore : o.answer .registrations (f.enter .discoveryResult, w) = (store, w'))
    (t : Nat) :
    RunsOn o Place.beside (offer bridges) t (f.enter state, w) [.asked .registrations store]
      (takeOf (unregistered bridges store)) t (f.enter .discoveryResult, w'.2) := by
  have hentered : RunsOn o Place.beside (offer bridges) t (f.enter state, w) []
      (do takeOf (unregistered bridges (← Routine.query .registrations))) t
      (f.enter .discoveryResult, w) := by
    have hempty : bridges.isEmpty = false := by simpa using hsome
    simp only [offer, hempty, contains_configuredHosts]
    exact ⟨rfl, rfl⟩
  have hflow : w'.1 = f.enter .discoveryResult := by
    have hleft := ho.asked .registrations (f.enter .discoveryResult, w)
    rw [hstore] at hleft
    exact hleft
  rw [← hflow]
  exact hentered.trans (runsOn_query_bind hstore _ t)

/-! ## The round -/

/-- How a flow goes on after its round of discovery. -/
def afterRound : Option (Except Fault (List DiscoveredBridge)) → Step FlowResult
  | none => abort .discoverTimeout
  | some (.error fault) => do
    Routine.note (.discoveryFailed fault)
    abort .cannotConnect
  | some (.ok bridges) => offer bridges

theorem proceeds_failed_round (ho : Apart o Place.beside) (fault : Fault) (f : Flow) :
    Proceeds o Place.beside (afterRound (some (.error fault))) f [] (.abort .cannotConnect)
      (f.enter .aborted) := (proceeds_note ho _).bind (proceeds_abort ho _ _)

/-- A flow that is not given a host looks for bridges first. -/
theorem runsOn_begun (f : Flow) (t : Nat) (w : σ) :
    RunsOn o Place.beside (stepInit none) t (f, w) []
      (do afterRound (← (Attempt.request .discover).within discoveryLimit)) t
      (f.enter .init, w) := by
  have hbegins : stepInit none = (do
      enter .init
      afterRound (← (Attempt.request .discover).within discoveryLimit)) := rfl
  rw [hbegins]
  exact ⟨rfl, rfl⟩

theorem runsOn_late_round {f : Flow} {w : σ}
    (hdelay : ∀ d, (o.receive .discover (f.enter .init, w)).delay = some d → discoveryLimit < d)
    (t : Nat) :
    RunsOn o Place.beside (stepInit none) t (f, w) [.calledBy .discover none]
      (abort .discoverTimeout) (t + discoveryLimit)
      (o.receive .discover (f.enter .init, w)).world :=
  (runsOn_begun f t w).trans (runsOn_late hdelay afterRound t)

/-- What a round in time brings leaves the flow alone. -/
theorem runsOn_round (ho : Apart o Place.beside) {f : Flow} {w : σ} {d : Nat}
    {answer : Except Fault (List DiscoveredBridge)} {heard : Flow × σ}
    (hdelay : (o.receive .discover (f.enter .init, w)).delay = some d) (hd : d ≤ discoveryLimit)
    (hfinish : (o.receive .discover (f.enter .init, w)).finish
      (o.receive .discover (f.enter .init, w)).world = (answer, heard)) (t : Nat) :
    RunsOn o Place.beside (stepInit none) t (f, w) [.calledBy .discover (some answer)]
      (afterRound (some answer)) (t + d) (f.enter .init, heard.2) := by
  have hflow : heard.1 = f.enter .init := by
    have hleft := ho.finished .discover (f.enter .init, w)
      (o.receive .discover (f.enter .init, w)).world
    rw [hfinish, ho.received] at hleft
    exact hleft
  rw [← hflow]
  exact (runsOn_begun f t w).trans (runsOn_answered hdelay hd hfinish afterRound t)

/-- A flow begun by hand is one that looks for a host. Without one given it asks for a round of
discovery and waits five seconds for it, no longer. It ends if the round is late, fails or finds
nothing, and if every host it finds has a registration. Where two or more have none, it asks which
of them to take, in the order they were found; and with a single one it runs on as if that had been
chosen by hand at that moment. Until then it turns to no bridge, and stays about the same host. -/
theorem discovery_is_settled (ho : Apart o Place.beside) (f : Flow) (w : σ) (t : Nat) :
    let reply := o.receive .discover (f.enter .init, w)
    let ends := ComesTo o Place.beside (stepInit none) t (f, w)
    (∀ selection, stepUser selection = stepInit selection) ∧
    ((∀ d, reply.delay = some d → 5000 < d) →
      ends (.abort .discoverTimeout) (t + 5000) (f.enter .aborted) [.calledBy .discover none]) ∧
    ∀ d answer heard, reply.delay = some d → d ≤ 5000 →
      reply.finish reply.world = (answer, heard) →
      let found := .calledBy .discover (some answer)
      (∀ fault, answer = .error fault →
        ends (.abort .cannotConnect) (t + d) (f.enter .aborted) [found]) ∧
      (answer = .ok [] → ends (.abort .noBridges) (t + d) (f.enter .aborted) [found]) ∧
      ∀ bridges store w', answer = .ok bridges → bridges ≠ [] →
        o.answer .registrations (f.enter .discoveryResult, heard.2) = (store, w') →
        let hosts := unregistered bridges store
        let said := [found, .asked .registrations store]
        (hosts = [] → ends (.abort .allConfigured) (t + d) (f.enter .aborted) said) ∧
        (2 ≤ hosts.length →
          ends (.form .init hosts none) (t + d) (f.enter .discoveryResult) said) ∧
        ∀ host, hosts = [host] →
          RunsOn o Place.beside (stepInit none) t (f, w) said (stepInit (some ⟨host⟩)) (t + d)
            (f, w'.2) := by
  intro reply ends
  refine ⟨fun _ => rfl, ?_, ?_⟩
  · intro hdelay
    have hflow : reply.world.1 = f.enter .init := ho.received .discover (f.enter .init, w)
    exact (runsOn_late_round hdelay t).comesTo ((proceeds_abort ho _ _).comesTo hflow _)
  · intro d answer heard hdelay hd hfinish found
    have hround := runsOn_round ho hdelay hd hfinish t
    refine ⟨?_, ?_, ?_⟩
    · rintro fault rfl
      exact hround.comesTo ((proceeds_failed_round ho fault _).comesTo rfl _)
    · rintro rfl
      exact hround.comesTo ((proceeds_offer_nil ho _).comesTo rfl _)
    · rintro bridges store w' rfl hsome hstore hosts said
      have hoffered := hround.trans (runsOn_offer ho hsome hstore (t + d))
      change RunsOn o _ _ _ _ said (takeOf hosts) _ _ at hoffered
      refine ⟨?_, ?_, ?_⟩
      · intro hhosts
        rw [hhosts] at hoffered
        exact hoffered.comesTo ((proceeds_abort ho _ _).comesTo rfl _)
      · intro hmany
        rw [takeOf_many hmany] at hoffered
        exact hoffered.comesTo comesTo_pure
      · intro host hhosts
        rw [hhosts] at hoffered
        exact hoffered.trans (runsOn_chosen host f (t + d) w'.2)

/-! ## A bridge that is found at the last moment -/

/-- The occasion, with a round of discovery that takes so long and finds these bridges. -/
def Occasion.finding (x : Occasion) (delay : Nat) (bridges : List DiscoveredBridge) :
    Outside (Flow × List Registration) where
  answer := x.outside.answer
  receive
    | .discover, w => ⟨w, some delay, fun w => (.ok bridges, w)⟩
    | c, w => x.outside.receive c w

theorem apart_finding (x : Occasion) (delay : Nat) (bridges : List DiscoveredBridge) :
    Apart (x.finding delay bridges) Place.beside := by
  have ho := apart_outside x
  constructor
  · exact ho.moved
  · exact ho.asked
  · intro c w
    cases c <;> rfl
  · intro c w w'
    cases c <;> rfl

/-- Two bridges answer, of which one has a registration. -/
def bothBridges : List DiscoveredBridge :=
  [⟨"192.168.1.7", "001788ddeeff"⟩, ⟨"192.168.1.2", "00178823af15"⟩]

/-- What a flow begun by hand comes to if both bridges answer after this time. -/
def foundAfter (delay : Nat) : Outcome (Flow × List Registration) FlowResult :=
  (stepInit none).run ((⟨[], true, none⟩ : Occasion).finding delay bothBridges) Place.beside 0
    (Flow.begin default .user, [otherBridge])

theorem discovery_is_settled_at_the_last_moment :
    Apart ((⟨[], true, none⟩ : Occasion).finding 5000 bothBridges) Place.beside ∧
    unregistered bothBridges [otherBridge] = ["192.168.1.2"] ∧
    foundAfter 5000 =
      (stepInit (some ⟨"192.168.1.2"⟩)).run
        ((⟨[], true, none⟩ : Occasion).finding 5000 bothBridges) Place.beside 5000
        (Flow.begin default .user, [otherBridge]) ∧
    (foundAfter 5000).result = some (.entry ⟨"Philips hue", movedBridge, []⟩) ∧
    (foundAfter 5001).result = some (.abort .discoverTimeout) ∧ (foundAfter 5001).time = 5000 := by
  have hapart := apart_finding ⟨[], true, none⟩ 5000 bothBridges
  have hhosts : unregistered bothBridges [otherBridge] = ["192.168.1.2"] := by decide
  obtain ⟨_, _, hfound⟩ :=
    discovery_is_settled hapart (Flow.begin default .user) [otherBridge] 0
  obtain ⟨_, _, hoffers⟩ := hfound 5000 _ _ rfl (Nat.le_refl _) rfl
  obtain ⟨_, _, hsingle⟩ := hoffers bothBridges _ _ rfl (List.cons_ne_nil _ _) rfl
  obtain ⟨_, hlate, _⟩ := discovery_is_settled (apart_finding ⟨[], true, none⟩ 5001 bothBridges)
    (Flow.begin default .user) [otherBridge] 0
  have hended := hlate (by rintro d ⟨⟩; decide)
  exact ⟨hapart, hhosts, (hsingle _ hhosts).run, by cbv, hended.result, hended.time⟩

end Pairing
end HueLink
