-- What a flow pairs, a session can load. The record of an entry holds the address and the username
-- that the bridge accepted in the step. The setup of a session goes through the same exchange with
-- them once more, and needs no new username for it.
import HueLink.Proofs.Pairing.Credential
import HueLink.Proofs.Session.Ways

namespace HueLink

open Routine

variable {κ ω : Type} {o : Outside ω}

/-! ## What is done at once -/

/-- From this state on, the routine comes to its result without waiting. -/
def Routine.Proceeds {α : Type} (o : Outside ω) (p : Place κ ω) (r : Routine κ α) (s : κ)
    (said : List (Event κ)) (a : α) (s' : κ) : Prop :=
  ∀ t w, p.get w = s → (r.run o p t w).result = some a ∧ (r.run o p t w).time = t ∧
    p.get (r.run o p t w).world = s' ∧ talk (r.record o p t w) = said

namespace Routine

variable {α β : Type} {p : Place κ ω} {s s₁ s' : κ} {es es' : List (Event κ)} {a : α} {b : β}

theorem proceeds_pure : Proceeds o p (pure a) s [] a s := by
  intro t w hw
  exact ⟨rfl, rfl, hw, rfl⟩

theorem Proceeds.bind {r : Routine κ α} {f : α → Routine κ β} (hr : Proceeds o p r s es a s₁)
    (hf : Proceeds o p (f a) s₁ es' b s') : Proceeds o p (r >>= f) s (es ++ es') b s' := by
  intro t w hw
  obtain ⟨hresult, htime, hleft, hsaid⟩ := hr t w hw
  obtain ⟨hresult', htime', hleft', hsaid'⟩ := hf t _ hleft
  rw [bind_eq, run_bind, record_bind, talk_append, hsaid]
  simp only [Outcome.andThen, hresult, htime, Option.elim_some]
  exact ⟨hresult', htime', hleft', congrArg (es ++ ·) hsaid'⟩

theorem proceeds_own (ho : Apart o p) {f : κ → κ} {rest : κ → Routine κ α}
    (h : Proceeds o p (rest s) (f s) es a s') : Proceeds o p (.own f rest) s es a s' := by
  intro t w hw
  subst hw
  exact h t (p.update f w) (ho.moved f w)

theorem proceeds_query (ho : Apart o p) {q : Query} {x : q.Answer}
    (hx : ∀ w, (o.answer q w).1 = x) :
    Proceeds o p (Routine.query q) s (talk [.asked q x]) x s := by
  intro t w hw
  refine ⟨congrArg some (hx w), rfl, (ho.asked q w).trans hw, ?_⟩
  change talk [.asked q (o.answer q w).1] = _
  rw [hx w]

theorem proceeds_note (ho : Apart o p) (line : Notice) :
    Proceeds o p (Routine.note line) s [] () s := proceeds_query ho (q := .note line) fun _ => rfl

end Routine

/-! ## A bridge that accepts a username -/

/-- A client that is connected to the host now, with the username, has it accepted in time, and
holds it still when it is asked then. -/
def Outside.Admits (o : Outside ω) (host username : String) (config : BridgeConfig) (w : ω) :
    Prop :=
  ∃ c w₁ d w₂, o.answer (.connect host (some username)) w = (c, w₁) ∧
    (o.receive (.validate c) w₁).delay = some d ∧ d ≤ 10000 ∧
    (o.receive (.validate c) w₁).finish (o.receive (.validate c) w₁).world = (.ok config, w₂) ∧
    (o.answer (.clientUsername c) w₂).1 = some username

/-- What is said in an exchange that goes well at once. -/
def Exchange.saysAdmitted (host username : String) (config : BridgeConfig) (c : Client) :
    List (Event κ) :=
  [.asked (.connect host (some username)) c, .calledBy (.validate c) (some (.ok config)),
    .asked (.clientUsername c) (some username)]

theorem Exchange.run_admitted {host username : String} {config : BridgeConfig} {w : ω}
    (h : o.Admits host username config w) (p : Place κ ω) (ho : Apart o p) (home : HomeName)
    (t : Nat) : ∃ c d w', d ≤ 10000 ∧ p.get w' = p.get w ∧
      (acquire host (some username) home).run o p t w =
        ⟨some (.ok ⟨c, config, username⟩), t + d, w'⟩ ∧
      (acquire host (some username) home).record o p t w =
        saysAdmitted host username config c := by
  obtain ⟨c, w₁, d, w₂, hconnected, hdelay, hd, haccepted, hheld⟩ := h
  have hd' : t + d ≤ t + authLimit := Nat.add_le_add_left hd t
  -- The exchange connects, validates and asks what the client holds; only the second takes time.
  refine ⟨c, d, (o.answer (.clientUsername c) w₂).2, hd, ?_, ?_, ?_⟩
  · have h₁ := ho.asked (.connect host (some username)) w
    have h₂ := ho.finished (.validate c) w₁ (o.receive (.validate c) w₁).world
    rw [hconnected] at h₁
    rw [haccepted, ho.received] at h₂
    rw [ho.asked, h₂, h₁]
  · rw [Conduct.acquire_eq]
    simp only [run, hconnected, Option.isSome_some, Conduct.calls_known, Attempt.within,
      Routine.bind, Attempt.request, Attempt.boundedBy, hdelay, if_pos hd', haccepted,
      Option.elim_some, Conduct.conclude, Routine.query, bind_eq]
    rw [hheld]
    rfl
  · rw [Conduct.acquire_eq]
    simp only [record, hconnected, Option.isSome_some, Conduct.calls_known, Attempt.within,
      Routine.bind, Attempt.request, Attempt.boundedBy, hdelay, if_pos hd', haccepted,
      Option.elim_some, Conduct.conclude, Routine.query, bind_eq]
    rw [hheld]
    rfl

namespace Session

variable {p : Place Cell ω} {w : ω}

/-! ## A session that is loaded -/

/-- What a session holds that was set up with this client. -/
def loadedWith (c : Client) (config : BridgeConfig) : Cell :=
  let limit := concurrencyLimit config.modelId
  ⟨.authorized, some ⟨c, config, limit, .ofPermits limit⟩, true, true⟩

/-- A session that has claimed its setup. -/
def claimedCell : Cell := { Cell.fresh with state := .authenticating }

theorem proceeds_setState (ho : Apart o p) {c : Cell} (state : SessionState) :
    Proceeds o p (setState state) c [] () { c with state } := by
  have hwrite : Proceeds o p (.own (fun c => { c with state }) fun _ => .done ()) c [] () _ :=
    proceeds_own ho proceeds_pure
  exact hwrite

/-- Nothing is in the way of a session that has claimed its setup. -/
theorem proceeds_load (s : Session) (linked : LinkedBridge) (ho : Apart o p) :
    Proceeds o p (s.load linked) claimedCell s.hookedIn .loaded
      (loadedWith linked.client linked.config) := by
  let limit := concurrencyLimit linked.config.modelId
  have hkeep : Proceeds o p (keep ⟨linked.client, linked.config, limit, .ofPermits limit⟩)
      claimedCell [] true { claimedCell with
        ready := some ⟨linked.client, linked.config, limit, .ofPermits limit⟩ } :=
    proceeds_own ho proceeds_pure
  have htell : ∀ (platform : Platform) (c : Cell), Proceeds o p
      (Routine.query (.forwardSetup s.registration platform)) c
      [.asked (.forwardSetup s.registration platform) ()] () c := by
    intro platform c
    exact proceeds_query ho fun _ => rfl
  have hplatforms : ∀ c : Cell, Proceeds o p (Platform.all.forM fun platform =>
      Routine.query (.forwardSetup s.registration platform)) c _ () c := fun c =>
    (htell _ c).bind ((htell _ c).bind ((htell _ c).bind proceeds_pure))
  have hservice : ∀ c : Cell, Proceeds o p (Routine.query (.registerSceneService s.handle)) c
      [.asked (.registerSceneService s.handle) ()] () c := fun c => proceeds_query ho fun _ => rfl
  have hflag : ∀ c : Cell, Proceeds o p (Routine.modify fun c => { c with authorized := true }) c
      [] () { c with authorized := true } := fun c => proceeds_own ho proceeds_pure
  refine (proceeds_note ho _).bind (hkeep.bind ?_)
  refine (hplatforms _).bind ((hservice _).bind ((hflag _).bind ?_))
  exact (proceeds_setState ho _).bind ((proceeds_note ho _).bind proceeds_pure)

/-- What a claim to set the session up does. -/
def claimed (c : Cell) : Cell :=
  if c.state = .uninitialized then { c with state := .authenticating } else c

/-- The surroundings of a new session when it connects: it has claimed its setup, and asked for the
name of the home. -/
def connecting (o : Outside ω) (p : Place Cell ω) (w : ω) : ω :=
  (o.answer .locationName (p.update claimed w)).2

/-- The setup of the session, run alone from here on, ends in time with the session loaded. All that
is said is the question for the home, one exchange with the username of the registration, and what
hooks the session in. -/
structure Loads (s : Session) (o : Outside ω) (p : Place Cell ω) (config : BridgeConfig) (t : Nat)
    (w : ω) : Prop where
  result : (s.setup.run o p t w).result = some .loaded
  time : (s.setup.run o p t w).time ≤ t + 10000
  loaded : ∃ home c, p.get (s.setup.run o p t w).world = loadedWith c config ∧
    talk (s.setup.record o p t w) = .asked .locationName home ::
      (Exchange.saysAdmitted s.host s.registration.username config c ++ s.hookedIn)

theorem loads_of_admits (s : Session) {config : BridgeConfig} (ho : Apart o p)
    (hfresh : p.get w = Cell.fresh)
    (h : o.Admits s.host s.registration.username config (connecting o p w)) (t : Nat) :
    s.Loads o p config t w := by
  have hclaimed : p.get (connecting o p w) = claimedCell := by
    unfold connecting
    rw [ho.asked, ho.moved, hfresh]
    rfl
  let home := (o.answer .locationName (p.update claimed w)).1
  obtain ⟨c, d, w', hd, hheld, hrun, hrecord⟩ := Exchange.run_admitted h p ho home t
  let linked : LinkedBridge := ⟨c, config, s.registration.username⟩
  obtain ⟨hresult, htime, hleft, hsaid⟩ :=
    proceeds_load s linked ho (t + d) w' (hheld.trans hclaimed)
  have hstate : decide ((p.get w).state = .uninitialized) = true := by
    rw [hfresh]
    rfl
  -- The claim and the question for the home take no time, and the exchange goes as it is admitted.
  have hsetup : s.setup.run o p t w = (s.load linked).run o p (t + d) w' := by
    change Routine.run o p
      (if decide ((p.get w).state = .uninitialized) = true then _ else _) t _ = _
    rw [if_pos hstate]
    change Routine.run o p (Routine.bind _ (Exchange.acquire _ _ home)) t (connecting o p w) = _
    rw [run_bind, hrun]
    rfl
  have hspoken : talk (s.setup.record o p t w) = .asked .locationName home ::
      (Exchange.saysAdmitted s.host s.registration.username config c ++
        talk ((s.load linked).record o p (t + d) w')) := by
    change talk (_ :: Routine.record o p
      (if decide ((p.get w).state = .uninitialized) = true then _ else _) t _) = _
    rw [if_pos hstate]
    change _ :: talk (Routine.record o p (Routine.bind _ (Exchange.acquire _ _ home)) t
      (connecting o p w)) = _
    rw [record_bind, hrun, hrecord, talk_append]
    rfl
  refine ⟨?_, ?_, home, c, ?_, ?_⟩
  · rw [hsetup, hresult]
  · rw [hsetup, htime]
    exact Nat.add_le_add_left hd t
  · rw [hsetup, hleft]
  · rw [hspoken, hsaid]

end Session

/-! ## What a flow hands over -/

namespace Pairing

variable {f f' : Flow} {es : List (Event Flow)} {e : Entry}
  {holds : List (Event Flow) → Client → Option String}

/-- The host that the event connects the client to. -/
def connectedTo (c : Client) : Event Flow → Option String
  | .asked (.connect host _) c' => if c' = c then some host else none
  | _ => none

/-- The host that a client was connected to last. -/
def lastHost (es : List (Event Flow)) (c : Client) : Option String :=
  (es.filterMap (connectedTo c)).getLast?

theorem lastHost_connected (es : List (Event Flow)) (host : String) (username : Option String)
    (c : Client) : lastHost (es ++ [.asked (.connect host username) c]) c = some host := by
  simp [lastHost, connectedTo]

theorem lastHost_unconnected {e : Event Flow} {c : Client} (he : connectedTo c e = none) :
    lastHost (es ++ [e]) c = lastHost es c := by
  unfold lastHost
  rw [List.filterMap_append, List.filterMap_cons_none he, List.filterMap_nil, List.append_nil]

/-- Clients say the address they were connected to. -/
def ReportsAddress (es : List (Event Flow)) : Prop :=
  ∀ before c host after, es = before ++ .asked (.clientHost c) host :: after →
    lastHost before c = some host

/-- The bridge at this host accepted this username, from a client that held it. -/
def Accepted (holds : List (Event Flow) → Client → Option String) (es : List (Event Flow))
    (host username : String) : Prop :=
  ∃ before c config after, es = before ++ .calledBy (.validate c) (some (.ok config)) :: after ∧
    lastHost before c = some host ∧ holds before c = some username

/-- When its username is validated, the client behind an entry is still connected to its host. -/
theorem lastHost_prepared (s : Source) (before : List (Event Flow)) (home : HomeName) :
    lastHost (before ++ [.asked (.connect s.host s.username) s.client] ++ s.prepares home)
      s.client = some s.host := by
  unfold Source.prepares
  cases s.username with
  | some name =>
    rw [List.append_nil]
    exact lastHost_connected _ _ _ _
  | none =>
    rw [lastHost_unconnected rfl]
    exact lastHost_connected _ _ _ _

/-- What is said from the validation of the username on, with what comes before. -/
theorem Source.Backs.from_validation {s : Source} {flow : Uuid} {file : Option String}
    (h : s.Backs flow file es e) : ∃ start, lastHost start s.client = some s.host ∧
      es = start ++ .calledBy (.validate s.client) (some (.ok s.config)) ::
        .asked (.clientUsername s.client) (some e.registration.username) ::
        [.asked (.clientHost s.client) e.registration.host, .asked .registrations s.store] := by
  obtain ⟨before, home, hsaid⟩ := h.said
  refine ⟨_, lastHost_prepared s before home, ?_⟩
  rw [hsaid]
  unfold Source.says
  simp

/-- The bridge at the host of the source accepted the username of the entry. -/
theorem Source.Backs.validated {s : Source} {flow : Uuid} {file : Option String}
    (h : s.Backs flow file es e) (hholds : Ledger holds es) :
    Accepted holds es s.host e.registration.username := by
  obtain ⟨start, hstart, hes⟩ := h.from_validation
  have hheld := hholds.told (start ++ [_]) _ _ _ (by rw [hes, List.append_assoc]; rfl)
  rw [hholds.kept _ _ _ _ hes rfl] at hheld
  exact ⟨start, s.client, s.config, _, hes, hstart, hheld.symm⟩

/-- The client that an entry comes from says where it was connected to. -/
theorem Source.Backs.host_eq {s : Source} {flow : Uuid} {file : Option String}
    (h : s.Backs flow file es e) (haddress : ReportsAddress es) :
    s.host = e.registration.host := by
  obtain ⟨start, hstart, hes⟩ := h.from_validation
  have hhost := haddress (start ++ [_] ++ [_]) _ _ _
    (by rw [hes, List.append_assoc, List.append_assoc]; rfl)
  rw [lastHost_unconnected rfl, lastHost_unconnected rfl, hstart] at hhost
  exact Option.some.inj hhost

/-- The address and the username of an entry are those that the bridge accepted in the step. -/
theorem Source.Backs.accepted {s : Source} {flow : Uuid} {file : Option String}
    (h : s.Backs flow file es e) (hholds : Ledger holds es) (haddress : ReportsAddress es) :
    Accepted holds es e.registration.host e.registration.username := by
  rw [← h.host_eq haddress]
  exact h.validated hholds

end Pairing

/-- Whichever way a step came to an entry, the bridge at the address of its registration accepted
the username of its registration, from a client that held it. A new session of this registration is
loaded by its setup, if the bridge accepts the username there once more: the setup ends in time, the
session is hooked in with the limit of the model that the bridge tells, and no username is asked
for, nor is the bridge to be paired again. -/
theorem what_a_flow_pairs_is_loaded {entrance : Pairing.Entrance} {f f' : Pairing.Flow}
    {es : List (Event Pairing.Flow)} {e : Pairing.Entry}
    {holds : List (Event Pairing.Flow) → Client → Option String}
    (h : Passage Eq entrance.step f es (.entry e) f') (hholds : Pairing.Ledger holds (talk es))
    (haddress : Pairing.ReportsAddress (talk es)) :
    Pairing.Accepted holds (talk es) e.registration.host e.registration.username ∧
    ∀ {ω : Type} (o : Outside ω) (p : Place Cell ω) (handle : SessionId) (options : Options)
      (config : BridgeConfig) (t : Nat) (w : ω), Apart o p → p.get w = Cell.fresh →
      o.Admits e.registration.host e.registration.username config (Session.connecting o p w) →
      Session.Loads ⟨handle, e.registration, options⟩ o p config t w := by
  obtain ⟨⟨s, hbacks⟩, _⟩ := Pairing.backed_way (Pairing.way_of_passage h)
  refine ⟨hbacks.accepted hholds haddress, ?_⟩
  intro ω o p handle options config t w ho hfresh hadmits
  exact Session.loads_of_admits ⟨handle, e.registration, options⟩ ho hfresh hadmits t

/-! ## The session of a bridge that is known already -/

/-- The bridge that moved, as a session finds it later. -/
def movedLater : Outside (Cell × Unit) where
  answer q w := ((movedBridge.granted.answer q (Pairing.Flow.begin default .known, [])).1, w)
  receive c w :=
    let reply := movedBridge.granted.receive c (Pairing.Flow.begin default .known, [])
    ⟨w, reply.delay, fun w => ((reply.finish reply.world).1, w)⟩

theorem apart_movedLater : Apart movedLater Place.beside :=
  ⟨fun _ _ => rfl, fun _ _ => rfl, fun _ _ => rfl, fun _ _ _ => rfl⟩

theorem admits_movedLater : movedLater.Admits movedBridge.host movedBridge.username
    ⟨"Philips hue", "BSB002", "00178823af15", none⟩
    (Session.connecting movedLater Place.beside (Cell.fresh, ())) :=
  ⟨⟨0⟩, _, 30, _, rfl, rfl, by decide, rfl, rfl⟩

theorem Pairing.reportsAddress_rejoinEvents : ReportsAddress (talk rejoinEvents) := by
  intro before c host after h
  rw [talk_rejoinEvents] at h
  simp [List.cons_eq_append_iff] at h
  obtain ⟨rfl, ⟨rfl, rfl⟩, _⟩ := h
  rfl

theorem what_a_flow_pairs_is_loaded_at_a_known_bridge :
    (Passage Eq Pairing.rejoining.step (Pairing.Flow.begin default .known) Pairing.rejoinEvents
        (.entry movedEntry) Pairing.rejoined ∧
      Pairing.Ledger Pairing.lastConnected (talk Pairing.rejoinEvents) ∧
      Pairing.ReportsAddress (talk Pairing.rejoinEvents)) ∧
    (Apart movedLater Place.beside ∧ movedLater.Admits movedBridge.host movedBridge.username
      ⟨"Philips hue", "BSB002", "00178823af15", none⟩
      (Session.connecting movedLater Place.beside (Cell.fresh, ()))) ∧
    Pairing.Accepted Pairing.lastConnected (talk Pairing.rejoinEvents) "192.168.1.2" "new" ∧
    Session.Loads ⟨⟨0⟩, movedBridge, Options.default⟩ movedLater Place.beside
      ⟨"Philips hue", "BSB002", "00178823af15", none⟩ 0 (Cell.fresh, ()) := by
  have hstep : Passage Eq Pairing.rejoining.step (Pairing.Flow.begin default .known)
      Pairing.rejoinEvents (.entry movedEntry) Pairing.rejoined :=
    Pairing.passage_recorded (t := 30) (by cbv)
  obtain ⟨haccepted, hloads⟩ := what_a_flow_pairs_is_loaded hstep Pairing.ledger_rejoinEvents
    Pairing.reportsAddress_rejoinEvents
  exact ⟨⟨hstep, Pairing.ledger_rejoinEvents, Pairing.reportsAddress_rejoinEvents⟩,
    ⟨apart_movedLater, admits_movedLater⟩, haccepted,
    hloads _ _ _ _ _ _ _ apart_movedLater rfl admits_movedLater⟩

end HueLink
