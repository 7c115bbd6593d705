-- The setup of a new session either hooks the session into the host in full, or leaves nothing
-- behind but a session that failed. A session that failed refuses all that is done with it, at
-- once and without a word to anybody, and stays as it is.
import HueLink.Proofs.Pairing.Limits
import HueLink.Proofs.Session.FirstSetup

namespace HueLink

open Routine

namespace Session

/-! ## The setup of a new session -/

variable {s : Session} {c : Cell} {es : List (Event Cell)} {r : SetupOutcome}

/-- What comes of the setup of a new session after this answer of its exchange: what the setup
answers, what is still said, and what the session keeps. -/
inductive Settled (s : Session) :
    Except BridgeError LinkedBridge → SetupOutcome → List (Event Cell) → Cell → Prop where
  | loaded (linked : LinkedBridge) : Settled s (.ok linked) .loaded s.hookedIn
      (loadedWith linked.client linked.config)
  | missed : Settled s (.error .cannotConnect) .retryLater []
      { Cell.fresh with state := .connFailed }
  | refused : Settled s (.error .authenticationRequired) .failed
      [.asked (.startPairing s.host) ()] { Cell.fresh with state := .authFailed }

/-- A new session goes through one exchange with its username, and all depends on the answer. -/
theorem settled_of_passage (h : Passage Eq s.setup Cell.fresh es r c) :
    ∃ home es₁ answer after,
      Passage Eq (Exchange.acquire s.host (some s.registration.username) home) claimedCell es₁
        answer claimedCell ∧
      talk es = .asked .locationName home :: (talk es₁ ++ after) ∧ s.Settled answer r after c := by
  obtain ⟨_, rfl, ⟨hclaimed, _⟩ | ⟨_, home, es₁, answer, es₂, hexchange, htalk, hend⟩⟩ :=
    exchange_of_setup h
  · exact absurd rfl hclaimed
  refine ⟨home, es₁, answer, talk es₂, hexchange, htalk, ?_⟩
  obtain ⟨linked, rfl⟩ | rfl | rfl := (Exchange.passage_acquire hexchange).1.ends
  · -- Nothing is kept for a session that has just claimed its setup.
    obtain ⟨_, rfl, ⟨_, hhooked, rfl, _, _, rfl, rfl, rfl⟩ | ⟨hkept, _⟩⟩ := passage_load hend
    · rw [hhooked]
      exact .loaded linked
    · exact absurd rfl hkept
  · obtain ⟨hpaired, rfl, _, rfl, rfl⟩ := hend
    rw [hpaired]
    exact .refused
  · obtain ⟨hsilent, rfl, _, rfl, rfl⟩ := hend
    rw [hsilent]
    exact .missed

/-! ## What is done with a session -/

/-- Something to do with a session, with work that comes to an `α`. -/
inductive Operation (α : Type) where
  | request (work : Routine Cell α)
  | callApi (work : Client → Routine Cell (Except Fault α))
  | activateNamedScene (groupName sceneName : String)
  /-- A call of the scene service that reaches the session. -/
  | serveScene (data : Json)
  | setup
  | markUnauthorized
  | setAvailable (available : Bool)
  | teardown

/-- What comes back from it. -/
inductive Operation.Answer (α : Type) where
  | returned (result : Except BridgeError α)
  | recalled (result : Except BridgeError Unit)
  | setUp (outcome : SetupOutcome)
  | tornDown (complete : Bool)
  /-- There is nothing to tell. -/
  | done

variable {α : Type}

def perform (s : Session) : Operation α → Routine Cell (Operation.Answer α)
  | .request work => return .returned (← gated .whole work)
  | .callApi work => return .returned (← s.callApi work)
  | .activateNamedScene groupName sceneName =>
    return .recalled (← s.activateNamedScene groupName sceneName)
  | .serveScene data => return .recalled (← Session.serveScene (some s) data)
  | .setup => return .setUp (← s.setup)
  | .markUnauthorized => do
    s.markUnauthorized
    return .done
  | .setAvailable available => do
    Session.setAvailable available
    return .done
  | .teardown => return .tornDown (← s.teardown)

/-- One operation after another. -/
def performAll (s : Session) (ops : List (Operation α)) :
    Routine Cell (List (Operation.Answer α)) :=
  ops.mapM s.perform

/-- What a session that failed answers. Service data is looked at before the session is. -/
def Operation.refusal : Operation α → Answer α
  | request _ | callApi _ => .returned (.error .notReady)
  | activateNamedScene _ _ => .recalled (.error .notReady)
  | serveScene data => .recalled <|
    match SceneCall.record.decode data with
    | .error e => .error (.invalidServiceData e)
    | .ok _ => .error .notReady
  | setup => .setUp .failed
  | markUnauthorized | setAvailable _ => .done
  | teardown => .tornDown true

/-- How an operation leaves a session that failed. -/
def Operation.leaves (c : Cell) : Operation α → Cell
  | setAvailable available => { c with available }
  | request _ | callApi _ | activateNamedScene _ _ | serveScene _ | setup | markUnauthorized
  | teardown => c

/-! ## A session that failed -/

/-- A session after a setup that failed: there is no client, and no setup will ever begin. -/
structure Failed (c : Cell) : Prop where
  state : c.state = .authFailed ∨ c.state = .connFailed
  ready : c.ready = none
  authorized : c.authorized = false

theorem Settled.failed {answer : Except BridgeError LinkedBridge} {after : List (Event Cell)}
    (h : s.Settled answer r after c) (hr : r ≠ .loaded) : Failed c := by
  cases h with
  | loaded => exact absurd rfl hr
  | missed => exact ⟨Or.inr rfl, rfl, rfl⟩
  | refused => exact ⟨Or.inl rfl, rfl, rfl⟩

namespace Failed

theorem state_ne (h : Failed c) : c.state ≠ .uninitialized := by
  rcases h.state with hstate | hstate <;> simp [hstate]

theorem client_eq (h : Failed c) : c.client = .error .notReady := by
  unfold Cell.client
  rw [h.ready]

theorem mapGate_eq (h : Failed c) (f : Semaphore → Semaphore) : c.mapGate f = c := by
  unfold Cell.mapGate
  rw [h.ready, Option.map_none, ← h.ready]

theorem leaves (h : Failed c) (op : Operation α) : Failed (op.leaves c) := by
  cases op with
  | setAvailable available => exact ⟨h.state, h.ready, h.authorized⟩
  | request | callApi | activateNamedScene | serveScene | setup | markUnauthorized | teardown =>
    exact h

variable {ω : Type} {o : Outside ω} {p : Place Cell ω}

theorem proceeds_gated (h : Failed c) (ho : Apart o p) (work : Routine Cell α) :
    Proceeds o p (gated .whole work) c [] (.error .notReady) c := by
  have hclosed : entered work c = .done (.error .notReady) := by
    unfold entered Cell.gate?
    rw [h.ready]
    rfl
  rw [gated_eq]
  apply proceeds_own ho
  rw [hclosed, h.mapGate_eq]
  exact proceeds_pure

/-- A routine that sees enough when it looks at the session is over at once. -/
theorem proceeds_look (ho : Apart o p) {f : Cell → Routine Cell α} {a : α} (hf : f c = pure a) :
    Proceeds o p (Routine.read >>= f) c [] a c := by
  apply proceeds_own ho
  change Proceeds o p (f c) c _ _ _
  rw [hf]
  exact proceeds_pure

theorem proceeds_callApi (h : Failed c) (ho : Apart o p)
    (work : Client → Routine Cell (Except Fault α)) :
    Proceeds o p (s.callApi work) c [] (.error .notReady) c := by
  apply proceeds_look ho
  rw [h.client_eq]

theorem proceeds_activateNamedScene (h : Failed c) (ho : Apart o p)
    (groupName sceneName : String) :
    Proceeds o p (s.activateNamedScene groupName sceneName) c [] (.error .notReady) c := by
  apply proceeds_look ho
  rw [h.client_eq]

theorem proceeds_serveScene (h : Failed c) (ho : Apart o p) (data : Json) :
    Proceeds o p (serveScene (some s) data) c []
      (match SceneCall.record.decode data with
        | .error e => .error (.invalidServiceData e)
        | .ok _ => .error .notReady) c := by
  unfold serveScene
  cases SceneCall.record.decode data with
  | error e => exact proceeds_pure
  | ok call => exact h.proceeds_activateNamedScene ho _ _

/-- The claim is refused, and that is noted. -/
theorem proceeds_setup (h : Failed c) (ho : Apart o p) :
    Proceeds o p s.setup c [] .failed c := by
  have hclaim : Proceeds o p claim c [] false c := by
    have hown : Proceeds o p (.own claimed fun before =>
        .done (decide (before.state = .uninitialized))) c [] false c := by
      apply proceeds_own ho
      rw [claimed, if_neg h.state_ne, decide_eq_false h.state_ne]
      exact proceeds_pure
    exact hown
  exact hclaim.bind ((proceeds_note ho _).bind proceeds_pure)

theorem proceeds_markUnauthorized (h : Failed c) (ho : Apart o p) :
    Proceeds o p s.markUnauthorized c [] () c := by
  have hsame : { c with authorized := false } = c := by
    rw [← h.authorized]
  apply proceeds_own ho
  rw [hsame, h.authorized]
  exact proceeds_pure

theorem proceeds_teardown (h : Failed c) (ho : Apart o p) :
    Proceeds o p s.teardown c [] true c := by
  apply proceeds_look ho
  rw [h.ready]
  rfl

/-- One operation on a session that failed. -/
theorem proceeds_perform (h : Failed c) (ho : Apart o p) (op : Operation α) :
    Proceeds o p (s.perform op) c [] op.refusal (op.leaves c) := by
  cases op with
  | request work => exact (h.proceeds_gated ho work).bind proceeds_pure
  | callApi work => exact (h.proceeds_callApi ho work).bind proceeds_pure
  | activateNamedScene groupName sceneName =>
    exact (h.proceeds_activateNamedScene ho groupName sceneName).bind proceeds_pure
  | serveScene data => exact (h.proceeds_serveScene ho data).bind proceeds_pure
  | setup => exact (h.proceeds_setup ho).bind proceeds_pure
  | markUnauthorized => exact (h.proceeds_markUnauthorized ho).bind proceeds_pure
  | setAvailable available => exact proceeds_own ho proceeds_pure
  | teardown => exact (h.proceeds_teardown ho).bind proceeds_pure

/-- And so any number of them, one after another. -/
theorem proceeds_performAll (h : Failed c) (ho : Apart o p) (ops : List (Operation α)) :
    Proceeds o p (s.performAll ops) c [] (ops.map Operation.refusal)
      (ops.foldl Operation.leaves c) := by
  induction ops generalizing c with
  | nil => exact proceeds_pure
  | cons op ops ih =>
    unfold performAll
    rw [List.mapM_cons]
    exact (h.proceeds_perform ho op).bind ((ih (h.leaves op)).bind proceeds_pure)

end Failed

/-- Only the note on whether the bridge can be reached is ever changed. -/
theorem foldl_leaves (c : Cell) (ops : List (Operation α)) :
    ops.foldl Operation.leaves c =
      { c with available := (ops.foldl Operation.leaves c).available } := by
  induction ops generalizing c with
  | nil => rfl
  | cons op ops ih =>
    rw [List.foldl_cons, ih]
    cases op <;> rfl

theorem foldl_leaves_of_unnoted (c : Cell) {ops : List (Operation α)}
    (h : ∀ available, .setAvailable available ∉ ops) : ops.foldl Operation.leaves c = c := by
  induction ops with
  | nil => rfl
  | cons op ops ih =>
    have hsame : op.leaves c = c := by
      cases op with
      | setAvailable available => exact absurd List.mem_cons_self (h available)
      | request | callApi | activateNamedScene | serveScene | setup | markUnauthorized | teardown =>
        rfl
    rw [List.foldl_cons, hsame]
    exact ih fun available hmem => h available (List.mem_cons_of_mem op hmem)

/-- The setup of a new session is over in time. It has one exchange with the bridge, with the
username of the registration, and that alone decides. If the exchange goes well, the session is
hooked in, with the limit of the model that the bridge tells. If it does not, nothing is set up at
the host, there is no client, and the bridge is to be paired again only if it refused the username.
From then on whatever is done with the session is refused at once, without a word to anybody, and
leaves all that the session keeps as it is, apart from what is noted with `setAvailable`. -/
theorem a_setup_is_all_or_nothing (s : Session) :
    s.setup.EndsWithin 10000 ∧
    ∀ es r c, Passage Eq s.setup Cell.fresh es r c →
      (∃ home es₁ answer after,
        Passage Eq (Exchange.acquire s.host (some s.registration.username) home) claimedCell es₁
          answer claimedCell ∧
        SparesHost es₁ ∧ talk es = .asked .locationName home :: (talk es₁ ++ after) ∧
        ((r = .loaded ↔ ∃ linked, answer = .ok linked) ∧
          (r = .retryLater ↔ answer = .error .cannotConnect) ∧
          (r = .failed ↔ answer = .error .authenticationRequired)) ∧
        (∀ linked, answer = .ok linked →
          after = s.hookedIn ∧ c = loadedWith linked.client linked.config) ∧
        (r = .retryLater → after = [] ∧ c = { Cell.fresh with state := .connFailed }) ∧
        (r = .failed → after = [.asked (.startPairing s.host) ()] ∧
          c = { Cell.fresh with state := .authFailed })) ∧
      (r ≠ .loaded → ∀ {α ω : Type} (ops : List (Operation α)) (o : Outside ω) (p : Place Cell ω),
        Apart o p → ∃ c', Proceeds o p (s.performAll ops) c [] (ops.map Operation.refusal) c' ∧
          c' = { c with available := c'.available } ∧
          ((∀ available, .setAvailable available ∉ ops) → c' = c)) := by
  refine ⟨endsWithin_setup, ?_⟩
  intro es r c h
  obtain ⟨home, es₁, answer, after, hexchange, htalk, hsettled⟩ := settled_of_passage h
  refine ⟨⟨home, es₁, answer, after, hexchange, ?_, htalk, ?_⟩, ?_⟩
  · exact sparesHost_of_talk (Exchange.passage_acquire hexchange).1.sparesHost
  · cases hsettled <;> simp
  · intro hr α ω ops o p ho
    refine ⟨_, (hsettled.failed hr).proceeds_performAll ho ops, foldl_leaves c ops, ?_⟩
    intro hunnoted
    exact foldl_leaves_of_unnoted c hunnoted

/-! ## A username that the bridge forgot -/

/-- What others go on to do with the session of a bridge that forgot its username. -/
def lateUses : List (Operation Unit) :=
  [.setup, .callApi fun client => Routine.request (.updateGroups client), .setAvailable false,
    .serveScene (.obj [("group_name", .str "Kitchen"), ("scene_name", .str "Relax")]),
    .markUnauthorized, .teardown]

theorem a_setup_is_all_or_nothing_for_a_forgotten_username :
    ∃ es c c', Passage Eq guestSession.setup Cell.fresh es .failed c ∧ c.state = .authFailed ∧
      (talk es).filter (fun e => !e.sparesHost) = [.asked (.startPairing "192.168.1.2") ()] ∧
      Apart movedLater Place.beside ∧
      Proceeds movedLater Place.beside (guestSession.performAll lateUses) c []
        [.setUp .failed, .returned (.error .notReady), .done, .recalled (.error .notReady), .done,
          .tornDown true] c' ∧
      c' = { c with available := c'.available } := by
  have hpairing : Passage Eq (.ask (.startPairing guestSession.host) fun _ => .done .failed)
      { Cell.fresh with state := .authFailed } _ SetupOutcome.failed _ := .ask () (.done _ _)
  have hsetup : Passage Eq guestSession.setup Cell.fresh _ .failed _ :=
    .lock (.own rfl (.ask (HomeName.plain "Home") (.ask (⟨0⟩ : Client) (.clock 0
      (.callBy (some (.error .unauthorized) : Option (Except Fault BridgeConfig))
        (.lock (.own rfl hpairing)))))))
  obtain ⟨_, hall⟩ := a_setup_is_all_or_nothing guestSession
  obtain ⟨_, hlater⟩ := hall _ _ _ hsetup
  obtain ⟨c', hrefused, hleft, _⟩ :=
    hlater (by decide) lateUses movedLater Place.beside apart_movedLater
  exact ⟨_, _, c', hsetup, rfl, rfl, apart_movedLater, hrefused, hleft⟩

end Session

end HueLink
