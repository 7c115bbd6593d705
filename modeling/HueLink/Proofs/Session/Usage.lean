-- What tasks may do with a session. The operations of a session may be used in any order and as
-- often as wanted, alone or one after another, and with work of any kind that goes through its
-- gate.
import HueLink.Proofs.Exchange
import HueLink.Session.SceneRecall
import HueLink.Session.Setup

namespace HueLink

/-- The query hooks something into the host. -/
def Query.hooksIn : Query → Bool
  | forwardSetup _ _ | registerSceneService _ => true
  | _ => false

/-- The query asks for a bridge to be paired again. -/
def Query.relinks : Query → Bool
  | startPairing _ => true
  | _ => false

/-- A routine that only turns to its surroundings, and does not hook anything into the host or ask
for pairing. -/
inductive Routine.Outward {κ : Type} : {α : Type} → Routine κ α → Prop where
  | done {α : Type} (a : α) : Outward (.done a)
  | clock {α : Type} {rest : Nat → Routine κ α} : (∀ t, Outward (rest t)) → Outward (.clock rest)
  | ask {α : Type} {q : Query} {rest : q.Answer → Routine κ α} :
    q.hooksIn = false → q.relinks = false → (∀ a, Outward (rest a)) → Outward (.ask q rest)
  | call {α : Type} {c : Call} {rest : c.Answer → Routine κ α} :
    (∀ a, Outward (rest a)) → Outward (.call id c rest)
  | callBy {α : Type} {deadline : Nat} {c : Call} {rest : Option c.Answer → Routine κ α} :
    (∀ a, Outward (rest a)) → Outward (.callBy id deadline c rest)

/-- What a task may do with a session: use its operations one after another, and turn to the
surroundings in between. It is the session alone that hooks itself into the host and asks for
pairing. -/
inductive Session.Usage (s : Session) : (α : Type) → Routine Cell α → Prop where
  | outward {α : Type} {p : Routine Cell α} : p.Outward → Usage s α p
  | bind {α β : Type} {p : Routine Cell α} {f : α → Routine Cell β} :
    Usage s α p → (∀ a, Usage s β (f a)) → Usage s β (p.bind f)
  | read : Usage s Cell Routine.read
  | lock {α : Type} {p : Routine Cell α} : Usage s α p → Usage s α (.lock p)
  | setup : Usage s SetupOutcome s.setup
  | markUnauthorized : Usage s Unit s.markUnauthorized
  | setAvailable (available : Bool) : Usage s Unit (setAvailable available)
  | request {α : Type} {work : Routine Cell α} :
    Usage s α work → Usage s (Except BridgeError α) (gated .whole work)

/-! ## Turning to the surroundings -/

namespace Routine

variable {κ α β : Type}

theorem Outward.bind {p : Routine κ α} {f : α → Routine κ β} (hp : p.Outward)
    (hf : ∀ a, (f a).Outward) : (p.bind f).Outward := by
  induction hp with
  | done a => exact hf a
  | clock _ ih => exact .clock fun t => ih t
  | ask hhooks hrelinks _ ih => exact .ask hhooks hrelinks fun a => ih a
  | call _ ih => exact .call fun a => ih a
  | callBy _ ih => exact .callBy fun a => ih a

theorem outward_request (c : Call) : (Routine.request c : Routine κ c.Answer).Outward :=
  .call fun a => .done a

theorem outward_query {q : Query} (hhooks : q.hooksIn = false) (hrelinks : q.relinks = false) :
    (Routine.query q : Routine κ q.Answer).Outward := .ask hhooks hrelinks fun a => .done a

theorem outward_note (line : Notice) : (Routine.note line : Routine κ Unit).Outward :=
  outward_query (q := .note line) rfl rfl

theorem outward_boundedBy (deadline : Nat) (p : Attempt α) :
    (p.boundedBy deadline : Routine κ (Option α)).Outward := by
  induction p with
  | done a => exact .done _
  | call c rest ih =>
    unfold Attempt.boundedBy
    refine .callBy fun a => ?_
    cases a with
    | none => exact .done _
    | some a => exact ih a

theorem outward_refuse (fault : Fault) :
    (Exchange.refuse fault : Routine κ BridgeError).Outward := by
  cases fault with
  | linkButtonNotPressed | unauthorized | request _ => exact .done _
  | protocol message => exact .bind (outward_note _) fun _ => .done _

theorem outward_acquire (host : String) (username : Option String) (home : HomeName) :
    (Exchange.acquire host username home :
      Routine κ (Except BridgeError LinkedBridge)).Outward := by
  refine .bind (outward_query rfl rfl) fun client => ?_
  refine .bind (.clock fun now => outward_boundedBy _ _) fun answer => ?_
  rcases answer with _ | fault | config
  · exact .done _
  · exact .bind (outward_refuse fault) fun _ => .done _
  · refine .bind (outward_query rfl rfl) fun held => ?_
    rcases held with _ | username <;> exact .done _

theorem outward_unloadAll (s : Session) (platforms : List Platform) :
    (s.unloadAll platforms).Outward := by
  refine Outward.bind (p := platforms.forM _) ?_ fun _ => ?_
  · induction platforms with
    | nil => exact .done _
    | cons platform rest ih => exact .bind (outward_query rfl rfl) fun _ => ih
  · induction platforms with
    | nil => exact .done _
    | cons platform rest ih =>
      rw [List.mapM_cons]
      exact .bind (outward_request _) fun _ => .bind ih fun _ => .done _

theorem outward_lookup (client : Client) (groupName sceneName : String) :
    (Session.lookup client groupName sceneName).Outward := by
  refine .bind (outward_request _) fun groups => ?_
  rcases groups with fault | groups
  · exact .done _
  · dsimp only
    rcases Session.findGroup groupName groups with _ | group
    · exact .done _
    · refine .bind (outward_request _) fun scenes => ?_
      rcases scenes with fault | scenes <;> exact .done _

end Routine

open Routine

namespace Session

variable {s : Session} {α : Type}

/-! ## A setup -/

/-- What a setup makes of its exchange, which ends in no other errors than these. -/
def answered (s : Session) : Except BridgeError LinkedBridge → Routine Cell SetupOutcome
  | .ok linked => s.load linked
  | .error .authenticationRequired => do
    setState .authFailed
    Routine.query (.startPairing s.host)
    pure .failed
  | .error _ => do
    Routine.note (.cannotReach s.host)
    setState .connFailed
    pure .retryLater

/-- The last arm of a setup, for an error of any other kind, is never taken. -/
theorem setup_eq (s : Session) : s.setup = claim.bind fun claimed =>
    if claimed then .ask .locationName fun home =>
      (Exchange.acquire s.host (some s.registration.username) home).bind s.answered
    else .ask (.note (.alreadySetUp s.host)) fun _ => .done .failed := by
  refine congrArg (fun f => Routine.bind f claim) (funext fun claimed => ?_)
  cases claimed with
  | false => rfl
  | true =>
    refine congrArg (Routine.ask .locationName) (funext fun home => ?_)
    exact Exchange.acquire_bind_congr (fun _ => rfl) rfl rfl

/-! ## The stages of a gated call -/

/-- The ticket is not used any more. -/
def giveUp (ticket : Nat) : Cell → Cell := Cell.mapGate (·.leave ticket)

/-- A gated call that has begun its work. -/
def running (ticket : Nat) (work : Routine Cell α) : Routine Cell (Except BridgeError α) :=
  (work.bind fun a => .own (giveUp ticket) fun _ => .done (.ok a)).guarded (giveUp ticket)

/-- A gated call that goes on as soon as its ticket lets it. -/
def queued (ticket : Nat) (work : Routine Cell α) : Routine Cell (Except BridgeError α) :=
  .await (giveUp ticket) (fun c => c.gate?.any (·.settled ticket)) fun c =>
    if c.gate?.any (·.holds ticket) then running ticket work else .done (.error .notReady)

/-- A gated call that has drawn its ticket, if there was a gate. -/
def entered (work : Routine Cell α) (before : Cell) : Routine Cell (Except BridgeError α) :=
  match before.gate? with
  | none => .done (.error .notReady)
  | some gate => queued gate.next work

theorem gated_eq (work : Routine Cell α) :
    gated .whole work = .own (Cell.mapGate Semaphore.arrive) (entered work) := by
  refine congrArg (Routine.own (Cell.mapGate Semaphore.arrive)) (funext fun before => ?_)
  unfold entered
  change (match before.gate? with | none => _ | some gate => _) = _
  rcases before.gate? with _ | gate
  · rfl
  · refine congrArg (Routine.await _ _) (funext fun c => ?_)
    exact apply_ite (Routine.guarded (giveUp gate.next)) _ _ _

/-! ## Operations made of others -/

theorem Usage.done (a : α) : s.Usage α (.done a) := .outward (.done a)

theorem usage_callApi {work : Client → Routine Cell (Except Fault α)}
    (hwork : ∀ client, s.Usage _ (work client)) : s.Usage _ (s.callApi work) := by
  refine .bind .read fun c => ?_
  rcases c.client with e | client
  · exact .done _
  · refine .bind (.request (hwork client)) fun answer => ?_
    rcases answer with e | fault | a
    · exact .done _
    · cases fault with
      | unauthorized => exact .bind .markUnauthorized fun _ => .done _
      | linkButtonNotPressed | request _ | protocol _ => exact .done _
    · exact .done _

theorem usage_refresh : s.Usage _ s.refresh := by
  refine .bind (.outward (outward_note _)) fun _ => ?_
  refine .bind (usage_callApi fun c => .outward (outward_request (.updateGroups c)))
    fun answer => ?_
  rcases answer with e | ⟨⟩
  · exact .done _
  · exact usage_callApi fun c => .outward (outward_request (.updateScenes c))

theorem usage_recallFound (groupName sceneName : String) (found : Found) :
    s.Usage _ (s.recallFound groupName sceneName found) := by
  rcases found with ⟨_ | group, _ | scene⟩
  · exact .bind (.outward (outward_note _)) fun _ => .done _
  · exact .bind (.outward (outward_note _)) fun _ => .done _
  · exact .bind (.outward (outward_note _)) fun _ => .done _
  · exact usage_callApi fun c => .outward (outward_request (.setGroupScene c _ _))

/-- What follows a first lookup that did not find both. -/
def recallAgain (s : Session) (client : Client) (groupName sceneName : String) :
    Routine Cell (Except BridgeError Unit) := do
  match ← s.refresh with
  | .error e => pure (.error e)
  | .ok () =>
    match ← lookup client groupName sceneName with
    | .error e => pure (.error e)
    | .ok found => s.recallFound groupName sceneName found

theorem usage_recallAgain (client : Client) (groupName sceneName : String) :
    s.Usage _ (s.recallAgain client groupName sceneName) := by
  refine .bind usage_refresh fun answer => ?_
  rcases answer with e | ⟨⟩
  · exact .done _
  · refine .bind (.outward (outward_lookup client _ _)) fun second => ?_
    rcases second with e | found
    · exact .done _
    · exact usage_recallFound _ _ found

theorem usage_activateNamedScene (groupName sceneName : String) :
    s.Usage _ (s.activateNamedScene groupName sceneName) := by
  refine .bind .read fun c => ?_
  rcases c.client with e | client
  · exact .done _
  refine .bind (.outward (outward_lookup client _ _)) fun first => ?_
  rcases first with e | ⟨_ | group, _ | scene⟩
  · exact .done _
  · exact usage_recallAgain _ _ _
  · exact usage_recallAgain _ _ _
  · exact usage_recallAgain _ _ _
  · exact usage_recallFound _ _ _

theorem usage_serveScene (data : Json) : s.Usage _ (serveScene (some s) data) := by
  unfold serveScene
  rcases SceneCall.record.decode data with e | call
  · exact .done _
  · exact usage_activateNamedScene _ _

theorem usage_teardown : s.Usage _ s.teardown := by
  refine .bind .read fun c => ?_
  cases c.ready.isSome with
  | true =>
    refine .bind (.outward (outward_query rfl rfl)) fun _ => ?_
    exact .bind (.outward (outward_unloadAll s Platform.all)) fun _ => .done _
  | false => exact .done _

end Session

end HueLink
