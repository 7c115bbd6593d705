-- The registry of services, as far as the scene service goes. It has one name, so registering it
-- replaces whatever handler is there, and removing it removes whatever handler is there. The
-- scripted home keeps its registry in this way.
import HueLink.Proofs.Routine.Asking
import HueLink.Proofs.Session.Usage
import HueLink.Scripted.Step
import Mathlib.Data.List.Basic

namespace HueLink

open Routine

/-! ## The registry -/

namespace Query

/-- The query withdraws the scene service, whoever offers it. -/
def withdraws : Query → Bool
  | removeSceneService => true
  | _ => false

/-- The query changes the registry. -/
def onService : Query → Bool
  | registerSceneService _ | removeSceneService => true
  | _ => false

/-- Whose scene service is registered after a query. -/
def serviceAfter : Query → Option SessionId → Option SessionId
  | registerSceneService session, _ => some session
  | removeSceneService, _ => none
  | _, service => service

theorem serviceAfter_of_off {q : Query} (h : q.onService = false) (service : Option SessionId) :
    q.serviceAfter service = service := by
  cases q <;> first | rfl | exact nomatch h

/-- Without withdrawals, the registry only changes as sessions hook themselves in. -/
theorem onService_eq {q : Query} (h : q.withdraws = false) :
    q.onService = (q.onService && q.hooksIn) := by
  cases q <;> first | rfl | exact nomatch h

end Query

/-- Whose scene service is registered after all that was asked. -/
def registered (asked : List Query) : Option SessionId :=
  asked.foldl (fun service q => q.serviceAfter service) none

theorem registered_concat (asked : List Query) (q : Query) :
    registered (asked ++ [q]) = q.serviceAfter (registered asked) :=
  List.foldl_concat _ _ _ _

theorem registered_filter (asked : List Query) :
    registered (asked.filter Query.onService) = registered asked := by
  unfold registered
  rw [List.foldl_filter]
  congr 1
  funext service q
  split
  · rfl
  · rename_i hoff
    exact (Query.serviceAfter_of_off (by simpa using hoff) service).symm

namespace Scripted.Home

/-- A call that leaves the registry alone, when it arrives and when it is answered. -/
def LeavesService {α : Type} (h : Home) (reply : Reply Home α) : Prop :=
  reply.world.service = h.service ∧ ∀ h', (reply.finish h').2.service = h'.service

theorem service_foldl {γ : Type} {f : Home → γ → Home}
    (hf : ∀ h a, (f h a).service = h.service) (items : List γ) (h : Home) :
    (items.foldl f h).service = h.service := by
  induction items generalizing h with
  | nil => rfl
  | cons a items ih => exact (ih (f h a)).trans (hf h a)

theorem service_legacyUsername (flow : Uuid) (path : String) (h : Home) :
    (h.legacyUsername flow path).2.service = h.service := by
  unfold legacyUsername
  split
  · rfl
  · exact service_foldl (f := fun h line => h.note line) (fun _ _ => rfl) _ h

theorem service_atBridge {α : Type} {effect : ClientState → Bridge → Home → Except Fault α × Home}
    (heffect : ∀ state b h, (effect state b h).2.service = h.service) (state : ClientState)
    (h : Home) : (atBridge effect state h).2.service = h.service := by
  unfold atBridge
  split
  · exact heffect _ _ h
  · rfl

theorem service_authorized {α : Type} {effect : ClientState → Bridge → Home → α × Home}
    (heffect : ∀ state b h, (effect state b h).2.service = h.service) (state : ClientState)
    (h : Home) : (authorized effect state h).2.service = h.service := by
  refine service_atBridge (fun state b h => ?_) state h
  split
  · exact heffect state b h
  · rfl

theorem leavesService_toBridge {α : Type} {effect : ClientState → Home → Except Fault α × Home}
    (heffect : ∀ state h, (effect state h).2.service = h.service) (c : Client) (m : Method)
    (e : Event) (h : Home) : h.LeavesService (toBridge c m e effect h) := by
  unfold toBridge
  dsimp only
  split
  · exact ⟨rfl, fun _ => rfl⟩
  · refine ⟨rfl, fun h' => ?_⟩
    dsimp only
    split
    · rfl
    · exact heffect _ h'

/-- The registry of a home does as asked. -/
theorem service_answer (q : Query) (h : Home) :
    (answer q h).2.service = q.serviceAfter h.service := by
  cases q with
  | legacyUsername flow path => exact service_legacyUsername flow path h
  | _ => rfl

/-- No call changes the registry of a home. -/
theorem service_receive (c : Call) (h : Home) : h.LeavesService (receive c h) := by
  cases c with
  | createUser c label =>
    refine leavesService_toBridge (service_atBridge fun state b h => ?_) _ _ _ h
    unfold createUser
    split
    · dsimp only
      split <;> rfl
    · rfl
  | validate c =>
    exact leavesService_toBridge (service_authorized fun _ _ _ => rfl) _ _ _ h
  | groups c => exact leavesService_toBridge (fun _ _ => rfl) _ _ _ h
  | scenes c => exact leavesService_toBridge (fun _ _ => rfl) _ _ _ h
  | updateGroups c =>
    exact leavesService_toBridge (service_authorized fun _ _ _ => rfl) _ _ _ h
  | updateScenes c =>
    exact leavesService_toBridge (service_authorized fun _ _ _ => rfl) _ _ _ h
  | setGroupScene c group scene =>
    exact leavesService_toBridge (service_authorized fun _ _ _ => rfl) _ _ _ h
  | discover => exact ⟨rfl, fun _ => rfl⟩
  | unloaded registration platform => exact ⟨rfl, fun _ => rfl⟩
  | sleep span => exact ⟨rfl, fun _ => rfl⟩

end Scripted.Home

/-! ## Calls -/

/-- What a call is answered if nobody offers the scene service. -/
def serviceMissing : BridgeError :=
  .unknown ("service " ++ domain ++ "." ++ sceneService ++ " not found")

namespace Scripted

variable {h : Home} {o : Outside Home}

theorem run_callService_of_some {handle : SessionId} {slot : SessionSlot}
    (hservice : h.service = some handle) (hliving : h.living? handle = some slot) (data : Json)
    (t : Nat) : (callService domain sceneService data).run o .whole t h =
      (holding handle do
        return .unit (← (Session.serveScene (some slot.session) data).zoom (cellPlace handle))).run
          o .whole t h := by
  have hread : (Place.whole.get h).service = some handle := hservice
  have hslot : (Place.whole.get h).living? handle = some slot := hliving
  simp only [callService, bind_eq, Routine.bind, Routine.read, run, hread, hslot, and_self, if_true]
  rfl

end Scripted

/-! ## What takes nothing down -/

/-- The query takes something of a session down: the scene service, or a platform. -/
def Query.takesDown : Query → Bool
  | removeSceneService | forwardUnload _ _ => true
  | _ => false

theorem Query.withdraws_of_takesDown {q : Query} (h : q.takesDown = false) :
    q.withdraws = false := by
  cases q <;> first | rfl | exact nomatch h

namespace Routine

variable {κ α β : Type}

/-- The routine never withdraws the scene service. -/
def KeepsService (p : Routine κ α) : Prop :=
  p.Asks fun q => q.withdraws = false

/-- The routine never withdraws the scene service, and it never has a platform unloaded. -/
def TakesNothingDown (p : Routine κ α) : Prop :=
  p.Asks fun q => q.takesDown = false

theorem TakesNothingDown.keepsService {p : Routine κ α} (h : p.TakesNothingDown) :
    p.KeepsService := Asks.mono (fun _ => Query.withdraws_of_takesDown) h

theorem TakesNothingDown.bind {p : Routine κ α} {f : α → Routine κ β} (hp : p.TakesNothingDown)
    (hf : ∀ x, (f x).TakesNothingDown) : (p.bind f).TakesNothingDown :=
  Asks.bind hp hf

theorem takesNothingDown_query {q : Query} (hq : q.takesDown = false) :
    (query q : Routine κ q.Answer).TakesNothingDown := ⟨hq, fun _ => trivial⟩

theorem takesNothingDown_request (c : Call) :
    (request c : Routine κ c.Answer).TakesNothingDown := fun _ => trivial

end Routine

namespace Session

variable {s : Session} {α : Type}

theorem takesNothingDown_refuse (fault : Fault) :
    (Exchange.refuse fault : Routine Cell BridgeError).TakesNothingDown := by
  cases fault with
  | linkButtonNotPressed | unauthorized | request _ => trivial
  | protocol message => exact (takesNothingDown_query rfl).bind fun _ => trivial

theorem takesNothingDown_calls (client : Client) (hasUsername : Bool) (home : HomeName)
    (deadline : Nat) : ((Exchange.calls client hasUsername home).boundedBy deadline :
      Routine Cell (Option (Except Fault BridgeConfig))).TakesNothingDown := by
  have hvalidate : ((Attempt.request (.validate client)).boundedBy deadline :
      Routine Cell (Option (Except Fault BridgeConfig))).TakesNothingDown := by
    intro answer
    cases answer <;> trivial
  unfold Exchange.calls
  cases hasUsername with
  | true => exact hvalidate
  | false =>
    intro answer
    rcases answer with _ | fault | ⟨⟩
    · trivial
    · trivial
    · exact hvalidate

theorem takesNothingDown_acquire (host : String) (username : Option String) (home : HomeName) :
    (Exchange.acquire host username home : Routine Cell _).TakesNothingDown := by
  refine .bind (takesNothingDown_query rfl) fun client => ?_
  refine .bind (fun now => takesNothingDown_calls client _ home _) fun answer => ?_
  rcases answer with _ | fault | config
  · trivial
  · exact .bind (takesNothingDown_refuse fault) fun _ => trivial
  · refine .bind (takesNothingDown_query rfl) fun held => ?_
    rcases held with _ | username <;> trivial

theorem takesNothingDown_load (s : Session) (linked : LinkedBridge) :
    (s.load linked).TakesNothingDown := by
  refine .bind (takesNothingDown_query rfl) fun _ => ?_
  refine .bind (fun _ => trivial) fun kept => ?_
  cases kept with
  | false => trivial
  | true =>
    refine TakesNothingDown.bind (p := Platform.all.forM _) ?_ fun _ => ?_
    · exact ⟨rfl, fun _ => ⟨rfl, fun _ => ⟨rfl, fun _ => trivial⟩⟩⟩
    · exact ⟨rfl, fun _ _ _ => ⟨rfl, fun _ => trivial⟩⟩

theorem takesNothingDown_setup (s : Session) : s.setup.TakesNothingDown := by
  refine TakesNothingDown.bind (fun _ => trivial) fun claimed => ?_
  cases claimed with
  | false => exact ⟨rfl, fun _ => trivial⟩
  | true =>
    refine .bind (takesNothingDown_query rfl) fun home => ?_
    refine .bind (takesNothingDown_acquire _ _ home) fun answer => ?_
    rcases answer with e | linked
    · cases e with
      | authenticationRequired => exact fun _ => ⟨rfl, fun _ => trivial⟩
      | cannotConnect | unknown _ | notReady | invalidServiceData _ =>
        exact ⟨rfl, fun _ _ => trivial⟩
    · exact takesNothingDown_load s linked

theorem takesNothingDown_markUnauthorized (s : Session) :
    s.markUnauthorized.TakesNothingDown := by
  intro before
  dsimp only
  split
  · exact ⟨rfl, fun _ _ => ⟨rfl, fun _ => trivial⟩⟩
  · trivial

theorem asks_gated {ok : Query → Prop} {work : Routine Cell α} (hwork : work.Asks ok) :
    (gated .whole work).Asks ok := by
  rw [gated_eq]
  intro before
  unfold entered
  rcases before.gate? with _ | gate
  · trivial
  intro c
  dsimp only
  split
  · have hrunning : (work.bind fun a => .own (giveUp gate.next) fun _ =>
        .done (.ok a : Except BridgeError α)).Asks ok := hwork.bind fun _ _ => trivial
    exact hrunning.guarded _
  · trivial

theorem takesNothingDown_callApi {work : Client → Routine Cell (Except Fault α)}
    (hwork : ∀ client, (work client).TakesNothingDown) : (s.callApi work).TakesNothingDown := by
  refine TakesNothingDown.bind (fun _ => trivial) fun c => ?_
  rcases c.client with e | client
  · trivial
  refine TakesNothingDown.bind (asks_gated (hwork client))
    fun answer => ?_
  rcases answer with e | fault | a
  · trivial
  · cases fault with
    | unauthorized => exact .bind (takesNothingDown_markUnauthorized s) fun _ => trivial
    | linkButtonNotPressed | request _ | protocol _ => trivial
  · trivial

theorem takesNothingDown_lookup (client : Client) (groupName sceneName : String) :
    (lookup client groupName sceneName).TakesNothingDown := by
  refine .bind (takesNothingDown_request _) fun groups => ?_
  rcases groups with fault | groups
  · trivial
  · dsimp only
    rcases findGroup groupName groups with _ | group
    · trivial
    · refine .bind (takesNothingDown_request _) fun scenes => ?_
      rcases scenes with fault | scenes <;> trivial

theorem takesNothingDown_recallFound (groupName sceneName : String) (found : Found) :
    (s.recallFound groupName sceneName found).TakesNothingDown := by
  rcases found with ⟨_ | group, _ | scene⟩
  · exact ⟨rfl, fun _ => trivial⟩
  · exact ⟨rfl, fun _ => trivial⟩
  · exact ⟨rfl, fun _ => trivial⟩
  · exact takesNothingDown_callApi fun _ => takesNothingDown_request _

theorem takesNothingDown_recallAgain (client : Client) (groupName sceneName : String) :
    (s.recallAgain client groupName sceneName).TakesNothingDown := by
  have hrefresh : s.refresh.TakesNothingDown := by
    refine .bind (takesNothingDown_query rfl) fun _ => ?_
    refine .bind (takesNothingDown_callApi fun _ => takesNothingDown_request _) fun answer => ?_
    rcases answer with e | ⟨⟩
    · trivial
    · exact takesNothingDown_callApi fun _ => takesNothingDown_request _
  refine .bind hrefresh fun answer => ?_
  rcases answer with e | ⟨⟩
  · trivial
  · refine .bind (takesNothingDown_lookup client _ _) fun second => ?_
    rcases second with e | found
    · trivial
    · exact takesNothingDown_recallFound _ _ found

theorem takesNothingDown_activateNamedScene (groupName sceneName : String) :
    (s.activateNamedScene groupName sceneName).TakesNothingDown := by
  refine TakesNothingDown.bind (fun _ => trivial) fun c => ?_
  rcases c.client with e | client
  · trivial
  refine .bind (takesNothingDown_lookup client _ _) fun first => ?_
  rcases first with e | ⟨_ | group, _ | scene⟩
  · trivial
  · exact takesNothingDown_recallAgain _ _ _
  · exact takesNothingDown_recallAgain _ _ _
  · exact takesNothingDown_recallAgain _ _ _
  · exact takesNothingDown_recallFound _ _ _

theorem takesNothingDown_serveScene (data : Json) :
    (serveScene (some s) data).TakesNothingDown := by
  unfold serveScene
  rcases SceneCall.record.decode data with e | call
  · trivial
  · exact takesNothingDown_activateNamedScene _ _

end Session

end HueLink
