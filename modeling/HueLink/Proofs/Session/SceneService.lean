-- What the scene service makes of the data it is called with. Data that names a group and a scene
-- is a recall by these names, step by step; of a session that is gone it asks for nothing. All
-- other data is refused before anything is done, and a recall itself never blames the data.
import HueLink.Proofs.Codec.Domain
import HueLink.Proofs.Session.LightOrder
import HueLink.Proofs.Session.SharedService

namespace HueLink

open Codec Routine

/-! ## Data that names a group and a scene -/

/-- The data names a group and a scene: it is an object with a text for either, whatever else it
holds, or an array of these two texts and nothing more. -/
def Json.Names (group scene : String) : Json → Prop
  | .obj members => (Json.obj members).get? "group_name" = some (.str group) ∧
      (Json.obj members).get? "scene_name" = some (.str scene)
  | .arr items => items = [.str group, .str scene]
  | .null | .bool _ | .int _ | .real _ | .str _ => False

/-- The data names some group and some scene. -/
def Json.IsSceneCall (data : Json) : Prop := ∃ group scene, data.Names group scene

namespace SceneCall

variable {group scene : String} {items : List Json} {members : List (String × Json)} {data : Json}

theorem complete : record.fields.Complete := ⟨rfl, rfl, trivial⟩

theorem decode_obj_eq_ok_iff :
    record.decode (.obj members) = .ok ⟨group, scene⟩ ↔ (Json.obj members).Names group scene := by
  rw [Record.decode_obj, Record.map_pack_eq_ok_iff]
  constructor
  · rintro ⟨⟨first, second, ⟨⟩⟩, hread, hpack⟩
    obtain ⟨rfl, rfl⟩ := SceneCall.mk.inj hpack
    have hvalues := Fields.ofMembers_eq_ok_iff.mp hread
    obtain ⟨hgroup, hrest⟩ := Fields.assemble_field_eq_ok_iff.mp hvalues
    obtain ⟨hscene, -⟩ := Fields.assemble_field_eq_ok_iff.mp hrest
    exact ⟨Field.take_text_eq_ok_iff.mp hgroup, Field.take_text_eq_ok_iff.mp hscene⟩
  · rintro ⟨hgroup, hscene⟩
    refine ⟨(group, scene, ()), Fields.ofMembers_eq_ok_iff.mpr ?_, rfl⟩
    refine Fields.assemble_field_eq_ok_iff.mpr ⟨Field.take_text_eq_ok_iff.mpr hgroup, ?_⟩
    exact Fields.assemble_field_eq_ok_iff.mpr ⟨Field.take_text_eq_ok_iff.mpr hscene, rfl⟩

theorem names_pair_iff (x y : Json) :
    (Json.obj [("group_name", x), ("scene_name", y)]).Names group scene ↔
      x = .str group ∧ y = .str scene := by
  have hheld : ∀ key, (Json.obj [("group_name", x), ("scene_name", y)]).get? key =
      [("group_name", x), ("scene_name", y)].lookup key := by
    intro key
    have hkeys : ([("group_name", x), ("scene_name", y)].map Prod.fst).Nodup := lawful.names
    exact Json.lookup_entries_of_nodup hkeys key
  change _ = _ ∧ _ = _ ↔ _
  rw [hheld, hheld]
  simp [Json.lookup_cons]

theorem decode_arr_eq_ok_iff :
    record.decode (.arr items) = .ok ⟨group, scene⟩ ↔ items = [.str group, .str scene] := by
  constructor
  · intro h
    obtain ⟨x, y, rfl⟩ := List.length_eq_two.mp (Record.length_of_decode_arr complete h)
    obtain ⟨rfl, rfl⟩ := (names_pair_iff x y).mp
      (decode_obj_eq_ok_iff.mp ((lawful.decode_arr_iff rfl _).mp h))
    rfl
  · rintro rfl
    have hnames := (names_pair_iff (.str group) (.str scene)).mpr ⟨rfl, rfl⟩
    exact (lawful.decode_arr_iff rfl _).mpr (decode_obj_eq_ok_iff.mpr hnames)

theorem decode_eq_ok_iff : record.decode data = .ok ⟨group, scene⟩ ↔ data.Names group scene := by
  cases data with
  | obj members => exact decode_obj_eq_ok_iff
  | arr items => exact decode_arr_eq_ok_iff
  | null | bool | int | real | str => exact ⟨fun h => (nomatch h), fun h => h.elim⟩

theorem decode_eq_error (h : ¬ data.IsSceneCall) :
    ∃ e, record.decode data = .error e := by
  cases hdecode : record.decode data with
  | error e => exact ⟨e, rfl⟩
  | ok call => exact absurd ⟨call.group, call.scene, decode_eq_ok_iff.mp hdecode⟩ h

end SceneCall

namespace Session

variable {α : Type} {s : Session} {groupName sceneName : String} {data : Json}

/-! ## A recall does not blame the data -/

/-- Whatever went wrong, it is not that the data of a call had the wrong form. -/
def Blameless (r : Except BridgeError α) : Prop := ∀ e, r ≠ .error (.invalidServiceData e)

theorem blameless_ok (a : α) : Blameless (.ok a) := fun _ h => nomatch h

theorem blameless_fault (fault : Fault) :
    Blameless (.error fault.classify : Except BridgeError α) := by
  intro e h
  cases fault <;> exact nomatch h

theorem Blameless.error {β : Type} {e : BridgeError}
    (h : Blameless (.error e : Except BridgeError α)) :
    Blameless (.error e : Except BridgeError β) := by
  intro fault heq
  cases heq
  exact h fault rfl

theorem blameless_client (c : Cell) : Blameless c.client := by
  intro e h
  unfold Cell.client at h
  cases hready : c.ready <;> simp [hready] at h

theorem yields_gated (work : Routine Cell α) : (gated .whole work).Yields Blameless := by
  rw [gated_eq]
  intro before
  unfold entered
  rcases before.gate? with _ | gate
  · exact fun _ h => nomatch h
  intro c
  dsimp only
  by_cases hholds : c.gate?.any (·.holds gate.next) = true
  · rw [if_pos hholds]
    refine yields_guarded _ (yields_bind (yields_any work) fun a _ => ?_)
    exact fun _ => blameless_ok a
  · rw [if_neg hholds]
    exact fun _ h => nomatch h

theorem yields_settle {answer : Except BridgeError (Except Fault α)} (h : Blameless answer) :
    (s.settle answer).Yields Blameless := by
  rcases answer with e | (_ | _ | _ | _) | a
  case error => exact h.error
  case ok.error.unauthorized =>
    exact yields_bind (yields_any s.markUnauthorized) fun _ _ => blameless_fault .unauthorized
  case ok.ok => exact blameless_ok a
  all_goals exact blameless_fault _

theorem yields_callApi (work : Client → Routine Cell (Except Fault α)) :
    (s.callApi work).Yields Blameless := by
  rw [callApi_eq]
  intro c
  have hclient := blameless_client c
  dsimp only
  generalize c.client = held at hclient ⊢
  rcases held with e | client
  · exact hclient.error
  · exact yields_bind (yields_gated (work client)) fun _ h => yields_settle h

theorem yields_lookup (client : Client) :
    (lookup client groupName sceneName).Yields Blameless := by
  refine yields_bind (yields_any _) fun groups _ => ?_
  rcases groups with fault | groups
  · exact blameless_fault fault
  dsimp only
  rcases findGroup groupName groups with _ | group
  · exact blameless_ok _
  refine yields_bind (yields_any _) fun scenes _ => ?_
  rcases scenes with fault | scenes
  · exact blameless_fault fault
  · exact blameless_ok _

theorem yields_refresh : s.refresh.Yields Blameless := by
  refine yields_bind (yields_any _) fun _ _ => ?_
  refine yields_bind (yields_callApi _) fun answer hanswer => ?_
  rcases answer with e | ⟨⟩
  · exact hanswer.error
  · exact yields_callApi _

theorem yields_recallFound (found : Found) :
    (s.recallFound groupName sceneName found).Yields Blameless := by
  rcases found with ⟨_ | group, _ | scene⟩
  · exact yields_bind (yields_any _) fun _ _ => blameless_ok ()
  · exact yields_bind (yields_any _) fun _ _ => blameless_ok ()
  · exact yields_bind (yields_any _) fun _ _ => blameless_ok ()
  · exact yields_callApi _

theorem yields_recallAgain (client : Client) :
    (s.recallAgain client groupName sceneName).Yields Blameless := by
  refine yields_bind yields_refresh fun answer hanswer => ?_
  rcases answer with e | ⟨⟩
  · exact hanswer.error
  refine yields_bind (yields_lookup client) fun second hsecond => ?_
  rcases second with e | found
  · exact hsecond.error
  · exact yields_recallFound found

theorem yields_activateNamedScene (s : Session) (groupName sceneName : String) :
    (s.activateNamedScene groupName sceneName).Yields Blameless := by
  refine yields_bind (yields_any _) fun c _ => ?_
  have hclient := blameless_client c
  generalize c.client = held at hclient ⊢
  rcases held with e | client
  · exact hclient.error
  refine yields_bind (yields_lookup client) fun first hfirst => ?_
  rcases first with e | ⟨_ | group, _ | scene⟩
  · exact hfirst.error
  · exact yields_recallAgain client
  · exact yields_recallAgain client
  · exact yields_recallAgain client
  · exact yields_recallFound _

/-! ## What a call of the service comes to -/

theorem serveScene_of_names (s : Session) (h : data.Names groupName sceneName) :
    serveScene (some s) data = s.activateNamedScene groupName sceneName ∧
      serveScene none data = .done (.ok ()) := by
  unfold serveScene
  rw [SceneCall.decode_eq_ok_iff.mpr h]
  exact ⟨rfl, rfl⟩

/-- Data that names nothing is refused, whether there still is a session or not. -/
theorem serveScene_refused (h : ¬ data.IsSceneCall) :
    ∃ e, ∀ session, serveScene session data = .done (.error (.invalidServiceData e)) := by
  obtain ⟨e, hdecode⟩ := SceneCall.decode_eq_error h
  refine ⟨e, fun session => ?_⟩
  unfold serveScene
  rw [hdecode]
  rfl

theorem blamed_iff {ds : List (Deed Cell)} {r : Except BridgeError Unit}
    (h : Leads (serveScene (some s) data) ds (.done r)) :
    (∃ e, r = .error (.invalidServiceData e)) ↔ ¬ data.IsSceneCall := by
  constructor
  · rintro ⟨e, rfl⟩ ⟨group, scene, hnames⟩
    rw [(serveScene_of_names s hnames).1] at h
    exact (yields_activateNamedScene s group scene).leads h e rfl
  · intro hno
    obtain ⟨e, hserve⟩ := serveScene_refused hno
    rw [hserve] at h
    cases (leads_done h).2
    exact ⟨e, rfl⟩

end Session

/-! ## In a home -/

namespace Scripted

variable {h : Home} {o : Outside Home} {handle : SessionId} {data : Json}

/-- Whoever only looks in on a session leaves it as it was. -/
theorem release_hold (handle : SessionId) (h : Home) : release handle (hold handle h) = h := by
  unfold release hold Home.updateSession
  rw [List.modify_modify_eq]
  exact congrArg (fun sessions => { h with sessions }) (List.modify_id handle.index h.sessions)

theorem run_holding_done {α : Type} (a : α) (t : Nat) :
    (holding handle (.done a)).run o .whole t h = ⟨some a, t, h⟩ := by
  have hback : Place.whole.update (release handle) (Place.whole.update (hold handle) h) = h :=
    release_hold handle h
  simp only [holding, bind_eq, Routine.bind, Routine.modify, guarded, pure_eq, run, hback]

theorem run_callService_of_gone (hservice : h.service = some handle)
    (hgone : h.living? handle = none) (t : Nat) :
    (callService domain sceneService data).run o .whole t h =
      (((Session.serveScene none data).zoom (cellPlace handle)).bind fun r =>
        .done (.unit r)).run o .whole t h := by
  have hread : (Place.whole.get h).service = some handle := hservice
  have hslot : (Place.whole.get h).living? handle = none := hgone
  simp only [callService, bind_eq, Routine.bind, Routine.read, run, hread, hslot, and_self, if_true]
  rfl

theorem run_withSession {name : String} {slot : SessionSlot} (hslot : h.session? name = some slot)
    (work : Session → Routine Cell Answer) (t : Nat) :
    (withSession name work).run o .whole t h =
      (holding slot.session.handle
        ((work slot.session).zoom (cellPlace slot.session.handle))).run o .whole t h := by
  have hread : (Place.whole.get h).session? name = some slot := hslot
  simp only [withSession, bind_eq, Routine.bind, Routine.read, run, hread]
  rfl

end Scripted

open Scripted

/-- The scene service is a recall behind a decoder. Data that names no group and scene is refused
as such, alive or gone, and nothing else happens. Data that does is the same routine as a recall by
these names, of a session that is gone nothing at all; and no recall ever ends as if the data were
wrong. In a home, where the service of one session is registered, a call of it goes as far, takes as
long and leaves the same as if the session had been asked directly. -/
theorem the_scene_service_is_a_recall_behind_a_decoder (s : Session) (data : Json) :
    (¬ data.IsSceneCall → ∃ e,
      (∀ session, Session.serveScene session data = .done (.error (.invalidServiceData e))) ∧
      ∀ (h : Home) (handle : SessionId), h.service = some handle → ∀ (o : Outside Home) (t : Nat),
        (callService domain sceneService data).run o .whole t h =
          ⟨some (.unit (.error (.invalidServiceData e))), t, h⟩) ∧
    (∀ group scene, data.Names group scene →
      Session.serveScene (some s) data = s.activateNamedScene group scene ∧
      Session.serveScene none data = .done (.ok ()) ∧
      ∀ (h : Home) (handle : SessionId), h.service = some handle → ∀ (o : Outside Home) (t : Nat),
        (h.living? handle = none → (callService domain sceneService data).run o .whole t h =
          ⟨some (.unit (.ok ())), t, h⟩) ∧
        ∀ name slot, h.session? name = some slot → slot.session.handle = handle →
          h.living? handle = some slot → (callService domain sceneService data).run o .whole t h =
            ((SessionMove.activate group scene).work name).run o .whole t h) ∧
    ∀ ds r, Leads (Session.serveScene (some s) data) ds (.done r) →
      ((∃ e, r = .error (.invalidServiceData e)) ↔ ¬ data.IsSceneCall) := by
  refine ⟨?_, ?_, fun ds r h => Session.blamed_iff h⟩
  · intro hno
    obtain ⟨e, hserve⟩ := Session.serveScene_refused hno
    refine ⟨e, hserve, ?_⟩
    intro h handle hservice o t
    cases hliving : h.living? handle with
    | some slot =>
      rw [run_callService_of_some hservice hliving, hserve]
      exact run_holding_done _ t
    | none =>
      rw [run_callService_of_gone hservice hliving, hserve]
      rfl
  · intro group scene hnames
    refine ⟨(Session.serveScene_of_names s hnames).1, (Session.serveScene_of_names s hnames).2, ?_⟩
    intro h handle hservice o t
    constructor
    · intro hgone
      rw [run_callService_of_gone hservice hgone, (Session.serveScene_of_names s hnames).2]
      rfl
    · rintro name slot hslot rfl hliving
      unfold SessionMove.work
      rw [run_callService_of_some hservice hliving, run_withSession hslot,
        (Session.serveScene_of_names slot.session hnames).1]
      simp only [bind_eq, zoom_bind]
      rfl

/-- A home with one session, whose scene service is registered. -/
def guestHome (name : Option String) : Home :=
  { Home.empty with sessions := [⟨guestSession, Session.guestCell, name, 0⟩], service := some ⟨0⟩ }

/-- Data that does not say which scene. -/
def sceneless : Json := .obj [("group_name", .str "Kitchen")]

/-- The service is called for the kitchen, once while the session is there and once when it is gone,
and with data that does not say which scene. -/
theorem the_scene_service_is_a_recall_behind_a_decoder_in_the_kitchen :
    (∃ e, Session.serveScene (some guestSession) sceneless =
        .done (.error (.invalidServiceData e)) ∧
      (callService domain sceneService sceneless).run Home.outside .whole 0
          (guestHome (some "hue")) =
        ⟨some (.unit (.error (.invalidServiceData e))), 0, guestHome (some "hue")⟩) ∧
    ((callService domain sceneService kitchenCall).run Home.outside .whole 0
        (guestHome (some "hue")) =
      ((SessionMove.activate "Kitchen" "Relax").work "hue").run Home.outside .whole 0
        (guestHome (some "hue")) ∧
      (callService domain sceneService kitchenCall).run Home.outside .whole 0 (guestHome none) =
        ⟨some (.unit (.ok ())), 0, guestHome none⟩) ∧
    Leads (Session.serveScene (some guestSession) kitchenCall)
        (Session.kitchenDeeds [Session.kitchen] Session.relaxScenes) (.done (.ok ())) ∧
      ¬ ∃ e, (.ok () : Except BridgeError Unit) = .error (.invalidServiceData e) := by
  have hsceneless : ¬ sceneless.IsSceneCall := by
    rintro ⟨group, scene, -, hscene⟩
    have hnone : sceneless.get? "scene_name" = none := rfl
    exact absurd (hnone.symm.trans hscene) (Option.some_ne_none _).symm
  have hkitchen : kitchenCall.Names "Kitchen" "Relax" :=
    SceneCall.decode_eq_ok_iff.mp decode_kitchenCall
  obtain ⟨e, hrefused, hhome⟩ :=
    (the_scene_service_is_a_recall_behind_a_decoder guestSession sceneless).1 hsceneless
  obtain ⟨-, hnamed, hblamed⟩ :=
    the_scene_service_is_a_recall_behind_a_decoder guestSession kitchenCall
  obtain ⟨hserve, -, hcalled⟩ := hnamed "Kitchen" "Relax" hkitchen
  have hleads : Leads (Session.serveScene (some guestSession) kitchenCall)
      (Session.kitchenDeeds [Session.kitchen] Session.relaxScenes) (.done (.ok ())) := by
    rw [hserve]
    exact (Session.goes_kitchen _ _ rfl rfl).leads
  refine ⟨⟨e, hrefused _, hhome _ ⟨0⟩ rfl _ 0⟩, ⟨?_, ?_⟩, hleads, fun hblame => ?_⟩
  · exact (hcalled (guestHome (some "hue")) ⟨0⟩ rfl Home.outside 0).2 "hue" _ rfl rfl rfl
  · exact (hcalled (guestHome none) ⟨0⟩ rfl Home.outside 0).1 rfl
  · exact (hblamed _ _ hleads).mp hblame ⟨"Kitchen", "Relax", hkitchen⟩

end HueLink
