-- In which order and how often groups and scenes list their lights does not matter. Two recalls of
-- the same names that are told of the same lights in different ways go in step: they make the same
-- calls, write the same lines to the log, and end the same.
import HueLink.Proofs.Routine.Lockstep
import HueLink.Proofs.Session.Rejection
import HueLink.Proofs.Session.SceneChoice

namespace HueLink

open Routine

/-! ## Lists that differ in how they list lights -/

/-- The same group, whose lights may be listed in another order and more or less often. -/
structure Group.AlikeButLights (group group' : Group) : Prop where
  id : group.id = group'.id
  name : group.name = group'.name
  lights : ∀ light, light ∈ group.lights ↔ light ∈ group'.lights

/-- The same scene, whose lights may be listed in another order and more or less often. -/
structure Scene.AlikeButLights (scene scene' : Scene) : Prop where
  id : scene.id = scene'.id
  name : scene.name = scene'.name
  lights : ∀ light, light ∈ scene.lights ↔ light ∈ scene'.lights

/-- Two answers with a list: the same fault, or lists that are related element by element. -/
inductive ListsAlike {α : Type} (R : α → α → Prop) :
    Except Fault (List α) → Except Fault (List α) → Prop where
  | error (fault : Fault) : ListsAlike R (.error fault) (.error fault)
  | ok {xs xs' : List α} : List.Forall₂ R xs xs' → ListsAlike R (.ok xs) (.ok xs')

/-- Answers that differ at most in how groups and scenes list their lights. -/
def Call.AlikeButLights : (c : Call) → c.Answer → c.Answer → Prop
  | .groups _, x, x' => ListsAlike Group.AlikeButLights x x'
  | .scenes _, x, x' => ListsAlike Scene.AlikeButLights x x'
  | .createUser _ _, x, x' | .updateGroups _, x, x' | .updateScenes _, x, x'
  | .setGroupScene _ _ _, x, x' => x = x'
  | .validate _, x, x' => x = x'
  | .discover, x, x' => x = x'
  | .unloaded _ _, x, x' => x = x'
  | .sleep _, x, x' => x = x'

/-- What a search finds in lists that are related, when it asks related elements the same. -/
theorem find_rel {α : Type} {R : α → α → Prop} {p p' : α → Bool} {xs xs' : List α}
    (h : List.Forall₂ R xs xs') (hp : ∀ x x', R x x' → p x = p' x') :
    Option.Rel R (xs.find? p) (xs'.find? p') := by
  induction h with
  | nil => exact .none
  | @cons x x' xs xs' hx _ ih =>
    rw [List.find?_cons, List.find?_cons, hp x x' hx]
    cases p' x' with
    | true => exact .some hx
    | false => exact ih

/-- Which scenes belong to a group does not depend on how either lists its lights. -/
theorem matchesGroup_eq_of_alike {group group' : Group} {scene scene' : Scene}
    (hgroup : group.AlikeButLights group') (hscene : scene.AlikeButLights scene') :
    scene.matchesGroup group = scene'.matchesGroup group' := by
  rw [Bool.eq_iff_iff, Session.matchesGroup_iff, Session.matchesGroup_iff]
  refine forall_congr' fun light => ?_
  rw [hscene.lights light, hgroup.lights light]

namespace Session

variable {α : Type} {s : Session} {groupName sceneName : String} {alike : Likeness}

/-! ## Calls through the gate -/

theorem lockstep_markUnauthorized : Lockstep alike Eq s.markUnauthorized s.markUnauthorized := by
  refine .own _ fun before => ?_
  cases before.authorized with
  | false => exact .done rfl
  | true =>
    refine .bind (lockstep_note _) fun _ _ _ => ?_
    refine .lock (.own _ fun _ => ?_)
    exact .ask _ fun _ _ => .done rfl

theorem lockstep_gated {work work' : Routine Cell α} (h : Lockstep alike Eq work work') :
    Lockstep alike Eq (gated .whole work) (gated .whole work') := by
  rw [gated_eq, gated_eq]
  refine .own _ fun before => ?_
  unfold entered
  rcases before.gate? with _ | gate
  · exact .done rfl
  refine .await _ _ fun c => ?_
  by_cases hholds : c.gate?.any (·.holds gate.next) = true
  · rw [if_pos hholds, if_pos hholds]
    refine .guarded (h.bind ?_) _
    rintro a _ rfl
    exact .own _ fun _ => .done rfl
  · rw [if_neg hholds, if_neg hholds]
    exact .done rfl

theorem lockstep_settle (answer : Except BridgeError (Except Fault α)) :
    Lockstep alike Eq (s.settle answer) (s.settle answer) := by
  rcases answer with e | (_ | _ | _ | _) | a
  case ok.error.unauthorized => exact lockstep_markUnauthorized.bind fun _ _ _ => .done rfl
  all_goals exact .done rfl

theorem lockstep_callApi {work work' : Client → Routine Cell (Except Fault α)}
    (h : ∀ client, Lockstep alike Eq (work client) (work' client)) :
    Lockstep alike Eq (s.callApi work) (s.callApi work') := by
  rw [callApi_eq, callApi_eq]
  refine .own _ fun c => ?_
  rcases c.client with e | client
  · exact .done rfl
  · refine (lockstep_gated (h client)).bind ?_
    rintro answer _ rfl
    exact lockstep_settle answer

/-! ## The stages of a recall -/

/-- A group and a scene, each the same but for how its lights are listed. -/
structure Found.AlikeButLights (found found' : Found) : Prop where
  group : Option.Rel Group.AlikeButLights found.group found'.group
  scene : Option.Rel Scene.AlikeButLights found.scene found'.scene

/-- Two lookups that fail the same, or find the same but for how lights are listed. -/
inductive LookupsAlike : Except BridgeError Found → Except BridgeError Found → Prop where
  | error (e : BridgeError) : LookupsAlike (.error e) (.error e)
  | ok {found found' : Found} : found.AlikeButLights found' → LookupsAlike (.ok found) (.ok found')

theorem rel_findGroup (name : String) {groups groups' : List Group}
    (h : List.Forall₂ Group.AlikeButLights groups groups') :
    Option.Rel Group.AlikeButLights (findGroup name groups) (findGroup name groups') := by
  refine find_rel h fun group group' hgroup => ?_
  rw [hgroup.name]

theorem rel_findScene (name : String) {group group' : Group} {scenes scenes' : List Scene}
    (hgroup : group.AlikeButLights group') (h : List.Forall₂ Scene.AlikeButLights scenes scenes') :
    Option.Rel Scene.AlikeButLights (findScene name group scenes)
      (findScene name group' scenes') := by
  refine find_rel h fun scene scene' hscene => ?_
  rw [hscene.name, matchesGroup_eq_of_alike hgroup hscene]

theorem lockstep_lookup (client : Client) :
    Lockstep Call.AlikeButLights LookupsAlike (lookup client groupName sceneName)
      (lookup client groupName sceneName) := by
  refine (lockstep_request (.groups client)).bind ?_
  rintro _ _ (fault | @⟨groups, groups', hgroups⟩)
  · exact .done (.error _)
  have hfound := rel_findGroup groupName hgroups
  dsimp only
  generalize findGroup groupName groups = found at hfound ⊢
  generalize findGroup groupName groups' = found' at hfound ⊢
  cases hfound with
  | none => exact .done (.ok ⟨.none, .none⟩)
  | some hgroup =>
    refine (lockstep_request (.scenes client)).bind ?_
    rintro _ _ (fault | hscenes)
    · exact .done (.error _)
    · exact .done (.ok ⟨.some hgroup, rel_findScene sceneName hgroup hscenes⟩)

theorem lockstep_refresh : Lockstep Call.AlikeButLights Eq s.refresh s.refresh := by
  refine (lockstep_note _).bind fun _ _ _ => ?_
  refine (lockstep_callApi fun client => lockstep_request (.updateGroups client)).bind ?_
  rintro (e | ⟨⟩) _ rfl
  · exact .done rfl
  · exact lockstep_callApi fun client => lockstep_request (.updateScenes client)

/-- The ids that are passed on do not depend on how lights are listed. -/
theorem lockstep_recallFound {found found' : Found} (h : found.AlikeButLights found') :
    Lockstep Call.AlikeButLights Eq (s.recallFound groupName sceneName found)
      (s.recallFound groupName sceneName found') := by
  obtain ⟨group, scene⟩ := found
  obtain ⟨group', scene'⟩ := found'
  obtain ⟨hgroup, hscene⟩ := h
  cases hgroup with
  | none => exact (lockstep_note _).bind fun _ _ _ => .done rfl
  | some hgroup =>
    cases hscene with
    | none => exact (lockstep_note _).bind fun _ _ _ => .done rfl
    | some hscene =>
      refine lockstep_callApi fun client => ?_
      rw [hgroup.id, hscene.id]
      exact lockstep_request (.setGroupScene client _ _)

theorem lockstep_recallAgain (client : Client) : Lockstep Call.AlikeButLights Eq
    (s.recallAgain client groupName sceneName) (s.recallAgain client groupName sceneName) := by
  refine lockstep_refresh.bind ?_
  rintro (e | ⟨⟩) _ rfl
  · exact .done rfl
  refine (lockstep_lookup client).bind ?_
  rintro _ _ (e | hfound)
  · exact .done rfl
  · exact lockstep_recallFound hfound

theorem lockstep_activateNamedScene (s : Session) (groupName sceneName : String) :
    Lockstep Call.AlikeButLights Eq (s.activateNamedScene groupName sceneName)
      (s.activateNamedScene groupName sceneName) := by
  refine lockstep_read.bind ?_
  rintro c _ rfl
  rcases c.client with e | client
  · exact .done rfl
  refine (lockstep_lookup client).bind ?_
  rintro _ _ (e | @⟨⟨group, scene⟩, ⟨group', scene'⟩, hfound⟩)
  · exact .done rfl
  cases hfound.group with
  | none => exact lockstep_recallAgain client
  | some hgroup =>
    cases hfound.scene with
    | none => exact lockstep_recallAgain client
    | some hscene => exact lockstep_recallFound hfound

/-! ## Two recalls of the same names -/

/-- Two runs that differ in nothing but how the client listed lights: what was called, with all that
was passed, what was asked and written to the log, and the result. -/
structure SameButLights {α : Type} (p p' : Routine Cell α) (ds ds' : List (Deed Cell)) : Prop where
  deeds : List.Forall₂ (Deed.Alike Call.AlikeButLights) ds ds'
  calls : ds.filterMap Deed.call? = ds'.filterMap Deed.call?
  queries : ds.filterMap Deed.query? = ds'.filterMap Deed.query?
  result : ∀ r, p = .done r ↔ p' = .done r

theorem sameButLights_of_lockstep {p p' : Routine Cell α} {ds ds' : List (Deed Cell)}
    (hdeeds : List.Forall₂ (Deed.Alike Call.AlikeButLights) ds ds')
    (h : Lockstep Call.AlikeButLights Eq p p') : SameButLights p p' ds ds' := by
  have hcalls := filterMap_eq_of_alike (fun _ _ => Deed.Alike.call_eq) hdeeds
  have hqueries := filterMap_eq_of_alike (fun _ _ => Deed.Alike.query_eq) hdeeds
  refine ⟨hdeeds, hcalls, hqueries, fun r => ?_⟩
  constructor
  · rintro rfl
    obtain ⟨r', rfl⟩ := h.done_iff.mp ⟨r, rfl⟩
    rw [h.of_done]
  · rintro rfl
    obtain ⟨r', rfl⟩ := h.done_iff.mpr ⟨r, rfl⟩
    rw [h.of_done]

/-- The order in which lights are listed does not matter, and neither does how often. Two recalls of
the same names on one state of a session that are answered the same but for that make the same
calls, write the same to the log, end the same and leave the same. Among other tasks it is so as
long as both see the session in the same states. And a scene belongs to a group if each light of
either is one of the other. -/
theorem light_order_and_repetition_never_matter (s : Session) (groupName sceneName : String) :
    (∀ l ds p m ds' p' m', Goes (s.activateNamedScene groupName sceneName) l ds p m →
      Goes (s.activateNamedScene groupName sceneName) l ds' p' m' → EquallyFar p p' ds ds' →
      (∀ d ∈ ds.zip ds', d.1.AnsweredAlike Call.AlikeButLights d.2) →
      SameButLights p p' ds ds' ∧ m = m') ∧
    (∀ ds p ds' p', Leads (s.activateNamedScene groupName sceneName) ds p →
      Leads (s.activateNamedScene groupName sceneName) ds' p' → EquallyFar p p' ds ds' →
      (∀ d ∈ ds.zip ds', d.1.AnsweredAlike Call.AlikeButLights d.2) →
      (∀ d ∈ ds.zip ds', d.1.SawSame d.2) → SameButLights p p' ds ds') ∧
    ∀ (scene : Scene) (group : Group), scene.matchesGroup group = true ↔
      (∀ light ∈ scene.lights, light ∈ group.lights) ∧
        ∀ light ∈ group.lights, light ∈ scene.lights := by
  have hstep := lockstep_activateNamedScene s groupName sceneName
  refine ⟨?_, ?_, ?_⟩
  · intro l ds p m ds' p' m' h h' hfar hanswered
    have hsaw := hstep.saw_same h h' hanswered
    obtain ⟨hdeeds, hleft⟩ := hstep.leads h.leads h'.leads hfar hanswered hsaw
    exact ⟨sameButLights_of_lockstep hdeeds hleft, h.ledger_eq h' hdeeds⟩
  · intro ds p ds' p' h h' hfar hanswered hsaw
    obtain ⟨hdeeds, hleft⟩ := hstep.leads h h' hfar hanswered hsaw
    exact sameButLights_of_lockstep hdeeds hleft
  · intro scene group
    rw [matchesGroup_iff]
    exact ⟨fun h => ⟨fun l => (h l).mp, fun l => (h l).mpr⟩, fun h l => ⟨h.1 l, h.2 l⟩⟩

/-! ## The kitchen, told of in two ways -/

/-- A session that is not in use, while a call of it is under way. -/
def guestCalling : Cell := guestCell.mapGate Semaphore.arrive

/-- What it does when it recalls the scene of the kitchen. -/
def kitchenDeeds (groups : List Group) (scenes : List Scene) : List (Deed Cell) :=
  [.event (.moved guestCell guestCell), .event (.called (.groups ⟨0⟩) (.ok groups)),
    .event (.called (.scenes ⟨0⟩) (.ok scenes)), .event (.moved guestCell guestCell),
    .event (.moved guestCell guestCalling), .event (.passed guestCalling),
    .event (.called (.setGroupScene ⟨0⟩ "1" "k") (.ok ())),
    .event (.moved guestCalling guestServedOnce)]

/-- What is left then. -/
def kitchenLedger : Ledger Cell :=
  ((((Ledger.opened guestCell).write id).write id).write (Cell.mapGate Semaphore.arrive)).write
    (giveUp 0)

theorem goes_kitchen (groups : List Group) (scenes : List Scene) {lights lights' : List String}
    (hgroup : findGroup "Kitchen" groups = some ⟨"1", "Kitchen", lights⟩)
    (hscene : findScene "Relax" ⟨"1", "Kitchen", lights⟩ scenes = some ⟨"k", "Relax", lights'⟩) :
    Goes (guestSession.activateNamedScene "Kitchen" "Relax") (.opened guestCell)
      (kitchenDeeds groups scenes) (.done (.ok ())) kitchenLedger := by
  refine .head (.own id _ guestCell) ⟨rfl, rfl⟩ ?_
  refine .head (.call id (.groups ⟨0⟩) _ (.ok groups)) rfl ?_
  simp only [Routine.bind, hgroup]
  refine .head (.call id (.scenes ⟨0⟩) _ (.ok scenes)) rfl ?_
  simp only [Routine.bind, pure_eq, hscene, recallFound]
  rw [callApi_eq]
  refine .head (.own id _ guestCell) ⟨rfl, rfl⟩ ?_
  change Goes ((gated .whole _).bind _) _ _ _ _
  rw [gated_eq]
  refine .head (.own _ _ guestCell) ⟨rfl, rfl⟩ ?_
  refine .head (.await _ _ rfl) ⟨rfl, rfl⟩ ?_
  refine .head (.call _ (.setGroupScene ⟨0⟩ "1" "k") _ (.ok ())) rfl ?_
  refine .head (.own _ _ guestCalling) ⟨rfl, rfl⟩ ?_
  exact .refl _ _

/-- The kitchen, with its lights listed in another order and one of them twice. -/
def kitchenAgain : Group := ⟨"1", "Kitchen", ["2", "1", "2"]⟩

/-- The scenes of before, two of them with their lights listed differently. -/
def relaxScenesAgain : List Scene :=
  [⟨"a", "Relax", ["3", "3"]⟩, ⟨"k", "Relax", ["1", "2", "1"]⟩, ⟨"b", "Relax", []⟩]

theorem kitchen_alike : List.Forall₂ Group.AlikeButLights [kitchen] [kitchenAgain] := by
  refine .cons ⟨rfl, rfl, ?_⟩ .nil
  simp [kitchen, kitchenAgain, or_comm]

theorem relaxScenes_alike : List.Forall₂ Scene.AlikeButLights relaxScenes relaxScenesAgain := by
  refine .cons ⟨rfl, rfl, ?_⟩ (.cons ⟨rfl, rfl, ?_⟩ (.cons ⟨rfl, rfl, ?_⟩ .nil))
  · simp
  · simp [or_comm]
  · simp

theorem answeredAlike_kitchenDeeds {groups groups' : List Group} {scenes scenes' : List Scene}
    (hgroups : List.Forall₂ Group.AlikeButLights groups groups')
    (hscenes : List.Forall₂ Scene.AlikeButLights scenes scenes') :
    ∀ d ∈ (kitchenDeeds groups scenes).zip (kitchenDeeds groups' scenes'),
      d.1.AnsweredAlike Call.AlikeButLights d.2 := by
  intro d hd c x x' hx hx'
  simp only [kitchenDeeds, List.zip_cons_cons, List.zip_nil_left, List.mem_cons,
    List.not_mem_nil, or_false] at hd
  rcases hd with rfl | rfl | rfl | rfl | rfl | rfl | rfl | rfl
  all_goals cases hx
  · cases hx'
    exact .ok hgroups
  · cases hx'
    exact .ok hscenes
  · cases hx'
    exact rfl

/-- What a recall has done that was told of these groups while another call was under way. -/
def groupsRead (groups : List Group) : List (Deed Cell) :=
  [.event (.moved guestCalling guestCalling), .event (.called (.groups ⟨0⟩) (.ok groups))]

theorem leads_groupsRead (groups : List Group) : ∃ p,
    Leads (guestSession.activateNamedScene "Kitchen" "Relax") (groupsRead groups) p := by
  exact ⟨_, .head (.own id _ guestCalling) <|
    .head (.call id (.groups ⟨0⟩) _ (.ok groups)) (.refl _)⟩

/-- The scene of the kitchen is recalled whichever way the lights are listed, and also while another
call is under way it is looked for in both. -/
theorem light_order_and_repetition_never_matter_in_the_kitchen :
    (Goes (guestSession.activateNamedScene "Kitchen" "Relax") (.opened guestCell)
        (kitchenDeeds [kitchen] relaxScenes) (.done (.ok ())) kitchenLedger ∧
      Goes (guestSession.activateNamedScene "Kitchen" "Relax") (.opened guestCell)
        (kitchenDeeds [kitchenAgain] relaxScenesAgain) (.done (.ok ())) kitchenLedger ∧
      SameButLights (.done (.ok ()) : Routine Cell (Except BridgeError Unit)) (.done (.ok ()))
        (kitchenDeeds [kitchen] relaxScenes) (kitchenDeeds [kitchenAgain] relaxScenesAgain)) ∧
    (∃ p p', Leads (guestSession.activateNamedScene "Kitchen" "Relax") (groupsRead [kitchen]) p ∧
      Leads (guestSession.activateNamedScene "Kitchen" "Relax") (groupsRead [kitchenAgain]) p' ∧
      SameButLights p p' (groupsRead [kitchen]) (groupsRead [kitchenAgain])) ∧
    (⟨"k", "Relax", ["1", "2", "1"]⟩ : Scene).matchesGroup kitchenAgain = true := by
  obtain ⟨halone, hamong, hmatches⟩ :=
    light_order_and_repetition_never_matter guestSession "Kitchen" "Relax"
  refine ⟨?_, ?_, (hmatches _ _).mpr ⟨by decide, by decide⟩⟩
  · have hgoes := goes_kitchen [kitchen] relaxScenes rfl rfl
    have hgoes' := goes_kitchen [kitchenAgain] relaxScenesAgain rfl rfl
    obtain ⟨hsame, -⟩ := halone _ _ _ _ _ _ _ hgoes hgoes' (Or.inr rfl)
      (answeredAlike_kitchenDeeds kitchen_alike relaxScenes_alike)
    exact ⟨hgoes, hgoes', hsame⟩
  · obtain ⟨p, hp⟩ := leads_groupsRead [kitchen]
    obtain ⟨p', hp'⟩ := leads_groupsRead [kitchenAgain]
    refine ⟨p, p', hp, hp', hamong _ _ _ _ hp hp' (Or.inr rfl) ?_ ?_⟩
    · intro d hd c x x' hx hx'
      rcases List.mem_pair.mp hd with rfl | rfl
      · cases hx
      · cases hx
        cases hx'
        exact .ok kitchen_alike
    · intro d hd seen seen' hseen hseen'
      rcases List.mem_pair.mp hd with rfl | rfl
      · exact Option.some.inj (hseen.symm.trans hseen')
      · cases hseen

end Session

end HueLink
