-- What the recall of a scene comes to, call by call. The specification goes by the answers that the
-- client gives: which group and scene they hold, and which call is the first to fail.
import HueLink.Proofs.Session.Passage

namespace HueLink.Session

open Routine

/-! ## What is looked for -/

/-- The first element of a list with a property. -/
def IsFirst {α : Type} (P : α → Prop) (xs : List α) (x : α) : Prop :=
  ∃ before after, xs = before ++ x :: after ∧ P x ∧ ∀ y ∈ before, ¬ P y

/-- The scene has this name, and its lights are those of the group, as sets. -/
def Suits (name : String) (group : Group) (scene : Scene) : Prop :=
  scene.name = name ∧ ∀ light, light ∈ scene.lights ↔ light ∈ group.lights

variable {client : Client} {groupName sceneName : String}

theorem find_eq_some_iff {α : Type} {p : α → Bool} {P : α → Prop} (hP : ∀ x, p x = true ↔ P x)
    {xs : List α} {x : α} : xs.find? p = some x ↔ IsFirst P xs x := by
  rw [List.find?_eq_some_iff_append]
  constructor
  · rintro ⟨hx, before, after, rfl, hbefore⟩
    refine ⟨before, after, rfl, (hP x).mp hx, ?_⟩
    intro y hy hPy
    have hno := hbefore y hy
    rw [(hP y).mpr hPy] at hno
    exact nomatch hno
  · rintro ⟨before, after, rfl, hx, hbefore⟩
    refine ⟨(hP x).mpr hx, before, after, rfl, ?_⟩
    intro y hy
    rw [Bool.not_eq_true', Bool.eq_false_iff]
    intro hy'
    exact hbefore y hy ((hP y).mp hy')

theorem find_eq_none_iff {α : Type} {p : α → Bool} {P : α → Prop} (hP : ∀ x, p x = true ↔ P x)
    {xs : List α} : xs.find? p = none ↔ ∀ x ∈ xs, ¬ P x := by
  rw [List.find?_eq_none]
  simp only [hP]

theorem matchesGroup_iff (scene : Scene) (group : Group) :
    scene.matchesGroup group = true ↔ ∀ light, light ∈ scene.lights ↔ light ∈ group.lights := by
  unfold Scene.matchesGroup
  simp only [Bool.and_eq_true, List.all_eq_true, List.contains_iff_mem]
  exact ⟨fun h light => ⟨h.1 light, h.2 light⟩, fun h => ⟨fun l => (h l).mp, fun l => (h l).mpr⟩⟩

theorem suits_iff (group : Group) (scene : Scene) :
    (scene.name == sceneName && scene.matchesGroup group) = true ↔ Suits sceneName group scene := by
  rw [Bool.and_eq_true, beq_iff_eq, matchesGroup_iff]
  rfl

/-! ## The specification -/

/-- One lookup: the calls that are made, and what comes of them. -/
inductive Lookup (client : Client) (groupName sceneName : String) :
    List (Event Cell) → Except Fault Found → Prop where
  | groupsFail (fault : Fault) : Lookup client groupName sceneName
      [.called (.groups client) (.error fault)] (.error fault)
  | noGroup {groups : List Group} : (∀ group ∈ groups, group.name ≠ groupName) →
      Lookup client groupName sceneName [.called (.groups client) (.ok groups)] (.ok ⟨none, none⟩)
  | scenesFail {groups : List Group} {group : Group} (fault : Fault) :
    IsFirst (·.name = groupName) groups group → Lookup client groupName sceneName
      [.called (.groups client) (.ok groups), .called (.scenes client) (.error fault)]
      (.error fault)
  | noScene {groups : List Group} {group : Group} {scenes : List Scene} :
    IsFirst (·.name = groupName) groups group → (∀ scene ∈ scenes, ¬ Suits sceneName group scene) →
      Lookup client groupName sceneName
        [.called (.groups client) (.ok groups), .called (.scenes client) (.ok scenes)]
        (.ok ⟨some group, none⟩)
  | both {groups : List Group} {group : Group} {scenes : List Scene} {scene : Scene} :
    IsFirst (·.name = groupName) groups group → IsFirst (Suits sceneName group) scenes scene →
      Lookup client groupName sceneName
        [.called (.groups client) (.ok groups), .called (.scenes client) (.ok scenes)]
        (.ok ⟨some group, some scene⟩)

/-- One refresh. The scenes are loaded only if the groups were. -/
inductive Refresh (client : Client) : List (Event Cell) → Except Fault Unit → Prop where
  | groupsFail (fault : Fault) :
    Refresh client [.called (.updateGroups client) (.error fault)] (.error fault)
  | scenes (a : Except Fault Unit) :
    Refresh client [.called (.updateGroups client) (.ok ()), .called (.updateScenes client) a] a

/-- What is done with the last thing looked up: the calls, the warnings, and the outcome. -/
inductive Settling (client : Client) (groupName sceneName : String) :
    Except Fault Found → List (Event Cell) → List Notice → Except Fault Unit → Prop where
  | failed (fault : Fault) :
    Settling client groupName sceneName (.error fault) [] [] (.error fault)
  | noGroup (scene : Option Scene) : Settling client groupName sceneName (.ok ⟨none, scene⟩) []
      [.groupMissing groupName] (.ok ())
  | noScene (group : Group) : Settling client groupName sceneName (.ok ⟨some group, none⟩) []
      [.sceneMissing sceneName] (.ok ())
  | recalled (group : Group) (scene : Scene) (a : Except Fault Unit) :
    Settling client groupName sceneName (.ok ⟨some group, some scene⟩)
      [.called (.setGroupScene client group.id scene.id) a] [] a

/-- The lookup found a group but no scene for it, or nothing. -/
def Found.isPartial (found : Found) : Prop := found.group = none ∨ found.scene = none

/-- A whole recall: the calls, the warnings, and the outcome. -/
inductive Recalls (client : Client) (groupName sceneName : String) :
    List (Event Cell) → List Notice → Except Fault Unit → Prop where
  | atOnce {es es' : List (Event Cell)} {first : Except Fault Found} {lines : List Notice}
    {a : Except Fault Unit} : Lookup client groupName sceneName es first →
      (∀ found, first = .ok found → ¬ found.isPartial) →
      Settling client groupName sceneName first es' lines a →
      Recalls client groupName sceneName (es ++ es') lines a
  | unrefreshed {es es' : List (Event Cell)} {found : Found} {fault : Fault} :
    Lookup client groupName sceneName es (.ok found) → found.isPartial →
      Refresh client es' (.error fault) →
      Recalls client groupName sceneName (es ++ es') [] (.error fault)
  | refreshed {es₁ es₂ es₃ es₄ : List (Event Cell)} {found : Found} {last : Except Fault Found}
    {lines : List Notice} {a : Except Fault Unit} :
    Lookup client groupName sceneName es₁ (.ok found) → found.isPartial →
      Refresh client es₂ (.ok ()) → Lookup client groupName sceneName es₃ last →
      Settling client groupName sceneName last es₄ lines a →
      Recalls client groupName sceneName (es₁ ++ es₂ ++ es₃ ++ es₄) lines a

/-! ## Every passage goes by it -/

variable {s : Session} {c c' : Cell} {es made : List (Event Cell)} {r : Except BridgeError Unit}

theorem passage_lookup {meanwhile : Cell → Cell → Prop} {r : Except BridgeError Found}
    (h : Passage meanwhile (lookup client groupName sceneName) c es r c') :
    ∃ outcome, Lookup client groupName sceneName es outcome ∧
      r = outcome.mapError Fault.classify := by
  obtain ⟨groups, es₁, rfl, h₁⟩ := passage_request_bind.mp h
  rcases groups with fault | groups
  · obtain ⟨rfl, rfl, _⟩ := passage_pure.mp h₁
    exact ⟨_, .groupsFail fault, rfl⟩
  · have hfirst : ∀ group : Group, (group.name == groupName) = true ↔ group.name = groupName :=
      fun _ => beq_iff_eq
    cases hgroup : findGroup groupName groups with
    | none =>
      simp only [hgroup] at h₁
      obtain ⟨rfl, rfl, _⟩ := passage_pure.mp h₁
      exact ⟨_, .noGroup ((find_eq_none_iff hfirst).mp hgroup), rfl⟩
    | some group =>
      simp only [hgroup] at h₁
      have hgroup := (find_eq_some_iff hfirst).mp hgroup
      obtain ⟨scenes, es₂, rfl, h₂⟩ := passage_request_bind.mp h₁
      rcases scenes with fault | scenes
      · obtain ⟨rfl, rfl, _⟩ := passage_pure.mp h₂
        exact ⟨_, .scenesFail fault hgroup, rfl⟩
      · obtain ⟨rfl, rfl, _⟩ := passage_pure.mp h₂
        cases hscene : findScene sceneName group scenes with
        | none =>
          have hscene := (find_eq_none_iff (suits_iff group)).mp hscene
          exact ⟨_, .noScene hgroup hscene, rfl⟩
        | some scene =>
          have hscene := (find_eq_some_iff (suits_iff group)).mp hscene
          exact ⟨_, .both hgroup hscene, rfl⟩

/-- A lookup only reads what the client last loaded, so it needs no slot. -/
theorem Lookup.shows {outcome : Except Fault Found}
    (h : Lookup client groupName sceneName es outcome) : Shows es es [] := by
  cases h with
  | groupsFail | noGroup => exact ⟨rfl, rfl, .other rfl .nil⟩
  | scenesFail | noScene | both => exact ⟨rfl, rfl, .other rfl (.other rfl .nil)⟩

theorem passage_refresh (h : Passage (Steadily client) s.refresh c es r c') :
    ∃ outcome made, Refresh client made outcome ∧ Shows es made [] ∧
      r = outcome.mapError Fault.classify := by
  obtain ⟨_, es₁, rfl, h₁⟩ := passage_query_bind.mp h
  obtain ⟨es₂, answer, _, es₃, hgroups, h₂, rfl⟩ := passage_bind.mp h₁
  obtain ⟨a, hshows, rfl⟩ := passage_callApi (.updateGroups client) id
    (fun hwork => (passage_request.mp hwork).1) hgroups
  have hnote : Shows [.asked (.note (.refreshing s.host)) ()] [] [] := ⟨rfl, rfl, .other rfl .nil⟩
  rcases a with fault | ⟨⟩
  · obtain ⟨rfl, rfl, _⟩ := passage_pure.mp h₂
    rw [List.append_nil]
    exact ⟨_, _, .groupsFail fault, hnote.append hshows, rfl⟩
  · obtain ⟨a, hshows', rfl⟩ := passage_callApi (.updateScenes client) id
      (fun hwork => (passage_request.mp hwork).1) h₂
    exact ⟨_, _, .scenes a, hnote.append (hshows.append hshows'), rfl⟩

theorem passage_recallFound {found : Found}
    (h : Passage (Steadily client) (s.recallFound groupName sceneName found) c es r c') :
    ∃ a made lines, Settling client groupName sceneName (.ok found) made lines a ∧
      Shows es made lines ∧ r = a.mapError Fault.classify := by
  rcases found with ⟨_ | group, scene⟩
  · obtain ⟨_, es₁, rfl, h₁⟩ := passage_query_bind.mp h
    obtain ⟨rfl, rfl, _⟩ := passage_pure.mp h₁
    exact ⟨_, _, _, .noGroup scene, ⟨rfl, rfl, .other rfl .nil⟩, rfl⟩
  · rcases scene with _ | scene
    · obtain ⟨_, es₁, rfl, h₁⟩ := passage_query_bind.mp h
      obtain ⟨rfl, rfl, _⟩ := passage_pure.mp h₁
      exact ⟨_, _, _, .noScene group, ⟨rfl, rfl, .other rfl .nil⟩, rfl⟩
    · obtain ⟨a, hshows, rfl⟩ := passage_callApi (.setGroupScene client group.id scene.id) id
        (fun hwork => (passage_request.mp hwork).1) h
      exact ⟨a, _, _, .recalled group scene a, hshows, rfl⟩

/-- The second half of a recall, after a lookup that did not find both. -/
theorem passage_recallAgain {found : Found} {first : List (Event Cell)}
    (hfirst : Lookup client groupName sceneName first (.ok found)) (hpartial : found.isPartial)
    (h : Passage (Steadily client) (s.recallAgain client groupName sceneName) c es r c') :
    ∃ a made lines, Recalls client groupName sceneName (first ++ made) lines a ∧
      Shows es made lines ∧ r = a.mapError Fault.classify := by
  obtain ⟨es₁, _, _, es₂, hrefresh, h₁, rfl⟩ := passage_bind.mp h
  obtain ⟨refreshed, made₁, hmade₁, hshows₁, rfl⟩ := passage_refresh hrefresh
  rcases refreshed with fault | ⟨⟩
  · obtain ⟨rfl, rfl, _⟩ := passage_pure.mp h₁
    rw [List.append_nil]
    exact ⟨_, _, _, .unrefreshed hfirst hpartial hmade₁, hshows₁, rfl⟩
  · obtain ⟨es₃, _, _, es₄, hlookup, h₂, rfl⟩ := passage_bind.mp h₁
    obtain ⟨last, hlast, rfl⟩ := passage_lookup hlookup
    rcases last with fault | found'
    · obtain ⟨rfl, rfl, _⟩ := passage_pure.mp h₂
      have hrecalls := Recalls.refreshed hfirst hpartial hmade₁ hlast (.failed fault)
      simp only [List.append_assoc] at hrecalls
      exact ⟨_, _, _, hrecalls, hshows₁.append (hlast.shows.append shows_nil), rfl⟩
    · obtain ⟨a, made₂, lines, hsettling, hshows₂, rfl⟩ := passage_recallFound h₂
      have hrecalls := Recalls.refreshed hfirst hpartial hmade₁ hlast hsettling
      simp only [List.append_assoc] at hrecalls
      exact ⟨_, _, _, hrecalls, hshows₁.append (hlast.shows.append hshows₂), rfl⟩

theorem passage_activateNamedScene
    (h : Passage (Steadily client) (s.activateNamedScene groupName sceneName) c es r c') :
    ∃ a made lines, Recalls client groupName sceneName made lines a ∧ Shows es made lines ∧
      r = a.mapError Fault.classify := by
  obtain ⟨seen, es₁, hserves, h₁, rfl⟩ := passage_look_bind.mp h
  rw [Cell.Serves.client_eq hserves] at h₁
  obtain ⟨es₂, _, _, es₃, hlookup, h₂, rfl⟩ := passage_bind.mp h₁
  obtain ⟨first, hfirst, rfl⟩ := passage_lookup hlookup
  have hseen : ∀ {made lines}, Shows es₃ made lines →
      Shows (.moved seen seen :: (es₂ ++ es₃)) (es₂ ++ made) lines :=
    fun hshows => (hfirst.shows.append hshows).moved
  rcases first with fault | ⟨_ | group, _ | scene⟩
  · obtain ⟨rfl, rfl, _⟩ := passage_pure.mp h₂
    exact ⟨_, _, _, .atOnce hfirst (fun _ h => nomatch h) (.failed fault), hseen shows_nil, rfl⟩
  · obtain ⟨a, made, lines, hrecalls, hshows, rfl⟩ := passage_recallAgain hfirst (Or.inl rfl) h₂
    exact ⟨a, _, _, hrecalls, hseen hshows, rfl⟩
  · obtain ⟨a, made, lines, hrecalls, hshows, rfl⟩ := passage_recallAgain hfirst (Or.inl rfl) h₂
    exact ⟨a, _, _, hrecalls, hseen hshows, rfl⟩
  · obtain ⟨a, made, lines, hrecalls, hshows, rfl⟩ := passage_recallAgain hfirst (Or.inr rfl) h₂
    exact ⟨a, _, _, hrecalls, hseen hshows, rfl⟩
  · obtain ⟨a, made, lines, hsettling, hshows, rfl⟩ := passage_recallFound h₂
    refine ⟨a, _, _, .atOnce hfirst ?_ hsettling, hseen hshows, rfl⟩
    rintro found ⟨⟩ (hnone | hnone) <;> exact nomatch hnone

/-! ## There always is one -/

theorem ends_lookup : Ends client (lookup client groupName sceneName) := by
  refine ends_bind (ends_request _) fun groups => ?_
  rcases groups with fault | groups
  · exact ends_pure _
  · cases hgroup : findGroup groupName groups with
    | none =>
      simp only [hgroup]
      exact ends_pure _
    | some group =>
      simp only [hgroup]
      refine ends_bind (ends_request _) fun scenes => ?_
      rcases scenes with fault | scenes <;> exact ends_pure _

theorem ends_refresh : Ends client s.refresh := by
  refine ends_bind (ends_note _) fun _ => ends_bind (ends_callApi (ends_gated _)) fun answer => ?_
  rcases answer with e | ⟨⟩
  · exact ends_pure _
  · exact ends_callApi (ends_gated _)

theorem ends_recallFound (found : Found) :
    Ends client (s.recallFound groupName sceneName found) := by
  rcases found with ⟨_ | group, _ | scene⟩
  · exact ends_bind (ends_note _) fun _ => ends_pure _
  · exact ends_bind (ends_note _) fun _ => ends_pure _
  · exact ends_bind (ends_note _) fun _ => ends_pure _
  · exact ends_callApi (ends_gated _)

theorem ends_recallAgain : Ends client (s.recallAgain client groupName sceneName) := by
  refine ends_bind ends_refresh fun answer => ?_
  rcases answer with e | ⟨⟩
  · exact ends_pure _
  · refine ends_bind ends_lookup fun second => ?_
    rcases second with e | found
    · exact ends_pure _
    · exact ends_recallFound found

theorem ends_activateNamedScene (s : Session) (groupName sceneName : String) :
    Ends client (s.activateNamedScene groupName sceneName) := by
  refine ends_read_bind fun c hidle => ?_
  rw [hidle.serves.client_eq]
  refine ends_bind ends_lookup fun first => ?_
  -- Whichever of the two is missing, the same follows.
  rcases first with e | ⟨_ | group, _ | scene⟩
  · exact ends_pure _
  · exact ends_recallAgain
  · exact ends_recallAgain
  · exact ends_recallAgain
  · exact ends_recallFound _

theorem passage_of_unready {meanwhile : Cell → Cell → Prop}
    (hunready : ∀ seen, meanwhile c seen → seen.ready = none)
    (h : Passage meanwhile (s.activateNamedScene groupName sceneName) c es r c') :
    calls es = [] ∧ r = .error .notReady := by
  obtain ⟨seen, es₁, hseen, h₁, rfl⟩ := passage_look_bind.mp h
  have hclient : seen.client = .error .notReady := by
    unfold Cell.client
    rw [hunready seen hseen]
  rw [hclient] at h₁
  obtain ⟨rfl, rfl, _⟩ := passage_pure.mp h₁
  exact ⟨rfl, rfl⟩

/-- Whatever the client of a session answers and whatever others do with the session meanwhile, a
recall makes the calls it should, each that needs a slot with one, and warns and answers as it
should. For any answers there is such a recall, and every recall that ends among other tasks is one.
On a session that is not set up no call is made. -/
theorem a_scene_recall_is_as_specified (s : Session) (groupName sceneName : String) :
    (∀ client c es r c',
      Passage (Steadily client) (s.activateNamedScene groupName sceneName) c es r c' →
      ∃ a, Recalls client groupName sceneName (calls es) (warnings es) a ∧
        r = a.mapError Fault.classify ∧ ThroughGate es) ∧
    (∀ client c, c.Idle client → ∀ answer, ∃ es r c',
      Passage (Steadily client) (s.activateNamedScene groupName sceneName) c es r c' ∧
        Answered answer es) ∧
    (∀ x, Reached .anywhere s.Usage Cell.fresh x → ∀ client since r, since.Serves client →
      ⟨s.activateNamedScene groupName sceneName, since, some (.done r)⟩ ∈ x.tasks →
      ∃ es c', Passage (Steadily client) (s.activateNamedScene groupName sceneName) since es r c') ∧
    ∀ meanwhile c es r c', (∀ seen, meanwhile c seen → seen.ready = none) →
      Passage meanwhile (s.activateNamedScene groupName sceneName) c es r c' →
      calls es = [] ∧ r = .error .notReady := by
  refine ⟨?_, ?_, ?_, ?_⟩
  · intro client c es r c' h
    obtain ⟨a, made, lines, hrecalls, hshows, hr⟩ := passage_activateNamedScene h
    refine ⟨a, ?_, hr, hshows.gate⟩
    rw [hshows.calls, hshows.warnings]
    exact hrecalls
  · intro client c hidle answer
    obtain ⟨es, r, c', hpassage, hanswered, _⟩ :=
      ends_activateNamedScene s groupName sceneName answer c hidle
    exact ⟨es, r, c', hpassage, hanswered⟩
  · intro x hx client since r hsince hmem
    exact passage_of_task hx hsince hmem
  · intro meanwhile c es r c' hunready h
    exact passage_of_unready hunready h

/-! ## A scene that is new at the bridge -/

def hall : Group := ⟨"4", "Hall", ["7", "9"]⟩

/-- The scene lists the lights of the group in another order, and one of them twice. -/
def bright : Scene := ⟨"hall-bright", "Bright", ["9", "7", "9"]⟩

/-- Surroundings of a session whose client has not loaded the hall yet. -/
def newHall : Outside (Cell × Bool) where
  answer
    | .connect _ _, w => (⟨0⟩, w)
    | .clientHost _, w => ("192.168.1.2", w)
    | .clientUsername _, w => (some "guest", w)
    | .locationName, w => (.plain "Home", w)
    | .registrations, w => ([], w)
    | .flowsInProgress, w => ([], w)
    | .configPath path, w => (path, w)
    | .legacyUsername _ _, w => (none, w)
    | .removeSceneService, w => (false, w)
    | .startPairing _, w | .forwardSetup _ _, w | .forwardUnload _ _, w
    | .registerSceneService _, w | .note _, w => ((), w)
  receive
    | .groups _, w => ⟨w, some 1, fun w => (.ok (if w.2 then [hall] else []), w)⟩
    | .scenes _, w => ⟨w, some 1, fun w => (.ok [⟨"other", "Bright", ["7"]⟩, bright], w)⟩
    | .updateGroups _, w => ⟨w, some 20, fun w => (.ok (), (w.1, true))⟩
    | .updateScenes _, w | .setGroupScene _ _ _, w => ⟨w, some 20, fun w => (.ok (), w)⟩
    | .createUser _ _, w => ⟨w, none, fun w => (.ok (), w)⟩
    | .validate _, w => ⟨w, none, fun w => (.ok guestConfig, w)⟩
    | .discover, w => ⟨w, none, fun w => (.ok [], w)⟩
    | .unloaded _ _, w => ⟨w, none, fun w => (none, w)⟩
    | .sleep _, w => ⟨w, none, fun w => ((), w)⟩

theorem apart_newHall : Apart newHall Place.beside := by
  constructor
  · intro f w
    rfl
  · intro q w
    cases q <;> rfl
  · intro c w
    cases c <;> rfl
  · intro c w w'
    cases c <;> rfl

def guestCell : Cell := ⟨.authorized, some guestReady, true, true⟩

/-- The session after three calls through its gate. -/
def guestServed : Cell :=
  ⟨.authorized, some { guestReady with gate := ⟨10, [], [], false, 3⟩ }, true, true⟩

def hallEvents : List (Event Cell) :=
  (guestSession.activateNamedScene "Hall" "Bright").record newHall Place.beside 0 (guestCell, false)

def hallCalls : List (Event Cell) :=
  [.called (.groups ⟨0⟩) (.ok []), .called (.updateGroups ⟨0⟩) (.ok ()),
    .called (.updateScenes ⟨0⟩) (.ok ()), .called (.groups ⟨0⟩) (.ok [hall]),
    .called (.scenes ⟨0⟩) (.ok [⟨"other", "Bright", ["7"]⟩, bright]),
    .called (.setGroupScene ⟨0⟩ "4" "hall-bright") (.ok ())]

/-- The scene is found after a refresh, and the one that is named alike but has other lights is
passed over. On a session that was not set up the same recall makes no call. -/
theorem a_scene_recall_is_as_specified_for_a_new_scene : ∃ a es r,
    Passage (Steadily ⟨0⟩) (guestSession.activateNamedScene "Hall" "Bright") guestCell hallEvents
      (.ok ()) guestServed ∧
    Recalls ⟨0⟩ "Hall" "Bright" hallCalls [] a ∧
    (.ok () : Except BridgeError Unit) = a.mapError Fault.classify ∧
    ThroughGate hallEvents ∧
    Passage Eq (guestSession.activateNamedScene "Hall" "Bright") Cell.fresh es r Cell.fresh ∧
    calls es = [] ∧ r = .error .notReady := by
  have hrun : (guestSession.activateNamedScene "Hall" "Bright").run newHall Place.beside 0
      (guestCell, false) = ⟨some (.ok ()), 63, (guestServed, true)⟩ := by cbv
  have halone := passage_of_run apart_newHall _ (congrArg Outcome.result hrun)
  rw [hrun] at halone
  have hpassage : Passage (Steadily ⟨0⟩) (guestSession.activateNamedScene "Hall" "Bright") guestCell
      hallEvents (.ok ()) guestServed := passage_steadily halone (by cbv)
  have hunready : Passage Eq (guestSession.activateNamedScene "Hall" "Bright") Cell.fresh
      [.moved Cell.fresh Cell.fresh] (.error .notReady) Cell.fresh := .own rfl (.done _ _)
  obtain ⟨hready, _, _, hnone⟩ := a_scene_recall_is_as_specified guestSession "Hall" "Bright"
  obtain ⟨a, hrecalls, ha, hgate⟩ := hready _ _ _ _ _ hpassage
  have hmade : calls hallEvents = hallCalls := by cbv
  have hquiet : warnings hallEvents = [] := by cbv
  rw [hmade, hquiet] at hrecalls
  obtain ⟨hcalls, hr⟩ := hnone Eq Cell.fresh _ _ _ (fun _ h => h ▸ rfl) hunready
  exact ⟨a, _, _, hpassage, hrecalls, ha, hgate, hunready, hcalls, hr⟩

end HueLink.Session
