-- Which group and scene a recall settles on, by the lists it read last. Of the groups with the name
-- asked for it takes the first, and no other: if that one has a scene of the right name, it is
-- recalled, wherever it stands. The scene of a later group of that name is not looked for.
import HueLink.Proofs.Session.SceneRecall

namespace HueLink

open Routine

/-- The call was answered, and not with a fault. -/
def Call.succeeds : (c : Call) → c.Answer → Bool
  | .createUser _ _, a | .updateGroups _, a | .updateScenes _, a | .setGroupScene _ _ _, a =>
    Except.isOk a
  | .validate _, a => Except.isOk a
  | .groups _, a => Except.isOk a
  | .scenes _, a => Except.isOk a
  | .discover, a => Except.isOk a
  | .unloaded _ _, _ | .sleep _, _ => true

/-- If this is a call that sets no deadline, it was answered without a fault. -/
def Routine.Event.succeeds {κ : Type} : Event κ → Bool
  | .called c a => c.succeeds a
  | .moved _ _ | .passed _ | .asked _ _ | .calledBy _ _ => true

/-- A scene is recalled. -/
def Routine.Event.recalls {κ : Type} : Event κ → Bool
  | .called (.setGroupScene _ _ _) _ => true
  | _ => false

/-- The client was asked for a list it has loaded. -/
def Routine.Event.reads {κ : Type} : Event κ → Bool
  | .called (.groups _) _ | .called (.scenes _) _ => true
  | _ => false

namespace Session

/-- Every call was answered without a fault. A recall sets no deadlines. -/
def AllSucceed (es : List (Event Cell)) : Prop := ∀ e ∈ es, e.succeeds = true

/-- The lists that were read last, one right after the other. -/
def ReadsLast (client : Client) (groups : List Group) (scenes : List Scene)
    (es : List (Event Cell)) : Prop :=
  [.called (.groups client) (.ok groups), .called (.scenes client) (.ok scenes)] <:+
    es.filter Event.reads

variable {client : Client} {groupName sceneName : String} {es es' made : List (Event Cell)}
  {found : Found} {lines : List Notice} {a : Except Fault Unit} {groups : List Group}
  {scenes : List Scene}

/-! ## Calls that succeed -/

theorem allSucceed_append : AllSucceed (es ++ es') ↔ AllSucceed es ∧ AllSucceed es' :=
  List.forall_mem_append

theorem allSucceed_cons {e : Event Cell} :
    AllSucceed (e :: es) ↔ e.succeeds = true ∧ AllSucceed es := List.forall_mem_cons

theorem AllSucceed.lookup {outcome : Except Fault Found}
    (h : Lookup client groupName sceneName es outcome) (hok : AllSucceed es) :
    ∃ found, outcome = .ok found := by
  cases h with
  | groupsFail fault => exact nomatch (allSucceed_cons.mp hok).1
  | scenesFail fault _ => exact nomatch (allSucceed_cons.mp (allSucceed_cons.mp hok).2).1
  | noGroup | noScene | both => exact ⟨_, rfl⟩

theorem AllSucceed.refresh {outcome : Except Fault Unit} (h : Refresh client es outcome)
    (hok : AllSucceed es) : outcome = .ok () := by
  cases h with
  | groupsFail fault => exact nomatch (allSucceed_cons.mp hok).1
  | scenes =>
    rcases outcome with fault | ⟨⟩
    · exact nomatch (allSucceed_cons.mp (allSucceed_cons.mp hok).2).1
    · rfl

/-- Where every call succeeds, a recall settles on what its last lookup found. -/
theorem Recalls.last (h : Recalls client groupName sceneName made lines a)
    (hok : AllSucceed made) : ∃ before last after found, made = before ++ last ++ after ∧
      Lookup client groupName sceneName last (.ok found) ∧
      Settling client groupName sceneName (.ok found) after lines a := by
  cases h with
  | @atOnce es after first _ _ hfirst _ hsettling =>
    obtain ⟨found, rfl⟩ := (allSucceed_append.mp hok).1.lookup hfirst
    exact ⟨[], es, after, found, rfl, hfirst, hsettling⟩
  | unrefreshed _ _ hrefresh => exact nomatch (allSucceed_append.mp hok).2.refresh hrefresh
  | @refreshed es₁ es₂ es₃ after _ last _ _ _ _ _ hlast hsettling =>
    obtain ⟨found, rfl⟩ := (allSucceed_append.mp (allSucceed_append.mp hok).1).2.lookup hlast
    exact ⟨es₁ ++ es₂, es₃, after, found, rfl, hlast, hsettling⟩

/-! ## Lists that are read -/

theorem Lookup.filter_reads {outcome : Except Fault Found}
    (h : Lookup client groupName sceneName es outcome) : es.filter Event.reads = es := by
  cases h <;> rfl

theorem Settling.filter_reads {outcome : Except Fault Found}
    (h : Settling client groupName sceneName outcome es lines a) : es.filter Event.reads = [] := by
  cases h <;> rfl

theorem filter_reads_calls (es : List (Event Cell)) :
    (calls es).filter Event.reads = es.filter Event.reads := by
  unfold calls
  rw [List.filter_filter]
  refine List.filter_congr fun e _ => ?_
  cases e <;> simp [Event.reads, Event.isCall]

/-- A lookup that read both lists last read these. -/
theorem Lookup.of_readsLast {before : List (Event Cell)}
    (h : Lookup client groupName sceneName es (.ok found))
    (hlast : [.called (.groups client) (.ok groups), .called (.scenes client) (.ok scenes)] <:+
      before ++ es) :
    es = [.called (.groups client) (.ok groups), .called (.scenes client) (.ok scenes)] := by
  obtain ⟨earlier, hlast⟩ := hlast
  cases h with
  | noGroup =>
    rw [List.append_cons] at hlast
    exact nomatch List.append_inj_right' hlast rfl
  | noScene | both => exact (List.append_inj_right' hlast rfl).symm

theorem IsFirst.unique {α : Type} {P : α → Prop} {xs : List α} {x y : α} (hx : IsFirst P xs x)
    (hy : IsFirst P xs y) : x = y := by
  classical
  have hfind := (find_eq_some_iff (p := fun x => decide (P x)) (by simp)).mpr hx
  have hfind' := (find_eq_some_iff (p := fun x => decide (P x)) (by simp)).mpr hy
  exact Option.some.inj (hfind.symm.trans hfind')

/-- The first group of the name has a scene of the right name in the lists that were read last, so
one such scene is recalled on it. -/
theorem Recalls.of_scene {group : Group} (h : Recalls client groupName sceneName made lines a)
    (hok : AllSucceed made) (hlast : ReadsLast client groups scenes made)
    (hgroup : IsFirst (·.name = groupName) groups group)
    (hscene : ∃ scene ∈ scenes, Suits sceneName group scene) :
    ∃ scene ∈ scenes, Suits sceneName group scene ∧
      .called (.setGroupScene client group.id scene.id) (.ok ()) ∈ made ∧ a = .ok () := by
  obtain ⟨before, last, after, found, rfl, hlookup, hsettling⟩ := h.last hok
  have hread : last =
      [.called (.groups client) (.ok groups), .called (.scenes client) (.ok scenes)] := by
    unfold ReadsLast at hlast
    rw [List.filter_append, List.filter_append, hlookup.filter_reads, hsettling.filter_reads,
      List.append_nil] at hlast
    exact hlookup.of_readsLast hlast
  subst hread
  cases hlookup with
  | noScene hgroup' hnone =>
    obtain rfl := hgroup.unique hgroup'
    obtain ⟨scene, hmem, hsuits⟩ := hscene
    exact absurd hsuits (hnone scene hmem)
  | @both _ _ _ scene hgroup' hfirst =>
    obtain rfl := hgroup.unique hgroup'
    obtain ⟨earlier, later, rfl, hsuits, -⟩ := hfirst
    cases hsettling with
    | recalled =>
      rcases a with fault | ⟨⟩
      · exact nomatch (allSucceed_cons.mp (allSucceed_append.mp hok).2).1
      · exact ⟨scene, List.mem_append_right _ List.mem_cons_self, hsuits,
          List.mem_append_right _ List.mem_cons_self, rfl⟩

/-! ## The choice -/

/-- While every call succeeds, a recall on a session that is set up comes to an end, and if the
first group of the name has a scene of the right name in the lists that were read last, such a scene
is recalled on that group. It does not matter where they stand in the lists, nor what else has these
names. -/
theorem a_scene_of_the_first_group_is_recalled (s : Session) (groupName sceneName : String) :
    (∀ client c es r c',
      Passage (Steadily client) (s.activateNamedScene groupName sceneName) c es r c' →
      AllSucceed es → ∀ groups scenes group, ReadsLast client groups scenes es →
      IsFirst (·.name = groupName) groups group →
      (∃ scene ∈ scenes, Suits sceneName group scene) →
      ∃ scene ∈ scenes, Suits sceneName group scene ∧
        .called (.setGroupScene client group.id scene.id) (.ok ()) ∈ es ∧ r = .ok ()) ∧
    (∀ client c, c.Idle client → ∀ answer,
      (∀ past (call : Call), call.succeeds (answer past call) = true) →
      ∃ es r c', Passage (Steadily client) (s.activateNamedScene groupName sceneName) c es r c' ∧
        Answered answer es ∧ AllSucceed es) ∧
    ∀ x, Reached .anywhere s.Usage Cell.fresh x → ∀ client since r, since.Serves client →
      ⟨s.activateNamedScene groupName sceneName, since, some (.done r)⟩ ∈ x.tasks →
      ∃ es c',
        Passage (Steadily client) (s.activateNamedScene groupName sceneName) since es r c' := by
  refine ⟨?_, ?_, ?_⟩
  · intro client c es r c' h hok groups scenes group hlast hgroup hscene
    obtain ⟨a, made, lines, hrecalls, hshows, rfl⟩ := passage_activateNamedScene h
    have hmade : ∀ e ∈ made, e ∈ es := fun e he => by
      rw [← hshows.calls] at he
      exact List.mem_of_mem_filter he
    have hlast' : ReadsLast client groups scenes made := by
      unfold ReadsLast
      rw [← hshows.calls, filter_reads_calls]
      exact hlast
    obtain ⟨scene, hmem, hsuits, hcalled, rfl⟩ :=
      hrecalls.of_scene (fun e he => hok e (hmade e he)) hlast' hgroup hscene
    exact ⟨scene, hmem, hsuits, hmade _ hcalled, rfl⟩
  · intro client c hidle answer hanswer
    obtain ⟨es, r, c', hpassage, hanswered, -⟩ :=
      ends_activateNamedScene s groupName sceneName answer c hidle
    refine ⟨es, r, c', hpassage, hanswered, ?_⟩
    intro e hmem
    cases e with
    | called call x =>
      obtain ⟨past, later, hsplit⟩ := List.append_of_mem hmem
      rw [hanswered past call x later hsplit]
      exact hanswer past call
    | moved | passed | asked | calledBy => rfl
  · intro x hx client since r hsince hmem
    exact passage_of_task hx hsince hmem

/-! ## Two groups of one name -/

/-- Surroundings of a session whose client has these lists, before and after any refresh. -/
def listing (groups : List Group) (scenes : List Scene) : Outside (Cell × Unit) where
  answer
    | .connect _ _, w => (⟨0⟩, w)
    | .clientHost _, w => ("192.168.1.2", w)
    | .clientUsername _, w => (some "guest", w)
    | .locationName, w => (.plain "Home", w)
    | .registrations, w => ([], w)
    | .flowsInProgress, w => ([], w)
    | .configPath path, w => (path, w)
    | .legacyUsername _ _, w => (none, w)
    | .removeSceneService, w => (false, w)
    | .startPairing _, w | .forwardSetup _ _, w | .forwardUnload _ _, w
    | .registerSceneService _, w | .note _, w => ((), w)
  receive
    | .groups _, w => ⟨w, some 1, fun w => (.ok groups, w)⟩
    | .scenes _, w => ⟨w, some 1, fun w => (.ok scenes, w)⟩
    | .updateGroups _, w | .updateScenes _, w | .setGroupScene _ _ _, w =>
      ⟨w, some 20, fun w => (.ok (), w)⟩
    | .createUser _ _, w => ⟨w, none, fun w => (.ok (), w)⟩
    | .validate _, w => ⟨w, none, fun w => (.ok guestConfig, w)⟩
    | .discover, w => ⟨w, none, fun w => (.ok [], w)⟩
    | .unloaded _ _, w => ⟨w, none, fun w => (none, w)⟩
    | .sleep _, w => ⟨w, none, fun w => ((), w)⟩

theorem apart_listing (groups : List Group) (scenes : List Scene) :
    Apart (listing groups scenes) Place.beside := by
  constructor
  · intro f w
    rfl
  · intro q w
    cases q <;> rfl
  · intro c w
    cases c <;> rfl
  · intro c w w'
    cases c <;> rfl

def kitchen : Group := ⟨"1", "Kitchen", ["1", "2"]⟩

/-- An entertainment area that is called like the room it is in. -/
def kitchenArea : Group := ⟨"2", "Kitchen", ["1", "2", "3"]⟩

/-- A scene of the kitchen, between others of its name. -/
def relaxScenes : List Scene :=
  [⟨"a", "Relax", ["3"]⟩, ⟨"k", "Relax", ["2", "1"]⟩, ⟨"b", "Relax", []⟩]

/-- What happens when the scene is recalled with these groups. -/
def relaxEvents (groups : List Group) : List (Event Cell) :=
  (guestSession.activateNamedScene "Kitchen" "Relax").record (listing groups relaxScenes)
    Place.beside 0 (guestCell, ())

theorem passage_relax (groups : List Group) (time : Nat) (c : Cell)
    (hrun : (guestSession.activateNamedScene "Kitchen" "Relax").run (listing groups relaxScenes)
      Place.beside 0 (guestCell, ()) = ⟨some (.ok ()), time, (c, ())⟩)
    (hfinds : (relaxEvents groups).all (findsServing ⟨0⟩) = true) :
    Passage (Steadily ⟨0⟩) (guestSession.activateNamedScene "Kitchen" "Relax") guestCell
      (relaxEvents groups) (.ok ()) c := by
  have halone := passage_of_run (apart_listing groups relaxScenes) _ (congrArg Outcome.result hrun)
  rw [hrun] at halone
  exact passage_steadily halone hfinds

/-- The session after one call through its gate. -/
def guestServedOnce : Cell :=
  ⟨.authorized, some { guestReady with gate := ⟨10, [], [], false, 1⟩ }, true, true⟩

/-- And after two. -/
def guestServedTwice : Cell :=
  ⟨.authorized, some { guestReady with gate := ⟨10, [], [], false, 2⟩ }, true, true⟩

/-- The room comes first, and its scene is recalled. -/
theorem a_scene_of_the_first_group_is_recalled_beside_an_area :
    Passage (Steadily ⟨0⟩) (guestSession.activateNamedScene "Kitchen" "Relax") guestCell
      (relaxEvents [kitchen, kitchenArea]) (.ok ()) guestServedOnce ∧
    AllSucceed (relaxEvents [kitchen, kitchenArea]) ∧
    ReadsLast ⟨0⟩ [kitchen, kitchenArea] relaxScenes (relaxEvents [kitchen, kitchenArea]) ∧
    ∃ scene ∈ relaxScenes, Suits "Relax" kitchen scene ∧
      .called (.setGroupScene ⟨0⟩ "1" scene.id) (.ok ()) ∈ relaxEvents [kitchen, kitchenArea] := by
  have hpassage := passage_relax [kitchen, kitchenArea] 22 guestServedOnce (by cbv) (by cbv)
  have hok : AllSucceed (relaxEvents [kitchen, kitchenArea]) := List.all_eq_true.mp (by cbv)
  have hreads : (relaxEvents [kitchen, kitchenArea]).filter Event.reads =
      [.called (.groups ⟨0⟩) (.ok [kitchen, kitchenArea]),
        .called (.scenes ⟨0⟩) (.ok relaxScenes)] := by cbv
  have hlast : ReadsLast ⟨0⟩ [kitchen, kitchenArea] relaxScenes
      (relaxEvents [kitchen, kitchenArea]) := ⟨[], hreads.symm⟩
  obtain ⟨scene, hmem, hsuits, hcalled, -⟩ :=
    (a_scene_of_the_first_group_is_recalled guestSession "Kitchen" "Relax").1 _ _ _ _ _ hpassage hok
      _ _ kitchen hlast ⟨[], [kitchenArea], rfl, rfl, fun _ h => absurd h List.not_mem_nil⟩
      ⟨⟨"k", "Relax", ["2", "1"]⟩, by decide, (suits_iff _ _).mp (by decide)⟩
  exact ⟨hpassage, hok, hlast, scene, hmem, hsuits, hcalled⟩

/-- The area comes first. It has no such scene, so none is recalled, though the room has one. -/
theorem a_second_group_of_a_name_is_passed_over :
    Passage (Steadily ⟨0⟩) (guestSession.activateNamedScene "Kitchen" "Relax") guestCell
      (relaxEvents [kitchenArea, kitchen]) (.ok ()) guestServedTwice ∧
    AllSucceed (relaxEvents [kitchenArea, kitchen]) ∧
    ReadsLast ⟨0⟩ [kitchenArea, kitchen] relaxScenes (relaxEvents [kitchenArea, kitchen]) ∧
    (∃ group ∈ [kitchenArea, kitchen], group.name = "Kitchen" ∧
      ∃ scene ∈ relaxScenes, Suits "Relax" group scene) ∧
    ∀ group scene x,
      .called (.setGroupScene ⟨0⟩ group scene) x ∉ relaxEvents [kitchenArea, kitchen] := by
  have hpassage := passage_relax [kitchenArea, kitchen] 44 guestServedTwice (by cbv) (by cbv)
  have hok : AllSucceed (relaxEvents [kitchenArea, kitchen]) := List.all_eq_true.mp (by cbv)
  let read : List (Event Cell) := [.called (.groups ⟨0⟩) (.ok [kitchenArea, kitchen]),
    .called (.scenes ⟨0⟩) (.ok relaxScenes)]
  have hreads : (relaxEvents [kitchenArea, kitchen]).filter Event.reads = read ++ read := by cbv
  have hnone : (relaxEvents [kitchenArea, kitchen]).all (fun e => !e.recalls) = true := by cbv
  refine ⟨hpassage, hok, ⟨read, hreads.symm⟩, ?_, ?_⟩
  · exact ⟨kitchen, by decide, rfl, ⟨"k", "Relax", ["2", "1"]⟩, by decide,
      (suits_iff _ _).mp (by decide)⟩
  · intro group scene x hmem
    exact absurd (List.all_eq_true.mp hnone _ hmem) Bool.false_ne_true

end Session

end HueLink
