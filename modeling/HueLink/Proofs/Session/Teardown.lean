-- Setup and teardown pair up. A session that was ever loaded had the host set up all platforms,
-- once each, and taking it down has the host unload just those. Any other session has nothing to
-- take down. A teardown only looks at the session.
import HueLink.Proofs.Routine.Deeds
import HueLink.Proofs.Session.Lifecycle
import HueLink.Proofs.Session.Registry

namespace HueLink

open Routine

/-- What the query has the host set up: a platform for a registration. -/
def Query.forwarded? : Query → Option (Registration × Platform)
  | forwardSetup registration platform => some (registration, platform)
  | _ => none

/-- Platforms were unloaded only once they had been set up. -/
def Paired (asked : List Query) : Prop :=
  ∀ before registration platform after,
    asked = before ++ .forwardUnload registration platform :: after →
      .forwardSetup registration platform ∈ before

theorem paired_nil : Paired [] := by
  intro before registration platform after hsplit
  simp at hsplit

theorem Paired.ask {asked : List Query} {q : Query} (h : Paired asked)
    (hq : ∀ registration platform, q = .forwardUnload registration platform →
      .forwardSetup registration platform ∈ asked) : Paired (asked ++ [q]) := by
  intro before registration platform after hsplit
  rcases List.eq_nil_or_concat' after with rfl | ⟨after, last, rfl⟩
  · obtain ⟨rfl, hlast⟩ := List.append_inj' hsplit rfl
    exact hq _ _ (List.singleton_inj.mp hlast)
  · rw [← List.cons_append, ← List.append_assoc] at hsplit
    obtain ⟨rfl, _⟩ := List.append_inj' hsplit rfl
    exact h before registration platform after rfl

theorem Paired.ask_other (asked : List Query) (q : Query) (hq : q.takesDown = false)
    (h : Paired asked) : Paired (asked ++ [q]) := by
  refine h.ask fun registration platform heq => ?_
  rw [heq] at hq
  exact nomatch hq

namespace Session

/-- What a task may do with a session if it leaves the unloading to its teardown. -/
inductive Handling (s : Session) : (α : Type) → Routine Cell α → Prop where
  | use {α : Type} {p : Routine Cell α} : s.Usage α p → p.TakesNothingDown → Handling s α p
  | teardown : Handling s Bool s.teardown
  | bind {α β : Type} {p : Routine Cell α} {f : α → Routine Cell β} :
    Handling s α p → (∀ a, Handling s β (f a)) → Handling s β (p.bind f)
  | request {α : Type} {work : Routine Cell α} :
    Handling s α work → Handling s (Except BridgeError α) (gated .whole work)

variable {s : Session} {x : Moment Cell} {α : Type} {l l' : Ledger Cell}

theorem usage_of_handling {p : Routine Cell α} (h : s.Handling α p) : s.Usage α p := by
  induction h with
  | use h _ => exact h
  | teardown => exact usage_teardown
  | bind _ _ ihp ihf => exact .bind ihp ihf
  | request _ ih => exact .request ih

theorem handling_setup (s : Session) : s.Handling _ s.setup :=
  .use .setup (takesNothingDown_setup s)

theorem handling_markUnauthorized (s : Session) : s.Handling _ s.markUnauthorized :=
  .use .markUnauthorized (takesNothingDown_markUnauthorized s)

/-- A call of its scene service is one way to handle a session. -/
theorem handling_serveScene (data : Json) : s.Handling _ (serveScene (some s) data) :=
  .use (usage_serveScene data) (takesNothingDown_serveScene data)

/-! ## One teardown -/

/-- Has the host begin to unload platforms. -/
def unloads (s : Session) (platforms : List Platform) : Routine Cell Unit :=
  platforms.forM fun platform => Routine.query (.forwardUnload s.registration platform)

/-- Waits until platforms are unloaded. -/
def unloading (s : Session) (platforms : List Platform) : Routine Cell Bool :=
  (platforms.mapM fun platform => Routine.request (.unloaded s.registration platform)).bind
    fun answers => .done (answers.all fun answer => answer.getD true)

theorem teardown_eq (s : Session) : s.teardown = .own id fun c =>
    if c.ready.isSome then .ask .removeSceneService fun _ =>
      (s.unloads Platform.all).bind fun _ => s.unloading Platform.all
    else .done true := by
  refine congrArg (Routine.own id) (funext fun c => ?_)
  change (if c.ready.isSome then _ else _) = _
  cases c.ready.isSome with
  | false => rfl
  | true =>
    refine congrArg (Routine.ask .removeSceneService) (funext fun _ => ?_)
    exact bind_bind _ _ _

theorem stretch_unloads {platforms : List Platform} {rest : Routine Cell α} {p' : Routine Cell α} :
    Stretch .atWaits ((s.unloads platforms).bind fun _ => rest) l p' l' ↔
      Stretch .atWaits rest
        { l with asked := l.asked ++ platforms.map (.forwardUnload s.registration) } p' l' := by
  induction platforms generalizing l with
  | nil => simp only [List.map_nil, List.append_nil]; rfl
  | cons platform platforms ih =>
    change Stretch .atWaits (.ask (.forwardUnload s.registration platform) fun _ =>
      (s.unloads platforms).bind fun _ => rest) l p' l' ↔ _
    rw [stretch_ask, exists_const, ih]
    simp only [Ledger.ask, List.append_assoc, List.map_cons, List.singleton_append]

/-- A teardown of a loaded session withdraws the scene service, has all platforms unloaded, and
waits for them. Any other is over at once. -/
theorem stretch_teardown_iff {p' : Routine Cell Bool} :
    Stretch .atWaits s.teardown l p' l' ↔
      if l.cell.ready.isSome then p' = s.unloading Platform.all ∧ l' =
        { (l.write id).ask .removeSceneService with
          asked := (l.asked ++ [.removeSceneService]) ++
            Platform.all.map (.forwardUnload s.registration) }
      else p' = .done true ∧ l' = l.write id := by
  rw [teardown_eq, stretch_own]
  split
  · rw [stretch_ask, exists_const, stretch_unloads]
    exact stretch_of_pauses rfl
  · exact stretch_of_pauses rfl

theorem all_getD (platforms : List Platform) (answer : Platform → Option Bool) :
    ((platforms.map answer).all fun answer => answer.getD true) =
      decide (∀ platform ∈ platforms, answer platform ≠ some false) := by
  rw [Bool.eq_iff_iff, List.all_map, List.all_eq_true, decide_eq_true_iff]
  refine forall₂_congr fun platform _ => ?_
  rcases h : answer platform with _ | _ | _ <;> simp [h]

/-- Every platform is waited for, whatever was said of the others. -/
theorem leads_mapM_unloaded {platforms : List Platform} (hnodup : platforms.Nodup)
    {rest : List (Option Bool) → Routine Cell α} {ds : List (Deed Cell)} {r : α} :
    Leads ((platforms.mapM fun platform =>
        Routine.request (.unloaded s.registration platform)).bind rest) ds (.done r) ↔
      ∃ (answer : Platform → Option Bool) (ds' : List (Deed Cell)),
        ds = platforms.map (fun platform =>
          .event (.called (.unloaded s.registration platform) (answer platform))) ++ ds' ∧
        Leads (rest (platforms.map answer)) ds' (.done r) := by
  induction platforms generalizing rest ds with
  | nil =>
    constructor
    · intro h
      exact ⟨fun _ => none, ds, rfl, h⟩
    · rintro ⟨_, _, rfl, h⟩
      exact h
  | cons platform platforms ih =>
    obtain ⟨hfirst, hnodup⟩ := List.nodup_cons.mp hnodup
    rw [List.mapM_cons]
    change Leads (.call id (.unloaded s.registration platform) fun a =>
      ((platforms.mapM fun platform => Routine.request (.unloaded s.registration platform)).bind
        fun answers => .done (a :: answers)).bind rest) ds (.done r) ↔ _
    rw [leads_call_iff]
    constructor
    · rintro ⟨a, ds₁, rfl, h⟩
      rw [bind_bind, ih hnodup] at h
      obtain ⟨answer, ds', rfl, h⟩ := h
      -- The first platform is none of the others.
      have hothers : ∀ q ∈ platforms, Function.update answer platform a q = answer q :=
        fun q hq => Function.update_of_ne (ne_of_mem_of_not_mem hq hfirst) _ _
      refine ⟨Function.update answer platform a, ds', ?_, ?_⟩
      · rw [List.map_cons, Function.update_self, List.cons_append]
        refine congrArg (_ :: · ++ ds') (List.map_congr_left fun q hq => ?_)
        rw [hothers q hq]
      · rw [List.map_cons, Function.update_self, List.map_congr_left hothers]
        exact h
    · rintro ⟨answer, ds', rfl, h⟩
      refine ⟨answer platform, _, rfl, ?_⟩
      rw [bind_bind, ih hnodup]
      exact ⟨answer, ds', rfl, h⟩

theorem leads_unloading {platforms : List Platform} (hnodup : platforms.Nodup)
    {ds : List (Deed Cell)} {r : Bool} :
    Leads (s.unloading platforms) ds (.done r) ↔ ∃ answer : Platform → Option Bool,
      ds = platforms.map (fun platform =>
        .event (.called (.unloaded s.registration platform) (answer platform))) ∧
      r = decide (∀ platform ∈ platforms, answer platform ≠ some false) := by
  unfold unloading
  rw [leads_mapM_unloaded hnodup]
  simp only [leads_done_iff, all_getD]
  constructor
  · rintro ⟨answer, _, rfl, rfl, rfl⟩
    exact ⟨answer, List.append_nil _, rfl⟩
  · rintro ⟨answer, rfl, rfl⟩
    exact ⟨answer, [], (List.append_nil _).symm, rfl, rfl⟩

/-! ## What a teardown does to the session -/

/-- The deed leaves the state as it is. -/
def Harmless (d : Deed Cell) : Prop := ∀ l l', d.On l l' → l'.cell = l.cell

theorem harmless_of_outward {ds : List (Deed Cell)} {p p' : Routine Cell α}
    (h : Leads p ds p') (hp : p.Outward) : (∀ d ∈ ds, Harmless d) ∧ p'.Outward := by
  induction h with
  | refl => exact ⟨fun _ hd => (nomatch hd), hp⟩
  | head hd _ ih =>
    rw [List.forall_mem_cons, and_assoc]
    cases hp with
    | done => exact nomatch hd
    | clock hrest =>
      cases hd
      exact ⟨fun _ _ hon => by rw [hon], ih (hrest _)⟩
    | ask _ _ hrest =>
      cases hd
      exact ⟨fun _ _ hon => by rw [hon]; rfl, ih (hrest _)⟩
    | call hrest =>
      cases hd
      exact ⟨fun _ _ hon => by rw [hon], ih (hrest _)⟩
    | callBy hrest =>
      cases hd
      exact ⟨fun _ _ hon => by rw [hon], ih (hrest _)⟩

theorem onDrop_of_outward {p : Routine Cell α} (hp : p.Outward) : ∀ undo ∈ p.onDrop, undo = id := by
  intro undo hundo
  cases hp with
  | done | clock | ask => exact nomatch hundo
  | call | callBy => exact (Option.mem_some_iff.mp hundo).symm

/-- Whatever a teardown does, and wherever it is given up, the session stays as it is. -/
theorem harmless_of_teardown {ds : List (Deed Cell)} {p : Routine Cell Bool}
    (h : Leads s.teardown ds p) : (∀ d ∈ ds, Harmless d) ∧ ∀ undo ∈ p.onDrop, undo = id := by
  rcases leads_own h with ⟨rfl, rfl⟩ | ⟨seen, ds, hseen, rfl⟩
  · exact ⟨fun _ hd => (nomatch hd), fun _ hundo => (nomatch hundo)⟩
  -- A look at the session is an update that leaves it as it was seen.
  have hlook : Harmless (.event (.moved seen seen)) := by
    intro l l' hon
    rw [hon.2]
    exact hon.1
  obtain ⟨hharmless, houtward⟩ := harmless_of_outward hseen <| by
    change Routine.Outward (if seen.ready.isSome then _ else _)
    split
    · exact .bind (outward_query rfl rfl) fun _ => .bind (outward_unloadAll s _) fun _ => .done _
    · exact .done _
  exact ⟨List.forall_mem_cons.mpr ⟨hlook, hharmless⟩, onDrop_of_outward houtward⟩

/-! ## What was unloaded -/

/-- The session is on its course, and platforms were unloaded only once they had been set up. -/
def PairedCourse (s : Session) (claims : Nat) (l : Ledger Cell) : Prop :=
  s.Course claims l ∧ Paired l.asked

/-- A loaded session had every platform set up. -/
theorem mem_asked_of_ready {claims : Nat} (h : s.Course claims l)
    (hready : l.cell.ready.isSome = true) (platform : Platform) :
    .forwardSetup s.registration platform ∈ l.asked := by
  obtain ⟨ph, hkept, _⟩ := h
  have hhooked : ph.hooked = true := by
    rw [← hkept.facts]
    exact (Option.isSome_map).trans hready
  have hhooks := hkept.hooks
  rw [if_pos hhooked] at hhooks
  have hmem : Query.forwardSetup s.registration platform ∈ s.hooks := by
    refine List.mem_append_left _ (List.mem_map_of_mem ?_)
    cases platform <;> simp [Platform.all]
  rw [← hhooks] at hmem
  exact List.mem_of_mem_filter hmem

theorem upholds_unloads {platforms : List Platform} {rest : Routine Cell α} {claims : Nat}
    {post : α → Nat → Ledger Cell → Prop} (h : s.PairedCourse claims l)
    (hset : ∀ platform, .forwardSetup s.registration platform ∈ l.asked)
    (hrest : ∀ l, s.PairedCourse claims l → rest.Upholds .atWaits s.PairedCourse post claims l) :
    ((s.unloads platforms).bind fun _ => rest).Upholds .atWaits s.PairedCourse post claims l := by
  induction platforms generalizing l with
  | nil => exact hrest l h
  | cons platform platforms ih =>
    intro _
    refine ih ⟨course_ask rfl rfl h.1, h.2.ask ?_⟩ fun q => List.mem_append_left _ (hset q)
    rintro _ _ ⟨⟩
    exact hset platform

theorem takesNothingDown_unloading (platforms : List Platform) :
    (s.unloading platforms).TakesNothingDown := by
  refine TakesNothingDown.bind ?_ fun _ => trivial
  induction platforms with
  | nil => trivial
  | cons platform platforms ih =>
    rw [List.mapM_cons]
    exact .bind (takesNothingDown_request _) fun _ => .bind ih fun _ => trivial

theorem outward_unloading (platforms : List Platform) : (s.unloading platforms).Outward := by
  refine Outward.bind ?_ fun _ => .done _
  induction platforms with
  | nil => exact .done _
  | cons platform platforms ih =>
    rw [List.mapM_cons]
    exact .bind (outward_request _) fun _ => .bind ih fun _ => .done _

theorem preserves_of_usage {p : Routine Cell α} (hp : s.Usage α p) (hdown : p.TakesNothingDown) :
    p.Preserves .atWaits s.PairedCourse :=
  (keepsCourse_usage hp).alongside Paired.ask_other hdown

theorem preserves_teardown : s.teardown.Preserves .atWaits s.PairedCourse := by
  rintro claims l ⟨hcourse, hpaired⟩
  rw [teardown_eq]
  change Routine.Upholds .atWaits s.PairedCourse (fun _ => s.PairedCourse)
    (if l.cell.ready.isSome then _ else _) claims (l.write id)
  have hwritten : s.Course claims (l.write id) := course_write rfl hcourse
  split
  · rename_i hready
    intro _
    refine upholds_unloads ⟨course_ask rfl rfl hwritten, hpaired.ask (by simp)⟩ ?_
      (preserves_of_usage (.outward (outward_unloading _)) (takesNothingDown_unloading _) claims)
    exact fun platform => List.mem_append_left _ (mem_asked_of_ready hcourse hready platform)
  · exact ⟨hwritten, hpaired⟩

theorem preserves_handling {p : Routine Cell α} (h : s.Handling α p) :
    p.Preserves .atWaits s.PairedCourse := by
  induction h with
  | use hp hdown => exact preserves_of_usage hp hdown
  | teardown => exact preserves_teardown
  | bind _ _ ihp ihf => exact ihp.bind ihf
  | request _ ih =>
    exact preserves_gated (fun _ _ _ h => ⟨course_write (face_mapGate _ _) h.1, h.2⟩)
      (fun _ _ _ h => ⟨course_amend (face_mapGate _ _) h.1, h.2⟩) ih

theorem paired_at (h : Reached .atWaits s.Handling Cell.fresh x) : Paired x.ledger.asked := by
  have hopened : s.PairedCourse 0 (.opened .fresh) := ⟨course_opened, paired_nil⟩
  obtain ⟨_, _, ⟨_, hpaired⟩, _⟩ :=
    shared_of_reached hopened (fun _ _ hp => preserves_handling hp) h
  exact hpaired

/-! ## Every moment -/

/-- The platforms that the host was asked to set up until a moment, with their registrations. -/
def forwarded (x : Moment Cell) : List (Registration × Platform) :=
  x.ledger.asked.filterMap Query.forwarded?

theorem filterMap_forwarded (asked : List Query) :
    (asked.filter Query.hooksIn).filterMap Query.forwarded? = asked.filterMap Query.forwarded? := by
  rw [List.filterMap_filter]
  congr 1
  funext q
  cases q <;> rfl

theorem forwarded_eq (h : Reached .atWaits s.Usage Cell.fresh x) :
    forwarded x = if wasAuthorized x then Platform.all.map (s.registration, ·) else [] := by
  obtain ⟨ph, hkept⟩ := course_at h
  rw [wasAuthorized_eq hkept, forwarded, ← filterMap_forwarded, hkept.hooks]
  cases ph.hooked <;> rfl

/-- Each platform is set up once, for the registration of the session and no other. -/
theorem count_forwarded (h : Reached .atWaits s.Usage Cell.fresh x) (registration : Registration)
    (platform : Platform) : (forwarded x).count (registration, platform) =
      if wasAuthorized x ∧ registration = s.registration then 1 else 0 := by
  rw [forwarded_eq h]
  cases wasAuthorized x with
  | false => simp
  | true =>
    by_cases hmine : registration = s.registration
    · subst hmine
      cases platform <;> simp [Platform.all]
    · simp [Platform.all, hmine, List.count_eq_zero]

theorem isSome_ready_eq (h : Reached .atWaits s.Usage Cell.fresh x) :
    x.cell.ready.isSome = wasAuthorized x := by
  obtain ⟨ph, hkept⟩ := course_at h
  rw [← isSome_facts_eq hkept, Cell.facts, Option.isSome_map]

end Session

/-- However tasks use a session and take it down, and however they take turns: if it was ever
loaded, the host was asked to set up each platform once, and otherwise none. Platforms are unloaded
only once they were set up. A teardown that begins now withdraws the scene service if the session
was ever loaded, has each of those platforms unloaded, and waits for all of them, whatever is
answered; it is a success unless an answer says no. If the session never was loaded, the teardown is
a success at once, and says nothing to anybody. No teardown ever changes the session. -/
theorem setup_and_teardown_pair_up (s : Session) {x : Moment Cell}
    (h : Reached .atWaits s.Handling Cell.fresh x) :
    (∀ registration platform, (Session.forwarded x).count (registration, platform) =
      if Session.wasAuthorized x ∧ registration = s.registration then 1 else 0) ∧
    (∀ before registration platform after,
      x.ledger.asked = before ++ .forwardUnload registration platform :: after →
        .forwardSetup registration platform ∈ before) ∧
    (∃ p l', (∀ p' l'', Stretch .atWaits s.teardown x.ledger p' l'' ↔ p' = p ∧ l'' = l') ∧
      l'.cell = x.cell ∧
      if Session.wasAuthorized x then ∃ platforms : List Platform,
        platforms.map (s.registration, ·) = Session.forwarded x ∧
        l'.asked = x.ledger.asked ++
          .removeSceneService :: platforms.map (.forwardUnload s.registration) ∧
        ∀ ds r, Leads p ds (.done r) ↔ ∃ answer : Platform → Option Bool,
          ds = platforms.map (fun platform =>
            .event (.called (.unloaded s.registration platform) (answer platform))) ∧
          r = decide (∀ platform ∈ platforms, answer platform ≠ some false)
      else l'.asked = x.ledger.asked ∧ p = .done true) ∧
    ∀ ds p, Leads s.teardown ds p → (∀ d ∈ ds, ∀ l l', d.On l l' → l'.cell = l.cell) ∧
      ∀ undo ∈ p.onDrop, undo = id := by
  have husage : Reached .atWaits s.Usage Cell.fresh x :=
    h.mono fun _ _ hp => Session.usage_of_handling hp
  have hforwarded := Session.forwarded_eq husage
  refine ⟨Session.count_forwarded husage, Session.paired_at h, ?_,
    fun ds p hleads => Session.harmless_of_teardown hleads⟩
  have hready : x.ledger.cell.ready.isSome = Session.wasAuthorized x :=
    Session.isSome_ready_eq husage
  have hstretch : ∀ p' l'', Stretch .atWaits s.teardown x.ledger p' l'' ↔ _ :=
    fun _ _ => Session.stretch_teardown_iff
  cases hwas : Session.wasAuthorized x with
  | true =>
    simp only [hready, hwas, if_true] at hstretch
    refine ⟨_, _, hstretch, rfl, Platform.all, ?_, ?_, fun ds r => ?_⟩
    · rw [hforwarded, hwas, if_pos rfl]
    · simp only [List.append_assoc, List.singleton_append]
    · exact Session.leads_unloading (by decide)
  | false =>
    simp only [hready, hwas, Bool.false_eq_true, if_false] at hstretch
    exact ⟨_, _, hstretch, rfl, rfl, rfl⟩

/-- The session was rejected, and one platform was not unloaded when it was taken down. It is taken
down once more, and this time everything goes well. -/
theorem setup_and_teardown_pair_up_after_a_rejection : ∃ x y,
    Reached .atWaits guestSession.Handling Cell.fresh x ∧ x.cell.state = .authFailed ∧
    Reached .atWaits guestSession.Handling Cell.fresh y ∧ y.cell = x.cell ∧
    y.tasks = x.tasks ++ [⟨guestSession.teardown, x.cell, some (.done false)⟩] ∧
    ∃ p l', Stretch .atWaits guestSession.teardown y.ledger p l' ∧ l'.cell = x.cell ∧
      ∃ platforms : List Platform,
        platforms.map (guestSession.registration, ·) = Session.forwarded y ∧
        l'.asked = y.ledger.asked ++
          .removeSceneService :: platforms.map (.forwardUnload guestSession.registration) ∧
        Leads p (platforms.map fun platform =>
          .event (.called (.unloaded guestSession.registration platform) none)) (.done true) := by
  obtain ⟨x, hx, hstate, hwas⟩ :=
    reached_guestRejected guestSession.handling_setup guestSession.handling_markUnauthorized
  have hready := Session.isSome_ready_eq (hx.mono fun _ _ hp => Session.usage_of_handling hp)
  rw [hwas] at hready
  obtain ⟨ledger, tasks⟩ := x
  have hready : ledger.cell.ready.isSome = true := hready
  -- The first teardown is answered that one platform was not unloaded.
  have hbegun : Stretch .atWaits guestSession.teardown ledger _ _ :=
    Session.stretch_teardown_iff.mpr (by rw [if_pos hready]; exact ⟨rfl, rfl⟩)
  have hwaits := Reached.turn hx (.arrive .teardown hbegun)
  have hfirst := Reached.turn hwaits (.resume (.call _ _ _ _ (some true)) (.rest rfl))
  have hsecond := Reached.turn hfirst (.resume (.call _ _ _ _ (some false)) (.rest rfl))
  have hy := Reached.turn hsecond (.resume (.call _ _ _ _ none) (.rest rfl))
  have hready' := Session.isSome_ready_eq (hy.mono fun _ _ hp => Session.usage_of_handling hp)
  obtain ⟨_, _, ⟨p', l', hbegins, hcell, hloaded⟩, _⟩ := setup_and_teardown_pair_up guestSession hy
  rw [if_pos (hready'.symm.trans hready)] at hloaded
  obtain ⟨platforms, hplatforms, hasked, hleads⟩ := hloaded
  refine ⟨_, _, hx, hstate, hy, rfl, rfl, p', l', (hbegins _ _).mpr ⟨rfl, rfl⟩, hcell, platforms,
    hplatforms, hasked, (hleads _ _).mpr ⟨fun _ => none, rfl, ?_⟩⟩
  simp

end HueLink
