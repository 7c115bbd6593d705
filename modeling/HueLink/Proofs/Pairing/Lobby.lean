-- Many flows side by side. A flow that is announced claims a host and a bridge id, and is rejected
-- if another flow is about either of them, so that no two flows are ever bound to one bridge.
import HueLink.Proofs.Pairing.Forms

namespace HueLink.Pairing

open Routine

/-- An announcement is turned away by this answer. -/
def FlowResult.isRejection : FlowResult → Bool
  | abort reason => reason ∈ [.notHueBridge, .alreadyInProgress, .alreadyConfigured]
  | form _ _ _ | entry _ => false

variable {submitted : Bool} {f f' : Flow} {es : List (Event Flow)} {r : FlowResult}

/-! ## Steps without an announcement -/

/-- The flow keeps its id, and its bond to a bridge for as long as it goes on. -/
structure KeepsBond (f : Flow) (r : FlowResult) (f' : Flow) : Prop where
  id : f'.context.id = f.context.id
  bond : r.isForm → f'.context.uniqueId = f.context.uniqueId
  accepted : r.isRejection = false

theorem keepsBond_of_no_form (hid : f'.context.id = f.context.id) (hform : r.isForm = false)
    (haccepted : r.isRejection = false) : KeepsBond f r f' := by
  refine ⟨hid, ?_, haccepted⟩
  intro h
  rw [hform] at h
  exact nomatch h

theorem keepsBond_completion {linked : LinkedBridge} (h : Completion linked f es r f') :
    KeepsBond f r f' := by
  cases h with
  | entry _ _ => exact keepsBond_of_no_form rfl rfl rfl

theorem keepsBond_link (h : LinkWay submitted f es r f') : KeepsBond f r f' := by
  cases h with
  | hostless _ => exact keepsBond_of_no_form rfl rfl rfl
  | refused _ _ => exact ⟨rfl, fun _ => rfl, rfl⟩
  | linked _ _ hentry =>
    have hkeeps := keepsBond_completion hentry
    exact ⟨hkeeps.id, hkeeps.bond, hkeeps.accepted⟩

theorem keepsBond_init {selection : Option HostSelection} (h : InitWay f selection es r f') :
    KeepsBond f r f' := by
  cases h with
  | chosen hlink | single _ hlink =>
    have hkeeps := keepsBond_link hlink
    exact ⟨hkeeps.id, hkeeps.bond, hkeeps.accepted⟩
  | late | failed | nothing | configured => exact keepsBond_of_no_form rfl rfl rfl
  | several _ _ => exact ⟨rfl, fun _ => rfl, rfl⟩

theorem keepsBond_import {info : ImportInfo} (h : ImportWay info f es r f') :
    KeepsBond f r f' := by
  cases h with
  | unreached _ _ => exact keepsBond_of_no_form rfl rfl rfl
  | imported _ _ hentry =>
    have hkeeps := keepsBond_completion hentry
    exact ⟨hkeeps.id, hkeeps.bond, hkeeps.accepted⟩
  | unauthorized _ _ hlink =>
    have hkeeps := keepsBond_link hlink
    exact ⟨hkeeps.id, hkeeps.bond, hkeeps.accepted⟩

theorem keepsBond_of_unannounced {entrance : Entrance} (h : Way entrance f es r f')
    (hnone : entrance.announced = none) : KeepsBond f r f' := by
  cases h with
  | user h | init h => exact keepsBond_init h
  | link h => exact keepsBond_link h
  | spurious | ssdp | homekit => exact nomatch hnone
  | known h => exact keepsBond_import h

/-! ## Announcements -/

theorem claim_of_announced {entrance : Entrance} {host id : String} (h : Way entrance f es r f')
    (hann : entrance.announced = some (host, id)) :
    (es = [] ∧ r = .abort .notHueBridge ∧ f' = f.enter .aborted) ∨
      ∃ announcedId path, id = BridgeId.normalize announcedId ∧
        ClaimWay host announcedId path (f.enter .discovered) es r f' := by
  cases h with
  | user | init | link | known => exact nomatch hann
  | spurious _ => exact Or.inl ⟨rfl, rfl, rfl⟩
  | ssdp _ h | homekit h =>
    simp only [Entrance.announced, Option.some.injEq, Prod.mk.injEq] at hann
    obtain ⟨rfl, rfl⟩ := hann
    exact Or.inr ⟨_, _, rfl, h⟩

theorem tried_of_import {info : ImportInfo} (h : ImportWay info f es r f') :
    info.host ∈ tried es := by
  have hmem : ∀ {es₂ : List (Event Flow)} {home : HomeName} {username : Option String}
      {answer : Except BridgeError LinkedBridge}, Exchange.Way info.host home username es₂ answer →
      ∀ es₁ es₃, info.host ∈ tried (es₁ ++ .asked .locationName home :: (es₂ ++ es₃)) := by
    intro es₂ home username answer hway es₁ es₃
    have htried := tried_of_exchange hway
    have hsplit : tried (.asked .locationName home :: (es₂ ++ es₃)) = tried es₂ ++ tried es₃ :=
      tried_append es₂ es₃
    rw [tried_append, hsplit, htried]
    simp
  cases h with
  | unreached _ hway => simpa using hmem hway _ []
  | imported _ hway _ => exact hmem hway _ _
  | unauthorized _ hway _ => exact hmem hway _ _

/-! ## The flows in progress -/

/-- What a step is told of the flows in progress is how the others stand. Of the flow itself it may
be told anything. -/
def Reports (f : Flow) (others : List Flow) (es : List (Event Flow)) : Prop :=
  ∀ flows, .asked .flowsInProgress flows ∈ es → ∀ c : FlowContext, c.id ≠ f.context.id →
    (c ∈ flows ↔ c ∈ others.map (·.context))

/-- The flows in progress after any number of flows began, took steps and went, with one step at a
time. A flow goes with an entry or an abort, or because it is dropped. -/
inductive Lobby : List Flow → Prop where
  | empty : Lobby []
  | began {live : List Flow} {id : Uuid} (source : FlowSource) : Lobby live →
      (∀ f ∈ live, f.context.id ≠ id) → Lobby (live ++ [Flow.begin id source])
  | stepped {before after : List Flow} {f f' : Flow} {entrance : Entrance} {es : List (Event Flow)}
    {r : FlowResult} : Lobby (before ++ f :: after) → Passage Eq entrance.step f es r f' →
      Reports f (before ++ after) es →
      Lobby (before ++ (if r.isForm then f' :: after else after))
  | dropped {before after : List Flow} (f : Flow) : Lobby (before ++ f :: after) →
      Lobby (before ++ after)

/-- The bridges that flows are bound to. -/
def bonds (live : List Flow) : List String := live.filterMap (·.context.uniqueId)

/-- No two flows have one id, and no two are bound to one bridge. -/
structure Exclusive (live : List Flow) : Prop where
  ids : (live.map (·.context.id)).Nodup
  bonds : (bonds live).Nodup

variable {before after others live : List Flow}

theorem mem_bonds {id : String} : id ∈ bonds live ↔ ∃ g ∈ live, g.context.uniqueId = some id := by
  unfold bonds
  rw [List.mem_filterMap]

theorem exclusive_middle :
    Exclusive (before ++ f :: after) ↔ Exclusive (f :: (before ++ after)) := by
  have hperm : (before ++ f :: after).Perm (f :: (before ++ after)) := List.perm_middle
  have hids := (hperm.map (·.context.id)).nodup_iff
  have hbonds := (hperm.filterMap (·.context.uniqueId)).nodup_iff
  constructor
  · intro h
    exact ⟨hids.mp h.ids, hbonds.mp h.bonds⟩
  · intro h
    exact ⟨hids.mpr h.ids, hbonds.mpr h.bonds⟩

/-- Nothing that identifies the flow is shared with one of the others. -/
structure Flow.Alone (f : Flow) (others : List Flow) : Prop where
  id : ∀ g ∈ others, g.context.id ≠ f.context.id
  bond : ∀ g ∈ others, ∀ id, f.context.uniqueId = some id → g.context.uniqueId ≠ some id

theorem exclusive_cons : Exclusive (f :: others) ↔ f.Alone others ∧ Exclusive others := by
  constructor
  · intro h
    have hids := h.ids
    have hbonds := h.bonds
    rw [List.map_cons, List.nodup_cons] at hids
    refine ⟨⟨?_, ?_⟩, hids.2, ?_⟩
    · intro g hg heq
      exact hids.1 (heq ▸ List.mem_map_of_mem hg)
    · intro g hg id hf hgid
      simp only [bonds, List.filterMap_cons, hf, List.nodup_cons] at hbonds
      exact hbonds.1 (mem_bonds.mpr ⟨g, hg, hgid⟩)
    · exact hbonds.sublist ((List.sublist_cons_self f others).filterMap _)
  · rintro ⟨halone, h⟩
    refine ⟨?_, ?_⟩
    · rw [List.map_cons, List.nodup_cons]
      refine ⟨?_, h.ids⟩
      intro hmem
      obtain ⟨g, hg, heq⟩ := List.mem_map.mp hmem
      exact halone.id g hg heq
    · unfold bonds
      cases hf : f.context.uniqueId with
      | none =>
        simp only [List.filterMap_cons, hf]
        exact h.bonds
      | some id =>
        simp only [List.filterMap_cons, hf, List.nodup_cons]
        refine ⟨?_, h.bonds⟩
        intro hmem
        obtain ⟨g, hg, hgid⟩ := mem_bonds.mp hmem
        exact halone.bond g hg id hf hgid

/-! ## One step among others -/

theorem meets_iff (hreports : Reports f others es) {flows : List FlowContext}
    (hasked : .asked .flowsInProgress flows ∈ es) (halone : f.Alone others)
    {like : FlowContext → Prop} : f.Meets flows like ↔ ∃ g ∈ others, like g.context := by
  unfold Flow.Meets
  constructor
  · rintro ⟨c, hc, hother, hlike⟩
    have hmem := (hreports flows hasked c hother).mp hc
    obtain ⟨g, hg, rfl⟩ := List.mem_map.mp hmem
    exact ⟨g, hg, hlike⟩
  · rintro ⟨g, hg, hlike⟩
    have hother := halone.id g hg
    have hmem := (hreports flows hasked g.context hother).mpr (List.mem_map_of_mem hg)
    exact ⟨g.context, hmem, hother, hlike⟩

theorem Flow.Alone.enter {state : FlowState} (h : f.Alone others) :
    (f.enter state).Alone others := ⟨h.id, h.bond⟩

theorem reports_talk (h : Reports f others es) : Reports f others (talk es) := by
  intro flows hasked
  exact h flows (List.mem_of_mem_filter hasked)

/-! ## Claims among others -/

theorem alone_of_claim {host announcedId : String} {path : Option String}
    (h : ClaimWay host announcedId path f es r f') (hform : r.isForm)
    (hreports : Reports f others es) (halone : f.Alone others) : f'.Alone others := by
  cases h with
  | hostTaken | configured | idTaken => exact nomatch hform
  | claimed _ _ hfree himport =>
    -- The flow is bound before anything else can happen, so the last check still holds.
    rw [meets_iff hreports (by simp) halone] at hfree
    have hkeeps := keepsBond_import himport
    refine ⟨?_, ?_⟩
    · rw [hkeeps.id]
      exact halone.id
    · rw [hkeeps.bond hform]
      intro g hg id hid hgbond
      obtain rfl : BridgeId.normalize announcedId = id := Option.some.inj hid
      exact hfree ⟨g, hg, hgbond⟩

theorem alone_of_way {entrance : Entrance} (h : Way entrance f es r f') (hform : r.isForm)
    (hreports : Reports f others es) (halone : f.Alone others) : f'.Alone others := by
  cases hann : entrance.announced with
  | none =>
    have hkeeps := keepsBond_of_unannounced h hann
    refine ⟨?_, ?_⟩
    · rw [hkeeps.id]
      exact halone.id
    · rw [hkeeps.bond hform]
      exact halone.bond
  | some claim =>
    rcases claim_of_announced h hann with ⟨_, rfl, _⟩ | ⟨announcedId, path, _, hclaim⟩
    · exact nomatch hform
    · exact alone_of_claim hclaim hform hreports halone.enter

theorem tried_of_claim {host announcedId : String} {path : Option String}
    (h : ClaimWay host announcedId path f es r f') : tried es = [] ↔ r.isRejection = true := by
  cases h with
  | hostTaken | configured | idTaken => simp [tried, FlowResult.isRejection]
  | @claimed flows flows' store es' _ _ _ _ _ himport =>
    have haccepted := (keepsBond_import himport).accepted
    have htried : tried (.asked .flowsInProgress flows :: .asked .registrations store ::
        .asked .flowsInProgress flows' :: es') ≠ [] := by
      have hmem := tried_of_import himport
      exact List.ne_nil_of_mem hmem
    simp [haccepted, htried]

theorem free_of_claim {host announcedId : String} {path : Option String}
    (h : ClaimWay host announcedId path f es r f') (haccepted : r.isRejection = false)
    (hreports : Reports f others es) (halone : f.Alone others) :
    (∀ g ∈ others, g.context.host ≠ some host ∧
      g.context.uniqueId ≠ some (BridgeId.normalize announcedId)) ∧
    ∃ flows store flows' es', es = .asked .flowsInProgress flows :: .asked .registrations store ::
      .asked .flowsInProgress flows' :: es' ∧ ∀ record ∈ store, record.host ≠ host := by
  cases h with
  | hostTaken | configured | idTaken => simp [FlowResult.isRejection] at haccepted
  | @claimed flows flows' store es' _ _ hhost hstore hbond _ =>
    rw [meets_iff hreports (by simp) halone] at hhost hbond
    refine ⟨?_, flows, store, flows', es', rfl, ?_⟩
    · intro g hg
      refine ⟨?_, ?_⟩
      · intro hghost
        exact hhost ⟨g, hg, hghost⟩
      · intro hgbond
        exact hbond ⟨g, hg, hgbond⟩
    · intro record hrecord
      simp only [isConfigured, List.any_eq_false, beq_iff_eq] at hstore
      exact hstore record hrecord

theorem taken_of_claim {host announcedId : String} {path : Option String}
    (h : ClaimWay host announcedId path f es (.abort .alreadyInProgress) f')
    (hreports : Reports f others es) (halone : f.Alone others) :
    ∃ g ∈ others, g.context.host = some host ∨
      g.context.uniqueId = some (BridgeId.normalize announcedId) := by
  cases h with
  | hostTaken hmeets =>
    rw [meets_iff hreports (by simp) halone] at hmeets
    obtain ⟨g, hg, hhost⟩ := hmeets
    exact ⟨g, hg, Or.inl hhost⟩
  | idTaken _ _ hmeets =>
    rw [meets_iff hreports (by simp) halone] at hmeets
    obtain ⟨g, hg, hbond⟩ := hmeets
    exact ⟨g, hg, Or.inr hbond⟩
  | claimed _ _ _ himport =>
    have haccepted := (keepsBond_import himport).accepted
    simp [FlowResult.isRejection] at haccepted

/-! ## Any number of steps -/

theorem exclusive_stepped {entrance : Entrance} (h : Exclusive (before ++ f :: after))
    (hstep : Passage Eq entrance.step f es r f') (hreports : Reports f (before ++ after) es) :
    Exclusive (before ++ (if r.isForm then f' :: after else after)) := by
  obtain ⟨halone, hothers⟩ := exclusive_cons.mp (exclusive_middle.mp h)
  split
  · rename_i hform
    have halone' := alone_of_way (way_of_passage hstep) hform (reports_talk hreports) halone
    exact exclusive_middle.mpr (exclusive_cons.mpr ⟨halone', hothers⟩)
  · exact hothers

theorem exclusive_of_lobby (h : Lobby live) : Exclusive live := by
  induction h with
  | empty => exact ⟨List.nodup_nil, List.nodup_nil⟩
  | began source _ hnew ih =>
    rw [exclusive_middle, List.append_nil, exclusive_cons]
    refine ⟨⟨hnew, ?_⟩, ih⟩
    intro g hg id hid
    exact nomatch hid
  | stepped _ hstep hreports ih => exact exclusive_stepped ih hstep hreports
  | dropped f _ ih => exact (exclusive_cons.mp (exclusive_middle.mp ih)).2

/-- Whatever flows begin, take steps and go, no two of them have one id or are bound to one bridge.
An announcement that is not turned away leads its flow to a host that no other flow is about and no
record is for, and to an id that no other flow is bound to. And a flow is turned away as already in
progress only if there is another one about the host or bound to the bridge, never on account of
itself. -/
theorem announced_flows_are_exclusive (h : Lobby live) :
    (live.map (·.context.id)).Nodup ∧ (bonds live).Nodup ∧
    ∀ before f after, live = before ++ f :: after → ∀ (entrance : Entrance) es r f',
      Passage Eq entrance.step f es r f' → Reports f (before ++ after) es →
      (∀ host id, entrance.announced = some (host, id) →
        (tried es = [] ↔ r.isRejection) ∧
        (r.isRejection = false →
          (∀ g ∈ before ++ after, g.context.host ≠ some host ∧ g.context.uniqueId ≠ some id) ∧
          ∃ flows store flows' es', talk es = .asked .flowsInProgress flows ::
              .asked .registrations store :: .asked .flowsInProgress flows' :: es' ∧
            ∀ record ∈ store, record.host ≠ host)) ∧
      (r = .abort .alreadyInProgress → ∃ host id, entrance.announced = some (host, id) ∧
        ∃ g ∈ before ++ after, g.context.host = some host ∨ g.context.uniqueId = some id) := by
  have hexclusive := exclusive_of_lobby h
  refine ⟨hexclusive.ids, hexclusive.bonds, ?_⟩
  rintro before f after rfl entrance es r f' hstep hreports
  obtain ⟨halone, _⟩ := exclusive_cons.mp (exclusive_middle.mp hexclusive)
  have hway := way_of_passage hstep
  have htold := reports_talk hreports
  refine ⟨?_, ?_⟩
  · intro host id hann
    rw [← tried_talk]
    rcases claim_of_announced hway hann with ⟨hsilent, rfl, _⟩ | ⟨announcedId, path, rfl, hclaim⟩
    · rw [hsilent]
      simp [tried, FlowResult.isRejection]
    · refine ⟨tried_of_claim hclaim, ?_⟩
      intro haccepted
      exact free_of_claim hclaim haccepted htold halone.enter
  · rintro rfl
    cases hann : entrance.announced with
    | none =>
      have haccepted := (keepsBond_of_unannounced hway hann).accepted
      simp [FlowResult.isRejection] at haccepted
    | some announced =>
      obtain ⟨host, id⟩ := announced
      rcases claim_of_announced hway hann with ⟨_, hr, _⟩ | ⟨announcedId, path, rfl, hclaim⟩
      · simp at hr
      · exact ⟨host, _, rfl, taken_of_claim hclaim htold halone.enter⟩

/-! ## One bridge announced to two flows -/

/-- A flow that was told of a bridge whose button nobody pressed. -/
def announcedFlow : Flow :=
  ⟨⟨default, .homekit, some "192.168.1.2", some "001788fffe23"⟩, some "192.168.1.2", .link⟩

def latecomer : Flow := Flow.begin (Uuid.ofNat 1) .homekit

/-- The announcement of the bridge. -/
def sameBridge : Entrance := .homekit ⟨"192.168.1.2", "00:17:88:ff:fe:23"⟩

/-- Surroundings that list the flows in progress report them. -/
theorem reports_unpressed {entrance : Entrance} {store : List Registration} :
    Reports f (before ++ after) (entrance.recorded (unpressed (before ++ f :: after)) f store) := by
  intro flows hasked c hother
  obtain ⟨w, rfl⟩ := answeredBy_record _ _ _ _ _ hasked
  -- The flow itself is listed too, but `c` is the context of another one.
  change c ∈ (before ++ f :: after).map (·.context) ↔ _
  have hown : c ≠ f.context := fun heq => hother (heq ▸ rfl)
  simp [hown]

theorem lobby_announced : Lobby [announcedFlow, latecomer] := by
  have hfirst : Lobby [Flow.begin default .homekit] := @Lobby.began [] _ _ .empty (by simp)
  have hboth : Lobby [Flow.begin default .homekit, latecomer] := by
    refine @Lobby.began [Flow.begin default .homekit] _ _ hfirst ?_
    intro f hf
    rw [List.mem_singleton.mp hf]
    decide
  have hstep : Passage Eq sameBridge.step (Flow.begin default .homekit) _ (.form .link [] none)
      announcedFlow :=
    @passage_recorded _ _ _ _ (unpressed [Flow.begin default .homekit, latecomer]) [] 40 (by cbv)
  exact @Lobby.stepped [] [latecomer] _ _ _ _ _ hboth hstep reports_unpressed

/-- What the second flow meets when it is told of the bridge, and the first one when it is told
again. -/
def toldLate : List (Event Flow) :=
  sameBridge.recorded (unpressed [announcedFlow, latecomer]) latecomer []

def toldAgain : List (Event Flow) :=
  sameBridge.recorded (unpressed [announcedFlow, latecomer]) announcedFlow []

theorem announced_flows_are_exclusive_at_a_repeated_announcement :
    Lobby [announcedFlow, latecomer] ∧
    (Passage Eq sameBridge.step latecomer toldLate (.abort .alreadyInProgress)
        ((latecomer.about "192.168.1.2").enter .aborted) ∧
      Reports latecomer [announcedFlow] toldLate) ∧
    (Passage Eq sameBridge.step announcedFlow toldAgain (.form .link [] none) announcedFlow ∧
      Reports announcedFlow [latecomer] toldAgain) ∧
    bonds [announcedFlow, latecomer] = ["001788fffe23"] ∧
    (bonds [announcedFlow, latecomer]).Nodup ∧
    (∃ host id, sameBridge.announced = some (host, id) ∧
      ∃ g ∈ [announcedFlow], g.context.host = some host ∨ g.context.uniqueId = some id) ∧
    ∀ g ∈ [latecomer],
      g.context.host ≠ some "192.168.1.2" ∧ g.context.uniqueId ≠ some "001788fffe23" := by
  have hlate : Passage Eq sameBridge.step latecomer toldLate (.abort .alreadyInProgress)
      ((latecomer.about "192.168.1.2").enter .aborted) :=
    passage_recorded (t := 0) (by cbv)
  have hagain : Passage Eq sameBridge.step announcedFlow toldAgain (.form .link [] none)
      announcedFlow :=
    passage_recorded (t := 40) (by cbv)
  have hreports : Reports latecomer [announcedFlow] toldLate :=
    @reports_unpressed latecomer [announcedFlow] [] _ _
  have hreports' : Reports announcedFlow [latecomer] toldAgain :=
    @reports_unpressed announcedFlow [] [latecomer] _ _
  obtain ⟨_, hbonds, hlaw⟩ := announced_flows_are_exclusive lobby_announced
  obtain ⟨_, htaken⟩ := hlaw [announcedFlow] latecomer [] rfl _ _ _ _ hlate hreports
  obtain ⟨hfree, _⟩ := hlaw [] announcedFlow [latecomer] rfl _ _ _ _ hagain hreports'
  obtain ⟨_, hpassed⟩ := hfree "192.168.1.2" "001788fffe23" (by cbv)
  exact ⟨lobby_announced, ⟨hlate, hreports⟩, ⟨hagain, hreports'⟩, rfl, hbonds, htaken rfl,
    (hpassed rfl).1⟩

end HueLink.Pairing
