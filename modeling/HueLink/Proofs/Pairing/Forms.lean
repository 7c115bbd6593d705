-- What a step answers, where it leaves the flow, and which host the flow is about. The three never
-- come apart, in whatever order the steps of a flow are taken.
import HueLink.Proofs.Pairing.Ways
import HueLink.Proofs.Registration.Store

namespace HueLink.Pairing

open Routine

/-! ## One step -/

/-- The answer belongs to this state: the two forms, an entry and an abort each have their own. -/
def FlowResult.Fits : FlowResult → FlowState → Prop
  | form .init hosts error, state => state = .discoveryResult ∧ 2 ≤ hosts.length ∧ error = none
  | form .link hosts _, state => state = .link ∧ hosts = []
  | entry _, state => state = .complete
  | abort _, state => state = .aborted

def FlowResult.isForm : FlowResult → Bool
  | form _ _ _ => true
  | entry _ | abort _ => false

/-- The step was entered by submitting the link form. -/
def Entrance.submitted : Entrance → Bool
  | link submitted => submitted
  | user _ | init _ | ssdp _ | homekit _ | known _ => false

/-- The hosts that were tried, in order. -/
def tried (es : List (Event Flow)) : List String :=
  es.filterMap fun
    | .asked (.connect host _) _ => some host
    | _ => none

/-- The host that the link step tries is the one the flow is about. -/
def Flow.Agrees (f : Flow) : Prop := f.candidate = f.context.host

/-- What is in order after a step, if it was in order before that the flow `agreed`. -/
structure InOrder (submitted : Bool) (agreed : Prop) (es : List (Event Flow)) (r : FlowResult)
    (f' : Flow) : Prop where
  fits : r.Fits f'.state
  shown : ∀ step hosts error, r = .form step hosts error → error.isSome = submitted
  agrees : agreed → r.isForm → f'.Agrees
  tried : ∀ hosts error, r = .form .link hosts error →
    f'.candidate.isSome ∧ f'.candidate = (tried es).getLast?

variable {submitted : Bool} {agreed agreed' : Prop} {f f' : Flow} {es es' : List (Event Flow)}
  {r : FlowResult}

theorem tried_append (es es' : List (Event Flow)) : tried (es ++ es') = tried es ++ tried es' :=
  List.filterMap_append ..

theorem tried_of_exchange {host : String} {home : HomeName} {username : Option String}
    {answer : Except BridgeError LinkedBridge} (h : Exchange.Way host home username es answer) :
    tried es = [host] := by
  cases h with
  | known hvalid => cases hvalid <;> rfl
  | late | refused => rfl
  | created hvalid => cases hvalid <;> rfl

/-- A step that ends without a form is in order if its answer fits. -/
theorem inOrder_of_no_form (hfits : r.Fits f'.state) (hform : r.isForm = false) :
    InOrder submitted agreed es r f' := by
  have hno : ∀ step hosts error, r ≠ .form step hosts error := by
    rintro step hosts error rfl
    exact nomatch hform
  refine ⟨hfits, ?_, ?_, ?_⟩
  · intro step hosts error hr
    exact absurd hr (hno _ _ _)
  · intro _ hr
    rw [hform] at hr
    exact nomatch hr
  · intro hosts error hr
    exact absurd hr (hno _ _ _)

theorem inOrder_completion {linked : LinkedBridge} (h : Completion linked f es' r f') :
    InOrder submitted agreed es r f' := by
  cases h with
  | entry _ _ => exact inOrder_of_no_form rfl rfl

/-- What came before the last part of a step is of no matter. -/
theorem InOrder.after (h : InOrder submitted agreed' es' r f') (before : List (Event Flow))
    (hagreed : agreed → agreed') : InOrder submitted agreed (before ++ es') r f' := by
  refine ⟨h.fits, h.shown, fun ha => h.agrees (hagreed ha), ?_⟩
  intro hosts error hr
  obtain ⟨hsome, hlast⟩ := h.tried hosts error hr
  refine ⟨hsome, ?_⟩
  rw [tried_append, List.getLast?_append, ← hlast]
  exact (Option.or_of_isSome hsome).symm

theorem inOrder_link (h : LinkWay submitted f es r f') : InOrder submitted f.Agrees es r f' := by
  cases h with
  | hostless _ => exact inOrder_of_no_form rfl rfl
  | @refused host home es e hhost hway =>
    refine ⟨⟨rfl, rfl⟩, ?_, fun hf _ => hf, ?_⟩
    · intro step hosts error hr
      simp only [FlowResult.form.injEq] at hr
      rw [← hr.2.2]
      cases submitted <;> rfl
    · intro hosts error hr
      have htried := tried_of_exchange hway
      change f.candidate.isSome ∧ f.candidate = (tried es).getLast?
      rw [htried, hhost]
      exact ⟨rfl, rfl⟩
  | linked _ _ hentry => exact inOrder_completion hentry

theorem inOrder_init {selection : Option HostSelection} (h : InitWay f selection es r f') :
    InOrder false f.Agrees es r f' := by
  cases h with
  | chosen hlink => exact (inOrder_link hlink).after [] fun _ => rfl
  | late | failed | nothing | configured => exact inOrder_of_no_form rfl rfl
  | single _ hlink => exact (inOrder_link hlink).after [_, _] fun _ => rfl
  | several _ htwo =>
    refine ⟨⟨rfl, htwo, rfl⟩, ?_, fun hf _ => hf, ?_⟩
    · intro step hosts error hr
      simp only [FlowResult.form.injEq] at hr
      rw [← hr.2.2]
      rfl
    · intro hosts error hr
      exact nomatch hr

theorem inOrder_import {info : ImportInfo} (h : ImportWay info f es r f') :
    InOrder false agreed es r f' := by
  cases h with
  | unreached _ _ => exact inOrder_of_no_form rfl rfl
  | imported _ _ hentry => exact inOrder_completion hentry
  | @unauthorized home _ es₁ es₂ es₃ _ _ _ _ hlink =>
    -- The host was tried before, and the link step tries it once more.
    have hlast : InOrder false agreed ((es₁ ++ .asked .locationName home :: es₂) ++ es₃) r f' :=
      (inOrder_link hlink).after _ fun _ => rfl
    rwa [List.append_assoc, List.cons_append] at hlast

theorem inOrder_claim {host announcedId : String} {path : Option String}
    (h : ClaimWay host announcedId path f es r f') : InOrder false agreed es r f' := by
  cases h with
  | hostTaken | configured | idTaken => exact inOrder_of_no_form rfl rfl
  | claimed _ _ _ himport => exact (inOrder_import himport).after [_, _, _] id

theorem inOrder_way {entrance : Entrance} (h : Way entrance f es r f') :
    InOrder entrance.submitted f.Agrees es r f' := by
  cases h with
  | user h | init h => exact inOrder_init h
  | link h => exact inOrder_link h
  | spurious _ => exact inOrder_of_no_form rfl rfl
  | ssdp _ h | homekit h => exact inOrder_claim h
  | known h => exact inOrder_import h

theorem tried_talk (es : List (Event Flow)) : tried (talk es) = tried es := by
  unfold tried talk
  rw [List.filterMap_filter]
  congr 1
  funext e
  rcases e with _ | _ | ⟨q, a⟩ | _ | _ <;> try rfl
  cases q <;> rfl

theorem inOrder_passage {entrance : Entrance} (h : Passage Eq entrance.step f es r f') :
    InOrder entrance.submitted f.Agrees es r f' := by
  have hway := inOrder_way (way_of_passage h)
  refine ⟨hway.fits, hway.shown, hway.agrees, ?_⟩
  intro hosts error hr
  rw [← tried_talk]
  exact hway.tried hosts error hr

/-- A link step with a host to try never ends the flow without an entry. -/
theorem link_of_candidate (hhost : f.candidate.isSome) (h : LinkWay submitted f es r f') :
    ∀ reason, r ≠ .abort reason := by
  intro reason hr
  cases h with
  | hostless hnone =>
    rw [hnone] at hhost
    exact nomatch hhost
  | refused => exact nomatch hr
  | linked _ _ hentry =>
    cases hentry
    exact nomatch hr

/-! ## Steps one after another -/

/-- A step that was taken: the way in, all that happened, and the answer. -/
structure Visit where
  entrance : Entrance
  events : List (Event Flow)
  result : FlowResult

/-- Steps taken on a flow one after another, the latest last, with the flow they lead to. -/
inductive Visits (start : Flow) : List Visit → Flow → Prop where
  | none : Visits start [] start
  | visit {visits : List Visit} {f f' : Flow} {entrance : Entrance} {es : List (Event Flow)}
    {r : FlowResult} : Visits start visits f → Passage Eq entrance.step f es r f' →
      Visits start (visits ++ [⟨entrance, es, r⟩]) f'

theorem agrees_of_visits {start : Flow} {visits : List Visit} (h : Visits start visits f)
    (hstart : start.Agrees) (hforms : ∀ v ∈ visits, v.result.isForm) : f.Agrees := by
  induction h with
  | none => exact hstart
  | visit _ hstep ih =>
    have hlast := hforms _ (List.mem_append_right _ List.mem_cons_self)
    have hbefore := ih fun v hv => hforms v (List.mem_append_left _ hv)
    exact (inOrder_passage hstep).agrees hbefore hlast

theorem entrance_of_submitted {entrance : Entrance} :
    entrance.submitted = true ↔ entrance = .link true := by
  cases entrance <;> simp [Entrance.submitted]

/-- Each kind of answer has a state of its own, and each state after a step a kind of answer. -/
theorem FlowResult.Fits.iffs {state : FlowState} (h : r.Fits state) :
    ((∃ e, r = .entry e) ↔ state = .complete) ∧
    ((∃ reason, r = .abort reason) ↔ state = .aborted) ∧
    ((∃ hosts error, r = .form .init hosts error) ↔ state = .discoveryResult) ∧
    ((∃ hosts error, r = .form .link hosts error) ↔ state = .link) ∧
    (state ≠ .init ∧ state ≠ .discovered ∧ state ≠ .importing) := by
  rcases r with ⟨_ | _, hosts, error⟩ | e | reason
  · obtain ⟨rfl, _⟩ := h
    simp
  · obtain ⟨rfl, _⟩ := h
    simp
  · obtain rfl : state = .complete := h
    simp
  · obtain rfl : state = .aborted := h
    simp

/-- Whatever steps a flow has taken, and whatever the next one meets, its answer and the state it
leaves the flow in belong together. An error is shown exactly when the link form was submitted. And
as long as no step is taken after the end of a flow, the host that the next link step tries is the
one the flow is about, which after a link form is the one just tried. -/
theorem a_flow_never_drifts {start : Flow} {visits : List Visit} {entrance : Entrance}
    (h : Visits start visits f) (hstep : Passage Eq entrance.step f es r f') :
    ((∃ e, r = .entry e) ↔ f'.state = .complete) ∧
    ((∃ reason, r = .abort reason) ↔ f'.state = .aborted) ∧
    ((∃ hosts error, r = .form .init hosts error) ↔ f'.state = .discoveryResult) ∧
    ((∃ hosts error, r = .form .link hosts error) ↔ f'.state = .link) ∧
    (f'.state ≠ .init ∧ f'.state ≠ .discovered ∧ f'.state ≠ .importing) ∧
    (∀ hosts error, r = .form .init hosts error → 2 ≤ hosts.length ∧ error = none) ∧
    (∀ hosts error, r = .form .link hosts error → hosts = []) ∧
    (∀ step hosts error, r = .form step hosts (some error) → entrance = .link true) ∧
    (entrance = .link true → ∀ hosts error, r = .form .link hosts error → error.isSome) ∧
    ((∃ id source, start = Flow.begin id source) → (∀ v ∈ visits, v.result.isForm) → r.isForm →
      f'.candidate = f'.context.host ∧ ∀ hosts error, r = .form .link hosts error →
        ∃ host, f'.candidate = some host ∧ f'.context.host = some host ∧
          (tried es).getLast? = some host ∧
          ∀ submitted es' r' f'', Passage Eq (stepLink submitted) f' es' r' f'' →
            ∀ reason, r' ≠ .abort reason) := by
  have horder := inOrder_passage hstep
  obtain ⟨hentry, habort, hinit, hlink, htransient⟩ := horder.fits.iffs
  refine ⟨hentry, habort, hinit, hlink, htransient, ?_, ?_, ?_, ?_, ?_⟩
  · rintro hosts error rfl
    exact horder.fits.2
  · rintro hosts error rfl
    exact horder.fits.2
  · intro step hosts error hr
    have hshown := horder.shown _ _ _ hr
    exact entrance_of_submitted.mp hshown.symm
  · intro hsubmit hosts error hr
    rw [horder.shown _ _ _ hr]
    exact entrance_of_submitted.mpr hsubmit
  · rintro ⟨id, source, rfl⟩ hforms hform
    have hbefore : f.Agrees := agrees_of_visits h rfl hforms
    have hagrees : f'.candidate = f'.context.host := horder.agrees hbefore hform
    refine ⟨hagrees, ?_⟩
    intro hosts error hr
    obtain ⟨hsome, hlast⟩ := horder.tried _ _ hr
    obtain ⟨host, hhost⟩ := Option.isSome_iff_exists.mp hsome
    refine ⟨host, hhost, hagrees ▸ hhost, hlast ▸ hhost, ?_⟩
    intro submitted es' r' f'' hnext
    exact link_of_candidate hsome (passage_stepLink hnext)

/-! ## A button that nobody pressed -/

/-- What a flow finds around it: the flows in progress, a bridge whose button was pressed or not,
and the username in legacy files. -/
structure Occasion where
  live : List Flow
  pressed : Bool
  legacy : Option String

def Occasion.outside (x : Occasion) : Outside (Flow × List Registration) where
  answer
    | .flowsInProgress, w => (x.live.map (·.context), w)
    | .legacyUsername _ _, w => (x.legacy, w)
    | q, w => movedBridge.granted.answer q w
  receive
    | .createUser _ _, w =>
      ⟨w, some 20, fun w => (if x.pressed then .ok () else .error .linkButtonNotPressed, w)⟩
    | c, w => movedBridge.granted.receive c w

theorem apart_outside (x : Occasion) : Apart x.outside Place.beside := by
  constructor
  · intro f w
    rfl
  · intro q w
    cases q <;> rfl
  · intro c w
    cases c <;> rfl
  · intro c w w'
    cases c <;> rfl

/-- What happens in a step on a flow that is alone on such an occasion. -/
def Entrance.recorded (entrance : Entrance) (x : Occasion) (f : Flow) (store : List Registration) :
    List (Event Flow) :=
  entrance.step.record x.outside Place.beside 0 (f, store)

theorem passage_recorded {entrance : Entrance} {x : Occasion} {store : List Registration} {t : Nat}
    (h : entrance.step.run x.outside Place.beside 0 (f, store) = ⟨some r, t, (f', store)⟩) :
    Passage Eq entrance.step f (entrance.recorded x f store) r f' := by
  have hpassage := passage_of_run (apart_outside x) entrance.step (congrArg Outcome.result h)
  rw [h] at hpassage
  exact hpassage

def unpressed (live : List Flow) : Occasion := ⟨live, false, none⟩

/-- A flow that waits for the button of a bridge to be pressed. -/
def waitingForButton : Flow :=
  ⟨⟨default, .user, some "192.168.1.2", none⟩, some "192.168.1.2", .link⟩

/-- The host of the bridge is chosen by hand. -/
def chosen : Entrance := .user (some ⟨"192.168.1.2"⟩)

/-- The first step of the flow, which ends in the link form. -/
def chosenVisit : Visit :=
  ⟨chosen, chosen.recorded (unpressed []) (Flow.begin default .user) [], .form .link [] none⟩

/-- What happens when the form is submitted and the button is still not pressed. -/
def submittedEarly : List (Event Flow) :=
  (Entrance.link true).recorded (unpressed []) waitingForButton []

theorem a_flow_never_drifts_at_an_unpressed_button :
    Visits (Flow.begin default .user) [chosenVisit] waitingForButton ∧
    Passage Eq (Entrance.link true).step waitingForButton submittedEarly
      (.form .link [] (some .registerFailed)) waitingForButton ∧
    (tried submittedEarly).getLast? = some "192.168.1.2" ∧
    ∀ submitted es r f', Passage Eq (stepLink submitted) waitingForButton es r f' →
      ∀ reason, r ≠ .abort reason := by
  have hfirst : Passage Eq chosen.step (Flow.begin default .user) chosenVisit.events
      (.form .link [] none) waitingForButton :=
    passage_recorded (t := 20) (by cbv)
  have hsecond : Passage Eq (Entrance.link true).step waitingForButton submittedEarly
      (.form .link [] (some .registerFailed)) waitingForButton :=
    passage_recorded (t := 20) (by cbv)
  have hvisits : Visits (Flow.begin default .user) [chosenVisit] waitingForButton :=
    .visit .none hfirst
  have hforms : ∀ v ∈ [chosenVisit], v.result.isForm := by
    simp [chosenVisit, FlowResult.isForm]
  obtain ⟨_, _, _, _, _, _, _, _, _, hlast⟩ := a_flow_never_drifts hvisits hsecond
  obtain ⟨_, hlink⟩ := hlast ⟨default, .user, rfl⟩ hforms rfl
  obtain ⟨host, hhost, _, htried, hnext⟩ := hlink _ _ rfl
  obtain rfl : "192.168.1.2" = host := Option.some.inj hhost
  exact ⟨hvisits, hsecond, htried, hnext⟩

end HueLink.Pairing
