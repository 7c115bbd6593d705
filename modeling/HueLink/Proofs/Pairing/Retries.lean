-- Retries. The link step can be taken any number of times, with a bridge that behaves otherwise
-- each time. A try that fails leaves no trace in the flow, so the one that succeeds gives the entry
-- it would have given as the only one.
import HueLink.Proofs.Pairing.Discovery
import HueLink.Proofs.Pairing.Limits

namespace HueLink.Pairing

open Routine

variable {σ : Type} {o : Outside (Flow × σ)} {f : Flow} {host : String}

/-! ## One exchange -/

/-- How the link step goes on once the exchange with its host is over. -/
def afterExchange (submitted : Bool) (host : String) :
    Except BridgeError LinkedBridge → Step FlowResult
  | .ok linked => entryFor linked
  | .error .authenticationRequired =>
    pure (.form .link [] (if submitted then some .registerFailed else none))
  | .error .cannotConnect => do
    Routine.note (.cannotReach host)
    pure (.form .link [] (if submitted then some .linking else none))
  | .error e => do
    Routine.note (.unknownConnectingError host e)
    pure (.form .link [] (if submitted then some .linking else none))

/-- With a host to try, the link step has an exchange with it. -/
theorem runsOn_exchange (submitted : Bool) (hf : f.candidate = some host) {home : HomeName} {w : σ}
    {w' : Flow × σ} (hhome : o.answer .locationName (f.enter .link, w) = (home, w')) (t : Nat) :
    RunsOn o Place.beside (stepLink submitted) t (f, w) [.asked .locationName home]
      (Exchange.acquire host none home >>= afterExchange submitted host) t w' := by
  obtain ⟨context, candidate, state⟩ := f
  obtain rfl : candidate = some host := hf
  have hentered : RunsOn o Place.beside (stepLink submitted) t (⟨context, some host, state⟩, w) []
      (do
        let home ← Routine.query .locationName
        Exchange.acquire host none home >>= afterExchange submitted host)
      t (⟨context, some host, .link⟩, w) := ⟨rfl, rfl⟩
  exact hentered.trans (runsOn_query_bind hhome _ t)

/-- Without one it ends the flow. -/
theorem proceeds_hostless (ho : Apart o Place.beside) (submitted : Bool) (hf : f.candidate = none) :
    Proceeds o Place.beside (stepLink submitted) f [] (.abort .unknown) (f.enter .aborted) := by
  obtain ⟨context, candidate, state⟩ := f
  obtain rfl : candidate = none := hf
  refine proceeds_own ho (proceeds_own ho ?_)
  exact (proceeds_note ho _).bind (proceeds_abort ho _ ⟨context, none, .link⟩)

theorem Completion.exists_entry {linked : LinkedBridge} {es : List (Event Flow)} {r : FlowResult}
    {f' : Flow} (h : Completion linked f es r f') : ∃ e, r = .entry e := by
  cases h
  exact ⟨_, rfl⟩

/-! ## Tries -/

/-- A call of the link step: if the form was submitted, and what the flow meets around it. -/
structure LinkTry where
  submitted : Bool
  World : Type
  outside : Outside (Flow × World)
  apart : Apart outside Place.beside
  time : Nat
  world : World

namespace LinkTry

/-- What the try comes to. -/
def outcome (x : LinkTry) (f : Flow) : Outcome (Flow × x.World) FlowResult :=
  (stepLink x.submitted).run x.outside Place.beside x.time (f, x.world)

def events (x : LinkTry) (f : Flow) : List (Event Flow) :=
  (stepLink x.submitted).record x.outside Place.beside x.time (f, x.world)

/-- The flow as the try leaves it. -/
def left (x : LinkTry) (f : Flow) : Flow := (x.outcome f).world.1

/-- The name of the home, and the world in which the exchange begins. -/
def greeted (x : LinkTry) (f : Flow) : HomeName × Flow × x.World :=
  x.outside.answer .locationName (f.enter .link, x.world)

/-- The exchange with a host, as the surroundings of the try have it. -/
def exchange (x : LinkTry) (f : Flow) (host : String) :
    Outcome (Flow × x.World) (Except BridgeError LinkedBridge) :=
  (Exchange.acquire host none (x.greeted f).1).run x.outside Place.beside x.time (x.greeted f).2

def exchanged (x : LinkTry) (f : Flow) (host : String) : List (Event Flow) :=
  (Exchange.acquire host none (x.greeted f).1).record x.outside Place.beside x.time (x.greeted f).2

/-- The flow as some tries leave it, one after another. -/
def leftByAll (tries : List LinkTry) (f : Flow) : Flow := tries.foldl (fun f x => x.left f) f

variable (x : LinkTry)

/-- An exchange always comes to an answer, and changes nothing in the flow. -/
theorem exchange_answered (f : Flow) (host : String) : ∃ answer t' w',
    x.exchange f host = ⟨some answer, t', (f.enter .link, w')⟩ ∧
      Exchange.Way host (x.greeted f).1 none (talk (x.exchanged f host)) answer := by
  obtain ⟨hsome, _⟩ :=
    Exchange.endsWithin_acquire host none (x.greeted f).1 _ x.outside Place.beside x.time
    (x.greeted f).2
  obtain ⟨answer, hanswer⟩ := Option.isSome_iff_exists.mp hsome
  obtain ⟨hway, hleft⟩ := Exchange.passage_acquire (passage_of_run x.apart _ hanswer)
  have hflow : (x.exchange f host).world.1 = f.enter .link :=
    hleft.trans (x.apart.asked .locationName (f.enter .link, x.world))
  refine ⟨answer, (x.exchange f host).time, (x.exchange f host).world.2, ?_, hway⟩
  rw [← hflow, ← show (x.exchange f host).result = some answer from hanswer]

variable {x} {answer : Except BridgeError LinkedBridge} {t' : Nat} {w' : Flow × x.World}

/-- The try goes on from where the exchange ended. -/
theorem runsOn_answer (hf : f.candidate = some host)
    (h : x.exchange f host = ⟨some answer, t', w'⟩) :
    RunsOn x.outside Place.beside (stepLink x.submitted) x.time (f, x.world)
      (.asked .locationName (x.greeted f).1 :: talk (x.exchanged f host))
      (afterExchange x.submitted host answer) t' w' :=
  (runsOn_exchange x.submitted hf rfl x.time).trans (runsOn_bind h _)

theorem proceeds_form (ho : Apart o Place.beside) (submitted : Bool) (host : String)
    (e : BridgeError)
    (f : Flow) : Proceeds o Place.beside (afterExchange submitted host (.error e)) f []
      (.form .link [] (if submitted then some e.shown else none)) f := by
  cases e with
  | authenticationRequired => exact proceeds_pure
  | cannotConnect | unknown _ | notReady | invalidServiceData _ =>
    exact (proceeds_note ho _).bind proceeds_pure

theorem completes (linked : LinkedBridge) (t : Nat) (w : Flow × x.World) : ∃ e t' f' said,
    ComesTo x.outside Place.beside (entryFor linked) t w (.entry e) t' f' said ∧
      Completion linked w.1 said (.entry e) f' := by
  obtain ⟨hsome, _⟩ := endsWithin_entryFor linked _ x.outside Place.beside t w
  obtain ⟨r, hresult⟩ := Option.isSome_iff_exists.mp hsome
  have hcompletion := passage_entryFor (passage_of_run x.apart _ hresult)
  obtain ⟨e, rfl⟩ := hcompletion.exists_entry
  exact ⟨e, _, _, _, ⟨hresult, rfl, rfl, rfl⟩, hcompletion⟩

/-- Whatever a try comes to, the flow keeps the host to try. -/
theorem left_candidate (x : LinkTry) (f : Flow) : (x.left f).candidate = f.candidate := by
  obtain ⟨hsome, _⟩ := endsWithin_stepLink x.submitted _ x.outside Place.beside x.time (f, x.world)
  obtain ⟨r, hresult⟩ := Option.isSome_iff_exists.mp hsome
  exact (passage_stepLink (passage_of_run x.apart _ hresult)).candidate_eq

theorem leftByAll_candidate (tries : List LinkTry) (f : Flow) :
    (leftByAll tries f).candidate = f.candidate := by
  induction tries generalizing f with
  | nil => rfl
  | cons x tries ih => exact (ih (x.left f)).trans (left_candidate x f)

/-- A try that brings no entry leaves the flow in the link step and otherwise as it was. -/
theorem left_of_failed (hf : f.candidate = some host)
    (hfailed : ∀ e, (x.outcome f).result ≠ some (.entry e)) : x.left f = f.enter .link := by
  obtain ⟨answer, t', w', hexchange, _⟩ := x.exchange_answered f host
  have hon := runsOn_answer hf hexchange
  cases answer with
  | error e => exact (hon.comesTo ((proceeds_form x.apart x.submitted host e _).comesTo rfl _)).left
  | ok linked =>
    obtain ⟨e, _, _, _, hends, _⟩ := completes linked t' (f.enter .link, w')
    exact absurd (hon.comesTo hends).result (hfailed e)

/-- None of the tries, one after another, brings an entry. -/
def AllFail (tries : List LinkTry) (f : Flow) : Prop :=
  ∀ before x after, tries = before ++ x :: after →
    ∀ e, (x.outcome (leftByAll before f)).result ≠ some (.entry e)

theorem allFail_nil (f : Flow) : AllFail [] f := by
  intro before x after hsplit
  simp at hsplit

theorem allFail_cons {tries : List LinkTry} : AllFail (x :: tries) f ↔
    (∀ e, (x.outcome f).result ≠ some (.entry e)) ∧ AllFail tries (x.left f) := by
  constructor
  · intro h
    exact ⟨h [] x tries rfl, fun before y after hsplit =>
      h (x :: before) y after (congrArg (x :: ·) hsplit)⟩
  · rintro ⟨hfirst, hrest⟩ before y after hsplit
    cases before with
    | nil =>
      obtain ⟨rfl, _⟩ := List.cons.inj hsplit
      exact hfirst
    | cons z before =>
      obtain ⟨rfl, hlater⟩ := List.cons.inj hsplit
      exact hrest before y after hlater

theorem leftByAll_of_failed {tries : List LinkTry} (hf : f.candidate = some host)
    (h : AllFail tries f) : ∃ state, leftByAll tries f = f.enter state := by
  induction tries generalizing f with
  | nil => exact ⟨f.state, rfl⟩
  | cons x tries ih =>
    obtain ⟨hfailed, hrest⟩ := allFail_cons.mp h
    have hfirst : x.left f = f.enter .link := left_of_failed hf hfailed
    rw [hfirst] at hrest
    obtain ⟨state, hstate⟩ := @ih (f.enter .link) hf hrest
    refine ⟨state, ?_⟩
    change leftByAll tries (x.left f) = _
    rw [hfirst, hstate]
    rfl

/-- The next try begins like a first one, but for where the flow stands. -/
theorem neutral_of_failed (x : LinkTry) {tries : List LinkTry} (hf : f.candidate = some host)
    (h : AllFail tries f) : (leftByAll tries f).context = f.context ∧
      x.outcome (leftByAll tries f) = x.outcome f ∧
      talk (x.events (leftByAll tries f)) = talk (x.events f) := by
  obtain ⟨state, hstate⟩ := leftByAll_of_failed hf h
  have hagain : RunsOn x.outside _ _ _ _ _ _ _ _ :=
    runsOn_stepLink x.submitted state f x.time x.world
  rw [hstate]
  exact ⟨rfl, hagain.run, hagain.talk⟩

end LinkTry

open LinkTry

/-- The link step can be taken any number of times. Without a host to try it ends the flow and turns
to nobody. With one it has an exchange with that host, whatever came of the tries before, and never
ends the flow. If the exchange gives a client, the flow completes with it. Otherwise there is the
link form again, with the error that the exchange ended with if the form was submitted, and neither
the host to try nor the context of the flow has changed. So a try after tries that all failed comes
to what it would have come to as the only one. -/
theorem link_retries_are_neutral (tries : List LinkTry) (x : LinkTry) (f : Flow) :
    let g := leftByAll tries f
    (f.candidate = none → (x.outcome g).result = some (.abort .unknown) ∧
      talk (x.events g) = [] ∧ x.left g = g.enter .aborted) ∧
    ∀ host, f.candidate = some host → g.candidate = some host ∧
      (∃ answer said, (x.exchange g host).result = some answer ∧
        Exchange.Way host (x.greeted g).1 none (talk (x.exchanged g host)) answer ∧
        talk (x.events g) =
          .asked .locationName (x.greeted g).1 :: (talk (x.exchanged g host) ++ said) ∧
        match answer with
        | .ok linked => ∃ e, (x.outcome g).result = some (.entry e) ∧
            Completion linked (g.enter .link) said (.entry e) (x.left g)
        | .error e => said = [] ∧ (x.outcome g).result =
              some (.form .link [] (if x.submitted then some e.shown else none)) ∧
            (x.left g).candidate = some host ∧ (x.left g).context = g.context) ∧
      (∀ reason, (x.outcome g).result ≠ some (.abort reason)) ∧
      (AllFail tries f → g.context = f.context ∧ x.outcome g = x.outcome f ∧
        talk (x.events g) = talk (x.events f)) := by
  intro g
  have hcandidate : g.candidate = f.candidate := leftByAll_candidate tries f
  refine ⟨?_, ?_⟩
  · intro hnone
    have hends := (proceeds_hostless x.apart x.submitted (hcandidate.trans hnone)).comesTo
      (w := (g, x.world)) rfl x.time
    exact ⟨hends.result, hends.said, hends.left⟩
  · intro host hf
    have hg : g.candidate = some host := hcandidate.trans hf
    obtain ⟨answer, t', w', hexchange, hway⟩ := x.exchange_answered g host
    have hon := runsOn_answer hg hexchange
    have hanswer : (x.exchange g host).result = some answer := congrArg Outcome.result hexchange
    have hneutral : AllFail tries f → _ := x.neutral_of_failed hf
    cases answer with
    | error e =>
      have hends := hon.comesTo ((proceeds_form x.apart x.submitted host e _).comesTo rfl t')
      have hleft : x.left g = g.enter .link := hends.left
      refine ⟨hg, ⟨_, [], hanswer, hway, hends.said, rfl, hends.result, ?_, ?_⟩, ?_, hneutral⟩
      · rw [left_candidate, hg]
      · rw [hleft]
        rfl
      · intro reason habort
        exact nomatch hends.result.symm.trans habort
    | ok linked =>
      obtain ⟨e, _, f', said, hentry, hcompletion⟩ := completes linked t' (g.enter .link, w')
      have hends := hon.comesTo hentry
      have hleft : x.left g = f' := hends.left
      refine ⟨hg, ⟨_, said, hanswer, hway, hends.said, e, hends.result, ?_⟩, ?_, hneutral⟩
      · rw [hleft]
        exact hcompletion
      · intro reason habort
        exact nomatch hends.result.symm.trans habort

/-! ## A button that is pressed at last -/

/-- The form is submitted on an occasion. -/
def Occasion.submitted (x : Occasion) (store : List Registration) : LinkTry :=
  ⟨true, List Registration, x.outside, apart_outside x, 0, store⟩

/-- It is submitted twice before the button is pressed, and the store changes in between. -/
def earlyTries : List LinkTry :=
  [(unpressed []).submitted [], (unpressed []).submitted storeBeforeMove]

def lastTry : LinkTry := (⟨[], true, none⟩ : Occasion).submitted storeBeforeMove

theorem allFail_earlyTries : AllFail earlyTries waitingForButton := by
  have hfails : ∀ store e,
      (((unpressed []).submitted store).outcome waitingForButton).result ≠ some (.entry e) := by
    intro store e
    have hform : (((unpressed []).submitted store).outcome waitingForButton).result =
        some (.form .link [] (some .registerFailed)) := by cbv
    simp [hform]
  have hleft : ∀ store, ((unpressed []).submitted store).left waitingForButton =
      waitingForButton := fun store => left_of_failed rfl (hfails store)
  unfold earlyTries
  rw [allFail_cons, hleft, allFail_cons, hleft]
  exact ⟨hfails [], hfails storeBeforeMove, allFail_nil _⟩

/-- The entry that comes at last is that of a bridge which displaces two records. -/
theorem link_retries_are_neutral_until_the_button_is_pressed :
    (waitingForButton.candidate = some "192.168.1.2" ∧ AllFail earlyTries waitingForButton) ∧
    lastTry.outcome (leftByAll earlyTries waitingForButton) = lastTry.outcome waitingForButton ∧
    (lastTry.outcome waitingForButton).result = some (.entry movedEntry) := by
  obtain ⟨_, hall⟩ := link_retries_are_neutral earlyTries lastTry waitingForButton
  obtain ⟨_, _, _, hneutral⟩ := hall "192.168.1.2" rfl
  obtain ⟨_, hrun, _⟩ := hneutral allFail_earlyTries
  exact ⟨⟨rfl, allFail_earlyTries⟩, hrun, by cbv⟩

end HueLink.Pairing
