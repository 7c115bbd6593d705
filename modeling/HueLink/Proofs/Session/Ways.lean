-- The ways in which the setup of a session can go: what it says to its surroundings and is told,
-- and what it answers, whatever others do with the session meanwhile. Lines of the log are left
-- out.
import HueLink.Proofs.Exchange.Ways
import HueLink.Session.Setup

namespace HueLink.Session

open Routine

variable {s : Session}

/-- What is said to the host to hook a session in. -/
def hookedIn (s : Session) : List (Event Cell) :=
  Platform.all.map (fun platform => .asked (.forwardSetup s.registration platform) ()) ++
    [.asked (.registerSceneService s.handle) ()]

/-- How a setup can go. -/
inductive SetupWay (s : Session) : List (Event Cell) → SetupOutcome → Prop where
  /-- The session was set up before. -/
  | repeated : SetupWay s [] .failed
  | refused {home : HomeName} {es : List (Event Cell)} :
    Exchange.Way s.host home (some s.registration.username) es (.error .authenticationRequired) →
      SetupWay s (.asked .locationName home :: (es ++ [.asked (.startPairing s.host) ()])) .failed
  | missed {home : HomeName} {es : List (Event Cell)} :
    Exchange.Way s.host home (some s.registration.username) es (.error .cannotConnect) →
      SetupWay s (.asked .locationName home :: es) .retryLater
  | loaded {home : HomeName} {es : List (Event Cell)} {linked : LinkedBridge} :
    Exchange.Way s.host home (some s.registration.username) es (.ok linked) →
      SetupWay s (.asked .locationName home :: (es ++ s.hookedIn)) .loaded
  /-- Something was kept for the session meanwhile. -/
  | overtaken {home : HomeName} {es : List (Event Cell)} {linked : LinkedBridge} :
    Exchange.Way s.host home (some s.registration.username) es (.ok linked) →
      SetupWay s (.asked .locationName home :: es) .failed

variable {meanwhile : Cell → Cell → Prop} {c c' : Cell} {es : List (Event Cell)} {r : SetupOutcome}

/-- The rest of a session stays as others left it when its state is written. -/
theorem passage_setState {state : SessionState} {u : Unit}
    (h : Passage meanwhile (setState state) c es u c') :
    talk es = [] ∧ ∃ seen, meanwhile c seen ∧ c' = { seen with state } := by
  cases h with
  | lock h =>
    obtain ⟨seen, _, hseen, hdone, rfl⟩ := passage_own.mp h
    obtain ⟨rfl, _, rfl⟩ := passage_pure.mp hdone
    exact ⟨rfl, seen, hseen, rfl⟩

/-- What a session has that is set up with this bridge. -/
def readyWith (linked : LinkedBridge) : Ready :=
  let limit := concurrencyLimit linked.config.modelId
  ⟨linked.client, linked.config, limit, .ofPermits limit⟩

/-- A session with an accepted username is hooked in, unless something was kept for it before. -/
theorem passage_load {linked : LinkedBridge} (h : Passage meanwhile (s.load linked) c es r c') :
    ∃ seen, meanwhile c seen ∧
      ((seen.ready = none ∧ talk es = s.hookedIn ∧ r = .loaded ∧
          ∃ c₁ c₂, meanwhile { seen with ready := some (readyWith linked) } c₁ ∧
            meanwhile { c₁ with authorized := true } c₂ ∧ c' = { c₂ with state := .authorized }) ∨
        (seen.ready ≠ none ∧ talk es = [] ∧ r = .failed ∧ c' = seen)) := by
  obtain ⟨_, es₁, rfl, h₁⟩ := passage_query_bind.mp h
  obtain ⟨es₂, kept, c₁, es₃, hkeep, h₂, rfl⟩ := passage_bind.mp h₁
  obtain ⟨⟨state, ready, available, authorized⟩, _, hseen, hdone, rfl⟩ := passage_own.mp hkeep
  obtain ⟨rfl, rfl, rfl⟩ := passage_pure.mp hdone
  refine ⟨_, hseen, ?_⟩
  cases ready with
  | some ready =>
    obtain ⟨rfl, rfl, rfl⟩ := passage_pure.mp h₂
    exact Or.inr ⟨Option.some_ne_none _, rfl, rfl, rfl⟩
  | none =>
    obtain ⟨es₄, _, c₂, es₅, hforward, h₃, rfl⟩ := passage_bind.mp h₂
    obtain ⟨_, es₆, rfl, hbinary⟩ := passage_query_bind.mp hforward
    obtain ⟨_, es₇, rfl, hsensor⟩ := passage_query_bind.mp hbinary
    obtain ⟨_, es₈, rfl, hnil⟩ := passage_query_bind.mp hsensor
    obtain ⟨rfl, _, rfl⟩ := passage_pure.mp hnil
    obtain ⟨_, es₉, rfl, h₄⟩ := passage_query_bind.mp h₃
    obtain ⟨es₁₀, _, c₃, es₁₁, hflag, h₅, rfl⟩ := passage_bind.mp h₄
    obtain ⟨c₄, _, hleft, hdone, rfl⟩ := passage_own.mp hflag
    obtain ⟨rfl, _, rfl⟩ := passage_pure.mp hdone
    obtain ⟨es₁₂, _, c₅, es₁₃, hstate, h₆, rfl⟩ := passage_bind.mp h₅
    obtain ⟨_, es₁₄, rfl, h₇⟩ := passage_query_bind.mp h₆
    obtain ⟨rfl, rfl, rfl⟩ := passage_pure.mp h₇
    obtain ⟨hquiet, c₆, hleft', rfl⟩ := passage_setState hstate
    refine Or.inl ⟨rfl, ?_, rfl, c₄, c₆, hleft, hleft', rfl⟩
    simp [talk_append, talk_cons, talk_nil, Event.isTalk, hquiet, hookedIn, Platform.all]

/-- A setup goes no further than its claim if the session was set up before. Otherwise it has one
exchange with the bridge, with the username of the registration, and the answer decides. -/
theorem exchange_of_setup (h : Passage meanwhile s.setup c es r c') :
    ∃ seen, meanwhile c seen ∧
      ((seen.state ≠ .uninitialized ∧ talk es = [] ∧ r = .failed ∧ c' = seen) ∨
        (seen.state = .uninitialized ∧ ∃ home es₁ answer es₂,
          Passage meanwhile (Exchange.acquire s.host (some s.registration.username) home)
            { seen with state := .authenticating } es₁ answer
            { seen with state := .authenticating } ∧
          talk es = .asked .locationName home :: (talk es₁ ++ talk es₂) ∧
          match answer with
          | .ok linked =>
            Passage meanwhile (s.load linked) { seen with state := .authenticating } es₂ r c'
          | .error .authenticationRequired =>
            talk es₂ = [.asked (.startPairing s.host) ()] ∧ r = .failed ∧
              ∃ c₁, meanwhile { seen with state := .authenticating } c₁ ∧
                c' = { c₁ with state := .authFailed }
          | .error .cannotConnect => talk es₂ = [] ∧ r = .retryLater ∧
              ∃ c₁, meanwhile { seen with state := .authenticating } c₁ ∧
                c' = { c₁ with state := .connFailed }
          | .error _ => False)) := by
  obtain ⟨es₁, first, c₁, es₂, hclaim, h₁, rfl⟩ := passage_bind.mp h
  cases hclaim with
  | lock hclaim =>
    obtain ⟨seen, es₃, hseen, hdone, rfl⟩ := passage_own.mp hclaim
    obtain ⟨rfl, rfl, rfl⟩ := passage_pure.mp hdone
    refine ⟨seen, hseen, ?_⟩
    by_cases hstate : seen.state = .uninitialized
    · rw [decide_eq_true hstate, if_pos hstate] at h₁
      obtain ⟨home, es₄, rfl, h₂⟩ := passage_query_bind.mp h₁
      obtain ⟨es₅, answer, c₂, es₆, hexchange, h₃, rfl⟩ := passage_bind.mp h₂
      obtain ⟨hway, rfl⟩ := Exchange.passage_acquire hexchange
      refine Or.inr ⟨hstate, home, es₅, answer, es₆, hexchange, ?_, ?_⟩
      · rw [← talk_append]
        rfl
      · obtain ⟨linked, rfl⟩ | rfl | rfl := hway.ends
        · exact h₃
        · obtain ⟨es₇, _, c₃, es₈, hleft, h₄, rfl⟩ := passage_bind.mp h₃
          obtain ⟨_, es₉, rfl, h₅⟩ := passage_query_bind.mp h₄
          obtain ⟨rfl, rfl, rfl⟩ := passage_pure.mp h₅
          obtain ⟨hquiet, hleft⟩ := passage_setState hleft
          refine ⟨?_, rfl, hleft⟩
          rw [talk_append, hquiet]
          rfl
        · obtain ⟨_, es₇, rfl, h₄⟩ := passage_query_bind.mp h₃
          obtain ⟨es₈, _, c₃, es₉, hleft, h₅, rfl⟩ := passage_bind.mp h₄
          obtain ⟨rfl, rfl, rfl⟩ := passage_pure.mp h₅
          obtain ⟨hquiet, hleft⟩ := passage_setState hleft
          refine ⟨?_, rfl, hleft⟩
          rw [List.append_nil]
          exact hquiet
    · rw [decide_eq_false hstate, if_neg hstate] at h₁
      obtain ⟨_, es₃, rfl, h₂⟩ := passage_query_bind.mp h₁
      obtain ⟨rfl, rfl, rfl⟩ := passage_pure.mp h₂
      exact Or.inl ⟨hstate, rfl, rfl, rfl⟩

/-- Whatever a setup meets, it goes one of its ways. -/
theorem passage_setup (h : Passage meanwhile s.setup c es r c') : s.SetupWay (talk es) r := by
  obtain ⟨seen, _, ⟨_, hsilent, rfl, _⟩ | ⟨_, home, es₁, answer, es₂, hexchange, htalk, hend⟩⟩ :=
    exchange_of_setup h
  · rw [hsilent]
    exact .repeated
  obtain ⟨hway, _⟩ := Exchange.passage_acquire hexchange
  rw [htalk]
  obtain ⟨linked, rfl⟩ | rfl | rfl := hway.ends
  · obtain ⟨_, _, ⟨_, hhooked, rfl, _⟩ | ⟨_, hsilent, rfl, _⟩⟩ := passage_load hend
    · rw [hhooked]
      exact .loaded hway
    · rw [hsilent, List.append_nil]
      exact .overtaken hway
  · obtain ⟨hpaired, rfl, _⟩ := hend
    rw [hpaired]
    exact .refused hway
  · obtain ⟨hsilent, rfl, _⟩ := hend
    rw [hsilent, List.append_nil]
    exact .missed hway

end HueLink.Session
