-- The ways in which an exchange with a bridge can go: what is said to its client, what the client
-- answers, and what comes of it.
import HueLink.Proofs.Exchange
import HueLink.Proofs.Routine.Passage

namespace HueLink

open Routine

variable {κ : Type}

namespace Exchange

/-- What a fault comes to in an exchange. -/
def verdictOn : Fault → BridgeError
  | .request _ => .cannotConnect
  | .linkButtonNotPressed | .unauthorized | .protocol _ => .authenticationRequired

/-- How the validation of a username can go. -/
inductive Validation (c : Client) : List (Event κ) → Except BridgeError LinkedBridge → Prop where
  | late : Validation c [.calledBy (.validate c) none] (.error .cannotConnect)
  | rejected (fault : Fault) :
    Validation c [.calledBy (.validate c) (some (.error fault))] (.error (verdictOn fault))
  | nameless (config : BridgeConfig) :
    Validation c [.calledBy (.validate c) (some (.ok config)), .asked (.clientUsername c) none]
      (.error .authenticationRequired)
  | accepted (config : BridgeConfig) (name : String) : Validation c
      [.calledBy (.validate c) (some (.ok config)), .asked (.clientUsername c) (some name)]
      (.ok ⟨c, config, name⟩)

/-- How an exchange can go. -/
inductive Way (host : String) (home : HomeName) :
    Option String → List (Event κ) → Except BridgeError LinkedBridge → Prop where
  | known {name : String} {c : Client} {es : List (Event κ)} {r : Except BridgeError LinkedBridge} :
    Validation c es r → Way host home (some name) (.asked (.connect host (some name)) c :: es) r
  | late (c : Client) : Way host home none
      [.asked (.connect host none) c, .calledBy (.createUser c (Label.forHome home)) none]
      (.error .cannotConnect)
  | refused (c : Client) (fault : Fault) : Way host home none
      [.asked (.connect host none) c,
        .calledBy (.createUser c (Label.forHome home)) (some (.error fault))]
      (.error (verdictOn fault))
  | created {c : Client} {es : List (Event κ)} {r : Except BridgeError LinkedBridge} :
    Validation c es r → Way host home none
      (.asked (.connect host none) c ::
        .calledBy (.createUser c (Label.forHome home)) (some (.ok ())) :: es) r

/-- An exchange ends with a linked bridge, or in one of two errors. -/
theorem Way.ends {host : String} {home : HomeName} {username : Option String}
    {es : List (Event κ)} {r : Except BridgeError LinkedBridge} (h : Way host home username es r) :
    (∃ linked, r = .ok linked) ∨ r = .error .authenticationRequired ∨
      r = .error .cannotConnect := by
  have hverdict : ∀ fault,
      verdictOn fault = .authenticationRequired ∨ verdictOn fault = .cannotConnect := by
    intro fault
    cases fault <;> simp [verdictOn]
  have hvalidation : ∀ {c : Client} {es : List (Event κ)} {r : Except BridgeError LinkedBridge},
      Validation c es r →
      (∃ linked, r = .ok linked) ∨ r = .error .authenticationRequired ∨
        r = .error .cannotConnect := by
    intro c es r h
    cases h with
    | late => exact Or.inr (Or.inr rfl)
    | rejected fault => simpa using hverdict fault
    | nameless config => exact Or.inr (Or.inl rfl)
    | accepted config name => exact Or.inl ⟨_, rfl⟩
  cases h with
  | known h | created h => exact hvalidation h
  | late c => exact Or.inr (Or.inr rfl)
  | refused c fault => simpa using hverdict fault

variable {meanwhile : κ → κ → Prop} {s s' : κ} {es : List (Event κ)}

theorem passage_refuse {fault : Fault} {e : BridgeError}
    (h : Passage meanwhile (refuse fault) s es e s') :
    talk es = [] ∧ e = verdictOn fault ∧ s' = s := by
  cases fault with
  | linkButtonNotPressed | unauthorized | request _ =>
    obtain ⟨rfl, rfl, rfl⟩ := passage_pure.mp h
    exact ⟨rfl, rfl, rfl⟩
  | protocol message =>
    obtain ⟨_, es, rfl, hend⟩ := passage_query_bind.mp h
    obtain ⟨rfl, rfl, rfl⟩ := passage_pure.mp hend
    exact ⟨rfl, rfl, rfl⟩

/-- The end of an exchange, from the answer of its calls on. -/
theorem passage_conclude {c : Client} {answer : Option (Except Fault BridgeConfig)}
    {r : Except BridgeError LinkedBridge}
    (h : Passage meanwhile (Conduct.conclude c answer) s es r s') :
    s' = s ∧ match answer with
      | none => talk es = [] ∧ r = .error .cannotConnect
      | some (.error fault) => talk es = [] ∧ r = .error (verdictOn fault)
      | some (.ok config) => ∃ held, talk es = [.asked (.clientUsername c) held] ∧
          r = held.elim (.error .authenticationRequired) fun name => .ok ⟨c, config, name⟩ := by
  rcases answer with _ | fault | config
  · obtain ⟨rfl, rfl, rfl⟩ := passage_pure.mp h
    exact ⟨rfl, rfl, rfl⟩
  · obtain ⟨es₁, e, s₁, es₂, hrefuse, hend, rfl⟩ := passage_bind.mp h
    obtain ⟨htalk, rfl, rfl⟩ := passage_refuse hrefuse
    obtain ⟨rfl, rfl, rfl⟩ := passage_pure.mp hend
    rw [talk_append, htalk]
    exact ⟨rfl, rfl, rfl⟩
  · obtain ⟨held, es, rfl, hend⟩ := passage_query_bind.mp h
    cases held with
    | none =>
      obtain ⟨rfl, rfl, rfl⟩ := passage_pure.mp hend
      exact ⟨rfl, none, rfl, rfl⟩
    | some name =>
      obtain ⟨rfl, rfl, rfl⟩ := passage_pure.mp hend
      exact ⟨rfl, some name, rfl, rfl⟩

/-- The validation and what follows it. -/
theorem passage_validate {c : Client} {deadline : Nat}
    {answer : Option (Except Fault BridgeConfig)} {r : Except BridgeError LinkedBridge}
    {es₁ es₂ : List (Event κ)} {s₁ : κ}
    (hcall : Passage meanwhile ((Attempt.request (.validate c)).boundedBy deadline) s es₁ answer s₁)
    (hend : Passage meanwhile (Conduct.conclude c answer) s₁ es₂ r s') :
    Validation c (talk (es₁ ++ es₂)) r ∧ s' = s := by
  obtain ⟨rfl, hend⟩ := passage_conclude hend
  rw [talk_append]
  rcases passage_boundedBy hcall with ⟨rfl, rfl, rfl⟩ | ⟨result, es', rfl, hdone⟩
  · obtain ⟨htalk, rfl⟩ := hend
    rw [htalk]
    exact ⟨.late, rfl⟩
  · obtain ⟨rfl, rfl, rfl⟩ := passage_pure.mp hdone
    rcases result with fault | config
    · obtain ⟨htalk, rfl⟩ := hend
      rw [htalk]
      exact ⟨.rejected fault, rfl⟩
    · obtain ⟨held, htalk, rfl⟩ := hend
      rw [htalk]
      cases held with
      | none => exact ⟨.nameless config, rfl⟩
      | some name => exact ⟨.accepted config name, rfl⟩

theorem passage_acquire {host : String} {home : HomeName} {username : Option String}
    {r : Except BridgeError LinkedBridge}
    (h : Passage meanwhile (acquire host username home) s es r s') :
    Way host home username (talk es) r ∧ s' = s := by
  rw [Conduct.acquire_eq] at h
  obtain ⟨c, es, rfl, hcalls⟩ := passage_query_bind.mp h
  cases hcalls with
  | clock t hcalls =>
    obtain ⟨_, answer, s₁, es₂, hbound, hend, rfl⟩ := passage_bind.mp hcalls
    cases username with
    | some name =>
      obtain ⟨hvalid, rfl⟩ := passage_validate hbound hend
      exact ⟨.known hvalid, rfl⟩
    | none =>
      rw [Option.isSome_none, Conduct.calls_new] at hbound
      rcases passage_boundedBy hbound with ⟨rfl, rfl, rfl⟩ | ⟨created, es', rfl, hrest⟩
      · obtain ⟨rfl, htalk, rfl⟩ := passage_conclude hend
        refine ⟨?_, rfl⟩
        change Way host home none (_ :: _ :: talk es₂) _
        rw [htalk]
        exact .late c
      · rcases created with fault | ⟨⟩
        · obtain ⟨rfl, rfl, rfl⟩ := passage_pure.mp hrest
          obtain ⟨rfl, htalk, rfl⟩ := passage_conclude hend
          refine ⟨?_, rfl⟩
          change Way host home none (_ :: _ :: talk es₂) _
          rw [htalk]
          exact .refused c fault
        · obtain ⟨hvalid, rfl⟩ := passage_validate hrest hend
          exact ⟨.created hvalid, rfl⟩

end Exchange

end HueLink
