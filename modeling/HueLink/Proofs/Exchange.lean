-- The exchange with a bridge, for every way in which a client can behave: what is asked of the
-- client, how long that takes, and what comes of it.
import HueLink.Exchange
import HueLink.Proofs.Routine.Yielding
import HueLink.Routine.Run

namespace HueLink

open Routine

/-- The surroundings once a call was answered. -/
def Outside.settled {ω : Type} (o : Outside ω) (c : Call) (w : ω) : ω :=
  ((o.receive c w).finish (o.receive c w).world).2

/-- How a client behaves in an exchange: what it answers, and after how long, or `none` if never. -/
structure Conduct where
  client : Client
  createDelay : Option Nat
  created : Except Fault Unit
  validateDelay : Option Nat
  validated : Except Fault BridgeConfig
  /-- The username it holds in the end. -/
  held : Option String

/-- What surroundings are told. -/
inductive Message where
  | asked (q : Query)
  | called (c : Call)

namespace Conduct

variable {κ ω : Type}

/-- Surroundings whose client behaves like this, with a journal of what they are told. -/
def journaled (b : Conduct) (o : Outside ω) : Outside (List Message × ω) where
  answer q w :=
    (match q with
      | .connect _ _ => b.client
      | .clientUsername _ => b.held
      | q => (o.answer q w.2).1,
    (w.1 ++ [.asked q], (o.answer q w.2).2))
  receive c w :=
    { world := (w.1 ++ [.called c], (o.receive c w.2).world)
      delay := match c with
        | .createUser _ _ => b.createDelay
        | .validate _ => b.validateDelay
        | c => (o.receive c w.2).delay
      finish := fun w' =>
        (match c with
          | .createUser _ _ => b.created
          | .validate _ => b.validated
          | c => ((o.receive c w.2).finish w'.2).1,
        (w'.1, ((o.receive c w.2).finish w'.2).2)) }

@[simp] theorem world_receive (b : Conduct) (o : Outside ω) (c : Call) (w : List Message × ω) :
    ((b.journaled o).receive c w).world = (w.1 ++ [.called c], (o.receive c w.2).world) := rfl

@[simp] theorem delay_createUser (b : Conduct) (o : Outside ω) (c : Client) (label : String)
    (w : List Message × ω) :
    ((b.journaled o).receive (.createUser c label) w).delay = b.createDelay := rfl

@[simp] theorem delay_validate (b : Conduct) (o : Outside ω) (c : Client) (w : List Message × ω) :
    ((b.journaled o).receive (.validate c) w).delay = b.validateDelay := rfl

@[simp] theorem finish_createUser (b : Conduct) (o : Outside ω) (c : Client) (label : String)
    (w w' : List Message × ω) : ((b.journaled o).receive (.createUser c label) w).finish w' =
      (b.created, w'.1, ((o.receive (.createUser c label) w.2).finish w'.2).2) := rfl

@[simp] theorem finish_validate (b : Conduct) (o : Outside ω) (c : Client)
    (w w' : List Message × ω) :
    ((b.journaled o).receive (.validate c) w).finish w' =
      (b.validated, w'.1, ((o.receive (.validate c) w.2).finish w'.2).2) := rfl

@[simp] theorem settled_journaled (b : Conduct) (o : Outside ω) (c : Call) (w : List Message × ω) :
    (b.journaled o).settled c w = (w.1 ++ [.called c], o.settled c w.2) := rfl

/-! ## What the calls come to -/

/-- How long the calls of an exchange take if they are given all the time, or `none` if they never
end. A username is created only if none is known, and one that is refused is not validated. -/
def span (b : Conduct) (known : Bool) : Option Nat :=
  if known then b.validateDelay
  else match b.created with
    | .error _ => b.createDelay
    | .ok () => b.createDelay.bind fun d => b.validateDelay.map (d + ·)

/-- What the calls of an exchange answer if they are given all the time. -/
def verdict (b : Conduct) (known : Bool) : Except Fault BridgeConfig :=
  if known then b.validated
  else match b.created with
    | .error fault => .error fault
    | .ok () => b.validated

/-- The calls end, and soon enough. -/
def inTime (b : Conduct) (known : Bool) : Bool := (b.span known).any (· ≤ authLimit)

/-- A username is given out soon enough. -/
def createdInTime (b : Conduct) : Bool :=
  match b.created with
  | .error _ => false
  | .ok () => b.createDelay.any (· ≤ authLimit)

/-- When the exchange is over. -/
def duration (b : Conduct) (known : Bool) : Nat :=
  ((b.span known).map (min authLimit)).getD authLimit

/-- The calls that are made. -/
def callsMade (b : Conduct) (known : Bool) (home : HomeName) : List Call :=
  (if known then [] else [.createUser b.client (Label.forHome home)]) ++
    (if known || b.createdInTime then [.validate b.client] else [])

/-! ## The calls under their deadline -/

/-- A call of an attempt either ends in time, and the attempt goes on, or is given up at the
deadline. -/
theorem run_boundedBy_call {α : Type} (o : Outside ω) (p : Place κ ω) (deadline : Nat) (c : Call)
    (rest : c.Answer → Attempt α) (t : Nat) (w : ω) (ht : t ≤ deadline) :
    ((Attempt.call c rest).boundedBy deadline).run o p t w =
      if (o.receive c w).delay.any (t + · ≤ deadline) then
        ((rest ((o.receive c w).finish (o.receive c w).world).1).boundedBy deadline).run o p
          (t + ((o.receive c w).delay.getD 0)) (o.settled c w)
      else ⟨some none, deadline, (o.receive c w).world⟩ := by
  simp only [Attempt.boundedBy, run]
  rcases hd : (o.receive c w).delay with _ | d
  · simp [ht, run]
  · by_cases hle : t + d ≤ deadline
    · simp [hle, Outside.settled]
    · simp [hle, ht, run]

variable (b : Conduct) (o : Outside ω) (p : Place κ (List Message × ω))

theorem run_validate (t d : Nat) (w : List Message × ω) (hd : d ≤ authLimit) :
    ∃ w' : ω,
      ((Attempt.request (.validate b.client)).boundedBy (t + authLimit)).run (b.journaled o) p
        (t + d) w =
      ⟨some (if b.validateDelay.any (d + · ≤ authLimit) then some b.validated else none),
        t + ((b.validateDelay.map fun d' => min authLimit (d + d')).getD authLimit),
        (w.1 ++ [.called (.validate b.client)], w')⟩ := by
  unfold Attempt.request
  rw [run_boundedBy_call _ _ _ _ _ _ _ (by omega), delay_validate, finish_validate, world_receive]
  rcases hv : b.validateDelay with _ | d'
  · exact ⟨(o.receive (.validate b.client) w.2).world, by simp⟩
  by_cases hle : d + d' ≤ authLimit
  · have hle' : t + d + d' ≤ t + authLimit := by omega
    refine ⟨o.settled (.validate b.client) w.2, ?_⟩
    simp [hle, hle', Attempt.boundedBy, run, settled_journaled]
    omega
  · have hle' : ¬ t + d + d' ≤ t + authLimit := by omega
    have hmin : min authLimit (d + d') = authLimit := Nat.min_eq_left (by omega)
    refine ⟨(o.receive (.validate b.client) w.2).world, ?_⟩
    simp [hle, hle', hmin]

/-- What is left of the calls once a username was given out or refused. -/
def afterCreate (c : Client) : Except Fault Unit → Attempt (Except Fault BridgeConfig)
  | .ok () => .request (.validate c)
  | .error fault => pure (.error fault)

theorem calls_known (c : Client) (home : HomeName) :
    Exchange.calls c true home = .request (.validate c) := rfl

theorem calls_new (c : Client) (home : HomeName) :
    Exchange.calls c false home = .call (.createUser c (Label.forHome home)) (afterCreate c) := by
  refine congrArg (Attempt.call (.createUser c (Label.forHome home))) (funext fun a => ?_)
  rcases a with fault | ⟨⟩ <;> rfl

theorem run_calls_known (home : HomeName) (t : Nat) (w : List Message × ω) :
    ∃ w' : ω, ((Exchange.calls b.client true home).within authLimit).run (b.journaled o) p t w =
      ⟨some (if b.inTime true then some (b.verdict true) else none), t + b.duration true,
        (w.1 ++ (b.callsMade true home).map .called, w')⟩ := by
  obtain ⟨w', hw'⟩ := b.run_validate o p t 0 w (Nat.zero_le _)
  refine ⟨w', ?_⟩
  rw [calls_known]
  simpa [Attempt.within, run, inTime, verdict, duration, span, callsMade] using hw'

theorem run_calls_new (home : HomeName) (t : Nat) (w : List Message × ω) :
    ∃ w' : ω, ((Exchange.calls b.client false home).within authLimit).run (b.journaled o) p t w =
      ⟨some (if b.inTime false then some (b.verdict false) else none), t + b.duration false,
        (w.1 ++ (b.callsMade false home).map .called, w')⟩ := by
  let create : Call := .createUser b.client (Label.forHome home)
  rw [calls_new]
  unfold Attempt.within
  rw [run, run_boundedBy_call _ _ _ _ _ _ _ (Nat.le_add_right _ _), delay_createUser,
    finish_createUser, world_receive, settled_journaled]
  unfold inTime duration span verdict callsMade createdInTime
  rcases hd : b.createDelay with _ | d
  · refine ⟨(o.receive create w.2).world, ?_⟩
    rcases hc : b.created with fault | u <;> simp [create]
  by_cases hle : d ≤ authLimit
  · rcases hc : b.created with fault | u
    · refine ⟨o.settled create w.2, ?_⟩
      simp [hle, afterCreate, pure, Attempt.boundedBy, run, create]
    · obtain ⟨w', hw'⟩ := b.run_validate o p t d (w.1 ++ [.called create], o.settled create w.2) hle
      refine ⟨w', ?_⟩
      simp [hle, afterCreate, hw', create]
      rcases b.validateDelay with _ | d' <;> simp
  · refine ⟨(o.receive create w.2).world, ?_⟩
    have hmin : min authLimit d = authLimit := Nat.min_eq_left (by omega)
    rcases hc : b.created with fault | u
    · simp [hle, hmin, create]
    · have hlate : ∀ d', ¬ d + d' ≤ authLimit := fun d' => by omega
      simp [hle, create]
      rcases b.validateDelay with _ | d'
      · simp
      · simp [hlate d', Nat.min_eq_left (by have := hlate d'; omega : authLimit ≤ d + d')]

theorem run_calls (known : Bool) (home : HomeName) (t : Nat) (w : List Message × ω) :
    ∃ w' : ω, ((Exchange.calls b.client known home).within authLimit).run (b.journaled o) p t w =
      ⟨some (if b.inTime known then some (b.verdict known) else none), t + b.duration known,
        (w.1 ++ (b.callsMade known home).map .called, w')⟩ := by
  cases known with
  | true => exact b.run_calls_known o p home t w
  | false => exact b.run_calls_new o p home t w

/-! ## What comes of them -/

/-- What an exchange still asks once its calls are over: the username the client holds if all went
well, and a line in the log for a fault of the protocol. -/
def lastWords (b : Conduct) (known : Bool) : List Message :=
  if b.inTime known then
    match b.verdict known with
    | .ok _ => [.asked (.clientUsername b.client)]
    | .error (.protocol message) => [.asked (.note (.unknownLinkingError message))]
    | .error _ => []
  else []

/-- The result of an exchange. -/
def result (b : Conduct) (known : Bool) : Except BridgeError LinkedBridge :=
  if b.inTime known then
    match b.verdict known with
    | .ok config =>
      match b.held with
      | some held => .ok ⟨b.client, config, held⟩
      | none => .error .authenticationRequired
    | .error (.request _) => .error .cannotConnect
    | .error _ => .error .authenticationRequired
  else .error .cannotConnect

/-- The exchange once its calls are over. -/
def conclude (c : Client) :
    Option (Except Fault BridgeConfig) → Routine κ (Except BridgeError LinkedBridge)
  | none => pure (.error .cannotConnect)
  | some (.error fault) => return .error (← Exchange.refuse fault)
  | some (.ok config) => do
    match ← Routine.query (.clientUsername c) with
    | some held => pure (.ok ⟨c, config, held⟩)
    | none => pure (.error .authenticationRequired)

theorem acquire_eq (host : String) (username : Option String) (home : HomeName) :
    (Exchange.acquire host username home : Routine κ (Except BridgeError LinkedBridge)) =
      .ask (.connect host username) fun c =>
        ((Exchange.calls c username.isSome home).within authLimit).bind (conclude c) := by
  refine congrArg (Routine.ask (.connect host username)) (funext fun c => ?_)
  change Routine.bind _ ((Exchange.calls c username.isSome home).within authLimit) = _
  refine congrArg (fun f => Routine.bind f _) (funext fun r => ?_)
  rcases r with _ | fault | config
  · rfl
  · rfl
  · refine congrArg (Routine.ask (.clientUsername c)) (funext fun held => ?_)
    rcases held with _ | name <;> rfl

theorem run_conclude (known : Bool) (t : Nat) (w : List Message × ω) :
    ∃ w' : ω, (conclude b.client
        (if b.inTime known then some (b.verdict known) else none)).run (b.journaled o) p t w =
      ⟨some (b.result known), t, (w.1 ++ b.lastWords known, w')⟩ := by
  unfold result lastWords
  cases b.inTime known with
  | false => exact ⟨w.2, by simp [conclude, pure, run]⟩
  | true =>
    rcases b.verdict known with fault | config
    · cases fault with
      | linkButtonNotPressed | unauthorized | request _ =>
        refine ⟨w.2, ?_⟩
        simp [conclude, Exchange.refuse, Fault.classify, pure, bind_eq, Routine.bind, run]
      | protocol message =>
        exact ⟨(o.answer (.note (.unknownLinkingError message)) w.2).2, rfl⟩
    · refine ⟨(o.answer (.clientUsername b.client) w.2).2, ?_⟩
      simp only [conclude, Routine.query, bind_eq, Routine.bind, journaled]
      rcases b.held with _ | held <;> rfl

theorem run_acquire (host : String) (username : Option String) (home : HomeName) (t : Nat)
    (w : ω) :
    ∃ w' : ω, (Exchange.acquire host username home).run (b.journaled o) p t ([], w) =
      ⟨some (b.result username.isSome), t + b.duration username.isSome,
        (.asked (.connect host username) :: (b.callsMade username.isSome home).map .called ++
          b.lastWords username.isSome, w')⟩ := by
  let known := username.isSome
  let begun := (b.journaled o).answer (.connect host username) ([], w)
  obtain ⟨w₁, hcalls⟩ := b.run_calls o p known home t begun.2
  let called := (begun.2.1 ++ (b.callsMade known home).map .called, w₁)
  obtain ⟨w₂, hend⟩ := b.run_conclude o p known (t + b.duration known) called
  refine ⟨w₂, ?_⟩
  rw [acquire_eq]
  change Routine.run _ _ (Routine.bind _ _) t begun.2 = _
  rw [run_bind]
  change Outcome.andThen
    (((Exchange.calls b.client known home).within authLimit).run _ p t begun.2) _ = _
  rw [hcalls, andThen_some]
  exact hend

theorem result_ok_iff (known : Bool) (linked : LinkedBridge) :
    b.result known = .ok linked ↔ b.inTime known ∧ b.verdict known = .ok linked.config ∧
      linked.client = b.client ∧ b.held = some linked.username := by
  rcases linked with ⟨client, config, username⟩
  unfold result
  cases b.inTime known with
  | false => simp
  | true =>
    rcases b.verdict known with fault | config'
    · cases fault <;> simp
    · rcases b.held with _ | held
      · simp
      · simp [eq_comm, and_left_comm]

theorem result_cannotConnect_iff (known : Bool) :
    b.result known = .error .cannotConnect ↔
      ¬ b.inTime known ∨ ∃ message, b.verdict known = .error (.request message) := by
  unfold result
  cases b.inTime known with
  | false => simp
  | true =>
    rcases b.verdict known with fault | config
    · cases fault <;> simp
    · rcases b.held with _ | held <;> simp

theorem result_authenticationRequired_iff (known : Bool) :
    b.result known = .error .authenticationRequired ↔ b.inTime known ∧
      ((∃ fault, b.verdict known = .error fault ∧ ∀ message, fault ≠ .request message) ∨
        (∃ config, b.verdict known = .ok config) ∧ b.held = none) := by
  unfold result
  cases b.inTime known with
  | false => simp
  | true =>
    rcases b.verdict known with fault | config
    · cases fault <;> simp
    · rcases b.held with _ | held <;> simp

/-- An error that an exchange can end in. -/
def Foreseen (e : BridgeError) : Prop := e = .authenticationRequired ∨ e = .cannotConnect

theorem foreseen_of_result {known : Bool} {e : BridgeError} (h : b.result known = .error e) :
    Foreseen e := by
  unfold result at h
  split at h
  · split at h
    · split at h
      · exact nomatch h
      · exact Or.inl (Except.error.inj h).symm
    · exact Or.inr (Except.error.inj h).symm
    · exact Or.inl (Except.error.inj h).symm
  · exact Or.inr (Except.error.inj h).symm

end Conduct

/-! ## No other error -/

namespace Exchange

open Conduct

variable {κ β : Type}

theorem yields_refuse (fault : Fault) : (refuse fault : Routine κ BridgeError).Yields Foreseen := by
  cases fault with
  | linkButtonNotPressed | unauthorized => exact Or.inl rfl
  | request _ => exact Or.inr rfl
  | protocol message => exact fun _ => Or.inl rfl

/-- An exchange ends in no other error than these two. -/
theorem yields_acquire (host : String) (username : Option String) (home : HomeName) :
    (acquire host username home : Routine κ _).Yields fun r => ∀ e, r = .error e → Foreseen e := by
  rw [Conduct.acquire_eq]
  refine fun c => yields_bind (yields_any _) fun answer _ => ?_
  rcases answer with _ | fault | config
  · rintro e ⟨⟩
    exact Or.inr rfl
  · refine yields_bind (yields_refuse fault) fun e he => ?_
    rintro _ ⟨⟩
    exact he
  · rintro (_ | held)
    · rintro e ⟨⟩
      exact Or.inl rfl
    · exact fun e he => nomatch he

/-- What follows an exchange is known once it is known for a linked bridge and the two errors. -/
theorem acquire_bind_congr {host : String} {username : Option String} {home : HomeName}
    {f g : Except BridgeError LinkedBridge → Routine κ β}
    (hok : ∀ linked, f (.ok linked) = g (.ok linked))
    (hauth : f (.error .authenticationRequired) = g (.error .authenticationRequired))
    (hconnect : f (.error .cannotConnect) = g (.error .cannotConnect)) :
    (acquire host username home).bind f = (acquire host username home).bind g := by
  refine (yields_acquire host username home).bind_congr fun r hr => ?_
  rcases r with e | linked
  · rcases hr e rfl with rfl | rfl
    · exact hauth
    · exact hconnect
  · exact hok linked

end Exchange

open Conduct in
/-- However the client behaves, an exchange ends after ten seconds at the latest. It connects the
client once, makes no other calls than it needs, and gives a client exactly if all of them succeed
in time and the client then holds a username. Otherwise the bridge cannot be reached, if it took too
long or said so, and in every other case pairing is asked for; there is no other error. -/
theorem an_exchange_is_settled {κ ω : Type} (b : Conduct) (o : Outside ω)
    (p : Place κ (List Message × ω)) (host : String) (username : Option String) (home : HomeName)
    (t : Nat) (w : ω) :
    let known := username.isSome
    let out := (Exchange.acquire host username home).run (b.journaled o) p t ([], w)
    out.world.1 = .asked (.connect host username) :: (b.callsMade known home).map .called ++
        b.lastWords known ∧
      out.time = t + b.duration known ∧
      out.result.isSome ∧
      (∀ linked, out.result = some (.ok linked) ↔ b.inTime known ∧
        b.verdict known = .ok linked.config ∧ linked.client = b.client ∧
        b.held = some linked.username) ∧
      (out.result = some (.error .cannotConnect) ↔
        ¬ b.inTime known ∨ ∃ message, b.verdict known = .error (.request message)) ∧
      (out.result = some (.error .authenticationRequired) ↔ b.inTime known ∧
        ((∃ fault, b.verdict known = .error fault ∧ ∀ message, fault ≠ .request message) ∨
          (∃ config, b.verdict known = .ok config) ∧ b.held = none)) ∧
      ∀ e, out.result = some (.error e) → e = .authenticationRequired ∨ e = .cannotConnect := by
  obtain ⟨w', hrun⟩ := b.run_acquire o p host username home t w
  simp only [hrun, Option.some.injEq, Option.isSome_some, true_and]
  exact ⟨b.result_ok_iff _, b.result_cannotConnect_iff _, b.result_authenticationRequired_iff _,
    fun e he => b.foreseen_of_result he⟩

end HueLink
