-- Contact with bridges: the connections that are made, the usernames that are asked for, and what
-- is looked up on the way. An exchange makes one connection. It asks for a username only if it has
-- none, and then on the client just connected.
import HueLink.Proofs.Exchange.Ways

namespace HueLink

open Routine

variable {κ : Type}

/-- A client that was connected, with the host and the username it began with. -/
structure Connection where
  host : String
  username : Option String
  client : Client

namespace Routine.Event

def connection : Event κ → Option Connection
  | asked (.connect host username) c => some ⟨host, username, c⟩
  | _ => none

/-- The client on which a username is asked for. -/
def createsOn : Event κ → Option Client
  | called (.createUser c _) _ | calledBy (.createUser c _) _ => some c
  | _ => none

/-- A discovery round begins. -/
def discovers : Event κ → Bool
  | called .discover _ | calledBy .discover _ => true
  | _ => false

/-- A username is looked up in a legacy file. -/
def looksUp : Event κ → Bool
  | asked (.legacyUsername _ _) _ => true
  | _ => false

/-- The event is no contact with anybody. -/
def isQuiet (e : Event κ) : Bool :=
  e.connection.isNone && e.createsOn.isNone && !e.discovers && !e.looksUp

end Routine.Event

def connections (es : List (Event κ)) : List Connection := es.filterMap Event.connection

/-- The clients on which usernames were asked for. -/
def creations (es : List (Event κ)) : List Client := es.filterMap Event.createsOn

/-- The clients that were connected without a username. -/
def strangers (es : List (Event κ)) : List Client :=
  ((connections es).filter (·.username.isNone)).map (·.client)

variable {e : Event κ} {es es' : List (Event κ)} {c : Client}

@[simp] theorem connections_append : connections (es ++ es') = connections es ++ connections es' :=
  List.filterMap_append ..

/-! ## Asking for a username -/

/-- A username is asked for only on a client just connected without one. -/
inductive CreatesInPlace : List (Event κ) → Prop where
  | nil : CreatesInPlace []
  | other {e : Event κ} {es : List (Event κ)} :
    e.createsOn = none → CreatesInPlace es → CreatesInPlace (e :: es)
  | created (host : String) {c : Client} {e : Event κ} {es : List (Event κ)} :
    e.createsOn = some c → CreatesInPlace es →
      CreatesInPlace (.asked (.connect host none) c :: e :: es)

theorem CreatesInPlace.append (h : CreatesInPlace es) (h' : CreatesInPlace es') :
    CreatesInPlace (es ++ es') := by
  induction h with
  | nil => exact h'
  | other he _ ih => exact .other he ih
  | created host he _ ih => exact .created host he ih

/-- What comes just before a username is asked for. -/
theorem CreatesInPlace.connected {before after : List (Event κ)} (h : CreatesInPlace es)
    (hes : es = before ++ e :: after) (he : e.createsOn = some c) :
    ∃ earlier host, before = earlier ++ [.asked (.connect host none) c] := by
  -- Along the list; `before` either has the first event, or two of them, or is still empty.
  induction h generalizing before with
  | nil => simp at hes
  | @other e' es he' _ ih =>
    cases before with
    | nil =>
      obtain ⟨rfl, _⟩ := List.cons.inj hes
      rw [he] at he'
      exact nomatch he'
    | cons b before =>
      obtain ⟨rfl, hrest⟩ := List.cons.inj hes
      obtain ⟨earlier, host, rfl⟩ := ih hrest
      exact ⟨e' :: earlier, host, rfl⟩
  | @created host c' e' es he' _ ih =>
    cases before with
    | nil =>
      obtain ⟨rfl, _⟩ := List.cons.inj hes
      exact nomatch he
    | cons b before =>
      obtain ⟨rfl, hrest⟩ := List.cons.inj hes
      cases before with
      | nil =>
        obtain ⟨rfl, _⟩ := List.cons.inj hrest
        obtain rfl := Option.some.inj (he.symm.trans he')
        exact ⟨[], host, rfl⟩
      | cons b' before =>
        obtain ⟨rfl, hrest'⟩ := List.cons.inj hrest
        obtain ⟨earlier, host', rfl⟩ := ih hrest'
        exact ⟨_ :: e' :: earlier, host', rfl⟩

/-- Each connection without a username is used at most once to ask for one. -/
theorem CreatesInPlace.sublist (h : CreatesInPlace es) :
    (creations es).Sublist (strangers es) := by
  induction h with
  | nil => exact .slnil
  | @other e es he _ ih =>
    have hcreations : creations (e :: es) = creations es := List.filterMap_cons_none he
    rw [hcreations]
    cases hconnection : e.connection with
    | none =>
      have hconnections : connections (e :: es) = connections es :=
        List.filterMap_cons_none hconnection
      unfold strangers
      rw [hconnections]
      exact ih
    | some x =>
      have hconnections : connections (e :: es) = x :: connections es :=
        List.filterMap_cons_some hconnection
      unfold strangers
      rw [hconnections, List.filter_cons]
      split
      · exact ih.cons x.client
      · exact ih
  | @created host c e es he _ ih =>
    have hconnection : e.connection = none := by
      rcases e with _ | _ | _ | _ | _ <;> first | rfl | exact nomatch he
    have hcreations : creations (.asked (.connect host none) c :: e :: es) = c :: creations es :=
      List.filterMap_cons_some he
    have hconnections : connections (.asked (.connect host none) c :: e :: es) =
        ⟨host, none, c⟩ :: connections es :=
      congrArg (_ :: ·) (List.filterMap_cons_none hconnection)
    unfold strangers
    rw [hcreations, hconnections]
    exact ih.cons_cons c

/-! ## What is left behind -/

/-- The contacts in a stretch of events, one by one. -/
structure Footprint (es : List (Event κ)) (made : List Connection) (rounds lookups : Nat) :
    Prop where
  connections : connections es = made
  created : CreatesInPlace es
  rounds : es.countP Event.discovers = rounds
  lookups : es.countP Event.looksUp = lookups

variable {made made' : List Connection} {rounds rounds' lookups lookups' : Nat}

theorem footprint_nil : Footprint ([] : List (Event κ)) [] 0 0 := ⟨rfl, .nil, rfl, rfl⟩

theorem Footprint.append (h : Footprint es made rounds lookups)
    (h' : Footprint es' made' rounds' lookups') :
    Footprint (es ++ es') (made ++ made') (rounds + rounds') (lookups + lookups') := by
  refine ⟨?_, h.created.append h'.created, ?_, ?_⟩
  · rw [connections_append, h.connections, h'.connections]
  · rw [List.countP_append, h.rounds, h'.rounds]
  · rw [List.countP_append, h.lookups, h'.lookups]

theorem Footprint.quiet (h : Footprint es made rounds lookups) (he : e.isQuiet = true) :
    Footprint (e :: es) made rounds lookups := by
  simp only [Event.isQuiet, Bool.and_eq_true, Option.isNone_iff_eq_none, Bool.not_eq_true'] at he
  obtain ⟨⟨⟨hconnection, hcreates⟩, hdiscovers⟩, hlooks⟩ := he
  refine ⟨?_, .other hcreates h.created, ?_, ?_⟩
  · rw [← h.connections]
    exact List.filterMap_cons_none hconnection
  · rw [List.countP_cons_of_neg (by simp [hdiscovers]), h.rounds]
  · rw [List.countP_cons_of_neg (by simp [hlooks]), h.lookups]

namespace Exchange

variable {host : String} {home : HomeName} {username : Option String}
  {r : Except BridgeError LinkedBridge}

theorem Validation.footprint (h : Validation c es r) : Footprint es [] 0 0 := by
  cases h with
  | late | rejected => exact footprint_nil.quiet rfl
  | nameless | accepted =>
    exact (footprint_nil.quiet rfl).quiet rfl

/-- An exchange connects one client, with the username it is given. -/
theorem Way.footprint (h : Way host home username es r) :
    ∃ c, Footprint es [⟨host, username, c⟩] 0 0 := by
  cases h with
  | @known _ c _ _ hvalid =>
    obtain ⟨hmade, hcreated, hrounds, hlookups⟩ := hvalid.footprint
    exact ⟨c, congrArg (_ :: ·) hmade, .other rfl hcreated, hrounds, hlookups⟩
  | late c => exact ⟨c, rfl, .created host rfl .nil, rfl, rfl⟩
  | refused c fault => exact ⟨c, rfl, .created host rfl .nil, rfl, rfl⟩
  | @created c _ _ hvalid =>
    obtain ⟨hmade, hcreated, hrounds, hlookups⟩ := hvalid.footprint
    exact ⟨c, congrArg (_ :: ·) hmade, .created host rfl hcreated, hrounds, hlookups⟩

end Exchange

/-! ## Limits -/

/-- How much a step may take: time, connections, rounds of discovery, and lookups in files. -/
structure Limits where
  time : Nat
  connections : Nat
  rounds : Nat
  lookups : Nat

/-- The exchange of the first connection ended in pairing being asked for. -/
def Refused (first : Connection) (es : List (Event κ)) : Prop :=
  ∃ before exchange after home, es = before ++ (exchange ++ after) ∧ connections before = [] ∧
    Exchange.Way first.host home first.username exchange (.error .authenticationRequired)

/-- The contacts are within their limits, with the one host that is aimed at. A second connection is
made only if the first was refused, and then to get a new username. -/
structure Contact (limits : Limits) (aim : String → Prop) (es : List (Event κ)) : Prop where
  connections : (connections es).length ≤ limits.connections
  aimed : ∀ x ∈ HueLink.connections es, aim x.host
  again : ∀ first second, HueLink.connections es = [first, second] →
    second.username = none ∧ Refused first es
  created : CreatesInPlace es
  rounds : es.countP Event.discovers ≤ limits.rounds
  lookups : es.countP Event.looksUp ≤ limits.lookups

variable {limits limits' : Limits} {aim aim' : String → Prop}

/-- No contact is made with a bridge at all. -/
theorem Footprint.contact_none (h : Footprint es [] rounds lookups)
    (hrounds : rounds ≤ limits.rounds) (hlookups : lookups ≤ limits.lookups) :
    Contact limits aim es := by
  obtain ⟨hmade, hcreated, rfl, rfl⟩ := h
  refine ⟨?_, ?_, ?_, hcreated, hrounds, hlookups⟩
  · rw [hmade]
    exact Nat.zero_le _
  · rw [hmade]
    exact fun x hx => absurd hx List.not_mem_nil
  · intro first second htwo
    rw [hmade] at htwo
    exact nomatch htwo

theorem Footprint.contact_one {x : Connection} (h : Footprint es [x] rounds lookups)
    (haim : aim x.host) (hone : 1 ≤ limits.connections) (hrounds : rounds ≤ limits.rounds)
    (hlookups : lookups ≤ limits.lookups) : Contact limits aim es := by
  obtain ⟨hmade, hcreated, rfl, rfl⟩ := h
  refine ⟨?_, ?_, ?_, hcreated, hrounds, hlookups⟩
  · rw [hmade]
    exact hone
  · rw [hmade]
    intro y hy
    rw [List.mem_singleton.mp hy]
    exact haim
  · intro first second htwo
    rw [hmade] at htwo
    exact nomatch htwo

/-- What comes before, if it connects nobody. -/
theorem Contact.after {before : List (Event κ)} (h : Contact limits aim es)
    (hbefore : Footprint before [] rounds lookups)
    (hmore : limits.connections ≤ limits'.connections)
    (hrounds : rounds + limits.rounds ≤ limits'.rounds)
    (hlookups : lookups + limits.lookups ≤ limits'.lookups) (haim : ∀ host, aim host → aim' host) :
    Contact limits' aim' (before ++ es) := by
  have hmade : HueLink.connections (before ++ es) = HueLink.connections es := by
    rw [connections_append, hbefore.connections, List.nil_append]
  refine ⟨?_, ?_, ?_, hbefore.created.append h.created, ?_, ?_⟩
  · rw [hmade]
    exact Nat.le_trans h.connections hmore
  · rw [hmade]
    exact fun x hx => haim _ (h.aimed x hx)
  · intro first second htwo
    rw [hmade] at htwo
    obtain ⟨hnone, early, exchange, late, home, rfl, hsilent, hway⟩ := h.again first second htwo
    refine ⟨hnone, before ++ early, exchange, late, home, (List.append_assoc ..).symm, ?_, hway⟩
    rw [connections_append, hbefore.connections, hsilent]
    rfl
  · rw [List.countP_append, hbefore.rounds]
    exact Nat.le_trans (Nat.add_le_add_left h.rounds rounds) hrounds
  · rw [List.countP_append, hbefore.lookups]
    exact Nat.le_trans (Nat.add_le_add_left h.lookups lookups) hlookups

end HueLink
