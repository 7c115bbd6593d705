-- How a routine stands at the gate of a session: outside, in the queue, or inside with a slot,
-- possibly in several gated calls one within the other. Each step and each way to give it up does
-- one thing to the gate.
import HueLink.Proofs.Routine.Interleaving
import HueLink.Proofs.Session.Usage

namespace HueLink

open Routine

/-! ## Outside the gate -/

/-- A change of a session that leaves the gate alone, if it does not put one up. -/
def Cell.Calmly (c c' : Cell) : Prop :=
  c'.ready = c.ready ∨ c.ready = none ∧
    ∃ r, c'.ready = some r ∧ r.gate = .ofPermits r.limit ∧ 1 ≤ r.limit

/-- The call reads what a client last loaded. -/
def Call.reads : Call → Bool
  | groups _ | scenes _ => true
  | _ => false

namespace Session

/-- A routine that touches the gate only by gated calls, and is in none of them. Outside of these it
makes no calls but those that are `free`. Its result is as `post` says. With `known` this relies on
the gate being there. -/
inductive Calm (known : Bool) :
    (Call → Prop) → {α : Type} → (α → Prop) → Routine Cell α → Prop where
  | done {free : Call → Prop} {α : Type} {post : α → Prop} {a : α} :
    post a → Calm known free post (.done a)
  | own {free : Call → Prop} {α : Type} {post : α → Prop} {f : Cell → Cell}
    {rest : Cell → Routine Cell α} : (∀ c : Cell, c.Calmly (f c)) →
      (∀ c : Cell, (known = true → c.ready.isSome) → Calm known free post (rest c)) →
      Calm known free post (.own f rest)
  | lock {free : Call → Prop} {α : Type} {post : α → Prop} {p : Routine Cell α} :
    Calm known free post p → Calm known free post (.lock p)
  | clock {free : Call → Prop} {α : Type} {post : α → Prop} {rest : Nat → Routine Cell α} :
    (∀ t, Calm known free post (rest t)) → Calm known free post (.clock rest)
  | ask {free : Call → Prop} {α : Type} {post : α → Prop} {q : Query}
    {rest : q.Answer → Routine Cell α} :
    (∀ a, Calm known free post (rest a)) → Calm known free post (.ask q rest)
  | call {free : Call → Prop} {α : Type} {post : α → Prop} {c : Call}
    {rest : c.Answer → Routine Cell α} :
    free c → (∀ a, Calm known free post (rest a)) → Calm known free post (.call id c rest)
  | callBy {free : Call → Prop} {α : Type} {post : α → Prop} {deadline : Nat} {c : Call}
    {rest : Option c.Answer → Routine Cell α} :
    free c → (∀ a, Calm known free post (rest a)) →
      Calm known free post (.callBy id deadline c rest)
  /-- What the work calls is not restricted, as it is called with a slot. -/
  | gated {free : Call → Prop} {α β : Type} {post : α → Prop} {work : Routine Cell β}
    {k : Except BridgeError β → Routine Cell α} :
    Calm known (fun _ => True) (fun _ => True) work → (∀ a, Calm known free post (k (.ok a))) →
      (known = false → Calm known free post (k (.error .notReady))) →
      Calm known free post ((gated .whole work).bind k)

variable {s : Session} {known : Bool} {α β : Type} {free free' : Call → Prop} {post : α → Prop}
  {post' : β → Prop}

theorem Calm.bind {p : Routine Cell α} {f : α → Routine Cell β} (hp : Calm known free post p)
    (hf : ∀ a, post a → Calm known free post' (f a)) : Calm known free post' (p.bind f) := by
  induction hp with
  | done ha => exact hf _ ha
  | own hcalm _ ih => exact .own hcalm fun c hc => ih c hc hf
  | lock _ ih => exact .lock (ih hf)
  | clock _ ih => exact .clock fun t => ih t hf
  | ask _ ih => exact .ask fun a => ih a hf
  | call hfree _ ih => exact .call hfree fun a => ih a hf
  | callBy hfree _ ih => exact .callBy hfree fun a => ih a hf
  | gated hwork _ _ _ ihok iherror =>
    rw [bind_bind]
    exact .gated hwork (fun a => ihok a hf) fun hknown => iherror hknown hf

theorem Calm.mono {p : Routine Cell α} (hfree : ∀ c, free c → free' c)
    {post' : α → Prop} (hpost : ∀ a, post a → post' a) (hp : Calm known free post p) :
    Calm known free' post' p := by
  induction hp with
  | done ha => exact .done (hpost _ ha)
  | own hcalm _ ih => exact .own hcalm fun c hc => ih c hc hfree hpost
  | lock _ ih => exact .lock (ih hfree hpost)
  | clock _ ih => exact .clock fun t => ih t hfree hpost
  | ask _ ih => exact .ask fun a => ih a hfree hpost
  | call hc _ ih => exact .call (hfree _ hc) fun a => ih a hfree hpost
  | callBy hc _ ih => exact .callBy (hfree _ hc) fun a => ih a hfree hpost
  | gated hwork _ _ _ ihok iherror =>
    exact .gated hwork (fun a => ihok a hfree hpost) fun hknown => iherror hknown hfree hpost

theorem calm_outward {p : Routine Cell α} (hp : p.Outward) :
    Calm known (fun _ => True) (fun _ => True) p := by
  induction hp with
  | done a => exact .done trivial
  | clock _ ih => exact .clock ih
  | ask _ _ _ ih => exact .ask ih
  | call _ ih => exact .call trivial ih
  | callBy _ ih => exact .callBy trivial ih

theorem calm_modify {f : Cell → Cell} (hf : ∀ c, (f c).ready = c.ready) :
    Calm known free (fun _ => True) (Routine.modify f) :=
  .own (fun c => Or.inl (hf c)) fun _ _ => .done trivial

theorem calm_setState (state : SessionState) : Calm known free (fun _ => True) (setState state) :=
  .lock (calm_modify fun _ => rfl)

theorem calm_read : Calm known free (fun c => known = true → c.ready.isSome) Routine.read :=
  .own (fun _ => Or.inl rfl) fun _ hc => .done hc

theorem calm_claim : Calm known free (fun _ => True) claim := by
  refine .lock (.own (fun c => Or.inl ?_) fun _ _ => .done trivial)
  split <;> rfl

theorem concurrencyLimit_pos (modelId : String) : 1 ≤ concurrencyLimit modelId := by
  unfold concurrencyLimit limitedModels
  rw [List.lookup_cons]
  cases modelId == "BSB001" with
  | true => exact (by decide : 1 ≤ 3)
  | false => exact (by decide : 1 ≤ 10)

theorem calm_keep {ready : Ready} (hgate : ready.gate = .ofPermits ready.limit)
    (hlimit : 1 ≤ ready.limit) : Calm known free (fun _ => True) (keep ready) := by
  refine .own (fun c => ?_) fun _ _ => .done trivial
  rcases hready : c.ready with _ | r
  · exact Or.inr ⟨hready, ready, rfl, hgate, hlimit⟩
  · exact Or.inl (by rw [hready]; rfl)

theorem calm_query (q : Query) :
    Calm known free (fun _ => True) (Routine.query q : Routine Cell q.Answer) :=
  .ask fun _ => .done trivial

theorem calm_load (linked : LinkedBridge) : Calm known free (fun _ => True) (s.load linked) := by
  refine (calm_query (.note _)).bind fun _ _ => ?_
  refine (calm_keep rfl (concurrencyLimit_pos _)).bind fun kept _ => ?_
  cases kept with
  | false => exact .done trivial
  | true =>
    have hforwards : Calm known free (fun _ => True)
        (Platform.all.forM fun platform => Routine.query (.forwardSetup s.registration platform)) :=
      .ask fun _ => .ask fun _ => .ask fun _ => .done trivial
    refine hforwards.bind fun _ _ => (calm_query (.registerSceneService _)).bind fun _ _ => ?_
    refine .bind (calm_modify fun _ => rfl) fun _ _ => (calm_setState _).bind fun _ _ => ?_
    exact (calm_query (.note _)).bind fun _ _ => .done trivial

theorem calm_setup : Calm known (fun _ => True) (fun _ => True) s.setup := by
  refine calm_claim.bind fun claimed _ => ?_
  cases claimed with
  | false => exact (calm_query (.note _)).bind fun _ _ => .done trivial
  | true =>
    refine (calm_query .locationName).bind fun home _ => ?_
    refine (calm_outward (outward_acquire _ _ _)).bind fun answer _ => ?_
    rcases answer with e | linked
    · cases e with
      | authenticationRequired => exact (calm_setState _).bind fun _ _ =>
          (calm_query (.startPairing _)).bind fun _ _ => .done trivial
      | cannotConnect | unknown _ | notReady | invalidServiceData _ =>
        exact (calm_query (.note _)).bind fun _ _ => (calm_setState _).bind fun _ _ => .done trivial
    · exact calm_load linked

theorem calm_markUnauthorized : Calm known free (fun _ => True) s.markUnauthorized := by
  refine .own (fun _ => Or.inl rfl) fun before _ => ?_
  split
  · exact (calm_query (.note _)).bind fun _ _ => (calm_setState _).bind fun _ _ =>
      calm_query (.startPairing _)
  · exact .done trivial

/-- However a session is used, its gate is touched only by gated calls. -/
theorem calm_usage {p : Routine Cell α} (h : s.Usage α p) :
    Calm known (fun _ => True) (fun _ => True) p := by
  induction h with
  | outward hp => exact calm_outward hp
  | bind _ _ ihp ihf => exact ihp.bind fun a _ => ihf a
  | read => exact .own (fun _ => Or.inl rfl) fun _ _ => .done trivial
  | lock _ ih => exact .lock ih
  | setup => exact calm_setup
  | markUnauthorized => exact calm_markUnauthorized
  | setAvailable available => exact calm_modify fun _ => rfl
  | @request _ work _ ih =>
    rw [← bind_done (gated .whole work)]
    exact .gated ih (fun _ => .done trivial) fun _ => .done trivial

/-! ## Calls that need a slot -/

/-- A request, or a call to the bridge through the gate. -/
inductive Gated (s : Session) : {α : Type} → Routine Cell (Except BridgeError α) → Prop where
  | request {α : Type} {work : Routine Cell α} : s.Usage α work → Gated s (gated .whole work)
  | callApi {α : Type} {work : Client → Routine Cell (Except Fault α)} :
    (∀ client, s.Usage _ (work client)) → Gated s (s.callApi work)

theorem calm_request {work : Routine Cell α} (hwork : s.Usage α work) :
    Calm known free (fun r => known = true → r ≠ .error .notReady) (gated .whole work) := by
  rw [← bind_done (gated .whole work)]
  refine .gated (calm_usage hwork) (fun a => .done fun _ h => nomatch h) fun hknown => .done ?_
  intro htrue
  rw [hknown] at htrue
  exact nomatch htrue

/-- A gated call makes no calls but those of its work. With the gate in place, nobody hears that the
session is not set up. -/
theorem calm_gated {p : Routine Cell (Except BridgeError α)} (h : s.Gated p) :
    Calm known free (fun r => known = true → r ≠ .error .notReady) p := by
  cases h with
  | request hwork => exact calm_request hwork
  | callApi hwork =>
    refine calm_read.bind fun c hc => ?_
    rcases hclient : c.client with e | client
    · refine .done fun hknown _ => ?_
      obtain ⟨r, hready⟩ := Option.isSome_iff_exists.mp (hc hknown)
      rw [Cell.client, hready] at hclient
      exact nomatch hclient
    refine (calm_request (hwork client)).bind fun answer hanswer => ?_
    rcases answer with e | fault | a
    · exact .done fun hknown h => hanswer hknown (by rw [Except.error.inj h])
    · cases fault with
      | unauthorized => exact calm_markUnauthorized.bind fun _ _ => .done fun _ h => nomatch h
      | linkButtonNotPressed | request _ | protocol _ => exact .done fun _ h => nomatch h
    · exact .done fun _ h => nomatch h

theorem calm_callApi {work : Client → Routine Cell (Except Fault α)}
    (hwork : ∀ client, s.Usage _ (work client)) :
    Calm known free (fun _ => True) (s.callApi work) :=
  (calm_gated (.callApi hwork)).mono (fun _ h => h) fun _ _ => trivial

theorem calm_lookup (client : Client) (groupName sceneName : String) :
    Calm known (Call.reads · = true) (fun _ => True) (lookup client groupName sceneName) := by
  refine .call rfl fun groups => ?_
  rcases groups with fault | groups
  · exact .done trivial
  · simp only [bind_eq, Routine.bind]
    rcases findGroup groupName groups with _ | group
    · exact .done trivial
    · refine .call rfl fun scenes => ?_
      rcases scenes with fault | scenes <;> exact .done trivial

theorem calm_refresh : Calm known free (fun _ => True) s.refresh := by
  refine (calm_query (.note _)).bind fun _ _ => ?_
  have hgroups := fun c => Usage.outward (s := s) (outward_request (.updateGroups c))
  refine (calm_callApi hgroups).bind fun answer _ => ?_
  rcases answer with e | ⟨⟩
  · exact .done trivial
  · exact calm_callApi fun c => .outward (outward_request (.updateScenes c))

theorem calm_recallFound (groupName sceneName : String) (found : Found) :
    Calm known free (fun _ => True) (s.recallFound groupName sceneName found) := by
  rcases found with ⟨_ | group, _ | scene⟩
  · exact (calm_query (.note _)).bind fun _ _ => .done trivial
  · exact (calm_query (.note _)).bind fun _ _ => .done trivial
  · exact (calm_query (.note _)).bind fun _ _ => .done trivial
  · exact calm_callApi fun c => .outward (outward_request (.setGroupScene c _ _))

theorem calm_recallAgain (client : Client) (groupName sceneName : String) :
    Calm known (Call.reads · = true) (fun _ => True)
      (s.recallAgain client groupName sceneName) := by
  refine calm_refresh.bind fun answer _ => ?_
  rcases answer with e | ⟨⟩
  · exact .done trivial
  · refine (calm_lookup client _ _).bind fun second _ => ?_
    rcases second with e | found
    · exact .done trivial
    · exact calm_recallFound _ _ found

/-- Without a slot a recall only reads what the client last loaded. -/
theorem calm_activateNamedScene (groupName sceneName : String) :
    Calm known (Call.reads · = true) (fun _ => True)
      (s.activateNamedScene groupName sceneName) := by
  refine calm_read.bind fun c _ => ?_
  rcases c.client with e | client
  · exact .done trivial
  refine (calm_lookup client _ _).bind fun first _ => ?_
  rcases first with e | ⟨_ | group, _ | scene⟩
  · exact .done trivial
  · exact calm_recallAgain _ _ _
  · exact calm_recallAgain _ _ _
  · exact calm_recallAgain _ _ _
  · exact calm_recallFound _ _ _

theorem calm_serveScene (data : Json) :
    Calm known (Call.reads · = true) (fun _ => True) (serveScene (some s) data) := by
  unfold serveScene
  rcases SceneCall.record.decode data with e | call
  · exact .done trivial
  · exact calm_activateNamedScene _ _

/-- The calls for which a routine needs a slot: all calls of a request or a call to the bridge, and
all that a recall of a scene does with the bridge. -/
inductive NeedsSlot : {α : Type} → Routine Cell α → Call → Prop where
  | gated {s : Session} {α : Type} {p : Routine Cell (Except BridgeError α)} (c : Call) :
    s.Gated p → NeedsSlot p c
  | scene {s : Session} (groupName sceneName : String) {c : Call} :
    c.reads = false → NeedsSlot (s.activateNamedScene groupName sceneName) c
  | service {s : Session} (data : Json) {c : Call} :
    c.reads = false → NeedsSlot (serveScene (some s) data) c

/-- However a session is used, no call that needs a slot is made outside the gate. -/
theorem calm_of_usage {p : Routine Cell α} (h : s.Usage α p) :
    Calm false (fun c => ¬ NeedsSlot p c) (fun _ => True) p := by
  by_cases hread : ∃ c, c.reads = true ∧ NeedsSlot p c
  · obtain ⟨c, hc, hneeds⟩ := hread
    cases hneeds with
    | gated _ hgated => exact (calm_gated hgated).mono (fun _ h => h) fun _ _ => trivial
    | scene _ _ hc' | service _ hc' => exact nomatch hc'.symm.trans hc
  · have hread : ∀ c, c.reads = true → ¬ NeedsSlot p c := fun c hc h => hread ⟨c, hc, h⟩
    by_cases hneeds : ∃ c, NeedsSlot p c
    · obtain ⟨c, hneeds⟩ := hneeds
      cases hneeds with
      | gated _ hgated => exact (calm_gated hgated).mono (fun _ h => h) fun _ _ => trivial
      | scene => exact (calm_activateNamedScene _ _).mono hread fun _ h => h
      | service => exact (calm_serveScene _).mono hread fun _ h => h
    · exact (calm_usage h).mono (fun c _ hc => hneeds ⟨c, hc⟩) fun _ h => h

/-! ## In and out of the gate -/

/-- How a routine stands at the gate, with the tickets with which it is queued and those with which
it has a slot, the outermost first. Without a slot it makes no calls but those that are `free`. -/
inductive Stands (known : Bool) : (Call → Prop) →
    {α : Type} → (α → Prop) → List Nat → List Nat → Routine Cell α → Prop where
  | outside {free : Call → Prop} {α : Type} {post : α → Prop} {p : Routine Cell α} :
    Calm known free post p → Stands known free post [] [] p
  | queued {free : Call → Prop} {α β : Type} {post : α → Prop} {t : Nat} {work : Routine Cell β}
    {k : Except BridgeError β → Routine Cell α} :
    Calm known (fun _ => True) (fun _ => True) work → (∀ a, Calm known free post (k (.ok a))) →
      Stands known free post [t] [] ((queued t work).bind k)
  | running {free : Call → Prop} {α β : Type} {post : α → Prop} {t : Nat} {work : Routine Cell β}
    {k : Except BridgeError β → Routine Cell α} {q r : List Nat} :
    Stands known (fun _ => True) (fun _ => True) q r work →
      (∀ a, Calm known free post (k (.ok a))) →
      Stands known free post q (t :: r) ((running t work).bind k)

/-- What a step does to a session and to the tickets of the routine that takes it. -/
inductive Change : Cell → List Nat → List Nat → Cell → List Nat → List Nat → Prop where
  | stay {c c' : Cell} {q r : List Nat} : c.Calmly c' → Change c q r c' q r
  | draw {c : Cell} {q r : List Nat} {g : Semaphore} : c.gate? = some g →
    Change c q r (c.mapGate Semaphore.arrive) (g.next :: q) r
  | begin {c : Cell} {q r : List Nat} {g : Semaphore} {t : Nat} :
    c.gate? = some g → g.holds t = true → Change c (t :: q) r c q (r ++ [t])
  | finish {c : Cell} {q r : List Nat} {t : Nat} : Change c q (r ++ [t]) (giveUp t c) q r

theorem Change.inside {c c' : Cell} {q r q' r' : List Nat} (t : Nat) (h : Change c q r c' q' r') :
    Change c q (t :: r) c' q' (t :: r') := by
  cases h with
  | stay h => exact .stay h
  | draw hg => exact .draw hg
  | begin hg hholds => exact .begin hg hholds
  | finish => exact @Change.finish _ _ (t :: r') _

variable {t : Nat} {work : Routine Cell β} {k : Except BridgeError β → Routine Cell α}
  {p p' : Routine Cell α} {l l' : Ledger Cell} {q r : List Nat}

theorem step_running (h : Step ((running t work).bind k) l p' l') :
    (∃ work', Step work l work' l' ∧ p' = (running t work').bind k) ∨
      ∃ a, work = .done a ∧ p' = k (.ok a) ∧ l' = l.write (giveUp t) := by
  cases work with
  | done a =>
    cases h
    exact Or.inr ⟨a, rfl, rfl, rfl⟩
  | own f rest =>
    cases h
    exact Or.inl ⟨_, .own f rest l, rfl⟩
  | await drop ok rest =>
    cases h with
    | await _ _ _ _ hok => exact Or.inl ⟨_, .await drop ok rest l hok, rfl⟩
  | lock rest =>
    cases h
    exact Or.inl ⟨_, .lock rest l, rfl⟩
  | clock rest =>
    cases h
    exact Or.inl ⟨_, .clock rest l _, rfl⟩
  | ask q rest =>
    cases h
    exact Or.inl ⟨_, .ask q rest l _, rfl⟩
  | call drop c rest =>
    cases h
    exact Or.inl ⟨_, .call drop c rest l _, rfl⟩
  | callBy drop t c rest =>
    cases h
    exact Or.inl ⟨_, .callBy drop t c rest l _, rfl⟩

theorem onDrop_running : ((running t work).bind k).onDrop = work.onDrop.map (giveUp t ∘ ·) := by
  cases work <;> rfl

theorem running_ne_done {a : α} : (running t work).bind k ≠ .done a := by
  cases work <;> exact fun h => nomatch h

/-- Whoever is at the end is outside the gate. -/
theorem stands_done {a : α} (h : Stands known free post q r (.done a)) :
    q = [] ∧ r = [] ∧ post a := by
  generalize hp : Routine.done a = p at h
  cases h with
  | outside hcalm =>
    cases hcalm with
    | done ha =>
      cases hp
      exact ⟨rfl, rfl, ha⟩
    | gated _ _ _ =>
      rw [gated_eq] at hp
      exact nomatch hp
    | own | lock | clock | ask | call | callBy => exact nomatch hp
  | queued _ _ => exact nomatch hp
  | running _ _ => exact absurd hp.symm running_ne_done

theorem calm_step (h : Calm known free post p) (hs : Step p l p' l')
    (hknown : known = true → l.cell.ready.isSome) :
    ∃ q r, Stands known free post q r p' ∧ Change l.cell [] [] l'.cell q r := by
  cases h with
  | done _ => exact nomatch hs
  | own hcalm hrest =>
    cases hs
    exact ⟨[], [], .outside (hrest _ hknown), .stay (hcalm _)⟩
  | lock hp =>
    cases hs
    exact ⟨[], [], .outside hp, .stay (Or.inl rfl)⟩
  | clock hrest =>
    cases hs
    exact ⟨[], [], .outside (hrest _), .stay (Or.inl rfl)⟩
  | ask hrest =>
    cases hs
    exact ⟨[], [], .outside (hrest _), .stay (Or.inl rfl)⟩
  | call _ hrest =>
    cases hs
    exact ⟨[], [], .outside (hrest _), .stay (Or.inl rfl)⟩
  | callBy _ hrest =>
    cases hs
    exact ⟨[], [], .outside (hrest _), .stay (Or.inl rfl)⟩
  | @gated _ _ _ _ work k hwork hok herror =>
    rw [gated_eq] at hs
    cases hs
    change ∃ q r, Stands known free post q r ((entered work l.cell).bind k) ∧ _
    unfold entered
    rcases hg : l.cell.gate? with _ | g
    · have hnone : l.cell.ready = none := Option.map_eq_none_iff.mp hg
      have hfalse : known = false := by
        rw [Bool.eq_false_iff]
        intro htrue
        rw [hnone] at hknown
        exact nomatch hknown htrue
      refine ⟨[], [], .outside (herror hfalse), .stay (Or.inl ?_)⟩
      change l.cell.ready.map _ = l.cell.ready
      rw [hnone]
      rfl
    · exact ⟨[g.next], [], .queued hwork hok, .draw hg⟩

/-- One step of a routine, and what it does to its tickets. -/
theorem stands_step (h : Stands known free post q r p) (hs : Step p l p' l')
    (hopen : ∀ g, l.cell.gate? = some g → g.closed = false)
    (hknown : known = true → l.cell.ready.isSome) :
    ∃ q' r', Stands known free post q' r' p' ∧ Change l.cell q r l'.cell q' r' := by
  induction h with
  | outside hcalm => exact calm_step hcalm hs hknown
  | @queued _ _ _ _ t work k hwork hok =>
    cases hs with
    | await _ _ _ _ hsettled =>
      obtain ⟨g, hg, hsettled⟩ := (Option.any_eq_true _ _).mp hsettled
      -- The gate was never closed, so the only way past the queue is to have a slot.
      have hholds : g.holds t = true := by
        unfold Semaphore.settled at hsettled
        rwa [hopen g hg, Bool.false_or] at hsettled
      refine ⟨[], [t], ?_, .begin hg hholds⟩
      change Stands known _ _ _ _ (Routine.bind k (ite _ _ _))
      rw [if_pos ((Option.any_eq_true _ _).mpr ⟨g, hg, hholds⟩)]
      exact .running (.outside hwork) hok
  | running hwork hok ih =>
    rcases step_running hs with ⟨work', hs', rfl⟩ | ⟨a, rfl, rfl, rfl⟩
    · obtain ⟨q', r', hstands, hchange⟩ := ih hs'
      exact ⟨q', _ :: r', .running hstands hok, hchange.inside _⟩
    · obtain ⟨rfl, rfl, -⟩ := stands_done hwork
      exact ⟨[], [], .outside (hok a), @Change.finish _ [] [] _⟩

/-- Tickets that are not used any more, the last one first. -/
def giveUpAll (tickets : List Nat) (c : Cell) : Cell := tickets.foldr giveUp c

theorem calm_onDrop {f : Cell → Cell} (h : Calm known free post p) (hf : p.onDrop = some f) :
    f = id := by
  cases h with
  | call | callBy => exact (Option.some.inj hf).symm
  | gated _ _ _ =>
    rw [gated_eq] at hf
    exact nomatch hf
  | done | own | lock | clock | ask => exact nomatch hf

/-- Giving up a routine gives up all its tickets. -/
theorem stands_onDrop {f : Cell → Cell} (h : Stands known free post q r p)
    (hf : p.onDrop = some f) :
    f = giveUpAll (r ++ q) := by
  induction h generalizing f with
  | outside hcalm => exact calm_onDrop hcalm hf
  | queued _ _ => exact (Option.some.inj hf).symm
  | running _ _ ih =>
    rw [onDrop_running] at hf
    obtain ⟨inner, hinner, rfl⟩ := Option.map_eq_some_iff.mp hf
    rw [ih hinner]
    rfl

end Session

end HueLink
