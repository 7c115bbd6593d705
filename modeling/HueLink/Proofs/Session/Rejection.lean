-- What calls to the bridge and recalls of scenes do to their session. They only pass its gate,
-- until a gated call is answered that the username is rejected. Then they end the authorization,
-- and the first to do so writes the error to the log and asks for pairing.
import HueLink.Proofs.Routine.Asking
import HueLink.Proofs.Routine.Deeds
import HueLink.Proofs.Session.SceneRecall

namespace HueLink

open Routine

/-! ## Quiet deeds -/

/-- The query writes an error to the log. -/
def Query.isGrave : Query → Bool
  | note line => line.level = .error
  | _ => false

/-- What passing the gate does to a session: a ticket is drawn, or it is given up. -/
inductive Cell.Shuffles (c : Cell) : Cell → Prop where
  | stay : Shuffles c c
  | arrive : Shuffles c (c.mapGate Semaphore.arrive)
  | leave (ticket : Nat) : Shuffles c (Session.giveUp ticket c)

namespace Routine.Deed

/-- The deed does no more to a session than to pass its gate. It reports no error and does not ask
for pairing. -/
def Quiet : Deed Cell → Prop
  | event (.moved seen left) => seen.Shuffles left
  | event (.asked q _) => q.isGrave = false ∧ q.relinks = false
  | event (.passed _) | event (.called _ _) | event (.calledBy _ _) | locked | told _ => True

/-- A call that needs a slot was answered that the username is rejected. -/
def isRefusal : Deed Cell → Bool
  | event (.called (.updateGroups _) (.error .unauthorized))
  | event (.called (.updateScenes _) (.error .unauthorized))
  | event (.called (.setGroupScene _ _ _) (.error .unauthorized)) => true
  | _ => false

/-- Quiet, and no refusal. -/
def Plain (d : Deed Cell) : Prop := d.Quiet ∧ d.isRefusal = false

/-- The deed found the session set up with this client, if it looked. -/
def Finds (client : Client) (d : Deed Cell) : Prop :=
  ∀ seen, d.seen? = some seen → seen.Serves client

end Routine.Deed

variable {α β : Type} {s : Session} {client : Client} {groupName sceneName : String} {t : Nat}
  {ds : List (Deed Cell)}

theorem quiet_of_outward {p : Routine Cell α} (hp : p.Outward)
    (hasks : p.Asks (·.isGrave = false)) : Keeps Deed.Quiet p := by
  induction hp with
  | done => exact keeps_done
  | clock _ ih =>
    refine keeps_of_does fun d p' hd => ?_
    cases hd with
    | clock _ t => exact ⟨trivial, ih t (hasks t)⟩
  | ask _ hrelinks _ ih =>
    refine keeps_of_does fun d p' hd => ?_
    cases hd with
    | ask _ _ a => exact ⟨⟨hasks.1, hrelinks⟩, ih a (hasks.2 a)⟩
  | call _ ih =>
    refine keeps_of_does fun d p' hd => ?_
    cases hd with
    | call _ _ _ a => exact ⟨trivial, ih a (hasks a)⟩
  | callBy _ ih =>
    refine keeps_of_does fun d p' hd => ?_
    cases hd with
    | callBy _ _ _ _ a => exact ⟨trivial, ih a (hasks a)⟩

namespace Session

/-! ## After a rejection -/

/-- The rest of a call that was rejected. -/
def expel (s : Session) (ticket : Nat) : Routine Cell (Except BridgeError α) :=
  .own (giveUp ticket) fun _ =>
    s.markUnauthorized.bind fun _ => .done (.error .authenticationRequired)

/-- The authorization ends. -/
def lower (c : Cell) : Deed Cell := .event (.moved c { c with authorized := false })

/-- What whoever ends the authorization does next. -/
def alarm (s : Session) (c : Cell) : List (Deed Cell) :=
  [.event (.asked (.note (.usernameRejected s.host)) ()), .locked,
    .event (.moved c { c with state := .authFailed }), .event (.asked (.startPairing s.host) ())]

/-- What a call that was rejected has done since; `true` says that this is all. -/
inductive Aftermath (s : Session) : List (Deed Cell) → Bool → Prop where
  | begun : Aftermath s [] false
  | left (t : Nat) (c : Cell) : Aftermath s [.event (.moved c (giveUp t c))] false
  | late (t : Nat) (c : Cell) {c' : Cell} : c'.authorized = false →
      Aftermath s [.event (.moved c (giveUp t c)), lower c'] true
  | first (t : Nat) (c : Cell) {c' : Cell} (c'' : Cell) (n : Nat) : c'.authorized = true →
      Aftermath s ([.event (.moved c (giveUp t c)), lower c'] ++ (s.alarm c'').take n)
        (decide (4 ≤ n))

theorem leads_expel {p : Routine Cell (Except BridgeError α)} (h : Leads (s.expel t) ds p) :
    (Aftermath s ds true ∧ p = .done (.error .authenticationRequired)) ∨
      (Aftermath s ds false ∧ p.pauses .atWaits = false) := by
  rcases leads_own h with ⟨rfl, rfl⟩ | ⟨c, ds, h₁, rfl⟩
  · exact Or.inr ⟨.begun, rfl⟩
  rcases leads_own h₁ with ⟨rfl, rfl⟩ | ⟨c', ds, h₂, rfl⟩
  · exact Or.inr ⟨.left t c, rfl⟩
  dsimp only at h₂
  cases hflag : c'.authorized with
  | false =>
    rw [hflag] at h₂
    obtain ⟨rfl, rfl⟩ := leads_done h₂
    exact Or.inl ⟨.late t c hflag, rfl⟩
  | true =>
    rw [hflag] at h₂
    rcases leads_ask h₂ with ⟨rfl, rfl⟩ | ⟨_, ds, h₃, rfl⟩
    · exact Or.inr ⟨.first t c c 0 hflag, rfl⟩
    rcases leads_lock h₃ with ⟨rfl, rfl⟩ | ⟨ds, h₄, rfl⟩
    · exact Or.inr ⟨.first t c c 1 hflag, rfl⟩
    rcases leads_own h₄ with ⟨rfl, rfl⟩ | ⟨c'', ds, h₅, rfl⟩
    · exact Or.inr ⟨.first t c c 2 hflag, rfl⟩
    rcases leads_ask h₅ with ⟨rfl, rfl⟩ | ⟨_, ds, h₆, rfl⟩
    · exact Or.inr ⟨.first t c c'' 3 hflag, rfl⟩
    obtain ⟨rfl, rfl⟩ := leads_done h₆
    exact Or.inl ⟨.first t c c'' 4 hflag, rfl⟩

/-- Whoever hears of a rejection and only passes the error on is not noticed. -/
theorem expel_bind {f : Except BridgeError α → Routine Cell (Except BridgeError β)}
    (hf : ∀ e, f (.error e) = .done (.error e)) : (s.expel t).bind f = s.expel t := by
  refine congrArg (Routine.own (giveUp t)) (funext fun c => ?_)
  rw [bind_bind]
  exact congrArg s.markUnauthorized.bind (funext fun _ => hf _)

/-- A routine comes this far and has done this. It is quiet until it is rejected. -/
inductive Conduct (s : Session) (rejected : List (Deed Cell) → Prop) :
    List (Deed Cell) → Routine Cell (Except BridgeError α) → Prop where
  | quiet {ds : List (Deed Cell)} {p : Routine Cell (Except BridgeError α)} :
    (∀ d ∈ ds, d.Quiet) → ¬ rejected ds → Conduct s rejected ds p
  | expelled {ds ds' : List (Deed Cell)} {p : Routine Cell (Except BridgeError α)} (t : Nat) :
    (∀ d ∈ ds, d.Quiet) → rejected (ds ++ ds') → Leads (s.expel t) ds' p →
      Conduct s rejected (ds ++ ds') p

/-- What holds of quiet deeds, and of what is done after a rejection, holds of all. -/
theorem Conduct.forall_mem {P : Deed Cell → Prop} {rejected : List (Deed Cell) → Prop}
    {p : Routine Cell (Except BridgeError α)} (h : Conduct s rejected ds p)
    (hquiet : ∀ d, d.Quiet → P d) (hlower : ∀ c, P (lower c))
    (halarm : ∀ c, ∀ d ∈ s.alarm c, P d) : ∀ d ∈ ds, P d := by
  have hleft : ∀ t c, P (.event (.moved c (giveUp t c))) := fun t _ => hquiet _ (.leave t)
  have hafter : ∀ {ds' complete}, Aftermath s ds' complete → ∀ d ∈ ds', P d := by
    intro ds' complete h
    cases h with
    | begun => exact fun _ hd => nomatch hd
    | left t c => exact List.forall_mem_singleton.mpr (hleft t c)
    | @late t c c' _ =>
      exact List.forall_mem_cons.mpr ⟨hleft t c, List.forall_mem_singleton.mpr (hlower c')⟩
    | @first t c c' c'' n _ =>
      refine List.forall_mem_cons.mpr ⟨hleft t c, List.forall_mem_cons.mpr ⟨hlower c', ?_⟩⟩
      exact fun d hd => halarm c'' d (List.mem_of_mem_take hd)
  cases h with
  | quiet hall _ => exact fun d hd => hquiet d (hall d hd)
  | expelled t hall _ hleads =>
    refine List.forall_mem_append.mpr ⟨fun d hd => hquiet d (hall d hd), ?_⟩
    rcases leads_expel hleads with ⟨h, _⟩ | ⟨h, _⟩ <;> exact hafter h

/-! ## Calls to the bridge -/

/-- What is made of the answer to a call through the gate. -/
def settle (s : Session) :
    Except BridgeError (Except Fault α) → Routine Cell (Except BridgeError α)
  | .error e => .done (.error e)
  | .ok (.ok a) => .done (.ok a)
  | .ok (.error .unauthorized) =>
    s.markUnauthorized.bind fun _ => .done (.error .authenticationRequired)
  | .ok (.error fault) => .done (.error fault.classify)

/-- The way to the work of a call: a look at the session, the arrival at the gate, and the wait
there. -/
def entry (c₁ c₂ c₃ : Cell) : List (Deed Cell) :=
  [.event (.moved c₁ c₁), .event (.moved c₂ (c₂.mapGate Semaphore.arrive)), .event (.passed c₃)]

/-- A call has done this, and its work has ended with this answer. -/
def Heard (client : Client) (work : Client → Routine Cell (Except Fault α)) (ds : List (Deed Cell))
    (a : Except Fault α) : Prop :=
  ∃ c₁ c₂ c₃ during after, ds = entry c₁ c₂ c₃ ++ (during ++ after) ∧
    Leads (work client) during (.done a)

/-- How far a call has come: it is on its way to its work, its work goes on, or its work has ended
and what follows goes on. -/
inductive CallWay (s : Session) (client : Client) (work : Client → Routine Cell (Except Fault α)) :
    List (Deed Cell) → Routine Cell (Except BridgeError α) → Prop where
  | entering {ds : List (Deed Cell)} {p : Routine Cell (Except BridgeError α)} :
    ds.length < 3 → (∀ d ∈ ds, d.Plain) → (∀ r, p ≠ .done r) → CallWay s client work ds p
  | working (c₁ c₂ c₃ : Cell) (t : Nat) {during : List (Deed Cell)}
    {w : Routine Cell (Except Fault α)} : Leads (work client) during w → (∀ a, w ≠ .done a) →
      CallWay s client work (entry c₁ c₂ c₃ ++ during) ((running t w).bind s.settle)
  | answered (c₁ c₂ c₃ : Cell) (t : Nat) {during after : List (Deed Cell)} {a : Except Fault α}
    {p : Routine Cell (Except BridgeError α)} : Leads (work client) during (.done a) →
      Leads (.own (giveUp t) fun _ => s.settle (.ok a)) after p →
      CallWay s client work (entry c₁ c₂ c₃ ++ (during ++ after)) p

variable {work : Client → Routine Cell (Except Fault α)} {a b : Except Fault α}
  {p : Routine Cell (Except BridgeError α)}

theorem plain_entry (c₁ c₂ c₃ : Cell) : ∀ d ∈ entry c₁ c₂ c₃, d.Plain := by
  simp [entry, Deed.Plain, Deed.Quiet, Deed.isRefusal, Cell.Shuffles.stay, Cell.Shuffles.arrive]

theorem callApi_eq (s : Session) (work : Client → Routine Cell (Except Fault α)) :
    s.callApi work = .own id fun c =>
      match c.client with
      | .error e => .done (.error e)
      | .ok client => (gated .whole (work client)).bind s.settle := by
  refine congrArg (Routine.own id) (funext fun c => ?_)
  change (match c.client with | .error e => _ | .ok client => _) = _
  rcases c.client with e | client
  · rfl
  · refine congrArg (Routine.bind · _) (funext fun r => ?_)
    rcases r with e | (_ | _ | _ | _) | a <;> rfl

theorem does_running {w : Routine Cell β} {k : Except BridgeError β → Routine Cell α}
    {q : Routine Cell α} {d : Deed Cell} (h : Does ((running t w).bind k) d q) :
    (∃ w', Does w d w' ∧ q = (running t w').bind k) ∨ ∃ a, w = .done a := by
  cases w with
  | done a => exact Or.inr ⟨a, rfl⟩
  | own f rest =>
    cases h with
    | own _ _ seen => exact Or.inl ⟨_, .own f rest seen, rfl⟩
  | await drop ok rest =>
    cases h with
    | await _ _ hok => exact Or.inl ⟨_, .await drop rest hok, rfl⟩
  | lock rest =>
    cases h
    exact Or.inl ⟨_, .lock rest, rfl⟩
  | clock rest =>
    cases h with
    | clock _ now => exact Or.inl ⟨_, .clock rest now, rfl⟩
  | ask q rest =>
    cases h with
    | ask _ _ a => exact Or.inl ⟨_, .ask q rest a, rfl⟩
  | call drop c rest =>
    cases h with
    | call _ _ _ a => exact Or.inl ⟨_, .call drop c rest a, rfl⟩
  | callBy drop deadline c rest =>
    cases h with
    | callBy _ _ _ _ a => exact Or.inl ⟨_, .callBy drop deadline c rest a, rfl⟩

theorem leads_running {w : Routine Cell β} {k : Except BridgeError β → Routine Cell α}
    {q : Routine Cell α} (h : Leads ((running t w).bind k) ds q) :
    (∃ w', Leads w ds w' ∧ (∀ a, w' ≠ .done a) ∧ q = (running t w').bind k) ∨
      ∃ a during after, Leads w during (.done a) ∧
        Leads (.own (giveUp t) fun _ => k (.ok a)) after q ∧ ds = during ++ after := by
  by_cases hw : ∃ a, w = .done a
  · obtain ⟨a, rfl⟩ := hw
    exact Or.inr ⟨a, [], ds, .refl _, h, rfl⟩
  have hgoes : ∀ a, w ≠ .done a := fun a hdone => hw ⟨a, hdone⟩
  induction ds generalizing w with
  | nil =>
    cases h
    exact Or.inl ⟨w, .refl w, hgoes, rfl⟩
  | cons d ds ih =>
    cases h with
    | head hd h =>
      rcases does_running hd with ⟨w₁, hd₁, rfl⟩ | hdone
      · by_cases hw₁ : ∃ a, w₁ = .done a
        · obtain ⟨a, rfl⟩ := hw₁
          exact Or.inr ⟨a, [d], ds, .head hd₁ (.refl _), h, rfl⟩
        · rcases ih h hw₁ fun a hdone => hw₁ ⟨a, hdone⟩ with
            ⟨w', h', hgoes', rfl⟩ | ⟨a, during, after, h₁, h₂, rfl⟩
          · exact Or.inl ⟨w', .head hd₁ h', hgoes', rfl⟩
          · exact Or.inr ⟨a, d :: during, after, .head hd₁ h₁, h₂, rfl⟩
      · exact absurd hdone hw

/-- On a session that stays ready, a call goes its way. -/
theorem leads_callApi (h : Leads (s.callApi work) ds p) (hfinds : ∀ d ∈ ds, d.Finds client) :
    CallWay s client work ds p := by
  rw [callApi_eq] at h
  rcases leads_own h with ⟨rfl, rfl⟩ | ⟨c₁, ds, h₁, rfl⟩
  · exact .entering (by decide) (fun _ hd => nomatch hd) fun r hr => nomatch hr
  obtain ⟨hlook, hfinds⟩ := List.forall_mem_cons.mp hfinds
  rw [(hlook c₁ rfl).client_eq] at h₁
  simp only [gated_eq] at h₁
  rcases leads_own h₁ with ⟨rfl, rfl⟩ | ⟨c₂, ds, h₂, rfl⟩
  · refine .entering (by simp) (fun d hd => ?_) fun r hr => nomatch hr
    exact plain_entry c₁ c₁ c₁ d (List.mem_of_mem_take (show d ∈ (entry c₁ c₁ c₁).take 1 from hd))
  obtain ⟨harrival, hfinds⟩ := List.forall_mem_cons.mp hfinds
  obtain ⟨gate, hgate, _⟩ := Serves.gate (harrival c₂ rfl)
  unfold entered at h₂
  rw [hgate] at h₂
  rcases leads_await h₂ with ⟨rfl, rfl⟩ | ⟨c₃, ds, hsettled, h₃, rfl⟩
  · refine .entering (by simp) (fun d hd => ?_) fun r hr => nomatch hr
    exact plain_entry c₁ c₂ c₂ d (List.mem_of_mem_take (show d ∈ (entry c₁ c₂ c₂).take 2 from hd))
  -- The gate is still open, so whoever does not wait any more was let in.
  obtain ⟨gate', hgate', hopen⟩ := Serves.gate (List.forall_mem_cons.mp hfinds |>.1 c₃ rfl)
  have hholds : c₃.gate?.any (·.holds gate.next) = true := by
    rw [hgate'] at hsettled ⊢
    simpa [Semaphore.settled, hopen] using hsettled
  dsimp only at h₃
  rw [if_pos hholds] at h₃
  rcases leads_running h₃ with ⟨w, hw, hgoes, rfl⟩ | ⟨a, during, after, hw, hafter, rfl⟩
  · exact .working c₁ c₂ c₃ gate.next hw hgoes
  · exact .answered c₁ c₂ c₃ gate.next hw hafter

/-- Work that only turns to the surroundings can do so at any time. -/
theorem goes_of_outward {w w' : Routine Cell β} (hw : w.Outward) (h : Leads w ds w')
    (l : Ledger Cell) : ∃ l', Goes w l ds w' l' ∧ l'.cell = l.cell := by
  induction h generalizing l with
  | refl w => exact ⟨l, .refl w l, rfl⟩
  | head hd _ ih =>
    cases hw with
    | done a => exact nomatch hd
    | clock hrest =>
      cases hd with
      | clock _ now =>
        obtain ⟨l', hgoes, hcell⟩ := ih (hrest now) l
        exact ⟨l', .head (.clock _ now) rfl hgoes, hcell⟩
    | @ask q rest _ _ hrest =>
      cases hd with
      | ask _ _ a =>
        obtain ⟨l', hgoes, hcell⟩ := ih (hrest a) (l.ask q)
        exact ⟨l', .head (.ask q rest a) rfl hgoes, hcell⟩
    | @call c rest hrest =>
      cases hd with
      | call _ _ _ a =>
        obtain ⟨l', hgoes, hcell⟩ := ih (hrest a) l
        exact ⟨l', .head (.call id c rest a) rfl hgoes, hcell⟩
    | @callBy deadline c rest hrest =>
      cases hd with
      | callBy _ _ _ _ a =>
        obtain ⟨l', hgoes, hcell⟩ := ih (hrest a) l
        exact ⟨l', .head (.callBy id deadline c rest a) rfl hgoes, hcell⟩

theorem heard_answered (c₁ c₂ c₃ : Cell) {during : List (Deed Cell)}
    (h : Leads (work client) during (.done a)) (after : List (Deed Cell)) :
    Heard client work (entry c₁ c₂ c₃ ++ (during ++ after)) a :=
  ⟨c₁, c₂, c₃, during, after, rfl, h⟩

/-- With a free slot, a call gets to its work. -/
theorem goes_callApi {l : Ledger Cell} (hidle : l.cell.Idle client) :
    ∃ c₁ c₂ c₃ t l', Goes (s.callApi work) l (entry c₁ c₂ c₃)
      ((running t (work client)).bind s.settle) l' := by
  have hclient := hidle.serves.client_eq
  obtain ⟨ready, hready, _, hclosed, _, hfree⟩ := hidle
  have hgate := Cell.gate_of_ready hready
  have harrived : (l.cell.mapGate Semaphore.arrive).gate? = some ready.gate.arrive := by
    unfold Cell.gate?
    rw [ready_mapGate, hready]
    rfl
  have hholds : (l.cell.mapGate Semaphore.arrive).gate?.any (·.holds ready.gate.next) = true := by
    rw [harrived]
    exact holds_arrive hclosed hfree
  have hsettled :
      (l.cell.mapGate Semaphore.arrive).gate?.any (·.settled ready.gate.next) = true := by
    rw [harrived]
    simp [Semaphore.settled, holds_arrive hclosed hfree]
  refine ⟨l.cell, l.cell, l.cell.mapGate Semaphore.arrive, ready.gate.next,
    (l.write id).write (Cell.mapGate Semaphore.arrive), ?_⟩
  rw [callApi_eq]
  refine .head (.own id _ l.cell) ⟨rfl, rfl⟩ ?_
  rw [hclient]
  simp only [gated_eq]
  refine .head (.own _ _ l.cell) ⟨rfl, rfl⟩ ?_
  unfold entered
  rw [hgate]
  refine .head (.await _ _ hsettled) ⟨rfl, rfl⟩ ?_
  dsimp only
  rw [if_pos hholds]
  exact .refl _ _

theorem settle_of_ne (ha : a ≠ .error .unauthorized) :
    s.settle (.ok a) = .done (a.mapError Fault.classify) := by
  rcases a with (_ | _ | _ | _) | a
  case error.unauthorized => exact absurd rfl ha
  all_goals rfl

theorem goes_settled (s : Session) (t : Nat) (a : Except Fault α) (l : Ledger Cell) :
    ∃ after l', Goes (.own (giveUp t) fun _ => s.settle (.ok a)) l after
      (.done (a.mapError Fault.classify)) l' := by
  by_cases ha : a = .error .unauthorized
  · subst ha
    let left := giveUp t l.cell
    let lowered := (l.write (giveUp t)).write fun c => { c with authorized := false }
    cases hflag : left.authorized with
    | false =>
      refine ⟨[.event (.moved l.cell left), lower left], lowered, ?_⟩
      refine .head (.own _ _ l.cell) ⟨rfl, rfl⟩ (.head (.own _ _ left) ⟨rfl, rfl⟩ ?_)
      dsimp only
      rw [hflag]
      exact .refl _ _
    | true =>
      refine ⟨[.event (.moved l.cell left), lower left] ++ s.alarm lowered.cell,
        ((lowered.ask (.note (.usernameRejected s.host))).write
          fun c => { c with state := .authFailed }).ask (.startPairing s.host), ?_⟩
      refine .head (.own _ _ l.cell) ⟨rfl, rfl⟩ (.head (.own _ _ left) ⟨rfl, rfl⟩ ?_)
      dsimp only
      rw [hflag]
      refine .head (.ask (.note (.usernameRejected s.host)) _ ()) rfl (.head (.lock _) rfl ?_)
      refine .head (.own _ _ lowered.cell) ⟨rfl, rfl⟩ ?_
      exact .head (.ask (.startPairing s.host) _ ()) rfl (.refl _ _)
  · refine ⟨[.event (.moved l.cell (giveUp t l.cell))], l.write (giveUp t), ?_⟩
    rw [settle_of_ne ha]
    exact .head (.own _ _ l.cell) ⟨rfl, rfl⟩ (.refl _ _)

/-- With a free slot, a call can answer whatever its work can end with. -/
theorem goes_answered {l : Ledger Cell} {during : List (Deed Cell)} (hidle : l.cell.Idle client)
    (hwork : (work client).Outward) (hends : Leads (work client) during (.done a)) :
    ∃ ds l', Goes (s.callApi work) l ds (.done (a.mapError Fault.classify)) l' ∧
      Heard client work ds a := by
  obtain ⟨c₁, c₂, c₃, t, l₁, hentered⟩ := @goes_callApi _ s client work _ hidle
  obtain ⟨l₂, hworks, _⟩ := goes_of_outward hwork hends l₁
  have hworked : Goes ((running t (work client)).bind s.settle) l₁ during
      ((running t (.done a)).bind s.settle) l₂ :=
    hworks.inside fun hd => ((hd.bind _).guarded _).bind _
  obtain ⟨after, l₃, hafter⟩ := goes_settled s t a l₂
  exact ⟨_, l₃, hentered.append (hworked.append hafter), heard_answered c₁ c₂ c₃ hends after⟩

/-- What follows an answer other than a rejection. -/
theorem leads_settled {after : List (Deed Cell)} (ha : a ≠ .error .unauthorized)
    (h : Leads (.own (giveUp t) fun _ => s.settle (.ok a)) after p) :
    (after = [] ∧ p.pauses .atWaits = false) ∨
      ∃ c, after = [.event (.moved c (giveUp t c))] ∧ p = .done (a.mapError Fault.classify) := by
  rcases leads_own h with ⟨rfl, rfl⟩ | ⟨c, ds, h₁, rfl⟩
  · exact Or.inl ⟨rfl, rfl⟩
  rw [settle_of_ne ha] at h₁
  obtain ⟨rfl, rfl⟩ := leads_done h₁
  exact Or.inr ⟨c, rfl, rfl⟩

theorem plain_settled {after : List (Deed Cell)} (ha : a ≠ .error .unauthorized)
    (h : Leads (.own (giveUp t) fun _ => s.settle (.ok a)) after p) : ∀ d ∈ after, d.Plain := by
  rcases leads_settled ha h with ⟨rfl, _⟩ | ⟨c, rfl, _⟩
  · exact fun _ hd => nomatch hd
  · exact List.forall_mem_singleton.mpr ⟨.leave t, rfl⟩

theorem done_of_settled {after : List (Deed Cell)}
    (h : Leads (.own (giveUp t) fun _ => s.settle (.ok a)) after p)
    (hpauses : p.pauses .atWaits = true) : p = .done (a.mapError Fault.classify) := by
  by_cases ha : a = .error .unauthorized
  · subst ha
    rcases leads_expel h with ⟨_, hdone⟩ | ⟨_, hgoes⟩
    · exact hdone
    · rw [hgoes] at hpauses
      exact nomatch hpauses
  · rcases leads_settled ha h with ⟨_, hgoes⟩ | ⟨_, _, hdone⟩
    · rw [hgoes] at hpauses
      exact nomatch hpauses
    · exact hdone

theorem Heard.unique (h : Heard client work ds a) (h' : Heard client work ds b) : a = b := by
  obtain ⟨_, _, _, during, after, rfl, hwork⟩ := h
  obtain ⟨_, _, _, during', after', heq, hwork'⟩ := h'
  simp only [entry, List.cons_append, List.nil_append, List.cons.injEq] at heq
  exact (hwork.result_unique hwork' heq.2.2.2).2

theorem not_heard_entering (hlength : ds.length < 3) : ¬ Heard client work ds a := by
  rintro ⟨_, _, _, _, _, rfl, _⟩
  simp [entry] at hlength
  omega

theorem not_heard_working {c₁ c₂ c₃ : Cell} {during : List (Deed Cell)}
    {w : Routine Cell (Except Fault α)} (h : Leads (work client) during w)
    (hgoes : ∀ a, w ≠ .done a) : ¬ Heard client work (entry c₁ c₂ c₃ ++ during) a := by
  rintro ⟨_, _, _, during', after', heq, hwork⟩
  simp only [entry, List.cons_append, List.nil_append, List.cons.injEq] at heq
  rw [heq.2.2.2] at h
  exact hgoes a (hwork.ended h).2

/-- A call that does not go on any more has its answer exactly if its work has ended, and it is what
the work ended with, with its fault classified. -/
theorem CallWay.answers (h : CallWay s client work ds p) (hpauses : p.pauses .atWaits = true)
    (r : Except BridgeError α) :
    p = .done r ↔ ∃ a, Heard client work ds a ∧ r = a.mapError Fault.classify := by
  cases h with
  | entering hlength _ hgoes =>
    exact iff_of_false (hgoes r) fun ⟨_, hheard, _⟩ => not_heard_entering hlength hheard
  | working c₁ c₂ c₃ t hwork hgoes =>
    exact iff_of_false running_ne_done fun ⟨_, hheard, _⟩ => not_heard_working hwork hgoes hheard
  | @answered c₁ c₂ c₃ t during after a p hwork hafter =>
    have hheard := heard_answered c₁ c₂ c₃ hwork after
    rw [done_of_settled hafter hpauses]
    constructor
    · rintro ⟨⟩
      exact ⟨a, hheard, rfl⟩
    · rintro ⟨b, hheard', rfl⟩
      rw [hheard.unique hheard']

/-- A call passes the gate and no more, unless its work ends with a rejection. -/
theorem conduct_callApi (hwork : Keeps Deed.Quiet (work client)) (h : Leads (s.callApi work) ds p)
    (hfinds : ∀ d ∈ ds, d.Finds client) :
    Conduct s (Heard client work · (.error .unauthorized)) ds p := by
  have hentry : ∀ c₁ c₂ c₃, ∀ d ∈ entry c₁ c₂ c₃, d.Quiet :=
    fun c₁ c₂ c₃ d hd => (plain_entry c₁ c₂ c₃ d hd).1
  cases leads_callApi h hfinds with
  | entering hlength hplain _ =>
    exact .quiet (fun d hd => (hplain d hd).1) (not_heard_entering hlength)
  | working c₁ c₂ c₃ t hw hgoes =>
    refine .quiet (List.forall_mem_append.mpr ⟨hentry c₁ c₂ c₃, hwork _ _ hw⟩) ?_
    exact not_heard_working hw hgoes
  | @answered c₁ c₂ c₃ t during after a _ hw hafter =>
    have hheard := heard_answered c₁ c₂ c₃ hw after
    have hquiet := List.forall_mem_append.mpr ⟨hentry c₁ c₂ c₃, hwork _ _ hw⟩
    by_cases ha : a = .error .unauthorized
    · subst ha
      rw [← List.append_assoc] at hheard ⊢
      exact .expelled t hquiet hheard hafter
    · refine .quiet ?_ fun hrejected => ha (hheard.unique hrejected)
      rw [← List.append_assoc]
      exact List.forall_mem_append.mpr ⟨hquiet, fun d hd => (plain_settled ha hafter d hd).1⟩

/-! ## Recalls of scenes -/

/-- Some call that needs a slot was answered that the username is rejected. -/
def HasRefusal (ds : List (Deed Cell)) : Prop := ∃ d ∈ ds, d.isRefusal = true

theorem not_hasRefusal (h : ∀ d ∈ ds, d.Plain) : ¬ HasRefusal ds := by
  rintro ⟨d, hd, hrefusal⟩
  rw [(h d hd).2] at hrefusal
  exact nomatch hrefusal

theorem HasRefusal.append (h : HasRefusal ds) (ds' : List (Deed Cell)) :
    HasRefusal (ds ++ ds') := by
  obtain ⟨d, hd, hrefusal⟩ := h
  exact ⟨d, List.mem_append_left ds' hd, hrefusal⟩

/-- While the session stays ready, the routine is quiet until a call of its own that needs a slot is
answered that the username is rejected. Then it only ends the authorization. -/
def Minds (s : Session) (client : Client) (p : Routine Cell (Except BridgeError α)) : Prop :=
  ∀ ds p', Leads p ds p' → (∀ d ∈ ds, d.Finds client) → Conduct s HasRefusal ds p'

theorem conduct_plain (h : ∀ d ∈ ds, d.Plain) : Conduct s HasRefusal ds p :=
  .quiet (fun d hd => (h d hd).1) (not_hasRefusal h)

theorem minds_done (r : Except BridgeError α) : Minds s client (.done r) := by
  intro ds p' h _
  obtain ⟨rfl, rfl⟩ := leads_done h
  exact conduct_plain fun _ hd => nomatch hd

theorem Conduct.after {first : List (Deed Cell)} (hfirst : ∀ d ∈ first, d.Quiet)
    (hnot : ¬ HasRefusal first) (h : Conduct s HasRefusal ds p) :
    Conduct s HasRefusal (first ++ ds) p := by
  cases h with
  | quiet hquiet hnot' =>
    refine .quiet (List.forall_mem_append.mpr ⟨hfirst, hquiet⟩) ?_
    rintro ⟨d, hd, hrefusal⟩
    rcases List.mem_append.mp hd with hd | hd
    · exact hnot ⟨d, hd, hrefusal⟩
    · exact hnot' ⟨d, hd, hrefusal⟩
  | @expelled ds ds' _ t hquiet hrefused h =>
    rw [← List.append_assoc]
    refine .expelled t (List.forall_mem_append.mpr ⟨hfirst, hquiet⟩) ?_ h
    obtain ⟨d, hd, hrefusal⟩ := hrefused
    rw [List.append_assoc]
    exact ⟨d, List.mem_append_right first hd, hrefusal⟩

theorem minds_then {q : Routine Cell β} {f : β → Routine Cell (Except BridgeError α)}
    (hq : Keeps Deed.Plain q) (hf : ∀ b, Minds s client (f b)) : Minds s client (q.bind f) := by
  intro ds p' h hfinds
  rcases leads_bind h with ⟨q', h', rfl⟩ | ⟨b, ds₁, ds₂, h₁, h₂, rfl⟩
  · exact conduct_plain (hq _ _ h')
  · have hplain := hq _ _ h₁
    refine (hf b _ _ h₂ ?_).after (fun d hd => (hplain d hd).1) (not_hasRefusal hplain)
    exact (List.forall_mem_append.mp hfinds).2

theorem minds_bind {f : Except BridgeError β → Routine Cell (Except BridgeError α)}
    {q : Routine Cell (Except BridgeError β)} (hq : Minds s client q)
    (hf : ∀ b, Minds s client (f (.ok b))) (herror : ∀ e, f (.error e) = .done (.error e)) :
    Minds s client (q.bind f) := by
  intro ds p' h hfinds
  rcases leads_bind h with ⟨q', h', rfl⟩ | ⟨r, ds₁, ds₂, h₁, h₂, rfl⟩
  · cases hq _ _ h' hfinds with
    | quiet hquiet hnot => exact .quiet hquiet hnot
    | expelled t hquiet hrefused hafter =>
      have hafter := hafter.bind f
      rw [expel_bind herror] at hafter
      exact .expelled t hquiet hrefused hafter
  · obtain ⟨hfinds₁, hfinds₂⟩ := List.forall_mem_append.mp hfinds
    cases hq _ _ h₁ hfinds₁ with
    | quiet hquiet hnot =>
      rcases r with e | b
      · rw [herror] at h₂
        exact (minds_done (.error e) _ _ h₂ hfinds₂).after hquiet hnot
      · exact (hf b _ _ h₂ hfinds₂).after hquiet hnot
    | @expelled ds ds' _ t hquiet hrefused hafter =>
      have hwhole := leads_append.mpr ⟨_, hafter.bind f, h₂⟩
      rw [expel_bind herror] at hwhole
      have hrefused := hrefused.append ds₂
      rw [List.append_assoc] at hrefused ⊢
      exact .expelled t hquiet hrefused hwhole

/-- A call that only makes one request. -/
theorem minds_callApi {call : Call} (answer : Except Fault α → call.Answer)
    (hwork : ∀ {ds w}, Leads (work client) ds w → (ds = [] ∧ ∀ a, w ≠ .done a) ∨
      ∃ a, ds = [.event (.called call (answer a))] ∧ w = .done a)
    (hrefusal : ∀ a, Deed.isRefusal (.event (.called call (answer a))) = true ↔
      a = .error .unauthorized) : Minds s client (s.callApi work) := by
  intro ds p' h hfinds
  cases leads_callApi h hfinds with
  | entering _ hplain _ => exact conduct_plain hplain
  | working c₁ c₂ c₃ t hw hgoes =>
    rcases hwork hw with ⟨rfl, _⟩ | ⟨a, _, rfl⟩
    · rw [List.append_nil]
      exact conduct_plain (plain_entry c₁ c₂ c₃)
    · exact absurd rfl (hgoes a)
  | @answered c₁ c₂ c₃ t during after a _ hw hafter =>
    rcases hwork hw with ⟨_, hgoes⟩ | ⟨a, rfl, hdone⟩
    · exact absurd rfl (hgoes a)
    obtain rfl := Routine.done.inj hdone
    have hentry := plain_entry c₁ c₂ c₃
    by_cases ha : a = .error .unauthorized
    · subst ha
      rw [← List.append_assoc]
      refine .expelled t ?_ ?_ hafter
      · exact List.forall_mem_append.mpr
          ⟨fun d hd => (hentry d hd).1, List.forall_mem_singleton.mpr trivial⟩
      · exact ⟨_, by simp, (hrefusal _).mpr rfl⟩
    · have hcalled : Deed.Plain (.event (.called call (answer a))) :=
        ⟨trivial, by rw [Bool.eq_false_iff]; exact fun h => ha ((hrefusal a).mp h)⟩
      refine conduct_plain (List.forall_mem_append.mpr ⟨hentry, ?_⟩)
      exact List.forall_mem_cons.mpr ⟨hcalled, plain_settled ha hafter⟩

/-- What a request does. -/
theorem request_tells {call : Call} {r : Routine Cell call.Answer}
    (h : Leads (Routine.request call) ds r) : (ds = [] ∧ ∀ a, r ≠ .done a) ∨
      ∃ a, ds = [.event (.called call a)] ∧ r = .done a := by
  rcases leads_request h with ⟨rfl, rfl⟩ | h
  · exact Or.inl ⟨rfl, fun a ha => nomatch ha⟩
  · exact Or.inr h

theorem minds_updateGroups :
    Minds s client (s.callApi fun client => Routine.request (.updateGroups client)) := by
  refine @minds_callApi _ s client _ (.updateGroups client) id request_tells fun a => ?_
  rcases a with (_ | _ | _ | _) | a <;> simp [Deed.isRefusal]

theorem minds_updateScenes :
    Minds s client (s.callApi fun client => Routine.request (.updateScenes client)) := by
  refine @minds_callApi _ s client _ (.updateScenes client) id request_tells fun a => ?_
  rcases a with (_ | _ | _ | _) | a <;> simp [Deed.isRefusal]

theorem minds_setGroupScene (group scene : String) : Minds s client
    (s.callApi fun client => Routine.request (.setGroupScene client group scene)) := by
  refine @minds_callApi _ s client _ (.setGroupScene client group scene) id request_tells
    fun a => ?_
  rcases a with (_ | _ | _ | _) | a <;> simp [Deed.isRefusal]

theorem plain_note {line : Notice} (h : (Query.note line).isGrave = false) :
    Keeps Deed.Plain (Routine.note line : Routine Cell Unit) := by
  refine keeps_of_does fun d p' hd => ?_
  cases hd with
  | ask _ _ a => exact ⟨⟨⟨h, rfl⟩, rfl⟩, keeps_done⟩

/-- A lookup needs no slot, so nothing it is answered is a refusal. -/
theorem plain_lookup (client : Client) : Keeps Deed.Plain (lookup client groupName sceneName) := by
  refine keeps_bind (keeps_request fun _ => ⟨trivial, rfl⟩) fun groups => ?_
  rcases groups with fault | groups
  · exact keeps_done
  · dsimp only
    rcases findGroup groupName groups with _ | group
    · exact keeps_done
    · refine keeps_bind (keeps_request fun _ => ⟨trivial, rfl⟩) fun scenes => ?_
      rcases scenes with fault | scenes <;> exact keeps_done

theorem minds_refresh : Minds s client s.refresh := by
  refine minds_then (plain_note rfl) fun _ => ?_
  exact minds_bind minds_updateGroups (fun _ => minds_updateScenes) fun _ => rfl

theorem minds_recallFound (found : Found) :
    Minds s client (s.recallFound groupName sceneName found) := by
  rcases found with ⟨_ | group, _ | scene⟩
  · exact minds_then (plain_note rfl) fun _ => minds_done _
  · exact minds_then (plain_note rfl) fun _ => minds_done _
  · exact minds_then (plain_note rfl) fun _ => minds_done _
  · exact minds_setGroupScene group.id scene.id

theorem minds_recallAgain (client' : Client) :
    Minds s client (s.recallAgain client' groupName sceneName) := by
  refine minds_bind minds_refresh (fun _ => ?_) fun _ => rfl
  refine minds_then (plain_lookup client') fun second => ?_
  rcases second with e | found
  · exact minds_done _
  · exact minds_recallFound found

theorem minds_activateNamedScene (groupName sceneName : String) :
    Minds s client (s.activateNamedScene groupName sceneName) := by
  have hlook : Keeps Deed.Plain (Routine.read : Routine Cell Cell) := by
    refine keeps_of_does fun d p' hd => ?_
    cases hd with
    | own _ _ seen => exact ⟨⟨.stay, rfl⟩, keeps_done⟩
  refine minds_then hlook fun c => ?_
  rcases c.client with e | client'
  · exact minds_done _
  refine minds_then (plain_lookup client') fun first => ?_
  -- Whichever of the two is missing, the same follows.
  rcases first with e | ⟨_ | group, _ | scene⟩
  · exact minds_done _
  · exact minds_recallAgain client'
  · exact minds_recallAgain client'
  · exact minds_recallAgain client'
  · exact minds_recallFound _

end Session
end HueLink
