-- Sessions that are used for calls to the bridge and for recalls of scenes, any number of them at
-- the same time. A chronicle keeps what each of them has done. Every way to take turns has one.
import HueLink.Proofs.Session.Rejection

namespace HueLink

open Routine

/-! ## Uses -/

/-- A use of a session: a call to its bridge, or the recall of a scene. -/
inductive Use where
  | call {α : Type} (work : Client → Routine Cell (Except Fault α))
  | scene (groupName sceneName : String)

namespace Use

/-- What the use gives if it succeeds. -/
abbrev Value : Use → Type
  | @call α _ => α
  | scene _ _ => Unit

def routine (s : Session) : (use : Use) → Routine Cell (Except BridgeError use.Value)
  | call work => s.callApi work
  | scene groupName sceneName => s.activateNamedScene groupName sceneName

/-- The work of a call turns to the surroundings and leaves the session and the log of errors to
the session. -/
def Mild : Use → Prop
  | call work => ∀ client, (work client).Outward ∧ (work client).Asks (·.isGrave = false)
  | scene _ _ => True

/-- A gated call was answered that the username is rejected: the call itself, or one that a recall
makes. -/
def Rejected (client : Client) : Use → List (Deed Cell) → Prop
  | call work, ds => Session.Heard client work ds (.error .unauthorized)
  | scene _ _, ds => Session.HasRefusal ds

end Use

/-- What tasks do with a session that is only used. -/
inductive Session.Busy (s : Session) : (α : Type) → Routine Cell α → Prop where
  | use (use : Use) : use.Mild → Busy s _ (use.routine s)

/-! ## Chronicles -/

/-- A use that was begun, with all it has done. -/
structure Pursuit where
  use : Use
  /-- The session when it was begun. -/
  since : Cell
  /-- What is left of it, or `none` once it was given up. -/
  rest : Option (Routine Cell (Except BridgeError use.Value))
  diary : List (Deed Cell)

namespace Pursuit

def task (s : Session) (pursuit : Pursuit) : Task Cell :=
  ⟨pursuit.use.routine s, pursuit.since, pursuit.rest⟩

/-- It waits, or is over. -/
def Rests (pursuit : Pursuit) : Prop := ∀ p, pursuit.rest = some p → p.pauses .atWaits = true

def Rejected (client : Client) (pursuit : Pursuit) : Prop :=
  pursuit.use.Rejected client pursuit.diary

end Pursuit

/-- An authorized session that nobody uses. All slots of its gate are free. -/
structure Cell.AtEase (client : Client) (c : Cell) : Prop where
  state : c.state = .authorized
  flag : c.authorized = true
  ready : ∃ config limit next, 1 ≤ limit ∧
    c.ready = some ⟨client, config, limit, ⟨limit, [], [], false, next⟩⟩

namespace Session

/-- What happens while a session is only used: a use is begun, one that was begun does one thing
more, or one that waits is given up. -/
inductive Chronicle (s : Session) (start : Cell) : Ledger Cell → List Pursuit → Prop where
  | start : Chronicle s start (.opened start) []
  | begin {l : Ledger Cell} {ps : List Pursuit} (use : Use) : Chronicle s start l ps → use.Mild →
      Chronicle s start l (ps ++ [⟨use, l.cell, some (use.routine s), []⟩])
  | act {l l' : Ledger Cell} {before after : List Pursuit} {use : Use} {since : Cell}
    {p p' : Routine Cell (Except BridgeError use.Value)} {diary : List (Deed Cell)}
    {d : Deed Cell} : Chronicle s start l (before ++ ⟨use, since, some p, diary⟩ :: after) →
      Does p d p' → d.On l l' →
      Chronicle s start l' (before ++ ⟨use, since, some p', diary ++ [d]⟩ :: after)
  | drop {l : Ledger Cell} {before after : List Pursuit} {use : Use} {since : Cell}
    {p : Routine Cell (Except BridgeError use.Value)} {diary : List (Deed Cell)}
    {undo : Cell → Cell} :
      Chronicle s start l (before ++ ⟨use, since, some p, diary⟩ :: after) → p.onDrop = some undo →
      Chronicle s start (l.write undo) (before ++ ⟨use, since, none, diary⟩ :: after)

variable {s : Session} {client : Client} {start : Cell} {l l' : Ledger Cell} {ps : List Pursuit}
  {x : Moment Cell}

/-- A use may do several things without a break. -/
theorem Chronicle.goes {before after : List Pursuit} {use : Use} {since : Cell}
    {p p' : Routine Cell (Except BridgeError use.Value)} {diary ds : List (Deed Cell)}
    (h : s.Chronicle start l (before ++ ⟨use, since, some p, diary⟩ :: after))
    (hgoes : Goes p l ds p' l') :
    s.Chronicle start l' (before ++ ⟨use, since, some p', diary ++ ds⟩ :: after) := by
  induction hgoes generalizing diary with
  | refl p l =>
    rw [List.append_nil]
    exact h
  | head hdoes hon _ ih =>
    have hrest := ih (.act h hdoes hon)
    rwa [List.append_assoc diary, List.singleton_append] at hrest

theorem usage_of_busy {α : Type} {p : Routine Cell α} (h : s.Busy α p) : s.Usage α p := by
  cases h with
  | use use hmild =>
    cases use with
    | call work => exact usage_callApi fun client => .outward (hmild client).1
    | scene groupName sceneName => exact usage_activateNamedScene groupName sceneName

theorem reached_of_chronicle (h : s.Chronicle start l ps) :
    Reached .anywhere s.Busy start ⟨l, ps.map (Pursuit.task s)⟩ := by
  induction h with
  | start => exact .start
  | begin use _ hmild ih =>
    rw [List.map_append]
    exact .turn ih (.arrive (.use use hmild) (.rest (pauses_anywhere _)))
  | act _ hdoes hon ih =>
    rw [List.map_append] at ih ⊢
    exact .turn ih (.resume (step_iff_does.mpr ⟨_, hdoes, hon⟩) (.rest (pauses_anywhere _)))
  | drop _ hundo ih =>
    rw [List.map_append] at ih ⊢
    exact .turn ih (.drop hundo)

/-- A pursuit is found where its task is. -/
theorem exists_pursuit {α : Type} {born p : Routine Cell α} {since : Cell}
    {before after : List (Task Cell)}
    (h : ps.map (Pursuit.task s) = before ++ ⟨born, since, some p⟩ :: after) :
    ∃ before' after' use q diary, ps = before' ++ ⟨use, since, some q, diary⟩ :: after' ∧
      Task.mk born since (some p) = Task.mk (use.routine s) since (some q) ∧
      before = before'.map (Pursuit.task s) ∧ after = after'.map (Pursuit.task s) := by
  obtain ⟨before', rest', rfl, rfl, h'⟩ := List.map_eq_append_iff.mp h
  obtain ⟨⟨use, since', rest, diary⟩, after', rfl, htask, rfl⟩ := List.map_eq_cons_iff.mp h'
  simp only [Pursuit.task, Task.mk.injEq] at htask
  obtain ⟨rfl, hborn, rfl, hrest⟩ := htask
  obtain rfl := eq_of_heq hborn
  obtain rfl := eq_of_heq hrest
  exact ⟨before', after', use, p, diary, rfl, rfl, rfl, rfl⟩

/-- Whatever uses of a session lead to, there is a chronicle of it. -/
theorem chronicle_of_reached (h : Reached .anywhere s.Busy start x) :
    ∃ ps, s.Chronicle start x.ledger ps ∧ ps.map (Pursuit.task s) = x.tasks := by
  induction h with
  | start => exact ⟨[], .start, rfl⟩
  | turn _ ht ih =>
    obtain ⟨ps, hps, htasks⟩ := ih
    cases ht with
    | arrive hp hs =>
      obtain ⟨rfl, rfl⟩ := stretch_anywhere hs
      cases hp with
      | use use hmild =>
        refine ⟨_, .begin use hps hmild, ?_⟩
        rw [List.map_append, htasks]
        rfl
    | resume hstep hs =>
      obtain ⟨rfl, rfl⟩ := stretch_anywhere hs
      obtain ⟨before, after, use, p, diary, rfl, htask, rfl, rfl⟩ := exists_pursuit htasks
      cases htask
      obtain ⟨d, hdoes, hon⟩ := step_iff_does.mp hstep
      refine ⟨_, .act hps hdoes hon, ?_⟩
      rw [List.map_append]
      rfl
    | drop hundo =>
      obtain ⟨before, after, use, p, diary, rfl, htask, rfl, rfl⟩ := exists_pursuit htasks
      cases htask
      refine ⟨_, .drop hps hundo, ?_⟩
      rw [List.map_append]
      rfl

/-- If others run only where a routine waits, every task waits or is over. -/
theorem paused_of_reached {κ : Type} {sw : Switching} {may : (α : Type) → Routine κ α → Prop}
    {start : κ} {x : Moment κ} (h : Reached sw may start x) :
    ∀ task ∈ x.tasks, ∀ p, task.rest = some p → p.pauses sw = true := by
  induction h with
  | start => exact fun _ hmem => nomatch hmem
  | turn _ ht ih =>
    cases ht with
    | arrive hp hs =>
      refine List.forall_mem_append.mpr ⟨ih, List.forall_mem_singleton.mpr fun p hp' => ?_⟩
      obtain rfl := Option.some.inj hp'
      exact hs.pauses
    | resume hstep hs =>
      refine forall_mem_replace ih fun p hp' => ?_
      obtain rfl := Option.some.inj hp'
      exact hs.pauses
    | drop _ => exact forall_mem_replace ih fun p hp' => nomatch hp'

/-! ## The gate meanwhile -/

theorem serves_of_atEase (h : start.AtEase client) : start.Serves client := by
  obtain ⟨config, limit, next, _, hready⟩ := h.ready
  exact ⟨_, hready, rfl, rfl⟩

theorem balanced_of_atEase (h : start.AtEase client) : Balanced start.ready [] [] := by
  obtain ⟨config, limit, next, hlimit, hready⟩ := h.ready
  rw [hready]
  refine ⟨hlimit, ⟨rfl, Nat.add_zero limit, fun h => absurd rfl h, List.nodup_nil, ?_⟩,
    List.Perm.refl _, List.nil_subset _⟩
  exact fun t ht => nomatch ht

/-- However a session is used, its gate knows the tickets of all tasks, and what it was set up with
stays. -/
theorem account_of_atEase (hstart : start.AtEase client) (h : Reached .anywhere s.Usage start x) :
    ∃ held, Account x held ∧ KeepsSlots start.ready x.cell.ready [] := by
  induction h with
  | start => exact ⟨[], ⟨rfl, fun _ h => (nomatch h), balanced_of_atEase hstart⟩, .refl⟩
  | turn _ ht ih =>
    obtain ⟨held, hx, hkeeps⟩ := ih
    obtain ⟨_, held', hy, _, hkeeps'⟩ := account_turn hx ht
    exact ⟨held', hy, hkeeps.trans (hkeeps'.mono (List.nil_subset _))⟩

theorem account_of_chronicle (hstart : start.AtEase client) (h : s.Chronicle start l ps) :
    ∃ held, Account ⟨l, ps.map (Pursuit.task s)⟩ held ∧
      KeepsSlots start.ready l.cell.ready [] :=
  account_of_atEase hstart ((reached_of_chronicle h).mono fun _ _ => usage_of_busy)

/-- The gate is all of what a session was set up with that changes. -/
theorem ready_of_chronicle (hstart : start.AtEase client) (h : s.Chronicle start l ps) :
    ∃ gate, l.cell.ready = (start.mapGate fun _ => gate).ready ∧ gate.closed = false := by
  obtain ⟨held, haccount, hkeeps⟩ := account_of_chronicle hstart h
  obtain ⟨config, limit, next, _, hready⟩ := hstart.ready
  obtain ⟨ready, hready', heq, _⟩ := hkeeps _ hready
  refine ⟨ready.gate, ?_, haccount.balanced.unclosed _ (Cell.gate_of_ready hready')⟩
  rw [ready_mapGate, hready, hready', heq]
  rfl

theorem serves_of_chronicle (hstart : start.AtEase client) (h : s.Chronicle start l ps) :
    l.cell.Serves client := by
  obtain ⟨gate, hready, hopen⟩ := ready_of_chronicle hstart h
  obtain ⟨ready, hready', hclient, _⟩ := serves_of_atEase hstart
  rw [ready_mapGate, hready'] at hready
  exact ⟨_, hready, hclient, hopen⟩

/-- Without tickets, all slots are free. -/
theorem gate_of_balanced {ready : Ready} (h : Balanced (some ready) [] []) : 1 ≤ ready.limit ∧
    ready.gate = ⟨ready.limit, [], [], false, ready.gate.next⟩ := by
  obtain ⟨hlimit, hsound, htickets, _⟩ := h
  refine ⟨hlimit, ?_⟩
  obtain ⟨hwaiting, hholders⟩ := List.append_eq_nil_iff.mp htickets.nil_eq.symm
  have hpermits := hsound.permits
  have hopen := hsound.unclosed
  rcases hgate : ready.gate with ⟨free, holders, waiting, closed, next⟩
  rw [hgate] at hwaiting hholders hpermits hopen
  obtain rfl : waiting = [] := hwaiting
  obtain rfl : holders = [] := hholders
  obtain rfl : closed = false := hopen
  obtain rfl : free = ready.limit := hpermits
  rfl

/-- Tasks that are over have no tickets. -/
theorem balanced_of_over {held : List (Task Cell × Slots)} (hx : Account x held)
    (hover : ∀ task ∈ x.tasks, task.isOver = true) : Balanced x.cell.ready [] [] := by
  have hbalanced := hx.balanced
  obtain ⟨hqueued, hrunning⟩ := List.append_eq_nil_iff.mp (tickets_of_over hx hover)
  rwa [hqueued, hrunning] at hbalanced

/-- Once all is over, the gate is as at the start, but for the tickets that were drawn. -/
theorem gate_of_over (hstart : start.AtEase client) (h : s.Chronicle start l ps)
    (hover : ∀ pursuit ∈ ps, (pursuit.task s).isOver = true) :
    ∃ next, l.cell.gate? = start.gate?.map fun gate => { gate with next } := by
  obtain ⟨held, haccount, hkeeps⟩ := account_of_chronicle hstart h
  obtain ⟨config, limit, next, _, hready⟩ := hstart.ready
  obtain ⟨ready, hready', heq, _⟩ := hkeeps _ hready
  have hbalanced := balanced_of_over haccount fun task hmem => by
    obtain ⟨pursuit, hpursuit, rfl⟩ := List.mem_map.mp hmem
    exact hover pursuit hpursuit
  rw [show Moment.cell _ = l.cell from rfl, hready'] at hbalanced
  obtain ⟨_, hgate⟩ := gate_of_balanced hbalanced
  have hlimit : ready.limit = limit := by rw [heq]
  refine ⟨ready.gate.next, ?_⟩
  rw [Cell.gate_of_ready hready', Cell.gate_of_ready hready, hgate, hlimit]
  rfl

/-- An authorized session is at ease once all that was done with it is over. -/
theorem atEase_of_reached (h : Reached .atWaits s.Usage Cell.fresh x)
    (hstate : x.cell.state = .authorized) (hover : ∀ task ∈ x.tasks, task.isOver = true) :
    ∃ client, x.cell.AtEase client := by
  obtain ⟨ph, hkept⟩ := course_at h
  obtain rfl : ph = .loaded := by
    have hphase := hkept.state
    rw [show x.cell.face.state = .authorized from hstate] at hphase
    cases ph <;> first | rfl | exact nomatch hphase
  obtain ⟨held, haccount⟩ := account_of_reached h.anywhere
  have hbalanced := balanced_of_over haccount hover
  obtain ⟨ready, hready⟩ : ∃ ready, x.cell.ready = some ready := by
    have hfacts := hkept.facts
    rw [show x.cell.face.facts = x.cell.facts from rfl, Cell.facts, Option.isSome_map] at hfacts
    exact Option.isSome_iff_exists.mp hfacts
  rw [hready] at hbalanced
  obtain ⟨hlimit, hgate⟩ := gate_of_balanced hbalanced
  refine ⟨ready.client, hstate, hkept.flag, ready.config, ready.limit, ready.gate.next, hlimit, ?_⟩
  rw [hready, ← hgate]

/-- Giving up a task gives up its tickets and nothing else. -/
theorem undo_of_account {α : Type} {born p : Routine Cell α} {since : Cell}
    {before after : List (Task Cell)} {held : List (Task Cell × Slots)} {undo : Cell → Cell}
    (hx : Account ⟨l, before ++ ⟨born, since, some p⟩ :: after⟩ held)
    (hundo : p.onDrop = some undo) : ∃ tickets, undo = giveUpAll tickets := by
  obtain ⟨before', m, after', rfl, _, _⟩ := exists_between hx.tasks
  have hstands := hx.stands _ (List.mem_append_right before' List.mem_cons_self)
  exact ⟨_, stands_onDrop hstands hundo⟩

theorem undo_of_chronicle (hstart : start.AtEase client) {before after : List Pursuit} {use : Use}
    {since : Cell} {p : Routine Cell (Except BridgeError use.Value)} {diary : List (Deed Cell)}
    (h : s.Chronicle start l (before ++ ⟨use, since, some p, diary⟩ :: after)) {undo : Cell → Cell}
    (hundo : p.onDrop = some undo) : ∃ tickets, undo = giveUpAll tickets := by
  obtain ⟨held, haccount, _⟩ := account_of_chronicle hstart h
  rw [List.map_append] at haccount
  exact undo_of_account haccount hundo

/-! ## What each use has done -/

/-- A use has come this far, and found the session set up whenever it looked. If it was given up, it
was waiting. -/
structure Way (s : Session) (client : Client) (pursuit : Pursuit)
    (p : Routine Cell (Except BridgeError pursuit.use.Value)) : Prop where
  mild : pursuit.use.Mild
  leads : Leads (pursuit.use.routine s) pursuit.diary p
  finds : ∀ d ∈ pursuit.diary, d.Finds client
  rest : pursuit.rest = some p ∨ pursuit.rest = none ∧ p.onDrop.isSome = true

variable {pursuit : Pursuit} {p q : Routine Cell (Except BridgeError pursuit.use.Value)}

theorem Way.eq_of_rest (h : Way s client pursuit q) (hrest : pursuit.rest = some p) : p = q := by
  rcases h.rest with hq | ⟨hnone, _⟩
  · rw [hrest] at hq
    exact Option.some.inj hq
  · rw [hrest] at hnone
    exact nomatch hnone

theorem way_of_chronicle (hstart : start.AtEase client) (h : s.Chronicle start l ps) :
    ∀ pursuit ∈ ps, ∃ p, Way s client pursuit p := by
  induction h with
  | start => exact fun _ hmem => nomatch hmem
  | begin use _ hmild ih =>
    refine List.forall_mem_append.mpr ⟨ih, List.forall_mem_singleton.mpr ?_⟩
    exact ⟨_, hmild, .refl _, fun _ hd => (nomatch hd), Or.inl rfl⟩
  | @act l l' before after use since p p' diary d h hdoes hon ih =>
    refine forall_mem_replace ih ⟨p', ?_⟩
    obtain ⟨q, hway⟩ := ih _ (List.mem_append_right _ List.mem_cons_self)
    obtain rfl := hway.eq_of_rest rfl
    have hd : d.Finds client := by
      intro seen hseen
      rw [← hon.cell_of_seen hseen]
      exact serves_of_chronicle hstart h
    exact ⟨hway.mild, hway.leads.snoc hdoes,
      List.forall_mem_append.mpr ⟨hway.finds, List.forall_mem_singleton.mpr hd⟩, Or.inl rfl⟩
  | @drop l before after use since p diary undo h hundo ih =>
    refine forall_mem_replace ih ⟨p, ?_⟩
    obtain ⟨q, hway⟩ := ih _ (List.mem_append_right _ List.mem_cons_self)
    obtain rfl := hway.eq_of_rest rfl
    refine ⟨hway.mild, hway.leads, hway.finds, Or.inr ⟨rfl, ?_⟩⟩
    rw [hundo]
    rfl

theorem Way.pauses (h : Way s client pursuit p) (hrests : pursuit.Rests) :
    p.pauses .atWaits = true := by
  rcases h.rest with hrest | ⟨_, hdrop⟩
  · exact hrests p hrest
  · cases p with
    | await | call | callBy => rfl
    | done | own | lock | clock | ask => exact nomatch hdrop

/-- Whoever has a result was not given up. -/
theorem Way.done_iff (h : Way s client pursuit p) (r : Except BridgeError pursuit.use.Value) :
    pursuit.rest = some (.done r) ↔ p = .done r := by
  rcases h.rest with hrest | ⟨hrest, hdrop⟩
  · rw [hrest, Option.some.injEq]
  · rw [hrest]
    refine iff_of_false (fun hdone => nomatch hdone) ?_
    rintro rfl
    exact nomatch hdrop

/-- Every use is quiet until it is rejected, and then does no more than to end the authorization. -/
theorem Way.conduct (h : Way s client pursuit p) :
    Conduct s (pursuit.use.Rejected client) pursuit.diary p := by
  obtain ⟨use, since, rest, diary⟩ := pursuit
  cases use with
  | call work =>
    obtain ⟨houtward, hasks⟩ := h.mild client
    exact conduct_callApi (quiet_of_outward houtward hasks) h.leads h.finds
  | scene groupName sceneName =>
    exact minds_activateNamedScene groupName sceneName _ _ h.leads h.finds

end Session
end HueLink
